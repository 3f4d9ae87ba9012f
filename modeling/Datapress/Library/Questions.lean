import Datapress.Library.Interleaving

/-! Programs as interviews: the acts are questions whose answers have one type. Two ways of
answering give one interview exactly when they agree on each question that is asked. -/
namespace Interleaving.Prog

variable {Act α ρ χ : Type}

/-- The questions that are asked when they are answered so. -/
def asked (respond : Act → α) : Prog (fun _ : Act => α) ρ → List Act
  | .done _ => []
  | .act a next => a :: (next (respond a)).asked respond

/-- The answers that are given. -/
def answers (respond : Act → α) (p : Prog (fun _ : Act => α) ρ) : List α :=
  (p.asked respond).map respond

/-- The program with each question put in another way. -/
def rephrase (put : Act → Act) : Prog (fun _ : Act => α) ρ → Prog (fun _ : Act => α) ρ
  | .done result => .done result
  | .act a next => .act (put a) fun answer => (next answer).rephrase put

variable {put : Act → Act} {respond respond' : Act → α}

@[simp] theorem rephrase_pure (result : ρ) :
    (pure result : Prog (fun _ : Act => α) ρ).rephrase put = pure result := rfl

@[simp] theorem rephrase_perform (a : Act) :
    (perform a : Prog (fun _ : Act => α) α).rephrase put = perform (put a) := rfl

@[simp] theorem rephrase_bind (p : Prog (fun _ : Act => α) ρ)
    (rest : ρ → Prog (fun _ : Act => α) χ) :
    (p >>= rest).rephrase put = p.rephrase put >>= fun result => (rest result).rephrase put := by
  induction p with
  | done result => rfl
  | act a next ih => exact congrArg (Prog.act (put a)) (funext ih)

theorem asked_rephrase (p : Prog (fun _ : Act => α) ρ) :
    (p.rephrase put).asked respond = (p.asked (respond ∘ put)).map put := by
  induction p with
  | done result => rfl
  | act a next ih => exact congrArg (put a :: ·) (ih (respond (put a)))

theorem answers_rephrase (p : Prog (fun _ : Act => α) ρ) :
    (p.rephrase put).answers respond = p.answers (respond ∘ put) := by
  rw [answers, asked_rephrase, List.map_map, answers]

/-- The first question that is answered differently tells two interviews apart. -/
theorem answers_eq_iff (p : Prog (fun _ : Act => α) ρ) :
    p.answers respond' = p.answers respond ↔ ∀ a ∈ p.asked respond, respond' a = respond a := by
  induction p with
  | done result => simp [answers, asked]
  | act a next ih =>
      simp only [answers, asked, List.map_cons, List.cons.injEq, List.forall_mem_cons]
      apply and_congr_right
      intro same
      rw [same]
      exact ih (respond a)

end Interleaving.Prog
