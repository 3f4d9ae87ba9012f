import Mathlib.Data.List.Forall2
import Mathlib.Control.Basic

/-! Computations that may fail: what a successful run says about its steps, and
when two runs fail together. Nothing here depends on a particular program. -/
namespace Fallible

variable {ε ε' α β γ δ σ : Type}

theorem ok_bind (a : α) (f : α → Except ε β) : (.ok a >>= f) = f a := rfl

theorem bind_ok_iff {x : Except ε α} {f : α → Except ε β} {b : β} :
    (x >>= f) = .ok b ↔ ∃ a, x = .ok a ∧ f a = .ok b := by
  cases x with
  | error e =>
    constructor
    · intro impossible; cases impossible
    · rintro ⟨_, impossible, _⟩; cases impossible
  | ok a =>
    constructor
    · intro ran; exact ⟨a, rfl, ran⟩
    · rintro ⟨_, same, ran⟩; cases same; exact ran

theorem map_ok_iff {x : Except ε α} {f : α → β} {b : β} :
    f <$> x = .ok b ↔ ∃ a, x = .ok a ∧ f a = b := by
  cases x with
  | error e =>
    constructor
    · intro impossible; cases impossible
    · rintro ⟨_, impossible, _⟩; cases impossible
  | ok a =>
    constructor
    · intro ran; cases ran; exact ⟨a, rfl, rfl⟩
    · rintro ⟨_, same, rfl⟩; cases same; rfl

theorem mapError_ok_iff {x : Except ε α} {f : ε → ε'} {a : α} :
    x.mapError f = .ok a ↔ x = .ok a := by
  cases x with
  | error e => exact iff_of_false nofun nofun
  | ok b =>
    constructor
    · intro same; cases same; rfl
    · intro same; cases same; rfl

/-- A check passes before the rest runs. -/
theorem check_bind_ok_iff {x : Except ε Unit} {y : Except ε β} {b : β} :
    (x >>= fun _ => y) = .ok b ↔ x = .ok () ∧ y = .ok b :=
  bind_ok_iff.trans ⟨fun ⟨(), passed, ran⟩ => ⟨passed, ran⟩, fun ⟨passed, ran⟩ => ⟨(), passed, ran⟩⟩

/-- A refusal comes before the rest. -/
theorem refuse_ok_iff {p : Prop} [Decidable p] {e : ε} {x : Except ε β} {b : β} :
    (if p then .error e else x) = .ok b ↔ ¬p ∧ x = .ok b := by
  by_cases refused : p
  · rw [if_pos refused]
    exact iff_of_false nofun fun accepted => accepted.1 refused
  · rw [if_neg refused]
    exact ⟨fun ran => ⟨refused, ran⟩, And.right⟩

/-- Runs a check on every item in order and stops at the first failure. -/
def checkAll (check : α → Except ε β) : List α → Except ε Unit
  | [] => .ok ()
  | item :: rest => check item >>= fun _ => checkAll check rest

theorem checkAll_ok_iff {check : α → Except ε β} {items : List α} :
    checkAll check items = .ok () ↔ ∀ item ∈ items, ∃ b, check item = .ok b := by
  induction items with
  | nil => simp [checkAll]
  | cons item rest ih =>
    simp only [checkAll, bind_ok_iff, ih, List.forall_mem_cons]
    constructor
    · rintro ⟨b, passed, others⟩; exact ⟨⟨b, passed⟩, others⟩
    · rintro ⟨⟨b, passed⟩, others⟩; exact ⟨b, passed, others⟩

theorem mapM_ok_iff {f : α → Except ε β} {items : List α} {results : List β} :
    items.mapM f = .ok results ↔ List.Forall₂ (fun a b => f a = .ok b) items results := by
  induction items generalizing results with
  | nil =>
    simp only [List.mapM_nil, List.forall₂_nil_left_iff]
    constructor
    · intro same; cases same; rfl
    · rintro rfl; rfl
  | cons item rest ih =>
    simp only [List.mapM_cons, bind_ok_iff, List.forall₂_cons_left_iff, ih]
    constructor
    · rintro ⟨b, first, others, mapped, same⟩
      cases same
      exact ⟨b, others, first, mapped, rfl⟩
    · rintro ⟨b, others, first, mapped, rfl⟩
      exact ⟨b, first, others, mapped, rfl⟩

theorem mem_of_mapM {f : α → Except ε β} {items : List α} {results : List β}
    (mapped : items.mapM f = .ok results) (b : β) : b ∈ results ↔ ∃ a ∈ items, f a = .ok b := by
  induction mapM_ok_iff.mp mapped with
  | nil => simp
  | @cons a c _ _ head tail ih =>
    rw [List.mem_cons, List.exists_mem_cons_iff, ih (mapM_ok_iff.mpr tail), head]
    simp [eq_comm]

theorem mapM_map_ok (f : α → Except ε β) (g : β → γ) (items : List α) :
    (items.mapM fun item => f item >>= fun b => .ok (g b)) = List.map g <$> items.mapM f := by
  induction items with
  | nil => rfl
  | cons item rest ih =>
    rw [List.mapM_cons, List.mapM_cons, ih]
    cases f item with
    | error e => rfl
    | ok b =>
      cases rest.mapM f with
      | error e => rfl
      | ok bs => rfl

/-! ### Results without their errors -/

@[simp] theorem toOption_ok (a : α) : (.ok a : Except ε α).toOption = some a := rfl

@[simp] theorem toOption_error (e : ε) : (.error e : Except ε α).toOption = none := rfl

@[simp] theorem toOption_bind (x : Except ε α) (f : α → Except ε β) :
    (x >>= f).toOption = x.toOption.bind fun a => (f a).toOption := by
  cases x <;> rfl

@[simp] theorem toOption_map (f : α → β) (x : Except ε α) :
    (f <$> x).toOption = x.toOption.map f := by
  cases x <;> rfl

theorem toOption_eq_some_iff {x : Except ε α} {a : α} : x.toOption = some a ↔ x = .ok a := by
  cases x <;> simp

theorem toOption_mapM (f : α → Except ε β) (items : List α) :
    (items.mapM f).toOption = items.mapM fun item => (f item).toOption := by
  induction items with
  | nil => rfl
  | cons item rest ih =>
    simp only [List.mapM_cons, toOption_bind, ih]
    rfl

/-- Maps a fallible function over a list and threads a state through it. -/
def mapState (f : α → σ → Except ε (β × σ)) : List α → σ → Except ε (List β × σ)
  | [], s => .ok ([], s)
  | item :: rest, s =>
      f item s >>= fun (b, s) => mapState f rest s >>= fun (bs, s) => .ok (b :: bs, s)

theorem mapState_forall₂ {f : α → σ → Except ε (β × σ)} {items : List α} {s s' : σ}
    {results : List β} (ran : mapState f items s = .ok (results, s')) :
    List.Forall₂ (fun a b => ∃ before after, f a before = .ok (b, after)) items results := by
  induction items generalizing s results with
  | nil => cases ran; exact .nil
  | cons item rest ih =>
    simp only [mapState, bind_ok_iff] at ran
    obtain ⟨⟨b, next⟩, first, ⟨bs, last⟩, others, same⟩ := ran
    cases same
    exact .cons ⟨s, next, first⟩ (ih others)

/-- Two runs agree: both return related results, or both fail with related errors. -/
inductive Agree (R : α → β → Prop) (E : ε → ε' → Prop) : Except ε α → Except ε' β → Prop where
  | ok : R a b → Agree R E (.ok a) (.ok b)
  | error : E e e' → Agree R E (.error e) (.error e')

namespace Agree

theorem refl {R : α → α → Prop} {E : ε → ε → Prop} (values : ∀ a, R a a) (errors : ∀ e, E e e)
    (x : Except ε α) : Agree R E x x := by
  cases x with
  | ok a => exact .ok (values a)
  | error e => exact .error (errors e)

theorem imp {R S : α → β → Prop} {E : ε → ε' → Prop} {x : Except ε α} {y : Except ε' β}
    (agreed : Agree R E x y) (related : ∀ a b, R a b → S a b) : Agree S E x y := by
  cases agreed with
  | ok same => exact .ok (related _ _ same)
  | error same => exact .error same

/-- What a run returns that agrees with a successful one. -/
theorem ok_of_ok {R : α → β → Prop} {E : ε → ε' → Prop} {a : α} {y : Except ε' β}
    (agreed : Agree R E (.ok a) y) : ∃ b, y = .ok b ∧ R a b := by
  cases agreed with
  | ok same => exact ⟨_, rfl, same⟩

theorem error_of_error {R : α → β → Prop} {E : ε → ε' → Prop} {e : ε} {y : Except ε' β}
    (agreed : Agree R E (.error e) y) : ∃ e', y = .error e' := by
  cases agreed with
  | error _ => exact ⟨_, rfl⟩

theorem bind {R : α → β → Prop} {S : γ → δ → Prop} {E : ε → ε' → Prop}
    {x : Except ε α} {y : Except ε' β} {f : α → Except ε γ} {g : β → Except ε' δ}
    (first : Agree R E x y) (next : ∀ a b, x = .ok a → y = .ok b → R a b → Agree S E (f a) (g b)) :
    Agree S E (x >>= f) (y >>= g) := by
  cases first with
  | ok related => exact next _ _ rfl rfl related
  | error related => exact .error related

/-- Two runs with the same first step agree when their continuations do. -/
theorem bind_same {S : γ → δ → Prop} {E : ε → ε → Prop} {x : Except ε α}
    {f : α → Except ε γ} {g : α → Except ε δ} (errors : ∀ e, E e e)
    (next : ∀ a, x = .ok a → Agree S E (f a) (g a)) : Agree S E (x >>= f) (x >>= g) := by
  cases x with
  | ok a => exact next a rfl
  | error e => exact .error (errors e)

theorem map {R : α → β → Prop} {S : γ → δ → Prop} {E : ε → ε' → Prop}
    {x : Except ε α} {y : Except ε' β} {f : α → γ} {g : β → δ}
    (agreed : Agree R E x y) (related : ∀ a b, R a b → S (f a) (g b)) :
    Agree S E (f <$> x) (g <$> y) := by
  cases agreed with
  | ok same => exact .ok (related _ _ same)
  | error same => exact .error same

theorem checkAll {R : γ → δ → Prop} {E : ε → ε' → Prop} {f : α → Except ε γ} {g : β → Except ε' δ}
    {items : List α} {rename : α → β}
    (each : ∀ item ∈ items, Agree R E (f item) (g (rename item))) :
    Agree (fun _ _ => True) E (checkAll f items) (checkAll g (items.map rename)) := by
  induction items with
  | nil => exact .ok trivial
  | cons item rest ih =>
    have others := ih fun a member => each a (List.mem_cons_of_mem _ member)
    exact bind (each item List.mem_cons_self) fun _ _ _ _ _ => others

theorem mapM {R : γ → δ → Prop} {E : ε → ε' → Prop} {f : α → Except ε γ} {g : β → Except ε' δ}
    {items : List α} {rename : α → β}
    (each : ∀ item ∈ items, Agree R E (f item) (g (rename item))) :
    Agree (List.Forall₂ R) E (items.mapM f) ((items.map rename).mapM g) := by
  induction items with
  | nil => exact .ok .nil
  | cons item rest ih =>
    have others := ih fun a member => each a (List.mem_cons_of_mem _ member)
    simp only [List.map_cons, List.mapM_cons]
    refine bind (each item List.mem_cons_self) fun _ _ _ _ head => ?_
    exact bind others fun _ _ _ _ tail => .ok (.cons head tail)

theorem mapM_eq {E : ε → ε' → Prop} {f : α → Except ε γ} {g : β → Except ε' γ}
    {items : List α} {rename : α → β}
    (each : ∀ item ∈ items, Agree (· = ·) E (f item) (g (rename item))) :
    Agree (· = ·) E (items.mapM f) ((items.map rename).mapM g) := by
  have related := mapM each
  rw [List.forall₂_eq_eq_eq] at related
  exact related

end Agree
end Fallible
