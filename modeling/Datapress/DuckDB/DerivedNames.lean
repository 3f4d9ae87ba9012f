import Std.Data.String.ToNat
import Mathlib.Data.List.Nodup
import Mathlib.Data.List.Perm.Subperm
import Datapress.Library.SqlText
import Datapress.Text

/-!
The names of the columns of a derived table: those of its outputs, but for outputs that have the
name of another one.
-/
namespace Datapress.DuckDB

/-- What the database promises of the names it gives to the outputs of a derived table: no two
agree but for case, and only a name that is taken is replaced. -/
structure NamesColumns (names : List String → List String) : Prop where
  length : ∀ outputs, (names outputs).length = outputs.length
  apart : ∀ outputs, (names outputs).Pairwise fun a b => eqIgnoreAsciiCase a b = false
  kept : ∀ before name after,
    (∀ given ∈ (names (before ++ name :: after)).take before.length,
      eqIgnoreAsciiCase given name = false) →
    (names (before ++ name :: after))[before.length]? = some name

section
variable {α β : Type} (names : List String → List String)

/-- The columns of a derived table: the name of each, and the output behind it. -/
def columnsOf (outputs : List (String × α)) : List (String × (String × α)) :=
  (names (outputs.map (·.1))).zip outputs

/-- What a name over a derived table refers to, whatever its case. -/
def referred (outputs : List (String × α)) (name : String) : Option α :=
  ((columnsOf names outputs).find? fun column => eqIgnoreAsciiCase column.1 name).map (·.2.2)

/-- No two outputs have names that agree but for case, unless they are the same. -/
def ToldApart (outputs : List (String × α)) : Prop :=
  ∀ a ∈ outputs, ∀ b ∈ outputs, eqIgnoreAsciiCase a.1 b.1 = true → a.2 = b.2

/-- And a name that replaces that of an output is the name of no other. -/
structure Referable (outputs : List (String × α)) : Prop where
  apart : ToldApart outputs
  replaced : ∀ column ∈ columnsOf names outputs, column.1 ≠ column.2.1 →
    ∀ output ∈ outputs, eqIgnoreAsciiCase column.1 output.1 = true → column.2.2 = output.2

variable {names} {outputs : List (String × α)} {f : α → β}

theorem eqIgnoreAsciiCase_comm (a b : String) :
    eqIgnoreAsciiCase a b = eqIgnoreAsciiCase b a :=
  BEq.comm

theorem eqIgnoreAsciiCase_trans {a b c : String} (left : eqIgnoreAsciiCase a b = true)
    (right : eqIgnoreAsciiCase b c = true) : eqIgnoreAsciiCase a c = true := by
  simp only [eqIgnoreAsciiCase, beq_iff_eq] at left right ⊢
  exact left.trans right

theorem columnsOf_map : columnsOf names (outputs.map fun output => (output.1, f output.2)) =
    (columnsOf names outputs).map fun column => (column.1, (column.2.1, f column.2.2)) := by
  simp only [columnsOf, List.map_map, List.zip_map_right]
  rfl

theorem referred_map {name : String} :
    referred names (outputs.map fun output => (output.1, f output.2)) name =
      (referred names outputs name).map f := by
  simp only [referred, columnsOf_map, List.find?_map, Option.map_map]
  rfl

theorem toldApart_map_iff (injective : Function.Injective f) :
    ToldApart (outputs.map fun output => (output.1, f output.2)) ↔ ToldApart outputs := by
  simp only [ToldApart, List.forall_mem_map, injective.eq_iff]

theorem referable_map_iff (injective : Function.Injective f) :
    Referable names (outputs.map fun output => (output.1, f output.2)) ↔
      Referable names outputs := by
  constructor
  · rintro ⟨apart, replaced⟩
    simp only [columnsOf_map, List.forall_mem_map, injective.eq_iff] at replaced
    exact ⟨(toldApart_map_iff injective).mp apart, replaced⟩
  · rintro ⟨apart, replaced⟩
    refine ⟨(toldApart_map_iff injective).mpr apart, ?_⟩
    simpa only [columnsOf_map, List.forall_mem_map, injective.eq_iff] using replaced

/-- A name refers to the one column that has it. -/
theorem referred_eq_some (lawful : NamesColumns names) {column : String × (String × α)}
    (member : column ∈ columnsOf names outputs) {name : String}
    (same : eqIgnoreAsciiCase column.1 name = true) :
    referred names outputs name = some column.2.2 := by
  have apart : (columnsOf names outputs).Pairwise fun a b => eqIgnoreAsciiCase a.1 b.1 = false := by
    apply List.Pairwise.of_map (S := fun a b => eqIgnoreAsciiCase a b = false) Prod.fst
    · exact fun _ _ => id
    · rw [columnsOf, List.map_fst_zip (by rw [lawful.length, List.length_map])]
      exact lawful.apart _
  unfold referred
  generalize columnsOf names outputs = columns at member apart
  induction columns with
  | nil => cases member
  | cons first rest ih =>
      obtain ⟨others, apart⟩ := List.pairwise_cons.mp apart
      rcases List.mem_cons.mp member with rfl | later
      · rw [List.find?_cons, same]
        rfl
      · have differs : eqIgnoreAsciiCase first.1 name = false := by
          rw [Bool.eq_false_iff]
          intro alike
          rw [eqIgnoreAsciiCase_comm] at same
          have both := eqIgnoreAsciiCase_trans alike same
          rw [others column later] at both
          cases both
        rw [List.find?_cons, differs]
        exact ih later apart

/-- The name of an output is found among the columns, its own unless another one has it. -/
theorem exists_column (lawful : NamesColumns names) {output : String × α}
    (member : output ∈ outputs) :
    ∃ column ∈ columnsOf names outputs, eqIgnoreAsciiCase column.1 output.1 = true := by
  obtain ⟨before, after, rfl⟩ := List.append_of_mem member
  have whole : (before ++ output :: after).map (·.1) =
      before.map (·.1) ++ output.1 :: after.map (·.1) := by
    rw [List.map_append, List.map_cons]
  have lengths := lawful.length ((before ++ output :: after).map (·.1))
  rw [List.length_map] at lengths
  by_cases taken : ∀ given ∈ (names ((before ++ output :: after).map (·.1))).take before.length,
      eqIgnoreAsciiCase given output.1 = false
  · have found := lawful.kept (before.map (·.1)) output.1 (after.map (·.1))
    rw [← whole, List.length_map] at found
    refine ⟨(output.1, output), List.mem_of_getElem? (i := before.length) ?_, by
      simp [eqIgnoreAsciiCase]⟩
    rw [columnsOf, List.getElem?_zip_eq_some]
    exact ⟨found taken, by simp⟩
  · push Not at taken
    obtain ⟨given, early, alike⟩ := taken
    obtain ⟨i, bound, rfl⟩ := List.mem_iff_getElem.mp (List.mem_of_mem_take early)
    rw [lengths] at bound
    refine ⟨(_, (before ++ output :: after)[i]), List.mem_of_getElem? (i := i) ?_,
      eq_true_of_ne_false alike⟩
    rw [columnsOf, List.getElem?_zip_eq_some]
    exact ⟨List.getElem?_eq_getElem _, List.getElem?_eq_getElem _⟩

/-- Each name shows its own output just when no other column stands in its way. -/
theorem referred_self_iff (lawful : NamesColumns names) :
    (∀ output ∈ outputs, referred names outputs output.1 = some output.2) ↔
      Referable names outputs := by
  constructor
  · intro shown
    constructor
    · intro a inA b inB alike
      obtain ⟨column, member, same⟩ := exists_column lawful inA
      have first := referred_eq_some lawful member same
      have second := referred_eq_some lawful member (eqIgnoreAsciiCase_trans same alike)
      rw [shown a inA] at first
      rw [shown b inB] at second
      exact Option.some.inj (first.trans second.symm)
    · intro column member _ output listed alike
      have found := referred_eq_some lawful member alike
      rw [shown output listed] at found
      exact (Option.some.inj found).symm
  · rintro ⟨apart, replaced⟩ output listed
    obtain ⟨column, member, same⟩ := exists_column lawful listed
    rw [referred_eq_some lawful member same]
    by_cases own : column.1 = column.2.1
    · rw [own] at same
      exact congrArg some (apart _ (List.of_mem_zip member).2 _ listed same)
    · exact congrArg some (replaced column member own output listed same)

end

/-! ### The names of DuckDB -/

def candidate (base : String) : Nat → String
  | 0 => base
  | k + 1 => base ++ "_" ++ toString (k + 1)

/-- The first candidate that is not given yet. -/
def freeName (given : List String) (base : String) : String :=
  (((List.range (given.length + 1)).map (candidate base)).find? fun name =>
    given.all fun other => !eqIgnoreAsciiCase other name).getD base

def deduplicateFrom : List String → List String → List String
  | _, [] => []
  | given, base :: rest =>
    freeName given base :: deduplicateFrom (given ++ [freeName given base]) rest

/-- A name that is taken gets a number. -/
def deduplicateColumns (outputs : List String) : List String := deduplicateFrom [] outputs

theorem toLower_toString (k : Nat) :
    (toString k).toList.map Char.toLower = (toString k).toList := by
  refine (List.map_congr_left fun c member => ?_).trans (List.map_id _)
  have digit := SqlText.isDigit_of_mem_toString member
  rcases toLower_spec c with ⟨⟨low, _⟩, _⟩ | ⟨_, same⟩
  · have high : c.val ≤ 57 := of_decide_eq_true ((Bool.and_eq_true ..).mp digit).2
    exact absurd (UInt32.le_trans low high) (by decide)
  · exact same

theorem candidate_inj {base : String} {i j : Nat}
    (alike : toAsciiLowercase (candidate base i) = toAsciiLowercase (candidate base j)) :
    i = j := by
  have letters := congrArg String.toList alike
  simp only [toAsciiLowercase, String.toList_ofList] at letters
  have lengths := congrArg List.length letters
  cases i with
  | zero =>
      cases j with
      | zero => rfl
      | succ j => simp [candidate] at lengths
  | succ i =>
      cases j with
      | zero => simp [candidate] at lengths
      | succ j =>
          simp only [candidate, String.toList_append, List.map_append, toLower_toString] at letters
          have numbers := String.toList_inj.mp (List.append_cancel_left letters)
          exact Nat.repr_injective numbers

theorem freeName_free (given : List String) (base : String) :
    ∀ other ∈ given, eqIgnoreAsciiCase other (freeName given base) = false := by
  unfold freeName
  cases found : ((List.range (given.length + 1)).map (candidate base)).find? fun name =>
      given.all fun other => !eqIgnoreAsciiCase other name with
  | some name =>
      have free := List.find?_some found
      intro other member
      simpa using List.all_eq_true.mp free other member
  | none =>
      -- there are more candidates than names that are taken
      have taken : ((List.range (given.length + 1)).map fun k =>
          toAsciiLowercase (candidate base k)) ⊆ given.map toAsciiLowercase := by
        refine List.forall_mem_map.mpr fun k among => ?_
        have refused := List.find?_eq_none.mp found _ (List.mem_map_of_mem among)
        obtain ⟨other, member, alike⟩ : ∃ other ∈ given,
            eqIgnoreAsciiCase other (candidate base k) = true := by simpa using refused
        rw [← beq_iff_eq.mp alike]
        exact List.mem_map_of_mem member
      have distinct : ((List.range (given.length + 1)).map fun k =>
          toAsciiLowercase (candidate base k)).Nodup :=
        List.nodup_range.map fun _ _ => candidate_inj
      have few := (List.subperm_of_subset distinct taken).length_le
      simp only [List.length_map, List.length_range] at few
      exact absurd few (Nat.not_succ_le_self _)

theorem freeName_kept {given : List String} {base : String}
    (free : ∀ other ∈ given, eqIgnoreAsciiCase other base = false) : freeName given base = base := by
  have head : (List.range (given.length + 1)).map (candidate base) =
      base :: ((List.range given.length).map fun k => candidate base (k + 1)) := by
    rw [List.range_succ_eq_map, List.map_cons, List.map_map]
    rfl
  rw [freeName, head, List.find?_cons_of_pos]
  · rfl
  · exact List.all_eq_true.mpr fun other member => by simp [free other member]

theorem length_deduplicateFrom (given outputs : List String) :
    (deduplicateFrom given outputs).length = outputs.length := by
  induction outputs generalizing given with
  | nil => rfl
  | cons base rest ih => exact congrArg (· + 1) (ih _)

theorem pairwise_deduplicateFrom {given : List String}
    (apart : given.Pairwise fun a b => eqIgnoreAsciiCase a b = false) (outputs : List String) :
    (given ++ deduplicateFrom given outputs).Pairwise fun a b => eqIgnoreAsciiCase a b = false := by
  induction outputs generalizing given with
  | nil => rwa [deduplicateFrom, List.append_nil]
  | cons base rest ih =>
      rw [deduplicateFrom, List.append_cons]
      apply ih
      rw [List.pairwise_append]
      refine ⟨apart, List.pairwise_singleton _ _, fun other member name single => ?_⟩
      obtain rfl := List.mem_singleton.mp single
      exact freeName_free given base other member

theorem getElem?_deduplicateFrom {given before after : List String} {name : String}
    (free : ∀ other ∈ given ++ (deduplicateFrom given (before ++ name :: after)).take before.length,
      eqIgnoreAsciiCase other name = false) :
    (deduplicateFrom given (before ++ name :: after))[before.length]? = some name := by
  induction before generalizing given with
  | nil =>
      simp only [List.length_nil, List.take_zero, List.append_nil] at free
      simp only [List.nil_append, deduplicateFrom, List.length_nil, List.getElem?_cons_zero,
        freeName_kept free]
  | cons base before ih =>
      simp only [List.cons_append, deduplicateFrom, List.length_cons, List.take_succ_cons,
        List.getElem?_cons_succ] at free ⊢
      apply ih
      rwa [← List.append_cons]

theorem deduplicateColumns_lawful : NamesColumns deduplicateColumns where
  length outputs := length_deduplicateFrom [] outputs
  apart outputs := pairwise_deduplicateFrom List.Pairwise.nil outputs
  kept _ _ _ free := getElem?_deduplicateFrom (by rwa [List.nil_append])

end Datapress.DuckDB
