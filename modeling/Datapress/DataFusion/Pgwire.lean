import Datapress.Library.Replacing
import Datapress.Sql.Ast

/-! The repair of the query with which a client of the PostgreSQL protocol loads its types. -/
namespace Datapress.DataFusion.Pgwire
open Sql (Statement)

/-- `str::contains` -/
def contains (pattern text : String) : Bool := decide (pattern.toList <:+: text.toList)

/-- `str::replace` of a word that is not empty. -/
def replace (old new text : String) : String :=
  String.ofList (Replacing.replaceAll old.toList new.toList text.toList)

namespace NpgsqlTypeLoadHook

/-- The join that marks the query. -/
def procJoinOrig : String := "JOIN pg_catalog.pg_proc ON pg_proc.oid = a.typreceive"

def procJoinFix : String := "JOIN pg_catalog.pg_proc ON pg_proc.proname = a.typreceive"

def nsJoinOrig : String := "JOIN pg_catalog.pg_namespace AS ns ON (ns.oid = a.typnamespace)"

def nsJoinFix : String := "JOIN (SELECT 11 AS oid, 'pg_catalog' AS nspname " ++
  "UNION ALL SELECT 13283 AS oid, 'information_schema' AS nspname) AS ns " ++
  "ON (ns.oid = a.typnamespace)"

def isQuery : Statement → Bool
  | .query _ => true
  | .explainTable .. => false
  | .other _ => false

/-- `display` is the text that the parser's library writes for a statement. -/
def rewrite (display : Statement → String) (statement : Statement) : Option String :=
  if !isQuery statement then none
  else
    let sql := display statement
    if !contains procJoinOrig sql then none
    else
      let rewritten := replace nsJoinOrig nsJoinFix (replace procJoinOrig procJoinFix sql)
      if contains procJoinOrig rewritten || contains nsJoinOrig rewritten then none
      else some rewritten

/-! ### The words -/

/-- A join with no other join in it. -/
structure Join (word : String) : Prop where
  begins : word.toList = 'J' :: word.toList.tail
  once : 'J' ∉ word.toList.tail

theorem join_procJoinOrig : Join procJoinOrig := ⟨by rfl, by decide⟩

theorem join_procJoinFix : Join procJoinFix := ⟨by rfl, by decide⟩

theorem join_nsJoinOrig : Join nsJoinOrig := ⟨by rfl, by decide⟩

set_option maxRecDepth 2000 in
theorem join_nsJoinFix : Join nsJoinFix := ⟨by rfl, by decide⟩

/-- Neither word begins with the other. -/
def Apart (word new : String) : Prop :=
  ¬ word.toList <+: new.toList ∧ ¬ new.toList <+: word.toList

instance (word new : String) : Decidable (Apart word new) := inferInstanceAs (Decidable (_ ∧ _))

set_option maxRecDepth 2000 in
theorem apart_nsJoinFix : Apart procJoinOrig nsJoinFix ∧ Apart nsJoinOrig nsJoinFix := by decide

variable {old new word text : String}

theorem contains_iff : contains word text = true ↔ word.toList <:+: text.toList :=
  decide_eq_true_iff

/-- A join that cannot begin where the new one does is found after the replacement only if it was
there before and has not been replaced. -/
theorem contains_of_replace (join : Join word) (joinOld : Join old) (joinNew : Join new)
    (apart : Apart word new) (found : contains word (replace old new text) = true) :
    word ≠ old ∧ contains word text = true := by
  rw [contains_iff, replace, String.toList_ofList, join.begins, joinOld.begins, joinNew.begins] at found
  obtain ⟨longer, shorter⟩ := apart
  rw [join.begins, joinNew.begins, List.cons_prefix_cons, and_iff_right rfl] at longer shorter
  obtain ⟨other, inside⟩ :=
    Replacing.infix_of_replaceAll joinOld.once joinNew.once join.once longer shorter found
  refine ⟨?_, ?_⟩
  · rintro rfl
    exact other rfl
  · rw [contains_iff, join.begins]
    exact inside

theorem replace_of_absent (absent : contains old text = false) : replace old new text = text := by
  have nowhere : ¬ old.toList <:+: text.toList := fun inside => by
    rw [contains_iff.mpr inside] at absent
    cases absent
  rw [replace, Replacing.replaceAll_of_absent nowhere, String.ofList_toList]

/-- The check after the two substitutions never finds anything left. -/
theorem contains_rewritten (sql : String) :
    contains procJoinOrig (replace nsJoinOrig nsJoinFix (replace procJoinOrig procJoinFix sql)) =
      false ∧
    contains nsJoinOrig (replace nsJoinOrig nsJoinFix (replace procJoinOrig procJoinFix sql)) =
      false := by
  refine ⟨Bool.eq_false_iff.mpr fun found => ?_, Bool.eq_false_iff.mpr fun found => ?_⟩
  · obtain ⟨_, before⟩ := contains_of_replace join_procJoinOrig join_nsJoinOrig join_nsJoinFix
      apart_nsJoinFix.1 found
    obtain ⟨other, _⟩ := contains_of_replace join_procJoinOrig join_procJoinOrig join_procJoinFix
      (by decide) before
    exact other rfl
  · obtain ⟨other, _⟩ := contains_of_replace join_nsJoinOrig join_nsJoinOrig join_nsJoinFix
      apart_nsJoinFix.2 found
    exact other rfl

/-- Every query with the first join is rewritten. Where the other join is not found, only half of
the repair is made. -/
theorem rewrite_eq_some_iff {display : Statement → String} {statement : Statement} {sql : String} :
    rewrite display statement = some sql ↔
      isQuery statement = true ∧ contains procJoinOrig (display statement) = true ∧
        sql = if contains nsJoinOrig (display statement) then
          replace nsJoinOrig nsJoinFix (replace procJoinOrig procJoinFix (display statement))
        else replace procJoinOrig procJoinFix (display statement) := by
  have half (absent : contains nsJoinOrig (display statement) = false) :
      replace nsJoinOrig nsJoinFix (replace procJoinOrig procJoinFix (display statement)) =
        replace procJoinOrig procJoinFix (display statement) := by
    apply replace_of_absent
    refine Bool.eq_false_iff.mpr fun found => ?_
    obtain ⟨_, before⟩ := contains_of_replace join_nsJoinOrig join_procJoinOrig join_procJoinFix
      (by decide) found
    rw [absent] at before
    cases before
  obtain ⟨noProc, noNs⟩ := contains_rewritten (display statement)
  simp only [rewrite, noProc, noNs, Bool.or_false, Bool.false_eq_true, if_false]
  cases isQuery statement with
  | false => simp
  | true =>
    cases contains procJoinOrig (display statement) with
    | false => simp
    | true =>
      cases other : contains nsJoinOrig (display statement) with
      | false => simp [half other, eq_comm]
      | true => simp [eq_comm]

end NpgsqlTypeLoadHook
end Datapress.DataFusion.Pgwire
