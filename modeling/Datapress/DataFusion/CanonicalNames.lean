import Mathlib.Data.List.Permutation
import Datapress.Library.Lists
import Datapress.Sql.Lookups

/-!
The rewriting of a statement's identifiers to the spelling of the registry.

One map from lowered names to spellings is built for the tables and one for the columns of all
loaded datasets. An identifier is rewritten by its lowered name alone, wherever it stands.
-/

namespace Datapress.DataFusion

open Interleaving Sql.Spelled

section
variable [ToLowercase]

abbrev Spellings := AList fun _ : String => String

/-- An identifier that is in the map becomes the canonical spelling in double quotes. -/
def rewrite (map : Spellings) (ident : Ident) : Ident :=
  match map.lookup (toLowercase ident.value) with
  | some canonical => { value := canonical, quoteStyle := some '"' }
  | none => ident

/-- The `Canonicalizer` over its two maps. -/
def canonicalizer (tables columns : Spellings) : Renaming where
  column := rewrite columns
  table := rewrite tables

/-- `Parser::parse_sql` and the `Display` of a statement. -/
structure SqlCrate where
  parse : String → Except String (List Statement)
  print : Statement → String

/-- A statement is parsed from its own text. -/
def SqlCrate.ReadsBack (crate : SqlCrate) (stmt : Statement) : Prop :=
  crate.parse (crate.print stmt) = .ok [stmt]

def canonicalizeIdentifiers (crate : SqlCrate) (sql : String) (tables columns : Spellings) :
    String :=
  match crate.parse sql with
  | .ok [stmt] => crate.print (stmt.rename (canonicalizer tables columns))
  | _ => sql

/-- `entry(key).or_insert_with(…)` -/
def orInsert (map : Spellings) (key value : String) : Spellings :=
  if key ∈ map then map else map.insert key value

def addColumns (schema : DatasetSchema) (columns : Spellings) : Spellings :=
  schema.columns.foldl (fun columns col => orInsert columns (toLowercase col.name) col.name) columns

/-- The lookup tables that `canonicalize_sql` builds from every loaded dataset. -/
def nameMaps (snap : Snapshot) : Spellings × Spellings :=
  snap.entries.foldl (fun (tables, columns) ⟨name, schema⟩ =>
    (tables.insert (toLowercase name) name, addColumns schema columns)) (∅, ∅)

def canonicalizeSql (crate : SqlCrate) (snap : Snapshot) (sql : String) : String :=
  canonicalizeIdentifiers crate sql (nameMaps snap).1 (nameMaps snap).2

/-! ### What the maps hold -/

/-- The spelling a dataset has for a column, by the lowered name. -/
def columnSpelling (key : String) (schema : DatasetSchema) : Option String :=
  (schema.columns.map (·.name)).find? fun name => toLowercase name = key

/-- The name of a dataset, if it has this lowered name. -/
def tableSpelling (key name : String) : Option String :=
  if toLowercase name = key then some name else none

/-- The first dataset with such a column gives its spelling. -/
def firstSpelling (snap : Snapshot) (key : String) : Option String :=
  snap.entries.findSome? fun entry => columnSpelling key entry.2

/-- The last dataset with such a name gives its spelling. -/
def lastSpelling (snap : Snapshot) (key : String) : Option String :=
  snap.entries.reverse.findSome? fun entry => tableSpelling key entry.1

omit [ToLowercase] in
theorem lookup_orInsert (map : Spellings) (key value other : String) :
    (orInsert map key value).lookup other =
      (map.lookup other).or (if key = other then some value else none) := by
  rw [orInsert]
  split
  next member =>
    split
    next same =>
      obtain ⟨held, found⟩ := Option.isSome_iff_exists.mp (AList.lookup_isSome.mpr member)
      rw [← same, found, Option.some_or]
    next => rw [Option.or_none]
  next absent =>
    by_cases same : other = key
    · rw [same, AList.lookup_insert, if_pos rfl, AList.lookup_eq_none.mpr absent, Option.none_or]
    · rw [AList.lookup_insert_ne same, if_neg (Ne.symm same), Option.or_none]

theorem lookup_addColumns (schema : DatasetSchema) (columns : Spellings) (key : String) :
    (addColumns schema columns).lookup key =
      (columns.lookup key).or (columnSpelling key schema) := by
  rw [addColumns, columnSpelling]
  induction schema.columns generalizing columns with
  | nil => exact (Option.or_none).symm
  | cons column rest ih =>
      rw [List.foldl_cons, ih, lookup_orInsert, Option.or_assoc, List.map_cons, List.find?_cons]
      by_cases same : toLowercase column.name = key <;> simp [same]

theorem lookup_nameMaps_from (entries : List (Sigma fun _ : String => DatasetSchema))
    (tables columns : Spellings) (key : String) :
    let maps := entries.foldl (fun (tables, columns) ⟨name, schema⟩ =>
      (tables.insert (toLowercase name) name, addColumns schema columns)) (tables, columns)
    maps.1.lookup key =
        (entries.reverse.findSome? fun entry => tableSpelling key entry.1).or
          (tables.lookup key) ∧
      maps.2.lookup key =
        (columns.lookup key).or (entries.findSome? fun entry => columnSpelling key entry.2) := by
  induction entries generalizing tables columns with
  | nil => exact ⟨rfl, (Option.or_none).symm⟩
  | cons entry rest ih =>
      obtain ⟨name, schema⟩ := entry
      obtain ⟨table, column⟩ := ih (tables.insert (toLowercase name) name)
        (addColumns schema columns)
      refine ⟨?_, ?_⟩
      · rw [List.foldl_cons, table, List.reverse_cons, List.findSome?_append, Option.or_assoc]
        congr 1
        by_cases same : toLowercase name = key
        · simp [tableSpelling, same]
        · simp [tableSpelling, same, AList.lookup_insert_ne (Ne.symm same)]
      · rw [List.foldl_cons, column, lookup_addColumns, Option.or_assoc, List.findSome?_cons]
        cases columnSpelling key schema <;> rfl

theorem lookup_tables (snap : Snapshot) (key : String) :
    (nameMaps snap).1.lookup key = lastSpelling snap key := by
  rw [nameMaps, (lookup_nameMaps_from snap.entries ∅ ∅ key).1, AList.lookup_empty,
    Option.or_none, lastSpelling]

theorem lookup_columns (snap : Snapshot) (key : String) :
    (nameMaps snap).2.lookup key = firstSpelling snap key := by
  rw [nameMaps, (lookup_nameMaps_from snap.entries ∅ ∅ key).2, AList.lookup_empty,
    Option.none_or, firstSpelling]

/-! ### The rewritten names -/

/-- The rewriting with the maps of these datasets. -/
def renamingOf (snap : Snapshot) : Renaming :=
  canonicalizer (nameMaps snap).1 (nameMaps snap).2

/-- The spelling that the registry has for a name. -/
def registrySpelling (snap : Snapshot) : Use → Option String
  | .column ident => firstSpelling snap (toLowercase ident.value)
  | .table ident => lastSpelling snap (toLowercase ident.value)

/-- What a part of a reference has to be spelled like. -/
def expectedSpelling (normalize : String → String) (snap : Snapshot) : Name → String
  | .used use => (registrySpelling snap use).getD (use.ident.normal normalize)
  | .fixed spelling => spelling.normal normalize

theorem lower_columnSpelling {key name : String} {schema : DatasetSchema}
    (found : columnSpelling key schema = some name) : toLowercase name = key := by
  have named := List.find?_some found
  exact of_decide_eq_true named

theorem lower_tableSpelling {key name spelling : String}
    (found : tableSpelling key name = some spelling) : toLowercase spelling = key := by
  rw [tableSpelling, Option.ite_none_right_eq_some] at found
  obtain ⟨same, named⟩ := found
  rw [← Option.some.inj named]
  exact same

theorem lower_registrySpelling {snap : Snapshot} {use : Use} {name : String}
    (found : registrySpelling snap use = some name) :
    toLowercase name = toLowercase use.ident.value := by
  cases use with
  | column ident =>
      obtain ⟨entry, -, first⟩ := List.exists_of_findSome?_eq_some found
      exact lower_columnSpelling first
  | table ident =>
      obtain ⟨entry, -, last⟩ := List.exists_of_findSome?_eq_some found
      exact lower_tableSpelling last

/-- The renaming by the spelling of the registry. -/
theorem apply_renaming (snap : Snapshot) (use : Use) :
    (renamingOf snap).apply use =
      match registrySpelling snap use with
      | some canonical => { value := canonical, quoteStyle := some '"' }
      | none => use.ident := by
  cases use with
  | column ident =>
      rw [registrySpelling, ← lookup_columns]
      rfl
  | table ident =>
      rw [registrySpelling, ← lookup_tables]
      rfl

omit [ToLowercase] in
theorem ident_rename (r : Renaming) (use : Use) : (use.rename r).ident = r.apply use := by
  cases use <;> rfl

theorem lower_apply (snap : Snapshot) (use : Use) :
    toLowercase ((renamingOf snap).apply use).value = toLowercase use.ident.value := by
  rw [apply_renaming]
  cases found : registrySpelling snap use with
  | none => rfl
  | some canonical => exact lower_registrySpelling found

theorem registrySpelling_rename (snap : Snapshot) (use : Use) :
    registrySpelling snap (use.rename (renamingOf snap)) = registrySpelling snap use := by
  have lowered := lower_apply snap use
  cases use with
  | column ident => exact congrArg (firstSpelling snap) lowered
  | table ident => exact congrArg (lastSpelling snap) lowered

/-- What is rewritten is not rewritten again. -/
theorem apply_rename (snap : Snapshot) (use : Use) :
    (renamingOf snap).apply (use.rename (renamingOf snap)) =
      (renamingOf snap).apply use := by
  rw [apply_renaming, apply_renaming, registrySpelling_rename]
  cases found : registrySpelling snap use with
  | some canonical => rfl
  | none =>
      rw [ident_rename, apply_renaming, found]

theorem renaming_comp (snap : Snapshot) :
    (renamingOf snap).comp (renamingOf snap) = renamingOf snap :=
  congrArg₂ Renaming.mk (funext fun ident => apply_rename snap (.column ident))
    (funext fun ident => apply_rename snap (.table ident))

theorem normal_rename (normalize : String → String) (snap : Snapshot) (name : Name) :
    (name.rename (renamingOf snap)).normal normalize =
      expectedSpelling normalize snap name := by
  cases name with
  | fixed spelling => rfl
  | used use =>
      rw [Name.rename, Name.normal, ident_rename, apply_renaming, expectedSpelling]
      cases registrySpelling snap use <;> rfl

section Folded
variable (resolver : Resolver)

theorem lower_normal (ident : Ident) :
    toLowercase (ident.normal resolver.normalize) = toLowercase ident.value := by
  rw [Ident.normal]
  split
  · rfl
  · exact resolver.folds ident.value

theorem lower_spelling (spelling : Spelling) :
    toLowercase (spelling.normal resolver.normalize) = (Name.fixed spelling).folded := by
  cases spelling with
  | declared ident => exact lower_normal resolver ident
  | stored name => rfl

/-- The expected spelling differs from the name in case only. -/
theorem lower_expectedSpelling (snap : Snapshot) (name : Name) :
    toLowercase (expectedSpelling resolver.normalize snap name) = name.folded := by
  cases name with
  | fixed spelling => exact lower_spelling resolver spelling
  | used use =>
      rw [expectedSpelling]
      cases found : registrySpelling snap use with
      | none => exact lower_normal resolver use.ident
      | some canonical => exact lower_registrySpelling found

end Folded

/-! ### Lookups of the rewritten statement -/

/-- Every candidate that the reference names regardless of case is spelled as the reference is
expected to be. -/
def WellSpelled (normalize : String → String) (snap : Snapshot) (lookup : Lookup) : Prop :=
  ∀ candidate ∈ lookup.candidates,
    lookup.reference.map Name.folded <:+ (candidate.map .fixed).map Name.folded →
      lookup.reference.map (expectedSpelling normalize snap) <:+
        candidate.map (Spelling.normal normalize)

section Lookups
variable (resolver : Resolver) (snap : Snapshot)

/-- What the expected spelling names, the name names regardless of case. -/
theorem folded_of_expected {reference : List Name} {candidate : Column}
    (named : reference.map (expectedSpelling resolver.normalize snap) <:+
      candidate.map (Spelling.normal resolver.normalize)) :
    reference.map Name.folded <:+ (candidate.map .fixed).map Name.folded := by
  have lowered := named.map toLowercase
  simpa only [List.map_map, Function.comp_def, lower_expectedSpelling, lower_spelling]
    using lowered

theorem answer_rename_iff (lookup : Lookup) :
    (lookup.rename (renamingOf snap)).answer (Name.normal resolver.normalize) =
        lookup.answer Name.folded ↔
      WellSpelled resolver.normalize snap lookup := by
  rw [Lookup.answer, Lookup.answer, Lookup.rename, List.map_inj_left]
  apply forall₂_congr
  intro candidate member
  rw [Bool.eq_iff_iff, List.isSuffixOf_iff_suffix, List.isSuffixOf_iff_suffix, List.map_map,
    List.map_map (f := Name.fixed) (g := Name.normal resolver.normalize)]
  have expected : Name.normal resolver.normalize ∘ Name.rename (renamingOf snap) =
      expectedSpelling resolver.normalize snap :=
    funext (normal_rename resolver.normalize snap)
  rw [expected]
  constructor
  · exact fun same folded => same.mpr folded
  · intro spelled
    exact ⟨folded_of_expected resolver snap, spelled⟩

/-- The rewritten statement finds what the statement means regardless of case just when each of
its lookups is spelled so. -/
theorem answers_rename_iff (stmt : Statement) :
    resolver.answers snap (stmt.rename (renamingOf snap)) =
        resolver.foldedAnswers snap stmt ↔
      ∀ lookup ∈ resolver.foldedLookups snap stmt,
        WellSpelled resolver.normalize snap lookup := by
  rw [Resolver.answers, resolver.natural, Prog.answers_rephrase, Resolver.foldedAnswers,
    Prog.answers_eq_iff]
  exact forall₂_congr fun lookup _ => answer_rename_iff resolver snap lookup

end Lookups

/-! ### The order of the datasets -/

/-- The loaded datasets agree on the spelling of a name: those that have a column of this name
spell it alike, and no two are themselves called so. -/
def Unambiguous (snap : Snapshot) : Use → Prop
  | .column ident =>
      ∀ d ∈ snap.entries, ∀ d' ∈ snap.entries,
        ∀ spelling ∈ columnSpelling (toLowercase ident.value) d.2,
          ∀ spelling' ∈ columnSpelling (toLowercase ident.value) d'.2, spelling = spelling'
  | .table ident =>
      ∀ d ∈ snap.entries, ∀ d' ∈ snap.entries,
        ∀ spelling ∈ tableSpelling (toLowercase ident.value) d.1,
          ∀ spelling' ∈ tableSpelling (toLowercase ident.value) d'.1, spelling = spelling'

/-- The snapshot in another order. -/
def reordered (snap : Snapshot) {entries : List (Sigma fun _ : String => DatasetSchema)}
    (perm : entries.Perm snap.entries) : Snapshot :=
  ⟨entries, (List.perm_nodupKeys perm).mpr snap.nodupKeys⟩

section Order
variable {snap : Snapshot} {use : Use}

/-- In every order the registry has the same spelling just when the datasets agree. -/
theorem registrySpelling_perm_iff :
    (∀ order : Snapshot, order.entries.Perm snap.entries →
        registrySpelling order use = registrySpelling snap use) ↔ Unambiguous snap use := by
  cases use with
  | column ident =>
      rw [Unambiguous, ← Lists.findSome?_perm_iff]
      constructor
      · exact fun same entries perm => same (reordered snap perm) perm
      · exact fun same order perm => same order.entries perm
  | table ident =>
      have turned (d) : d ∈ snap.entries ↔ d ∈ snap.entries.reverse := List.mem_reverse.symm
      simp only [Unambiguous, turned]
      rw [← Lists.findSome?_perm_iff]
      constructor
      · intro same entries perm
        have back := (List.reverse_perm entries).trans (perm.trans (List.reverse_perm _))
        have found := same (reordered snap back) back
        rw [registrySpelling, lastSpelling, reordered, List.reverse_reverse] at found
        exact found
      · intro same order perm
        exact same order.entries.reverse
          ((List.reverse_perm _).trans (perm.trans (List.reverse_perm _).symm))

theorem registrySpelling_isSome {order : Snapshot} (perm : order.entries.Perm snap.entries) :
    (registrySpelling order use).isSome = (registrySpelling snap use).isSome := by
  cases use with
  | column ident => exact Lists.findSome?_isSome_of_perm perm
  | table ident =>
      exact Lists.findSome?_isSome_of_perm
        ((List.reverse_perm _).trans (perm.trans (List.reverse_perm _).symm))

/-- So in every order an identifier is rewritten to the same. -/
theorem apply_perm_iff :
    (∀ order : Snapshot, order.entries.Perm snap.entries →
        (renamingOf order).apply use = (renamingOf snap).apply use) ↔
      Unambiguous snap use := by
  rw [← registrySpelling_perm_iff]
  apply forall₂_congr
  intro order perm
  have both : (registrySpelling order use).isSome = (registrySpelling snap use).isSome :=
    registrySpelling_isSome perm
  rw [apply_renaming, apply_renaming]
  cases found : registrySpelling order use <;> cases found' : registrySpelling snap use <;>
    simp_all

end Order

/-! ### The rewritten text -/

/-- What the rewriting of a statement is for: each reference names what it names regardless of
case, whatever the order of the datasets, and there is nothing left to rewrite. -/
structure Canonicalizes (resolver : Resolver) (crate : SqlCrate) (snap : Snapshot) (sql : String)
    (stmt : Statement) : Prop where
  resolves : ∃ rewritten, crate.parse (canonicalizeSql crate snap sql) = .ok [rewritten] ∧
    resolver.answers snap rewritten = resolver.foldedAnswers snap stmt
  unordered : ∀ order : Snapshot, order.entries.Perm snap.entries →
    canonicalizeSql crate order sql = canonicalizeSql crate snap sql
  idempotent : canonicalizeSql crate snap (canonicalizeSql crate snap sql) =
    canonicalizeSql crate snap sql

section Text
variable {crate : SqlCrate} {snap : Snapshot} {sql : String} {stmt : Statement}

theorem canonicalizeSql_of_parsed (parsed : crate.parse sql = .ok [stmt]) (snap : Snapshot) :
    canonicalizeSql crate snap sql = crate.print (stmt.rename (renamingOf snap)) := by
  rw [canonicalizeSql, canonicalizeIdentifiers, parsed]
  rfl

theorem parse_canonicalizeSql (parsed : crate.parse sql = .ok [stmt])
    (reads : crate.ReadsBack (stmt.rename (renamingOf snap))) :
    crate.parse (canonicalizeSql crate snap sql) =
      .ok [stmt.rename (renamingOf snap)] := by
  rw [canonicalizeSql_of_parsed parsed]
  exact reads

theorem canonicalizeSql_twice (parsed : crate.parse sql = .ok [stmt])
    (reads : crate.ReadsBack (stmt.rename (renamingOf snap))) :
    canonicalizeSql crate snap (canonicalizeSql crate snap sql) =
      canonicalizeSql crate snap sql := by
  rw [canonicalizeSql_of_parsed (parse_canonicalizeSql parsed reads), Statement.rename_rename,
    renaming_comp, canonicalizeSql_of_parsed parsed]

theorem canonicalizeSql_perm_iff (parsed : crate.parse sql = .ok [stmt])
    (reads : ∀ order : Snapshot, order.entries.Perm snap.entries →
      crate.ReadsBack (stmt.rename (renamingOf order))) :
    (∀ order : Snapshot, order.entries.Perm snap.entries →
        canonicalizeSql crate order sql = canonicalizeSql crate snap sql) ↔
      ∀ use ∈ stmt.uses, Unambiguous snap use := by
  have text (order : Snapshot) (perm : order.entries.Perm snap.entries) :
      canonicalizeSql crate order sql = canonicalizeSql crate snap sql ↔
        ∀ use ∈ stmt.uses,
          (renamingOf order).apply use = (renamingOf snap).apply use := by
    rw [canonicalizeSql_of_parsed parsed, canonicalizeSql_of_parsed parsed]
    refine Iff.trans ⟨fun same => ?_, congrArg crate.print⟩ (stmt.rename_eq_iff _ _)
    have parsed' := congrArg crate.parse same
    rw [reads order perm, reads snap (List.Perm.refl _)] at parsed'
    exact List.singleton_inj.mp (Except.ok.inj parsed')
  rw [forall₂_congr text]
  constructor
  · exact fun same use member => apply_perm_iff.mp fun order perm => same order perm use member
  · exact fun clear order perm use member => apply_perm_iff.mpr (clear use member) order perm

end Text

/-- The rewriting does this just when each lookup is well spelled and the datasets agree on every
identifier of the statement. -/
theorem canonicalizes_iff (resolver : Resolver) {crate : SqlCrate} {snap : Snapshot}
    {sql : String} {stmt : Statement} (parsed : crate.parse sql = .ok [stmt])
    (reads : ∀ order : Snapshot, order.entries.Perm snap.entries →
      crate.ReadsBack (stmt.rename (renamingOf order))) :
    Canonicalizes resolver crate snap sql stmt ↔
      (∀ lookup ∈ resolver.foldedLookups snap stmt,
          WellSpelled resolver.normalize snap lookup) ∧
        ∀ use ∈ stmt.uses, Unambiguous snap use := by
  have back := reads snap (List.Perm.refl _)
  rw [← canonicalizeSql_perm_iff parsed reads, ← answers_rename_iff]
  constructor
  · rintro ⟨⟨rewritten, parsed', same⟩, unordered, -⟩
    rw [parse_canonicalizeSql parsed back] at parsed'
    rw [List.singleton_inj.mp (Except.ok.inj parsed')]
    exact ⟨same, unordered⟩
  · rintro ⟨same, unordered⟩
    exact ⟨⟨_, parse_canonicalizeSql parsed back, same⟩, unordered,
      canonicalizeSql_twice parsed back⟩

instance (normalize : String → String) (snap : Snapshot) (lookup : Lookup) :
    Decidable (WellSpelled normalize snap lookup) :=
  inferInstanceAs (Decidable (∀ candidate ∈ lookup.candidates, _ → _))

instance (snap : Snapshot) (use : Use) : Decidable (Unambiguous snap use) := by
  cases use <;> exact inferInstanceAs (Decidable (∀ d ∈ snap.entries, ∀ d' ∈ snap.entries, _))

end

section Runs
attribute [local instance] asciiToLowercase

/-- `SELECT column FROM table` -/
def selectFrom (column table : Ident) : Statement :=
  .query (.mk false [] (.select .standard [] [.expr (.identifier column) none]
    [.mk (.table [table] none false []) []] [] []) [] [] [])

def identText (ident : Ident) : String :=
  match ident.quoteStyle with
  | some quote => String.ofList ([quote] ++ ident.value.toList ++ [quote])
  | none => ident.value

def selectText (column table : Ident) : String :=
  "SELECT " ++ identText column ++ " FROM " ++ identText table

/-- A parser of such texts over a few identifiers. -/
def selectCrate (idents : List (Ident × Ident)) : SqlCrate where
  parse sql :=
    match idents.find? fun (column, table) => selectText column table = sql with
    | some (column, table) => .ok [selectFrom column table]
    | none => .error "Expected: an SQL statement"
  print
    | .query (.mk _ _ (.select _ _ [.expr (.identifier column) _]
        [.mk (.table [table] _ _ _) _] _ _) _ _ _) => selectText column table
    | _ => ""

def datasetOf (name : String) (columns : List String) : Sigma fun _ : String => DatasetSchema :=
  ⟨name, .new name (columns.map fun column => ⟨column, .utf8, "VARCHAR", true⟩)⟩

def accidents : Snapshot := ⟨[datasetOf "accidents" ["State"]], List.nodupKeys_singleton _⟩

def states : Snapshot :=
  ⟨[datasetOf "a" ["State"], datasetOf "b" ["state"]], by simp [List.NodupKeys, datasetOf]⟩

def accidentsCrate : SqlCrate :=
  selectCrate [(⟨"state", none⟩, ⟨"Accidents", none⟩),
    (⟨"State", some '"'⟩, ⟨"accidents", some '"'⟩)]

def statesCrate : SqlCrate :=
  selectCrate [(⟨"state", none⟩, ⟨"b", none⟩), (⟨"State", some '"'⟩, ⟨"b", some '"'⟩),
    (⟨"state", some '"'⟩, ⟨"b", some '"'⟩)]

theorem accidents_readsBack (order : Snapshot) (perm : order.entries.Perm accidents.entries) :
    accidentsCrate.ReadsBack
      ((selectFrom ⟨"state", none⟩ ⟨"Accidents", none⟩).rename (renamingOf order)) := by
  have same : order = accidents := AList.ext (List.perm_singleton.mp perm)
  rw [same]
  rfl

theorem canonicalizes_iff_accidents :
    Canonicalizes Resolver.standard accidentsCrate accidents "SELECT state FROM Accidents"
      (selectFrom ⟨"state", none⟩ ⟨"Accidents", none⟩) :=
  (canonicalizes_iff Resolver.standard rfl accidents_readsBack).mpr (by decide +kernel)

theorem states_readsBack (order : Snapshot) (perm : order.entries.Perm states.entries) :
    statesCrate.ReadsBack
      ((selectFrom ⟨"state", none⟩ ⟨"b", none⟩).rename (renamingOf order)) := by
  obtain same | turned := List.perm_pair.mp perm
  · rw [show order = states from AList.ext same]
    rfl
  · rw [show order = reordered states (List.Perm.swap _ _ _) from AList.ext turned]
    rfl

/-- The column of `b` gets the spelling that `a` has for its column, and is not found. -/
theorem other_dataset_spells : ¬ ∀ (crate : SqlCrate) (snap : Snapshot) (sql : String)
    (stmt : Statement), crate.parse sql = .ok [stmt] →
    (∀ order : Snapshot, order.entries.Perm snap.entries →
      crate.ReadsBack (stmt.rename (renamingOf order))) →
    (∀ found ∈ Resolver.standard.foldedAnswers snap stmt, found ≠ [] → found.count true = 1) →
    Canonicalizes Resolver.standard crate snap sql stmt := by
  intro canonicalizes
  have parsed : statesCrate.parse "SELECT state FROM b" =
    .ok [selectFrom ⟨"state", none⟩ ⟨"b", none⟩] := rfl
  obtain ⟨rewritten, parsed', same⟩ := (canonicalizes statesCrate states "SELECT state FROM b" _
    parsed states_readsBack (by decide +kernel)).resolves
  rw [parse_canonicalizeSql parsed (states_readsBack states (List.Perm.refl _))] at parsed'
  rw [← List.singleton_inj.mp (Except.ok.inj parsed')] at same
  revert same
  decide +kernel

end Runs

end Datapress.DataFusion
