import Datapress.Sql.Exposure
import Datapress.Sql.GateProofs

/-!
What masking the hidden columns of the datasets does to the sources of a statement.

A source that fits its shape hides at most the columns of the shape. Where nothing is exposed, the
operations on sources commute with masking, and what the engine is handed does not change.
-/

namespace Datapress.Sql

open Datapress Relational

variable [ToLowercase] {Value : Type} {engine : Engine Value} {catalog : Catalog}
  {content : Content Value} {tables : Tables Value} {ctes : List String}
  {context : List (List Column)} {scopes : List (Row Value)} {secret : String → Prop}

/-- The rows of the datasets with the values of hidden columns masked. -/
def Content.mask (null : Value) (catalog : Catalog) (content : Content Value) : Content Value :=
  fun dataset =>
    match catalog dataset with
    | some schema => (content dataset).map fun row index =>
        match schema.columns[index]? with
        | some column => if schema.projectionFilter.allows column.name then row index else null
        | none => null
    | none => []

/-! ### Shapes -/

/-- A source is as its shape says. -/
structure Fits (shape : Shape) (source : Source Value) : Prop where
  hides : source.HidesOnly shape.hidden
  names : ∀ names, shape.names = some names →
    ∀ column ∈ source.header, toLowercase column.name ∈ names

theorem Fits.mayHave {shape : Shape} {source : Source Value} (fits : Fits shape source)
    {column : Column} (member : column ∈ source.header) :
    shape.mayHave (toLowercase column.name) = true := by
  unfold Shape.mayHave
  cases known : shape.names with
  | none => rfl
  | some names => simpa using fits.names names known column member

theorem fits_unknown {source : Source Value} (shown : source.HidesOnly []) :
    Fits .unknown source :=
  ⟨shown, fun _ impossible => nomatch impossible⟩

theorem fits_unit : Fits {} (Source.unit : Source Value) :=
  ⟨Source.unit_hidesOnly, fun _ _ _ member => nomatch member⟩

omit [ToLowercase] in
theorem Shape.append_names {left right : Shape} {names : List String}
    (known : (left.append right).names = some names) :
    ∃ l r, left.names = some l ∧ right.names = some r ∧ l ++ r = names := by
  obtain ⟨l, first, known⟩ := Option.bind_eq_some_iff.mp known
  obtain ⟨r, second, known⟩ := Option.bind_eq_some_iff.mp known
  exact ⟨l, r, first, second, Option.some.inj known⟩

theorem Fits.cross {left right : Shape} {source : Source Value} {next : Row Value → Source Value}
    (first : Fits left source) (second : ∀ row, Fits right (next row)) :
    Fits (left.append right) (source.cross engine.null next) := by
  refine ⟨Source.cross_hidesOnly first.hides fun row _ => (second row).hides, ?_⟩
  intro names known column member
  obtain ⟨l, r, inLeft, inRight, rfl⟩ := Shape.append_names known
  rcases List.mem_append.mp member with member | member
  · exact List.mem_append_left _ (first.names l inLeft column member)
  · exact List.mem_append_right _ ((second _).names r inRight column member)

theorem Fits.withAlias {shape : Shape} {source : Source Value} {tableAlias : Option TableAlias}
    (fits : Fits shape source) (unexposed : aliasExposes tableAlias shape = false) :
    Fits (aliasShape tableAlias shape) (withAlias tableAlias source) := by
  cases tableAlias with
  | none => exact fits
  | some tableAlias =>
    simp only [aliasExposes, Option.any_some, Bool.and_eq_false_iff, Bool.not_eq_false',
      List.isEmpty_iff] at unexposed
    cases columns : tableAlias.columns with
    | nil =>
      refine ⟨?_, ?_⟩
      · simp only [aliasShape, Sql.withAlias, columns]
        exact Source.rename_nil_hidesOnly fits.hides
      · intro names known column member
        simp only [aliasShape, columns, List.isEmpty_nil, if_true] at known
        simp only [Sql.withAlias, columns, Source.rename] at member
        obtain ⟨index, bound, rfl⟩ := List.mem_mapIdx.mp member
        simpa [Column.rename] using fits.names names known _ (List.getElem_mem bound)
    | cons name others =>
      rw [columns] at unexposed
      have nothing : shape.hidden = [] := by simpa using unexposed
      refine ⟨?_, ?_⟩
      · simp only [aliasShape, Sql.withAlias, nothing, List.map_nil]
        exact Source.rename_hidesNothing (nothing ▸ fits.hides)
      · intro names known
        simp [aliasShape, columns] at known

theorem withAlias_mask {tableAlias : Option TableAlias} {source : Source Value} {null : Value} :
    withAlias tableAlias (source.mask null) = (withAlias tableAlias source).mask null := by
  cases tableAlias with
  | none => rfl
  | some tableAlias => exact Source.rename_mask

/-! ### Tables -/

theorem datasetSource_mask {schema : DatasetSchema} {qualifier dataset : String}
    (known : catalog dataset = some schema) :
    datasetSource (content.mask engine.null catalog) schema qualifier dataset =
      (datasetSource content schema qualifier dataset).mask engine.null := by
  simp only [datasetSource, Content.mask, known, Source.mask, List.map_map]
  congr 1
  apply List.map_congr_left
  intro row _
  simp only [Function.comp_def, Row.mask, Lists.map_mapIdx]
  apply List.ext_getElem?
  intro index
  simp only [List.getElem?_mapIdx, datasetHeader, List.getElem?_map]
  cases schema.columns[index]? with
  | none => rfl
  | some column =>
    simp only [Option.map_some]
    cases allowed : schema.projectionFilter.allows column.name <;> simp [Cell.mask]

theorem datasetSource_hidesOnly {schema : DatasetSchema} {qualifier dataset : String} :
    (datasetSource content schema qualifier dataset).HidesOnly
      ((datasetHeader schema qualifier).filter (·.hidden)) := by
  constructor
  · intro column member hides
    exact List.mem_filter.mpr ⟨member, hides⟩
  · intro row member column inside hides
    obtain ⟨values, _, rfl⟩ := List.mem_map.mp member
    obtain ⟨cell, inRow, rfl⟩ := List.mem_map.mp inside
    obtain ⟨index, bound, rfl⟩ := List.mem_mapIdx.mp inRow
    exact List.mem_filter.mpr ⟨List.getElem_mem bound, hides⟩

theorem find_inScope_isSome (named : tables.map Prod.fst = ctes) (name : ObjectName) :
    (tables.find? fun (cte, _) => inScope [cte] name).isSome = inScope ctes name := by
  subst named
  cases name with
  | nil => simp [inScope]
  | cons part rest =>
    cases rest with
    | nil =>
      simp only [inScope, List.any_cons, List.any_nil, Bool.or_false, List.any_map,
        Function.comp_def]
      rw [Bool.eq_iff_iff, List.find?_isSome, List.any_eq_true]
    | cons => simp [inScope]

theorem tableSource_fits (named : tables.map Prod.fst = ctes) (name : ObjectName) :
    Fits (tableShape catalog ctes name) (tableSource engine catalog content tables name) := by
  have cte := find_inScope_isSome named name
  unfold tableSource tableShape
  cases found : tables.find? fun (cte, _) => inScope [cte] name with
  | some entry =>
    rw [found] at cte
    rw [← cte]
    exact fits_unknown Source.table_source_hidesOnly
  | none =>
    rw [found] at cte
    rw [← cte]
    cases known : catalog name.last with
    | none => exact fits_unknown Source.table_source_hidesOnly
    | some schema =>
      refine ⟨datasetSource_hidesOnly, ?_⟩
      intro names same column member
      obtain rfl := Option.some.inj same
      obtain ⟨info, inSchema, rfl⟩ := List.mem_map.mp member
      exact List.mem_map.mpr ⟨info, inSchema, rfl⟩

/-- A name in table position is masked in place. -/
theorem tableSource_mask (name : ObjectName) :
    tableSource engine catalog (content.mask engine.null catalog) tables name =
      (tableSource engine catalog content tables name).mask engine.null := by
  unfold tableSource
  cases tables.find? fun (cte, _) => inScope [cte] name with
  | some entry => exact (Source.table_source_hidesOnly.mask_eq).symm
  | none =>
    cases known : catalog name.last with
    | none => exact (Source.table_source_hidesOnly.mask_eq).symm
    | some schema => exact datasetSource_mask known

/-! ### Joins -/

/-- Where a constraint exposes nothing, the shared names are not hidden on either side. -/
theorem names_shown {constraint : JoinConstraint} {left right : Shape} {l r : Source Value}
    (first : Fits left l) (second : Fits right r)
    (unexposed : constraint.exposes left right = false) :
    ∀ name ∈ constraint.names l.header r.header,
      ∀ column ∈ left.hidden ++ right.hidden, toLowercase column.name ≠ name := by
  intro name shared column hidden same
  cases constraint with
  | conditions => cases shared
  | usingColumns columns =>
    obtain ⟨asked, inColumns, rfl⟩ := List.mem_map.mp shared
    simp only [JoinConstraint.exposes, List.any_eq_false] at unexposed
    have clash := unexposed asked inColumns
    simp only [Bool.not_eq_true, List.any_eq_false, beq_iff_eq] at clash
    exact clash column hidden same
  | natural =>
    simp only [JoinConstraint.names, List.mem_filter, List.mem_map, List.any_eq_true,
      beq_iff_eq] at shared
    obtain ⟨⟨a, inLeft, atLeft⟩, b, inRight, atRight⟩ := shared
    simp only [JoinConstraint.exposes, Bool.or_eq_false_iff, List.any_eq_false] at unexposed
    rcases List.mem_append.mp hidden with hidden | hidden
    · apply unexposed.1 column hidden
      rw [same, ← atRight]
      exact second.mayHave inRight
    · apply unexposed.2 column hidden
      rw [same, ← atLeft]
      exact first.mayHave inLeft

section Joined

variable {operator : String} {constraint : JoinConstraint} {conditions : List Expr}
  {left right : Shape} {source : Source Value} {next masked : Row Value → Source Value}
  {bind bindMasked : Row Value → List (Bound Value)}

/-- The rows of a join, under the sides the operator keeps. -/
private theorem sides_hidesOnly {names : List String} {l r : Row Value}
    (first : Row.HidesOnly left.hidden l) (second : Row.HidesOnly right.hidden r)
    (shown : ∀ name ∈ names, ∀ column ∈ left.hidden ++ right.hidden,
      toLowercase column.name ≠ name) :
    Row.HidesOnly (left.hidden ++ right.hidden)
      (match engine.sides operator with
        | .both => Row.merge toLowercase engine.coalesce names l r
        | .left => l
        | .right => r) := by
  cases engine.sides operator with
  | both => exact first.merge second shown
  | left => exact first.mono fun _ => List.mem_append_left _
  | right => exact second.mono fun _ => List.mem_append_right _

theorem Fits.joined (first : Fits left source) (second : ∀ row, Fits right (next row))
    (unexposed : constraint.exposes left right = false) :
    Fits (left.append right)
      (engine.joined operator constraint conditions source next bind) := by
  have shown := names_shown first (second (Row.nulls engine.null source.header)) unexposed
  constructor
  · exact Source.join_hidesOnly first.hides (fun row _ => (second row).hides)
      fun l r onlyLeft onlyRight => sides_hidesOnly onlyLeft onlyRight shown
  · intro names known column member
    obtain ⟨inLeft, inRight, knownLeft, knownRight, rfl⟩ := Shape.append_names known
    have leftNames := first.names inLeft knownLeft
    have rightNames := (second (Row.nulls engine.null source.header)).names inRight knownRight
    have either : ∀ original ∈ source.header ++ (next (Row.nulls engine.null source.header)).header,
        toLowercase original.name ∈ inLeft ++ inRight := by
      intro original inside
      rcases List.mem_append.mp inside with inside | inside
      · exact List.mem_append_left _ (leftNames original inside)
      · exact List.mem_append_right _ (rightNames original inside)
    simp only [Engine.joined, Source.join] at member
    cases sides : engine.sides operator with
    | both =>
      rw [sides] at member
      obtain ⟨original, inside, same⟩ := Row.merge_names member
      rw [Row.columns_nulls, Row.columns_nulls] at inside
      rw [← same]
      exact either original inside
    | left =>
      rw [sides] at member
      simp only [Row.columns_nulls] at member
      exact either column (List.mem_append_left _ member)
    | right =>
      rw [sides] at member
      simp only [Row.columns_nulls] at member
      exact either column (List.mem_append_right _ member)

omit [ToLowercase] in
/-- What a side contributes to the shared columns is not masked. -/
private theorem shared_mask {key : String → String} {names : List String} {hidden : List Column}
    {row : Row Value} {null : Value} (only : Row.HidesOnly hidden row)
    (shown : ∀ name ∈ names, ∀ column ∈ hidden, key column.name ≠ name) :
    names.filterMap (Row.named key (Row.mask null row)) = names.filterMap (Row.named key row) :=
  List.filterMap_congr fun name listed => Row.named_mask_shown only (shown name listed)

theorem joined_mask (first : Fits left source) (second : ∀ row, Fits right (next row))
    (unexposed : constraint.exposes left right = false)
    (same : ∀ row, Row.HidesOnly left.hidden row →
      masked (Row.mask engine.null row) = (next row).mask engine.null)
    (sameBind : ∀ row, Row.HidesOnly (left.hidden ++ right.hidden) row →
      bindMasked (Row.mask engine.null row) = bind row) :
    engine.joined operator constraint conditions (source.mask engine.null) masked bindMasked =
      (engine.joined operator constraint conditions source next bind).mask engine.null := by
  have shown := names_shown first (second (Row.nulls engine.null source.header)) unexposed
  have padded := same _ (Row.HidesOnly.nulls engine.null first.hides.header)
  rw [Row.mask_nulls] at padded
  simp only [Engine.joined, Source.mask_header, Source.mask_rows, padded, List.map_map,
    List.length_map]
  generalize constraint.names source.header
    (next (Row.nulls engine.null source.header)).header = names at shown ⊢
  have inLeft : ∀ name ∈ names, ∀ column ∈ left.hidden, toLowercase column.name ≠ name :=
    fun name listed column inside => shown name listed column (List.mem_append_left _ inside)
  have inRight : ∀ name ∈ names, ∀ column ∈ right.hidden, toLowercase column.name ≠ name :=
    fun name listed column inside => shown name listed column (List.mem_append_right _ inside)
  have matched : ∀ l ∈ source.rows,
      (masked (Row.mask engine.null l)).rows.map (fun r =>
        Bound.node [.node (bindMasked (Row.mask engine.null l ++ r)),
          .cells (names.filterMap (Row.named toLowercase (Row.mask engine.null l))),
          .cells (names.filterMap (Row.named toLowercase r))]) =
      (next l).rows.map fun r =>
        Bound.node [.node (bind (l ++ r)),
          .cells (names.filterMap (Row.named toLowercase l)),
          .cells (names.filterMap (Row.named toLowercase r))] := by
    intro l member
    have onlyLeft := first.hides.rows l member
    rw [same l onlyLeft, Source.mask_rows, List.map_map]
    apply List.map_congr_left
    intro r member
    have onlyRight := (second l).hides.rows r member
    simp only [Function.comp_def]
    rw [← Row.mask_append, sameBind _ (onlyLeft.append onlyRight), shared_mask onlyLeft inLeft,
      shared_mask onlyRight inRight]
  rw [Function.comp_def, List.map_congr_left matched]
  apply Source.join_mask first.hides (fun row _ => (second row).hides) same
  intro l r onlyLeft onlyRight
  cases engine.sides operator with
  | both => exact Row.merge_mask onlyLeft onlyRight shown
  | left => rfl
  | right => rfl

end Joined

/-! ### Names in scope -/

/-- The rows in scope hide at most what the context lists, and all of it is secret. -/
structure Ready (secret : String → Prop) (context : List (List Column))
    (scopes : List (Row Value)) : Prop where
  only : List.Forall₂ Row.HidesOnly context scopes
  secret : ∀ hidden ∈ context, ∀ column ∈ hidden, secret (toLowercase column.name)

theorem Ready.push {hidden : List Column} {row : Row Value} (ready : Ready secret context scopes)
    (only : Row.HidesOnly hidden row)
    (secrets : ∀ column ∈ hidden, secret (toLowercase column.name)) :
    Ready secret (hidden :: context) (row :: scopes) :=
  ⟨.cons only ready.only, List.forall_mem_cons.mpr ⟨secrets, ready.secret⟩⟩

theorem Ready.pushPublic {row : Row Value} (ready : Ready secret context scopes)
    (only : Row.HidesOnly [] row) : Ready secret ([] :: context) (row :: scopes) :=
  ready.push only fun _ member => nomatch member

/-- A column an engine finds for a name bears one of its parts as its name. -/
structure Engine.Standard (engine : Engine Value) : Prop where
  named : ∀ scopes parts scope index column, engine.resolve scopes parts = some (scope, index) →
    scopes[scope]?.bind (·[index]?) = some column →
    ∃ part ∈ parts, toLowercase part = toLowercase column.name

/-- A hidden cell in scope has its column in the context. -/
theorem Ready.mem_context {row : Row Value} {cell : Cell Value}
    (ready : Ready secret context scopes) (member : row ∈ scopes) (inside : cell ∈ row)
    (hides : cell.column.hidden = true) : cell.column ∈ context.flatten := by
  obtain ⟨hidden, inContext, only⟩ := Lists.exists_of_mem_right ready.only member
  exact List.mem_flatten.mpr ⟨hidden, inContext, only _ (List.mem_map_of_mem inside) hides⟩

theorem fieldExposes_eq_false {parts : List String} :
    fieldExposes context parts = false ↔
      ∀ column ∈ context.flatten, ∀ part ∈ parts, toLowercase part ≠ toLowercase column.name := by
  simp only [fieldExposes, List.any_eq_false, Bool.not_eq_true, beq_eq_false_iff_ne]

/-- A name none of whose parts is the name of a hidden column has the same value in masked rows. -/
theorem lookup_mask (standard : engine.Standard) (ready : Ready secret context scopes)
    {idents : List String} (unexposed : fieldExposes context idents = false) :
    engine.lookup (scopes.map (Row.mask engine.null)) idents = engine.lookup scopes idents := by
  have columns : (scopes.map (Row.mask engine.null)).map Row.columns = scopes.map Row.columns := by
    simp [Function.comp_def]
  unfold Engine.lookup
  rw [columns]
  cases resolved : engine.resolve (scopes.map Row.columns) idents with
  | none => rfl
  | some place =>
    obtain ⟨scope, index⟩ := place
    have cells : (scopes.map (Row.mask engine.null))[scope]?.bind (·[index]?) =
        (scopes[scope]?.bind (·[index]?)).map (Cell.mask engine.null) := by
      cases atScope : scopes[scope]? with
      | none => simp [atScope]
      | some row => simp [atScope, Row.mask]
    simp only [cells]
    cases found : scopes[scope]?.bind (·[index]?) with
    | none => rfl
    | some cell =>
      obtain ⟨row, atScope, atIndex⟩ := Option.bind_eq_some_iff.mp found
      have column : (scopes.map Row.columns)[scope]?.bind (·[index]?) = some cell.column := by
        simp [atScope, Row.columns, atIndex]
      have shown : cell.column.hidden = false := by
        by_contra hides
        have listed := ready.mem_context (List.mem_of_getElem? atScope)
          (List.mem_of_getElem? atIndex) (by simpa using hides)
        obtain ⟨part, inParts, same⟩ := standard.named _ _ _ _ _ resolved column
        exact fieldExposes_eq_false.mp unexposed cell.column listed part inParts same
      simp only [Option.map_some, Cell.mask_of_shown shown]

/-- A name whose last part is no secret, and no field of a hidden column. -/
theorem Ready.unexposed (ready : Ready secret context scopes) {idents : List String}
    (free : ∀ last, idents.getLast? = some last → ¬ secret (toLowercase last))
    (fields : fieldExposes context idents.dropLast = false) :
    fieldExposes context idents = false := by
  rw [fieldExposes_eq_false] at fields ⊢
  intro column listed part inParts same
  rcases List.eq_nil_or_concat idents with rfl | ⟨qualifiers, last, rfl⟩
  · cases inParts
  · rw [List.concat_eq_append] at free fields inParts
    rw [List.dropLast_concat] at fields
    rcases List.mem_append.mp inParts with qualifier | isLast
    · exact fields column listed part qualifier same
    · obtain rfl := List.mem_singleton.mp isLast
      obtain ⟨hidden, inContext, inHidden⟩ := List.mem_flatten.mp listed
      apply free part (by simp)
      rw [same]
      exact ready.secret hidden inContext column inHidden

theorem headD_mask (ready : Ready secret context scopes)
    (unexposed : (context.headD []).isEmpty = true) :
    (scopes.map (Row.mask engine.null)).headD [] = scopes.headD [] := by
  cases ready.only with
  | nil => rfl
  | cons only _ =>
    have nothing := List.isEmpty_iff.mp unexposed
    simp only [List.headD_cons] at nothing
    subst nothing
    exact only.mask_eq

theorem Ready.headD_isEmpty (ready : Ready secret context scopes) (free : ∀ name, ¬ secret name) :
    (context.headD []).isEmpty = true := by
  cases context with
  | nil => rfl
  | cons hidden context =>
    apply List.isEmpty_iff.mpr
    apply List.eq_nil_iff_forall_not_mem.mpr
    intro column member
    exact free _ (ready.secret hidden List.mem_cons_self column member)

theorem qualified_mask (ready : Ready secret context scopes) {name : ObjectName}
    (unexposed : qualifiedExposes context name = false) :
    qualified (scopes.map (Row.mask engine.null)) name = qualified scopes name := by
  have mask_any : ∀ row : Row Value,
      (Row.mask engine.null row).any (·.column.qualifier == name.last) =
        row.any (·.column.qualifier == name.last) := by
    intro row
    simp [Row.mask, List.any_map, Function.comp_def]
  unfold qualified
  simp only [List.find?_map, Function.comp_def, mask_any]
  cases found : scopes.find? fun row => row.any (·.column.qualifier == name.last) with
  | none => rfl
  | some row =>
    have member : row ∈ scopes := List.mem_of_find?_eq_some found
    simp only [Option.map_some, Option.getD_some, Row.mask, List.filter_map]
    refine (List.map_congr_left ?_).trans (List.map_id' _)
    intro cell inside
    obtain ⟨inRow, asked⟩ := List.mem_filter.mp inside
    apply Cell.mask_of_shown
    by_contra hides
    have listed := ready.mem_context member inRow (by simpa using hides)
    simp only [qualifiedExposes, List.any_eq_false] at unexposed
    exact unexposed _ listed (by simpa using asked)

/-- Where there are no secrets, nothing in scope is hidden. -/
theorem Ready.nothing_hidden (ready : Ready secret context scopes) (free : ∀ name, ¬ secret name) :
    context.flatten = [] := by
  apply List.eq_nil_iff_forall_not_mem.mpr
  intro column listed
  obtain ⟨hidden, inContext, inHidden⟩ := List.mem_flatten.mp listed
  exact free _ (ready.secret hidden inContext column inHidden)

end Datapress.Sql
