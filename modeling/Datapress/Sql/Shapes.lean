import Datapress.Sql.Masking

/-!
Sources are as their shapes say, and what their shapes hide is secret.

The first is by induction over the syntax of a source that exposes nothing; the second needs that
the gate has looked at the relations in it.
-/

namespace Datapress.Sql

open Datapress Relational

variable [ToLowercase] {Value : Type} {engine : Engine Value} {catalog : Catalog}
  {content : Content Value} {tables : Tables Value} {ctes scope : List String}
  {context : List (List Column)} {scopes : List (Row Value)} {secret : String → Prop}

/-! ### Sources as their shapes say -/

theorem fits_table {tableAlias : Option TableAlias} {table : Table Value} {qualifier : String} :
    Fits .unknown (withAlias tableAlias (table.source qualifier)) := by
  cases tableAlias with
  | none => exact fits_unknown Source.table_source_hidesOnly
  | some => exact fits_unknown (Source.rename_hidesNothing Source.table_source_hidesOnly)

theorem Fits.pick {shape : Shape} {source : Source Value} (fits : Fits shape source)
    (indices : List Nat) : Fits shape (source.pick indices) :=
  ⟨Source.pick_hidesOnly fits.hides, fits.names⟩

mutual

theorem TableFactor.source_fits (named : tables.map Prod.fst = ctes) {checked : Bool}
    {outer : List Column} :
    ∀ factor : TableFactor, factor.exposes catalog checked ctes context outer = false →
      ∀ left : Row Value, Fits (factor.shape catalog ctes)
        (factor.source engine catalog content tables scopes left)
  | .table name tableAlias true args hints, _, left => by
    simp only [TableFactor.shape, TableFactor.source, if_true]
    exact fits_table
  | .table name tableAlias false args hints, unexposed, left => by
    simp only [TableFactor.exposes, Bool.false_eq_true, if_false, Bool.or_eq_false_iff] at unexposed
    simp only [TableFactor.shape, TableFactor.source, Bool.false_eq_true, if_false]
    refine Fits.withAlias ?_ unexposed.1
    split
    · exact tableSource_fits named name
    · exact (tableSource_fits named name).pick _
  | .derived _ _ _, _, left => by
    simp only [TableFactor.shape, TableFactor.source]
    exact fits_table
  | .tableFunction _ _, _, left => by
    simp only [TableFactor.shape, TableFactor.source]
    exact fits_table
  | .function _ _ _, _, left => by
    simp only [TableFactor.shape, TableFactor.source]
    exact fits_table
  | .tabular _ _ _, _, left => by
    simp only [TableFactor.shape, TableFactor.source]
    exact fits_table
  | .nestedJoin inside tableAlias, unexposed, left => by
    simp only [TableFactor.exposes, Bool.or_eq_false_iff] at unexposed
    simp only [TableFactor.shape, TableFactor.source]
    exact (TableWithJoins.source_fits named inside unexposed.1 left).withAlias unexposed.2
  | .reshape _ _ _ _ _, _, left => by
    simp only [TableFactor.shape, TableFactor.source]
    exact fits_table

theorem TableWithJoins.source_fits (named : tables.map Prod.fst = ctes) {checked : Bool}
    {outer : List Column} :
    ∀ source : TableWithJoins, source.exposes catalog checked ctes context outer = false →
      ∀ left : Row Value, Fits (source.shape catalog ctes)
        (source.source engine catalog content tables scopes left)
  | .mk relation joins, unexposed, left => by
    simp only [TableWithJoins.exposes, Bool.or_eq_false_iff] at unexposed
    simp only [TableWithJoins.shape, TableWithJoins.source]
    exact Join.sources_fits named left joins unexposed.2
      (TableFactor.source_fits named relation unexposed.1 left)

theorem Join.source_fits (named : tables.map Prod.fst = ctes) {outer : List Column}
    (row : Row Value) {left : Shape} {source : Source Value} :
    ∀ join : Join, join.exposes catalog ctes context outer left = false → Fits left source →
      Fits (Join.shapes catalog ctes left [join])
        (join.source engine catalog content tables scopes row source)
  | .mk operator relation constraint conditions, unexposed, fits => by
    simp only [Join.exposes, Bool.or_eq_false_iff] at unexposed
    simp only [Join.shapes, Join.source]
    exact fits.joined (fun next => TableFactor.source_fits named relation unexposed.1.1 (row ++ next))
      unexposed.1.2

theorem Join.sources_fits (named : tables.map Prod.fst = ctes) {outer : List Column}
    (row : Row Value) {left : Shape} {source : Source Value} :
    ∀ joins : List Join, Join.exposesList catalog ctes context outer left joins = false →
      Fits left source →
      Fits (Join.shapes catalog ctes left joins)
        (Join.sources engine catalog content tables scopes row source joins)
  | [], _, fits => by
    simp only [Join.shapes, Join.sources]
    exact fits
  | .mk operator relation constraint conditions :: joins, unexposed, fits => by
    simp only [Join.exposesList, Bool.or_eq_false_iff] at unexposed
    have next := Join.sources_fits named row joins unexposed.2
      (Join.source_fits named row (.mk operator relation constraint conditions) unexposed.1 fits)
    simp only [Join.shapes] at next ⊢
    simp only [Join.sources]
    exact next

end

theorem TableWithJoins.sources_fits (named : tables.map Prod.fst = ctes) {checked : Bool}
    {left : Shape} {source : Source Value} (fits : Fits left source) (sources : List TableWithJoins)
    (unexposed : TableWithJoins.exposesList catalog checked ctes context left sources = false) :
    Fits (TableWithJoins.shapes catalog ctes left sources)
      (TableWithJoins.sources engine catalog content tables scopes source sources) := by
  induction sources generalizing left source with
  | nil =>
    simp only [TableWithJoins.shapes, TableWithJoins.sources]
    exact fits
  | cons next sources ih =>
    simp only [TableWithJoins.exposesList, Bool.or_eq_false_iff] at unexposed
    simp only [TableWithJoins.shapes, TableWithJoins.sources]
    exact ih (fits.cross (next.source_fits named unexposed.1)) unexposed.2

/-! ### What the sources hide is secret -/

/-- What the gate makes sure of at a position,. -/
def Position.Guarded (catalog : Catalog) (secret : String → Prop) : Position → Prop
  | .relation _ name _ =>
      ∀ schema, catalog name.last = some schema →
        ∀ column ∈ datasetHeader schema name.last, column.hidden = true →
          secret (toLowercase column.name)
  | .expr (.identifier ident) => ¬ secret (toLowercase ident)
  | .expr (.compoundIdentifier idents) =>
      ∀ last, idents.getLast? = some last → ¬ secret (toLowercase last)
  | _ => True

/-- All positions of a part of a statement are guarded. -/
def Guards (catalog : Catalog) (secret : String → Prop) (positions : List Position) : Prop :=
  ∀ position ∈ positions, position.Guarded catalog secret

theorem guards_cons {position : Position} {positions : List Position} :
    Guards catalog secret (position :: positions) ↔
      position.Guarded catalog secret ∧ Guards catalog secret positions :=
  List.forall_mem_cons

theorem guards_append {first second : List Position} :
    Guards catalog secret (first ++ second) ↔
      Guards catalog secret first ∧ Guards catalog secret second :=
  List.forall_mem_append

def Shape.Secret (secret : String → Prop) (shape : Shape) : Prop :=
  ∀ column ∈ shape.hidden, secret (toLowercase column.name)

theorem Shape.secret_unknown : Shape.unknown.Secret secret :=
  fun _ member => nomatch member

theorem Shape.secret_empty : Shape.Secret secret {} :=
  fun _ member => nomatch member

theorem Shape.Secret.append {left right : Shape} (first : left.Secret secret)
    (second : right.Secret secret) : (left.append right).Secret secret :=
  List.forall_mem_append.mpr ⟨first, second⟩

theorem tableShape_secret {name : ObjectName} {call : Bool}
    (guarded : Position.Guarded catalog secret (.relation scope name call)) :
    (tableShape catalog ctes name).Secret secret := by
  unfold tableShape
  split
  · exact Shape.secret_unknown
  · split
    · rename_i schema known
      intro column member
      obtain ⟨inHeader, hides⟩ := List.mem_filter.mp member
      exact guarded schema known column inHeader hides
    · exact Shape.secret_unknown

theorem Shape.secret_of_hidden {shape : Shape} (plain : shape.hidden = []) :
    shape.Secret secret := by
  intro column member
  rw [plain] at member
  cases member

theorem Shape.Secret.alias {shape : Shape} (secrets : shape.Secret secret)
    (tableAlias : Option TableAlias) : (aliasShape tableAlias shape).Secret secret := by
  cases tableAlias with
  | none => exact secrets
  | some tableAlias =>
    intro column member
    obtain ⟨original, inside, rfl⟩ := List.mem_map.mp member
    exact secrets original inside

mutual

theorem TableFactor.shape_secret : ∀ factor : TableFactor,
    Guards catalog secret (factor.positions scope) → (factor.shape catalog ctes).Secret secret
  | .table name tableAlias true args hints, _ => by
    simp only [TableFactor.shape, if_true]
    exact Shape.secret_unknown
  | .table name tableAlias false args hints, guards => by
    simp only [TableFactor.positions, guards_cons] at guards
    simp only [TableFactor.shape, Bool.false_eq_true, if_false]
    exact (tableShape_secret guards.1).alias tableAlias
  | .derived _ _ _, _ => by simp only [TableFactor.shape]; exact Shape.secret_unknown
  | .tableFunction _ _, _ => by simp only [TableFactor.shape]; exact Shape.secret_unknown
  | .function _ _ _, _ => by simp only [TableFactor.shape]; exact Shape.secret_unknown
  | .tabular _ _ _, _ => by simp only [TableFactor.shape]; exact Shape.secret_unknown
  | .nestedJoin inside tableAlias, guards => by
    simp only [TableFactor.positions] at guards
    simp only [TableFactor.shape]
    exact (TableWithJoins.shape_secret inside guards).alias tableAlias
  | .reshape _ _ _ _ _, _ => by simp only [TableFactor.shape]; exact Shape.secret_unknown

theorem TableWithJoins.shape_secret : ∀ source : TableWithJoins,
    Guards catalog secret (source.positions scope) → (source.shape catalog ctes).Secret secret
  | .mk relation joins, guards => by
    simp only [TableWithJoins.positions, guards_append] at guards
    simp only [TableWithJoins.shape]
    exact Join.shapes_secret (TableFactor.shape_secret relation guards.1) joins guards.2

theorem Join.shapes_secret {left : Shape} (before : left.Secret secret) : ∀ joins : List Join,
    Guards catalog secret (Join.positionsList scope joins) →
      (Join.shapes catalog ctes left joins).Secret secret
  | [], _ => by
    simp only [Join.shapes]
    exact before
  | .mk _ relation _ _ :: joins, guards => by
    simp only [Join.positionsList, Join.positions, guards_append] at guards
    simp only [Join.shapes]
    exact Join.shapes_secret (before.append (TableFactor.shape_secret relation guards.1.1)) joins
      guards.2

end

theorem TableWithJoins.shapes_secret {left : Shape} (before : left.Secret secret)
    (sources : List TableWithJoins)
    (guards : Guards catalog secret (TableWithJoins.positionsList scope sources)) :
    (TableWithJoins.shapes catalog ctes left sources).Secret secret := by
  induction sources generalizing left with
  | nil =>
    simp only [TableWithJoins.shapes]
    exact before
  | cons source sources ih =>
    simp only [TableWithJoins.positionsList, guards_append] at guards
    simp only [TableWithJoins.shapes]
    exact ih (before.append (source.shape_secret guards.1)) guards.2

end Datapress.Sql
