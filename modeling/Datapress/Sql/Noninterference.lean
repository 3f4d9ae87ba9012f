import Datapress.Sql.Shapes

/-!
What an accepted statement computes does not depend on hidden values, unless it exposes them.

The induction is over the syntax. It carries that the rows in scope hide at most what the context
lists, that all of this is secret, and that the gate has looked at every position below.
-/

namespace Datapress.Sql

open Datapress Relational

section Steps

variable [ToLowercase] {Value : Type} {engine : Engine Value} {catalog : Catalog}
  {content : Content Value} {tables : Tables Value} {ctes scope : List String}
  {context : List (List Column)} {scopes : List (Row Value)} {secret : String → Prop}
  {checked : Bool}

/-! ### What every step starts from -/

/-- Where the wildcard walk comes by, it has found no wildcard, or there is no secret. -/
def Excused (secret : String → Prop) (checked wildcard : Bool) : Prop :=
  checked = true → wildcard = false ∨ ∀ name, ¬ secret name

omit [ToLowercase] in
theorem Excused.of_imp {wildcard part : Bool} (excused : Excused secret checked wildcard)
    (within : part = true → wildcard = true) : Excused secret checked part := by
  intro isChecked
  rcases excused isChecked with none_ | public_
  · left
    by_contra found
    rw [within (by simpa using found)] at none_
    cases none_
  · exact .inr public_

omit [ToLowercase] in
theorem Excused.left {first second : Bool} (excused : Excused secret checked (first || second)) :
    Excused secret checked first :=
  excused.of_imp fun found => by rw [found]; rfl

omit [ToLowercase] in
theorem Excused.right {first second : Bool} (excused : Excused secret checked (first || second)) :
    Excused secret checked second :=
  excused.of_imp fun found => by rw [found, Bool.or_true]

omit [ToLowercase] in
theorem excused_unchecked {wildcard : Bool} : Excused secret false wildcard :=
  fun impossible => nomatch impossible

/-- What every step of the induction starts from. -/
structure Setting (engine : Engine Value) (secret : String → Prop) (ctes : List String)
    (context : List (List Column)) (tables : Tables Value) (scopes : List (Row Value)) :
    Prop where
  standard : engine.Standard
  named : tables.map Prod.fst = ctes
  ready : Ready secret context scopes

namespace Setting

variable (setting : Setting engine secret ctes context tables scopes)
include setting

theorem push {hidden : List Column} {row : Row Value} (only : Row.HidesOnly hidden row)
    (secrets : ∀ column ∈ hidden, secret (toLowercase column.name)) :
    Setting engine secret ctes (hidden :: context) tables (row :: scopes) :=
  { setting with ready := setting.ready.push only secrets }

theorem pushPublic {row : Row Value} (only : Row.HidesOnly [] row) :
    Setting engine secret ctes ([] :: context) tables (row :: scopes) :=
  { setting with ready := setting.ready.pushPublic only }

theorem enter {context' : List (List Column)} {scopes' : List (Row Value)}
    (ready : Ready secret context' scopes') :
    Setting engine secret ctes context' tables scopes' :=
  { setting with ready }

theorem declare (name : String) (table : Table Value) :
    Setting engine secret (name :: ctes) context ((name, table) :: tables) scopes :=
  { setting with named := by rw [List.map_cons, setting.named] }

theorem withTables (names : List String) (current : List (Table Value)) :
    Setting engine secret (names ++ ctes) context (Sql.withTables names current ++ tables)
      scopes := by
  refine { setting with named := ?_ }
  have names_eq : (Sql.withTables names current).map Prod.fst = names := by
    apply List.ext_getElem?
    intro index
    simp [Sql.withTables, Function.comp_def]
  rw [List.map_append, setting.named, names_eq]

end Setting

/-! ### The induction -/


/-- The tail of a query does the same with masked rows. -/
structure Tail.Masks (engine : Engine Value) (secret : String → Prop)
    (exposes : List (List Column) → Bool) (masked tail : Tail Value) : Prop where
  syntaxes : masked.syntaxes = tail.syntaxes
  bind : ∀ context scopes, Ready secret context scopes → exposes context = false →
    masked.bind (scopes.map (Row.mask engine.null)) = tail.bind scopes

theorem Engine.finish_mask {exposes : List (List Column) → Bool} {masked tail : Tail Value}
    (ready : Ready secret context scopes) (masks : Tail.Masks engine secret exposes masked tail)
    (unexposed : exposes ([] :: context) = false) (table : Table Value) :
    engine.finish (scopes.map (Row.mask engine.null)) masked table =
      engine.finish scopes tail table := by
  have hides : (table.source "").HidesOnly [] := Source.table_source_hidesOnly
  unfold Engine.finish
  rw [masks.syntaxes]
  congr 1
  apply List.map_congr_left
  intro row member
  have only := hides.rows row member
  have same := masks.bind ([] :: context) (row :: scopes) (ready.pushPublic only) unexposed
  rw [List.map_cons, only.mask_eq] at same
  rw [same]

section Rows

variable (setting : Setting engine secret ctes context tables scopes)
include setting

/-- What the rows of a finished table are bound to. -/
theorem Setting.table_rows_mask (bindMasked bind : List (Row Value) → List (Bound Value))
    (table : Table Value)
    (same : ∀ row, Setting engine secret ctes ([] :: context) tables (row :: scopes) →
      bindMasked ((row :: scopes).map (Row.mask engine.null)) = bind (row :: scopes)) :
    ((table.source "").rows.map fun row =>
        Bound.node (bindMasked (row :: scopes.map (Row.mask engine.null)))) =
      (table.source "").rows.map fun row => Bound.node (bind (row :: scopes)) := by
  apply List.map_congr_left
  intro row member
  have only : Row.HidesOnly [] row := Source.table_source_hidesOnly.rows row member
  have here := same row (setting.pushPublic only)
  rw [List.map_cons, only.mask_eq] at here
  rw [here]

end Rows

theorem table_mask {tableAlias : Option TableAlias} {table : Table Value} {qualifier : String} :
    (withAlias tableAlias (table.source qualifier)).mask engine.null =
      withAlias tableAlias (table.source qualifier) :=
  fits_table.hides.mask_eq

/-- Tables are crossed as they are masked. -/
theorem tableSources_mask (engine : Engine Value) (catalog : Catalog) (content : Content Value)
    (named : tables.map Prod.fst = ctes) {left : Shape} {source : Source Value} (fits : Fits left source) (names : List ObjectName) :
    Fits (tableShapes catalog ctes left names)
        (tableSources engine catalog content tables source names) ∧
      tableSources engine catalog (content.mask engine.null catalog) tables
          (source.mask engine.null) names =
        (tableSources engine catalog content tables source names).mask engine.null := by
  induction names generalizing left source with
  | nil => exact ⟨fits, rfl⟩
  | cons name names ih =>
    have crossed : (source.mask engine.null).cross engine.null (fun _ =>
          tableSource engine catalog (content.mask engine.null catalog) tables name) =
        (source.cross engine.null fun _ =>
          tableSource engine catalog content tables name).mask engine.null :=
      Source.cross_mask fits.hides fun row _ => tableSource_mask name
    simp only [tableSources, tableShapes, List.foldl_cons, crossed]
    exact ih (fits.cross fun _ => tableSource_fits named name)

theorem tableShapes_secret {left : Shape} (secrets : left.Secret secret) (targets : List ObjectName)
    (guards : Guards catalog secret (targets.map (.relation scope · false))) :
    (tableShapes catalog ctes left targets).Secret secret := by
  induction targets generalizing left with
  | nil => exact secrets
  | cons name targets ih =>
    simp only [List.map_cons, guards_cons] at guards
    exact ih (secrets.append (tableShape_secret guards.1)) guards.2

/-- The tables before the first `SELECT`, which hide nothing. -/
structure Lead (shape : Shape) (lead : Source Value) : Prop where
  fits : Fits shape lead
  plain : shape.hidden = []

namespace Lead

variable {shape : Shape} {lead : Source Value}

theorem mask_eq (leads : Lead shape lead) : lead.mask engine.null = lead :=
  (leads.plain ▸ leads.fits.hides : lead.HidesOnly []).mask_eq

theorem unit : Lead {} (Source.unit : Source Value) := ⟨fits_unit, rfl⟩

end Lead

/-- The lead of a query is the same over masked contents. -/
theorem leading_mask (content : Content Value) (named : tables.map Prod.fst = ctes)
    (withs : List Cte)
    (plain : (!(tableShapes catalog ctes {} (leading withs)).hidden.isEmpty) = false) :
    Lead (tableShapes catalog ctes {} (leading withs))
        (tableSources engine catalog content tables Source.unit (leading withs)) ∧
      tableSources engine catalog (content.mask engine.null catalog) tables Source.unit
          (leading withs) =
        tableSources engine catalog content tables Source.unit (leading withs) := by
  have nothing : (tableShapes catalog ctes {} (leading withs)).hidden = [] := by simpa using plain
  obtain ⟨fits, same⟩ := tableSources_mask engine catalog content named fits_unit (leading withs)
  have leads : Lead _ _ := ⟨fits, nothing⟩
  rw [Source.unit_mask, leads.mask_eq] at same
  exact ⟨leads, same⟩

end Steps

variable [ToLowercase] {Value : Type} {engine : Engine Value} {catalog : Catalog}
  {content : Content Value} {secret : String → Prop}

mutual

theorem Expr.bind_mask {ctes scope : List String} {context : List (List Column)}
    {tables : Tables Value} {scopes : List (Row Value)}
    (setting : Setting engine secret ctes context tables scopes) :
    ∀ expr : Expr, Guards catalog secret (expr.positions scope) →
      expr.exposes catalog ctes context = false →
      expr.bind engine catalog (content.mask engine.null catalog) tables
          (scopes.map (Row.mask engine.null)) =
        expr.bind engine catalog content tables scopes
  | .identifier ident, guards, _ => by
    simp only [Expr.positions, guards_cons] at guards
    simp only [Expr.bind]
    refine lookup_mask setting.standard setting.ready (setting.ready.unexposed ?_ ?_)
    · rintro last same
      obtain rfl : ident = last := by simpa using same
      exact guards.1
    · simp [fieldExposes]
  | .compoundIdentifier idents, guards, unexposed => by
    simp only [Expr.positions, guards_cons] at guards
    simp only [Expr.exposes] at unexposed
    simp only [Expr.bind]
    exact lookup_mask setting.standard setting.ready (setting.ready.unexposed guards.1 unexposed)
  | .value _, _, _ => by simp only [Expr.bind]
  | .operator _ operands, guards, unexposed => by
    simp only [Expr.positions, guards_cons] at guards
    simp only [Expr.exposes] at unexposed
    simp only [Expr.bind, Expr.bindList_mask setting operands guards.2 unexposed]
  | .subquery symbol operands query, guards, unexposed => by
    simp only [Expr.positions, guards_cons, guards_append] at guards
    simp only [Expr.exposes, Bool.or_eq_false_iff] at unexposed
    simp only [Expr.bind, Expr.bindList_mask setting operands guards.2.1 unexposed.1,
      Query.eval_mask setting query guards.2.2 unexposed.2 excused_unchecked]
  | .function name args modifiers, guards, unexposed => by
    simp only [Expr.positions, guards_cons, guards_append] at guards
    simp only [Expr.exposes, Bool.or_eq_false_iff] at unexposed
    simp only [Expr.bind, FunctionArg.bindList_mask setting args guards.2.1 unexposed.1,
      Expr.bindList_mask setting modifiers guards.2.2 unexposed.2]
  | .matchAgainst columns, _, unexposed => by
    simp only [Expr.exposes, List.any_eq_false, Bool.not_eq_true] at unexposed
    simp only [Expr.bind]
    congr 1
    apply List.map_congr_left
    intro column member
    exact lookup_mask setting.standard setting.ready (unexposed column member)

theorem Expr.bindList_mask {ctes scope : List String} {context : List (List Column)}
    {tables : Tables Value} {scopes : List (Row Value)}
    (setting : Setting engine secret ctes context tables scopes) :
    ∀ exprs : List Expr, Guards catalog secret (Expr.positionsList scope exprs) →
      Expr.exposesList catalog ctes context exprs = false →
      Expr.bindList engine catalog (content.mask engine.null catalog) tables
          (scopes.map (Row.mask engine.null)) exprs =
        Expr.bindList engine catalog content tables scopes exprs
  | [], _, _ => by simp only [Expr.bindList]
  | expr :: exprs, guards, unexposed => by
    simp only [Expr.positionsList, guards_append] at guards
    simp only [Expr.exposesList, Bool.or_eq_false_iff] at unexposed
    simp only [Expr.bindList, Expr.bind_mask setting expr guards.1 unexposed.1,
      Expr.bindList_mask setting exprs guards.2 unexposed.2]

theorem FunctionArg.bind_mask {ctes scope : List String} {context : List (List Column)}
    {tables : Tables Value} {scopes : List (Row Value)}
    (setting : Setting engine secret ctes context tables scopes)
    {count : Bool} : ∀ arg : FunctionArg, Guards catalog secret (arg.positions scope) →
      arg.exposes catalog count ctes context = false →
      arg.bind engine catalog (content.mask engine.null catalog) count tables
          (scopes.map (Row.mask engine.null)) =
        arg.bind engine catalog content count tables scopes
  | .expr value, guards, unexposed => by
    simp only [FunctionArg.positions] at guards
    simp only [FunctionArg.exposes] at unexposed
    simp only [FunctionArg.bind, Expr.bind_mask setting value guards unexposed]
  | .wildcard, _, unexposed => by
    simp only [FunctionArg.bind]
    cases count with
    | true => rfl
    | false =>
      have free : (context.headD []).isEmpty = true := by simpa [FunctionArg.exposes] using unexposed
      simp only [Bool.false_eq_true, if_false, headD_mask setting.ready free]
  | .qualifiedWildcard name, _, unexposed => by
    simp only [FunctionArg.exposes] at unexposed
    simp only [FunctionArg.bind, qualified_mask setting.ready unexposed]
  | .query query, guards, unexposed => by
    simp only [FunctionArg.positions] at guards
    simp only [FunctionArg.exposes] at unexposed
    simp only [FunctionArg.bind, Query.eval_mask setting query guards unexposed excused_unchecked]

theorem FunctionArg.bindList_mask {ctes scope : List String} {context : List (List Column)}
    {tables : Tables Value} {scopes : List (Row Value)}
    (setting : Setting engine secret ctes context tables scopes)
    {count : Bool} : ∀ args : List FunctionArg,
      Guards catalog secret (FunctionArg.positionsList scope args) →
      FunctionArg.exposesList catalog count ctes context args = false →
      FunctionArg.bindList engine catalog (content.mask engine.null catalog) count tables
          (scopes.map (Row.mask engine.null)) args =
        FunctionArg.bindList engine catalog content count tables scopes args
  | [], _, _ => by simp only [FunctionArg.bindList]
  | arg :: args, guards, unexposed => by
    simp only [FunctionArg.positionsList, guards_append] at guards
    simp only [FunctionArg.exposesList, Bool.or_eq_false_iff] at unexposed
    simp only [FunctionArg.bindList, FunctionArg.bind_mask setting arg guards.1 unexposed.1,
      FunctionArg.bindList_mask setting args guards.2 unexposed.2]

theorem Query.eval_mask {ctes scope : List String} {context : List (List Column)}
    {tables : Tables Value} {scopes : List (Row Value)} {checked : Bool}
    (setting : Setting engine secret ctes context tables scopes)
    {literalStar : Bool} : ∀ query : Query, Guards catalog secret (query.positions scope) →
      query.exposes catalog checked literalStar ctes context = false →
      Excused secret checked (queryHasWildcard query) →
      query.eval engine catalog (content.mask engine.null catalog) literalStar tables
          (scopes.map (Row.mask engine.null)) =
        query.eval engine catalog content literalStar tables scopes
  | .mk true withs body orderBy limit pipeOperators, guards, unexposed, excused => by
    simp only [Query.positions, guards_cons, guards_append, if_true] at guards
    obtain ⟨-, ⟨⟨⟨⟨withsGuarded, -⟩, bodyGuarded⟩, orderGuarded⟩, limitGuarded⟩, pipesGuarded⟩ := guards
    simp only [Query.exposes, withNames, if_true, Bool.or_eq_false_iff] at unexposed
    simp only [queryHasWildcard] at excused
    have rounds : (fun current => Cte.evalList engine catalog (content.mask engine.null catalog)
          (withTables (withs.map Cte.name) current ++ tables) (scopes.map (Row.mask engine.null))
          withs) =
        fun current => Cte.evalList engine catalog content
          (withTables (withs.map Cte.name) current ++ tables) scopes withs := by
      funext current
      exact Cte.evalList_mask (setting.withTables _ current) withs withsGuarded unexposed.1.1.1
        excused.left
    simp only [Query.eval, if_true, rounds]
    generalize engine.recurse _ = current
    have inner := setting.withTables (withs.map Cte.name) current
    obtain ⟨leads, same⟩ := leading_mask content inner.named withs unexposed.1.1.2
    rw [same, SetExpr.eval_mask inner leads ?_ body bodyGuarded unexposed.1.2 excused.right]
    · exact PipeOperator.evalList_mask inner pipeOperators _ pipesGuarded unexposed.2
    · refine ⟨rfl, fun context scopes ready unexposed => ?_⟩
      rw [Bool.or_eq_false_iff] at unexposed
      simp only [Expr.bindList_mask (inner.enter ready) orderBy orderGuarded unexposed.1,
        Expr.bindList_mask (inner.enter ready) limit limitGuarded unexposed.2]
  | .mk false withs body orderBy limit pipeOperators, guards, unexposed, excused => by
    simp only [Query.positions, guards_cons, guards_append, Bool.false_eq_true, if_false] at guards
    obtain ⟨-, ⟨⟨⟨⟨withsGuarded, -⟩, bodyGuarded⟩, orderGuarded⟩, limitGuarded⟩, pipesGuarded⟩ := guards
    simp only [Query.exposes, withNames, Bool.false_eq_true, if_false,
      Bool.or_eq_false_iff] at unexposed
    simp only [queryHasWildcard] at excused
    obtain ⟨same, inner⟩ := Cte.declare_mask setting withs withsGuarded unexposed.1.1.1
      excused.left
    simp only [Query.eval, Bool.false_eq_true, if_false, same]
    generalize Cte.declare engine catalog content tables scopes withs = declared at inner ⊢
    obtain ⟨leads, read⟩ := leading_mask content inner.named withs unexposed.1.1.2
    rw [read, SetExpr.eval_mask inner leads ?_ body bodyGuarded unexposed.1.2 excused.right]
    · exact PipeOperator.evalList_mask inner pipeOperators _ pipesGuarded unexposed.2
    · refine ⟨rfl, fun context scopes ready unexposed => ?_⟩
      rw [Bool.or_eq_false_iff] at unexposed
      simp only [Expr.bindList_mask (inner.enter ready) orderBy orderGuarded unexposed.1,
        Expr.bindList_mask (inner.enter ready) limit limitGuarded unexposed.2]

theorem Query.evalList_mask {ctes scope : List String} {context : List (List Column)}
    {tables : Tables Value} {scopes : List (Row Value)}
    (setting : Setting engine secret ctes context tables scopes) :
    ∀ queries : List Query, Guards catalog secret (Query.positionsList scope queries) →
      Query.exposesList catalog ctes context queries = false →
      Query.evalList engine catalog (content.mask engine.null catalog) tables
          (scopes.map (Row.mask engine.null)) queries =
        Query.evalList engine catalog content tables scopes queries
  | [], _, _ => by simp only [Query.evalList]
  | query :: queries, guards, unexposed => by
    simp only [Query.positionsList, guards_append] at guards
    simp only [Query.exposesList, Bool.or_eq_false_iff] at unexposed
    simp only [Query.evalList,
      Query.eval_mask setting query guards.1 unexposed.1 excused_unchecked,
      Query.evalList_mask setting queries guards.2 unexposed.2]

theorem Cte.eval_mask {ctes scope : List String} {context : List (List Column)}
    {tables : Tables Value} {scopes : List (Row Value)} {checked : Bool}
    (setting : Setting engine secret ctes context tables scopes) :
    ∀ cte : Cte, Guards catalog secret (cte.positions scope) →
      cte.exposes catalog checked ctes context = false →
      Excused secret checked (ctesHaveWildcard [cte]) →
      cte.eval engine catalog (content.mask engine.null catalog) tables
          (scopes.map (Row.mask engine.null)) =
        cte.eval engine catalog content tables scopes
  | .mk tableAlias query _, guards, unexposed, excused => by
    simp only [Cte.positions] at guards
    simp only [Cte.exposes] at unexposed
    simp only [ctesHaveWildcard] at excused
    simp only [Cte.eval, Query.eval_mask setting query guards unexposed excused.left]

theorem Cte.evalList_mask {ctes scope : List String} {context : List (List Column)}
    {tables : Tables Value} {scopes : List (Row Value)} {checked : Bool}
    (setting : Setting engine secret ctes context tables scopes) :
    ∀ withs : List Cte, Guards catalog secret (Cte.positionsList scope withs) →
      Cte.exposesList catalog checked ctes context withs = false →
      Excused secret checked (ctesHaveWildcard withs) →
      Cte.evalList engine catalog (content.mask engine.null catalog) tables
          (scopes.map (Row.mask engine.null)) withs =
        Cte.evalList engine catalog content tables scopes withs
  | [], _, _, _ => by simp only [Cte.evalList]
  | .mk tableAlias query source :: withs, guards, unexposed, excused => by
    simp only [Cte.positionsList, guards_append] at guards
    simp only [Cte.exposesList, Bool.or_eq_false_iff] at unexposed
    simp only [ctesHaveWildcard] at excused
    have here : Excused secret checked (ctesHaveWildcard [.mk tableAlias query source]) := by
      simpa only [ctesHaveWildcard, Bool.or_false] using excused.left
    simp only [Cte.evalList, Cte.eval_mask setting (.mk tableAlias query source) guards.1
        unexposed.1 here,
      Cte.evalList_mask setting withs guards.2 unexposed.2 excused.right]

theorem Cte.declare_mask {ctes scope : List String} {context : List (List Column)}
    {tables : Tables Value} {scopes : List (Row Value)} {checked : Bool}
    (setting : Setting engine secret ctes context tables scopes) :
    ∀ withs : List Cte, Guards catalog secret (Cte.positionsList scope withs) →
      Cte.exposesInOrder catalog checked ctes context withs = false →
      Excused secret checked (ctesHaveWildcard withs) →
      Cte.declare engine catalog (content.mask engine.null catalog) tables
          (scopes.map (Row.mask engine.null)) withs =
        Cte.declare engine catalog content tables scopes withs ∧
      Setting engine secret (withs.foldl (fun names cte => cte.name :: names) ctes) context
        (Cte.declare engine catalog content tables scopes withs) scopes
  | [], _, _, _ => by
    simp only [Cte.declare, List.foldl_nil, true_and]
    exact setting
  | .mk tableAlias query source :: withs, guards, unexposed, excused => by
    simp only [Cte.positionsList, guards_append] at guards
    simp only [Cte.exposesInOrder, Bool.or_eq_false_iff] at unexposed
    simp only [ctesHaveWildcard] at excused
    have here : Excused secret checked (ctesHaveWildcard [.mk tableAlias query source]) := by
      simpa only [ctesHaveWildcard, Bool.or_false] using excused.left
    simp only [Cte.declare, List.foldl_cons,
      Cte.eval_mask setting (.mk tableAlias query source) guards.1 unexposed.1 here]
    exact Cte.declare_mask (setting.declare _ _) withs guards.2 unexposed.2 excused.right

theorem SetExpr.eval_mask {ctes scope : List String} {context : List (List Column)}
    {tables : Tables Value} {scopes : List (Row Value)} {checked : Bool}
    (setting : Setting engine secret ctes context tables scopes) {shape : Shape}
    {lead : Source Value} (leads : Lead shape lead)
    {literalStar : Bool} {exposes : List (List Column) → Bool} {masked tail : Tail Value}
    (masks : Tail.Masks engine secret exposes masked tail) :
    ∀ body : SetExpr, Guards catalog secret (body.positions scope) →
      body.exposes catalog checked literalStar ctes context shape exposes = false →
      Excused secret checked (setExprHasWildcard body) →
      body.eval engine catalog (content.mask engine.null catalog) literalStar tables
          (scopes.map (Row.mask engine.null)) lead masked =
        body.eval engine catalog content literalStar tables scopes lead tail
  | .select flavor distinct projection sources selection groupBy having windows, guards,
      unexposed, excused => by
    simp only [SetExpr.positions, guards_append] at guards
    obtain ⟨⟨⟨⟨⟨⟨inDistinct, inProjection⟩, inSources⟩, inSelection⟩, inGroupBy⟩, inHaving⟩,
      inWindows⟩ := guards
    simp only [SetExpr.exposes, Bool.or_eq_false_iff] at unexposed
    obtain ⟨⟨⟨⟨⟨⟨⟨⟨ofSources, ofRow⟩, ofDistinct⟩, ofProjection⟩, ofSelection⟩, ofGroupBy⟩, ofHaving⟩,
      ofWindows⟩, ofTail⟩ := unexposed
    simp only [setExprHasWildcard] at excused
    have fits : Fits (TableWithJoins.shapes catalog ctes shape sources)
        (TableWithJoins.sources engine catalog content tables scopes lead sources) :=
      TableWithJoins.sources_fits setting.named leads.fits sources ofSources
    have open_ : shape.Secret secret := Shape.secret_of_hidden leads.plain
    have secrets : (TableWithJoins.shapes catalog ctes shape sources).Secret secret :=
      TableWithJoins.shapes_secret open_ sources inSources
    have same := TableWithJoins.sources_mask setting leads.fits open_ sources inSources ofSources
      excused.right
    rw [leads.mask_eq] at same
    simp only [SetExpr.eval, same, Source.mask_header, Source.mask_rows, List.map_map,
      masks.syntaxes]
    congr 1
    apply List.map_congr_left
    intro row member
    have only := fits.hides.rows row member
    have inner := setting.push only secrets
    have stack : Row.mask engine.null row :: scopes.map (Row.mask engine.null) =
        (row :: scopes).map (Row.mask engine.null) := rfl
    have excusedItems : (checked || literalStar) = true → literalStar = true ∨
        projection.any SelectItem.isWildcard = false ∨ ∀ name, ¬ secret name := by
      intro either
      rcases (Bool.or_eq_true ..).mp either with isChecked | literal
      · exact .inr (excused.left isChecked)
      · exact .inl literal
    have whole : (if flavor = .fromFirstNoSelect then Bound.cells (Row.mask engine.null row)
        else .absent) = if flavor = .fromFirstNoSelect then .cells row else .absent := by
      split
      · rename_i isWhole
        have nothing : (TableWithJoins.shapes catalog ctes shape sources).hidden = [] := by
          simpa [isWhole] using ofRow
        rw [nothing] at only
        rw [only.mask_eq]
      · rfl
    simp only [Function.comp_def, whole]
    rw [stack, Expr.bindList_mask inner distinct inDistinct ofDistinct,
      SelectItem.bindList_mask inner projection inProjection ofProjection excusedItems,
      Expr.bindList_mask inner selection inSelection ofSelection,
      Expr.bindList_mask inner groupBy inGroupBy ofGroupBy,
      Expr.bindList_mask inner having inHaving ofHaving,
      Expr.bindList_mask inner windows inWindows ofWindows,
      masks.bind _ _ inner.ready ofTail]
  | .query query, guards, unexposed, excused => by
    simp only [SetExpr.positions] at guards
    simp only [SetExpr.exposes, Bool.or_eq_false_iff] at unexposed
    simp only [setExprHasWildcard] at excused
    simp only [SetExpr.eval, Query.eval_mask setting query guards unexposed.1 excused]
    exact Engine.finish_mask setting.ready masks unexposed.2 _
  | .setOperation operator quantifier left right, guards, unexposed, excused => by
    simp only [SetExpr.positions, guards_append] at guards
    simp only [SetExpr.exposes, Bool.or_eq_false_iff] at unexposed
    simp only [setExprHasWildcard] at excused
    have noTail : Tail.Masks engine secret (fun _ => false) ({} : Tail Value) {} :=
      ⟨rfl, fun _ _ _ _ => rfl⟩
    simp only [SetExpr.eval,
      SetExpr.eval_mask setting leads noTail left guards.1 unexposed.1.1 excused.left,
      SetExpr.eval_mask setting Lead.unit noTail right guards.2 unexposed.1.2 excused.right]
    exact Engine.finish_mask setting.ready masks unexposed.2 _
  | .values rows, guards, unexposed, _ => by
    simp only [SetExpr.positions] at guards
    simp only [SetExpr.exposes, Bool.or_eq_false_iff] at unexposed
    simp only [SetExpr.eval, Expr.bindList_mask setting rows guards unexposed.1]
    exact Engine.finish_mask setting.ready masks unexposed.2 _
  | .table name, _, unexposed, _ => by
    simp only [SetExpr.exposes, Bool.or_eq_false_iff, Bool.not_eq_false', List.isEmpty_iff]
      at unexposed
    have hides : (tableSource engine catalog content tables name).HidesOnly
        (tableShape catalog ctes name).hidden := (tableSource_fits setting.named name).hides
    rw [unexposed.1] at hides
    simp only [SetExpr.eval, tableSource_mask, hides.mask_eq]
    exact Engine.finish_mask setting.ready masks unexposed.2 _
  | .dml keyword targets sources queries exprs, guards, unexposed, _ => by
    simp only [SetExpr.positions, guards_append] at guards
    obtain ⟨⟨⟨inTargets, inSources⟩, inQueries⟩, inExprs⟩ := guards
    simp only [SetExpr.exposes, Bool.or_eq_false_iff] at unexposed
    obtain ⟨⟨⟨ofSources, ofExprs⟩, ofQueries⟩, ofTail⟩ := unexposed
    obtain ⟨startFits, startSame⟩ := tableSources_mask engine catalog content setting.named
      leads.fits targets
    have behind : (tableShapes catalog ctes shape targets).Secret secret :=
      tableShapes_secret (Shape.secret_of_hidden leads.plain) targets inTargets
    rw [leads.mask_eq] at startSame
    simp only [SetExpr.eval, startSame, Query.evalList_mask setting queries inQueries ofQueries]
    generalize tableShapes catalog ctes shape targets = begins at startFits behind ofSources ofExprs
    generalize tableSources engine catalog content tables lead targets = start at startFits ⊢
    have fits : Fits (TableWithJoins.shapes catalog ctes begins sources)
        (TableWithJoins.sources engine catalog content tables scopes start sources) :=
      TableWithJoins.sources_fits setting.named startFits sources ofSources
    have secrets : (TableWithJoins.shapes catalog ctes begins sources).Secret secret :=
      TableWithJoins.shapes_secret behind sources inSources
    simp only [TableWithJoins.sources_mask setting startFits behind sources inSources
      ofSources excused_unchecked, Source.mask_rows, List.map_map]
    have rows : ∀ row ∈ (TableWithJoins.sources engine catalog content tables scopes start
        sources).rows,
        Expr.bindList engine catalog (content.mask engine.null catalog) tables
            (Row.mask engine.null row :: scopes.map (Row.mask engine.null)) exprs =
          Expr.bindList engine catalog content tables (row :: scopes) exprs := by
      intro row member
      exact Expr.bindList_mask (setting.push (fits.hides.rows row member) secrets) exprs inExprs
        ofExprs
    rw [Function.comp_def,
      List.map_congr_left fun row member => congrArg Bound.node (rows row member)]
    exact Engine.finish_mask setting.ready masks ofTail _

theorem SelectItem.bind_mask {ctes scope : List String} {context : List (List Column)}
    {tables : Tables Value} {scopes : List (Row Value)}
    (setting : Setting engine secret ctes context tables scopes)
    {literalStar excused : Bool} :
    ∀ item : SelectItem, Guards catalog secret (item.positions scope) →
      item.exposes catalog excused ctes context = false →
      (excused = true → literalStar = true ∨ item.isWildcard = false ∨ ∀ name, ¬ secret name) →
      item.bind engine catalog (content.mask engine.null catalog) literalStar tables
          (scopes.map (Row.mask engine.null)) =
        item.bind engine catalog content literalStar tables scopes
  | .expr value _, guards, unexposed, _ => by
    simp only [SelectItem.positions] at guards
    simp only [SelectItem.exposes] at unexposed
    simp only [SelectItem.bind, Expr.bind_mask setting value guards unexposed]
  | .wildcard options, guards, unexposed, allowed => by
    simp only [SelectItem.positions] at guards
    simp only [SelectItem.exposes, Bool.or_eq_false_iff] at unexposed
    simp only [SelectItem.bind, Expr.bindList_mask setting options guards unexposed.2]
    cases literalStar with
    | true => rfl
    | false =>
      have free : (context.headD []).isEmpty = true := by
        cases excused with
        | false => simpa using unexposed.1
        | true =>
          rcases allowed rfl with impossible | impossible | public_
          · cases impossible
          · cases impossible
          · exact setting.ready.headD_isEmpty public_
      simp only [Bool.false_eq_true, if_false, headD_mask setting.ready free]
  | .qualifiedWildcard name options, guards, unexposed, allowed => by
    simp only [SelectItem.positions] at guards
    simp only [SelectItem.exposes, Bool.or_eq_false_iff] at unexposed
    simp only [SelectItem.bind, Expr.bindList_mask setting options guards unexposed.2]
    cases literalStar with
    | true => rfl
    | false =>
      have free : qualifiedExposes context name = false := by
        cases excused with
        | false => simpa using unexposed.1
        | true =>
          rcases allowed rfl with impossible | impossible | public_
          · cases impossible
          · cases impossible
          · simp [qualifiedExposes, setting.ready.nothing_hidden public_]
      simp only [Bool.false_eq_true, if_false, qualified_mask setting.ready free]

theorem SelectItem.bindList_mask {ctes scope : List String} {context : List (List Column)}
    {tables : Tables Value} {scopes : List (Row Value)}
    (setting : Setting engine secret ctes context tables scopes)
    {literalStar excused : Bool} :
    ∀ items : List SelectItem, Guards catalog secret (SelectItem.positionsList scope items) →
      SelectItem.exposesList catalog excused ctes context items = false →
      (excused = true → literalStar = true ∨ items.any SelectItem.isWildcard = false ∨
        ∀ name, ¬ secret name) →
      SelectItem.bindList engine catalog (content.mask engine.null catalog) literalStar tables
          (scopes.map (Row.mask engine.null)) items =
        SelectItem.bindList engine catalog content literalStar tables scopes items
  | [], _, _, _ => by simp only [SelectItem.bindList]
  | item :: items, guards, unexposed, allowed => by
    simp only [SelectItem.positionsList, guards_append] at guards
    simp only [SelectItem.exposesList, Bool.or_eq_false_iff] at unexposed
    have here : excused = true → literalStar = true ∨ item.isWildcard = false ∨
        ∀ name, ¬ secret name := by
      intro isExcused
      refine (allowed isExcused).imp_right (Or.imp_left fun none_ => ?_)
      exact (Bool.or_eq_false_iff.mp none_).1
    have later : excused = true → literalStar = true ∨ items.any SelectItem.isWildcard = false ∨
        ∀ name, ¬ secret name := by
      intro isExcused
      refine (allowed isExcused).imp_right (Or.imp_left fun none_ => ?_)
      exact (Bool.or_eq_false_iff.mp none_).2
    simp only [SelectItem.bindList, SelectItem.bind_mask setting item guards.1 unexposed.1 here,
      SelectItem.bindList_mask setting items guards.2 unexposed.2 later]

theorem TableWithJoins.source_mask {ctes scope : List String} {context : List (List Column)}
    {tables : Tables Value} {scopes : List (Row Value)} {checked : Bool}
    (setting : Setting engine secret ctes context tables scopes)
    {outer : List Column} {left : Row Value} (only : Row.HidesOnly outer left)
    (secrets : ∀ column ∈ outer, secret (toLowercase column.name)) :
    ∀ source : TableWithJoins, Guards catalog secret (source.positions scope) →
      source.exposes catalog checked ctes context outer = false →
      Excused secret checked (sourcesHaveWildcard [source]) →
      source.source engine catalog (content.mask engine.null catalog) tables
          (scopes.map (Row.mask engine.null)) (Row.mask engine.null left) =
        (source.source engine catalog content tables scopes left).mask engine.null
  | .mk relation joins, guards, unexposed, excused => by
    simp only [TableWithJoins.positions, guards_append] at guards
    simp only [TableWithJoins.exposes, Bool.or_eq_false_iff] at unexposed
    simp only [sourcesHaveWildcard] at excused
    simp only [TableWithJoins.source,
      TableFactor.source_mask setting only secrets relation guards.1 unexposed.1 excused.left]
    exact Join.sources_mask setting only secrets
      (relation.source_fits setting.named unexposed.1 left) (relation.shape_secret guards.1) joins
      guards.2 unexposed.2

theorem TableWithJoins.sources_mask {ctes scope : List String} {context : List (List Column)}
    {tables : Tables Value} {scopes : List (Row Value)} {checked : Bool}
    (setting : Setting engine secret ctes context tables scopes)
    {left : Shape} {source : Source Value} (fits : Fits left source)
    (secrets : left.Secret secret) :
    ∀ sources : List TableWithJoins,
      Guards catalog secret (TableWithJoins.positionsList scope sources) →
      TableWithJoins.exposesList catalog checked ctes context left sources = false →
      Excused secret checked (sourcesHaveWildcard sources) →
      TableWithJoins.sources engine catalog (content.mask engine.null catalog) tables
          (scopes.map (Row.mask engine.null)) (source.mask engine.null) sources =
        (TableWithJoins.sources engine catalog content tables scopes source sources).mask
          engine.null
  | [], _, _, _ => by simp only [TableWithJoins.sources]
  | .mk relation joins :: sources, guards, unexposed, excused => by
    simp only [TableWithJoins.positionsList, guards_append] at guards
    simp only [TableWithJoins.exposesList, Bool.or_eq_false_iff] at unexposed
    simp only [sourcesHaveWildcard] at excused
    have here : Excused secret checked (sourcesHaveWildcard [.mk relation joins]) := by
      simpa only [sourcesHaveWildcard, Bool.or_false] using excused.left
    have crossed : (source.mask engine.null).cross engine.null (fun row =>
          TableWithJoins.source engine catalog (content.mask engine.null catalog) tables
            (scopes.map (Row.mask engine.null)) row (.mk relation joins)) =
        (source.cross engine.null fun row => TableWithJoins.source engine catalog content tables
          scopes row (.mk relation joins)).mask engine.null :=
      Source.cross_mask fits.hides fun row only =>
        TableWithJoins.source_mask setting only secrets (.mk relation joins) guards.1 unexposed.1
          here
    simp only [TableWithJoins.sources, crossed]
    refine TableWithJoins.sources_mask setting ?_ ?_ sources guards.2 unexposed.2 excused.right
    · exact fits.cross (TableWithJoins.source_fits setting.named (.mk relation joins) unexposed.1)
    · exact secrets.append (TableWithJoins.shape_secret (.mk relation joins) guards.1)

theorem Join.source_mask {ctes scope : List String} {context : List (List Column)}
    {tables : Tables Value} {scopes : List (Row Value)}
    (setting : Setting engine secret ctes context tables scopes)
    {outer : List Column} {row : Row Value} (only : Row.HidesOnly outer row)
    (outerSecrets : ∀ column ∈ outer, secret (toLowercase column.name)) {left : Shape}
    {source : Source Value} (fits : Fits left source) (secrets : left.Secret secret) :
    ∀ join : Join, Guards catalog secret (join.positions scope) →
      join.exposes catalog ctes context outer left = false →
      join.source engine catalog (content.mask engine.null catalog) tables
          (scopes.map (Row.mask engine.null)) (Row.mask engine.null row)
          (source.mask engine.null) =
        (join.source engine catalog content tables scopes row source).mask engine.null
  | .mk operator relation constraint conditions, guards, unexposed => by
    simp only [Join.positions, guards_append] at guards
    simp only [Join.exposes, Bool.or_eq_false_iff] at unexposed
    obtain ⟨⟨ofRelation, ofConstraint⟩, ofConditions⟩ := unexposed
    have relationSecrets : (relation.shape catalog ctes).Secret secret :=
      relation.shape_secret guards.1
    simp only [Join.source]
    apply joined_mask fits
      (fun next => relation.source_fits setting.named ofRelation (row ++ next)) ofConstraint
    · intro l onlyLeft
      rw [← Row.mask_append]
      exact TableFactor.source_mask setting (only.append onlyLeft)
        (List.forall_mem_append.mpr ⟨outerSecrets, secrets⟩) relation guards.1 ofRelation
        excused_unchecked
    · intro pair onlyPair
      rw [← Row.mask_append]
      refine Expr.bindList_mask (setting.push (only.append onlyPair) ?_) conditions guards.2
        ofConditions
      exact List.forall_mem_append.mpr
        ⟨outerSecrets, List.forall_mem_append.mpr ⟨secrets, relationSecrets⟩⟩

theorem Join.sources_mask {ctes scope : List String} {context : List (List Column)}
    {tables : Tables Value} {scopes : List (Row Value)}
    (setting : Setting engine secret ctes context tables scopes)
    {outer : List Column} {row : Row Value} (only : Row.HidesOnly outer row)
    (outerSecrets : ∀ column ∈ outer, secret (toLowercase column.name)) {left : Shape}
    {source : Source Value} (fits : Fits left source) (secrets : left.Secret secret) :
    ∀ joins : List Join, Guards catalog secret (Join.positionsList scope joins) →
      Join.exposesList catalog ctes context outer left joins = false →
      Join.sources engine catalog (content.mask engine.null catalog) tables
          (scopes.map (Row.mask engine.null)) (Row.mask engine.null row)
          (source.mask engine.null) joins =
        (Join.sources engine catalog content tables scopes row source joins).mask engine.null
  | [], _, _ => by simp only [Join.sources]
  | join :: joins, guards, unexposed => by
    simp only [Join.positionsList, guards_append] at guards
    simp only [Join.exposesList, Bool.or_eq_false_iff] at unexposed
    simp only [Join.sources,
      Join.source_mask setting only outerSecrets fits secrets join guards.1 unexposed.1]
    refine Join.sources_mask setting only outerSecrets
      (join.source_fits setting.named row unexposed.1 fits) ?_ joins guards.2 unexposed.2
    exact Join.shapes_secret secrets [join] (by simpa [Join.positionsList] using guards.1)

theorem TableFactor.source_mask {ctes scope : List String} {context : List (List Column)}
    {tables : Tables Value} {scopes : List (Row Value)} {checked : Bool}
    (setting : Setting engine secret ctes context tables scopes)
    {outer : List Column} {left : Row Value} (only : Row.HidesOnly outer left)
    (secrets : ∀ column ∈ outer, secret (toLowercase column.name)) :
    ∀ factor : TableFactor, Guards catalog secret (factor.positions scope) →
      factor.exposes catalog checked ctes context outer = false →
      Excused secret checked (tableFactorHasWildcard factor) →
      factor.source engine catalog (content.mask engine.null catalog) tables
          (scopes.map (Row.mask engine.null)) (Row.mask engine.null left) =
        (factor.source engine catalog content tables scopes left).mask engine.null
  | .table name tableAlias true args hints, guards, unexposed, _ => by
    simp only [TableFactor.positions, guards_cons, guards_append] at guards
    simp only [TableFactor.exposes, if_true] at unexposed
    simp only [TableFactor.source, if_true, ← List.map_cons,
      FunctionArg.bindList_mask (setting.push only secrets) args guards.2.1 unexposed]
    exact table_mask.symm
  | .table name tableAlias false args hints, guards, unexposed, _ => by
    simp only [TableFactor.positions, guards_cons, guards_append] at guards
    simp only [TableFactor.exposes, Bool.false_eq_true, if_false, Bool.or_eq_false_iff] at unexposed
    simp only [TableFactor.source, Bool.false_eq_true, if_false, tableSource_mask, Source.mask_rows,
      List.length_map, ← List.map_cons,
      Expr.bindList_mask (setting.push only secrets) hints guards.2.2 unexposed.2]
    rw [← withAlias_mask]
    congr 1
    split
    · rfl
    · exact Source.pick_mask
  | .derived true subquery tableAlias, guards, unexposed, excused => by
    simp only [TableFactor.positions] at guards
    simp only [TableFactor.exposes, if_true] at unexposed
    simp only [tableFactorHasWildcard] at excused
    simp only [TableFactor.source, if_true, ← List.map_cons,
      Query.eval_mask (setting.push only secrets) subquery guards unexposed excused]
    exact table_mask.symm
  | .derived false subquery tableAlias, guards, unexposed, excused => by
    simp only [TableFactor.positions] at guards
    simp only [TableFactor.exposes, Bool.false_eq_true, if_false] at unexposed
    simp only [tableFactorHasWildcard] at excused
    simp only [TableFactor.source, Bool.false_eq_true, if_false,
      Query.eval_mask setting subquery guards unexposed excused]
    exact table_mask.symm
  | .tableFunction expr tableAlias, guards, unexposed, _ => by
    simp only [TableFactor.positions] at guards
    simp only [TableFactor.exposes] at unexposed
    simp only [TableFactor.source, ← List.map_cons,
      Expr.bind_mask (setting.push only secrets) expr guards unexposed]
    exact table_mask.symm
  | .function name args tableAlias, guards, unexposed, _ => by
    simp only [TableFactor.positions, guards_cons] at guards
    simp only [TableFactor.exposes] at unexposed
    simp only [TableFactor.source, ← List.map_cons,
      FunctionArg.bindList_mask (setting.push only secrets) args guards.2 unexposed]
    exact table_mask.symm
  | .tabular keyword exprs tableAlias, guards, unexposed, _ => by
    simp only [TableFactor.positions] at guards
    simp only [TableFactor.exposes] at unexposed
    simp only [TableFactor.source, ← List.map_cons,
      Expr.bindList_mask (setting.push only secrets) exprs guards unexposed]
    exact table_mask.symm
  | .nestedJoin (.mk relation joins) tableAlias, guards, unexposed, excused => by
    simp only [TableFactor.positions] at guards
    simp only [TableFactor.exposes, Bool.or_eq_false_iff] at unexposed
    have inside : Excused secret checked (sourcesHaveWildcard [.mk relation joins]) := by
      simpa only [sourcesHaveWildcard, Bool.or_false, tableFactorHasWildcard] using excused
    simp only [TableFactor.source, TableWithJoins.source_mask setting only secrets
      (.mk relation joins) guards unexposed.1 inside]
    exact withAlias_mask
  | .reshape keyword table exprs queries tableAlias, guards, unexposed, _ => by
    simp only [TableFactor.positions, guards_append] at guards
    simp only [TableFactor.exposes, Bool.or_eq_false_iff, Bool.not_eq_false', List.isEmpty_iff]
      at unexposed
    obtain ⟨⟨⟨ofTable, nothing⟩, ofExprs⟩, ofQueries⟩ := unexposed
    rw [nothing] at ofExprs
    have hides : (table.source engine catalog content tables scopes left).HidesOnly
        (table.shape catalog ctes).hidden := (table.source_fits setting.named ofTable left).hides
    rw [nothing] at hides
    have around := setting.push only secrets
    simp only [TableFactor.source, TableFactor.source_mask setting only secrets table guards.1.1
      ofTable excused_unchecked, hides.mask_eq]
    rw [← List.map_cons, Query.evalList_mask around queries guards.2 ofQueries]
    have rows : ∀ row ∈ (table.source engine catalog content tables scopes left).rows,
        Expr.bindList engine catalog (content.mask engine.null catalog) tables
            (row :: (left :: scopes).map (Row.mask engine.null)) exprs =
          Expr.bindList engine catalog content tables (row :: left :: scopes) exprs := by
      intro row member
      have onlyRow := hides.rows row member
      have same := Expr.bindList_mask (around.pushPublic onlyRow) exprs guards.1.2 ofExprs
      rwa [List.map_cons, onlyRow.mask_eq] at same
    rw [List.map_congr_left fun row member => by rw [rows row member]]
    exact table_mask.symm

theorem PipeOperator.eval_mask {ctes scope : List String} {context : List (List Column)}
    {tables : Tables Value} {scopes : List (Row Value)}
    (setting : Setting engine secret ctes context tables scopes) :
    ∀ (operator : PipeOperator) (table : Table Value),
      Guards catalog secret (operator.positions scope) →
      operator.exposes catalog ctes context = false →
      operator.eval engine catalog (content.mask engine.null catalog) tables
          (scopes.map (Row.mask engine.null)) table =
        operator.eval engine catalog content tables scopes table
  | .exprs keyword names exprs, table, guards, unexposed => by
    simp only [PipeOperator.positions] at guards
    simp only [PipeOperator.exposes] at unexposed
    simp only [PipeOperator.eval]
    exact congrArg (fun rows => engine.pipe (.exprs keyword names exprs) table rows [])
      (setting.table_rows_mask
        (Expr.bindList engine catalog (content.mask engine.null catalog) tables · exprs)
        (Expr.bindList engine catalog content tables · exprs) table
        fun row inner => Expr.bindList_mask inner exprs guards unexposed)
  | .items keyword items, table, guards, unexposed => by
    simp only [PipeOperator.positions] at guards
    simp only [PipeOperator.exposes] at unexposed
    simp only [PipeOperator.eval]
    exact congrArg (fun rows => engine.pipe (.items keyword items) table rows [])
      (setting.table_rows_mask
        (SelectItem.bindList engine catalog (content.mask engine.null catalog) false tables · items)
        (SelectItem.bindList engine catalog content false tables · items) table
        fun row inner => SelectItem.bindList_mask inner items guards unexposed
          fun impossible => nomatch impossible)
  | .queries keyword queries, table, guards, unexposed => by
    simp only [PipeOperator.positions] at guards
    simp only [PipeOperator.exposes] at unexposed
    simp only [PipeOperator.eval, Query.evalList_mask setting queries guards unexposed]
  | .call name args modifiers, table, guards, unexposed => by
    simp only [PipeOperator.positions, guards_cons, guards_append] at guards
    simp only [PipeOperator.exposes, Bool.or_eq_false_iff] at unexposed
    simp only [PipeOperator.eval]
    let bind (content : Content Value) (scopes : List (Row Value)) : List (Bound Value) :=
      [.node (FunctionArg.bindList engine catalog content false tables scopes args),
        .node (Expr.bindList engine catalog content tables scopes modifiers)]
    have same : ∀ row, Setting engine secret ctes ([] :: context) tables (row :: scopes) →
        bind (content.mask engine.null catalog) ((row :: scopes).map (Row.mask engine.null)) =
          bind content (row :: scopes) := by
      intro row inner
      simp only [bind, FunctionArg.bindList_mask inner args guards.2.1 unexposed.1,
        Expr.bindList_mask inner modifiers guards.2.2 unexposed.2]
    exact congrArg (fun rows => engine.pipe (.call name args modifiers) table rows [])
      (setting.table_rows_mask (bind (content.mask engine.null catalog)) (bind content) table same)
  | .join join, table, guards, unexposed => by
    simp only [PipeOperator.positions] at guards
    simp only [PipeOperator.exposes, Bool.or_eq_false_iff, Bool.not_eq_false', List.isEmpty_iff]
      at unexposed
    have hides : (table.source "").HidesOnly [] := Source.table_source_hidesOnly
    have same := Join.source_mask setting Row.hidesOnly_nil Shape.secret_empty
      (fits_unknown hides) Shape.secret_unknown join guards unexposed.1
    have joined : (join.source engine catalog content tables scopes []
        (table.source "")).HidesOnly (Join.shapes catalog ctes .unknown [join]).hidden :=
      (join.source_fits setting.named [] unexposed.1 (fits_unknown hides)).hides
    rw [unexposed.2] at joined
    rw [hides.mask_eq, joined.mask_eq] at same
    simp only [PipeOperator.eval]
    exact congrArg Source.table same

theorem PipeOperator.evalList_mask {ctes scope : List String} {context : List (List Column)}
    {tables : Tables Value} {scopes : List (Row Value)}
    (setting : Setting engine secret ctes context tables scopes) :
    ∀ (operators : List PipeOperator) (table : Table Value),
      Guards catalog secret (PipeOperator.positionsList scope operators) →
      PipeOperator.exposesList catalog ctes context operators = false →
      PipeOperator.evalList engine catalog (content.mask engine.null catalog) tables
          (scopes.map (Row.mask engine.null)) table operators =
        PipeOperator.evalList engine catalog content tables scopes table operators
  | [], _, _, _ => by simp only [PipeOperator.evalList]
  | operator :: operators, table, guards, unexposed => by
    simp only [PipeOperator.positionsList, guards_append] at guards
    simp only [PipeOperator.exposesList, Bool.or_eq_false_iff] at unexposed
    simp only [PipeOperator.evalList,
      PipeOperator.eval_mask setting operator table guards.1 unexposed.1]
    exact PipeOperator.evalList_mask setting operators _ guards.2 unexposed.2

end

end Datapress.Sql
