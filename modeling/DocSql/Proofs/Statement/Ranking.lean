import DocSql.Proofs.Query.TextSearches
import DocSql.Proofs.Sql.Identifiers
import DocSql.Proofs.Statement.Selection

/-!
The rank of a text search beside the condition that it ranks. The projection
takes the search from the query and writes its field as a column name, while the
condition leaves out clauses that are skipped and reads dotted fields as paths.
-/
namespace DocSql

open Sql (Expr Fragment)

theorem Target.column_template_eq_iff (t : Target) (name : String) :
    t.column.template = Sql.identifier name ↔ Sql.isDotted name = false ∧ t.name = name := by
  unfold column isDotted
  cases hdotted : Sql.isDotted t.name with
  | true =>
    simp only [if_true, Expr.template_textAt]
    constructor
    · exact fun h => absurd h (Sql.jsonTextPath_ne_identifier hdotted name)
    · rintro ⟨hplain, rfl⟩
      rw [hdotted] at hplain
      cases hplain
  | false =>
    simp only [Bool.false_eq_true, if_false, Expr.template_column, Sql.identifier_injective.eq_iff]
    constructor
    · rintro rfl
      exact ⟨hdotted, rfl⟩
    · exact fun h => h.2

namespace Find

open Sql (Assembly Builder Filter number)
open Sql.Predicate (paramsAll textSearchesAll)
open Target (searchSides)

def rankOf (sides : Expr × Expr) : Fragment where
  template := "ts_rank_cd(" ++ sides.1.template ++ ", " ++ sides.2.template ++ ", 32) AS " ++
    Sql.identifier scoreColumn
  params := sides.1.params ++ sides.2.params

theorem rankOf_searchSides (language term : String) {column : Expr} (h : column.params = []) :
    rankOf (searchSides language column term) =
      { template := "ts_rank_cd(to_tsvector(?::regconfig, " ++ column.template ++
          ("), to_tsquery(?::regconfig, ?), 32) AS " ++ Sql.identifier scoreColumn),
        params := [.text language, .text language, .text term] } := by
  have hvector : "ts_rank_cd(to_tsvector(?::regconfig, " =
      "ts_rank_cd(" ++ ("to_tsvector" ++ "(" ++ ("?" ++ "::" ++ "regconfig") ++ ", ") := rfl
  have hquery : "), to_tsquery(?::regconfig, ?), 32) AS " =
      ")" ++ (", " ++ ("to_tsquery" ++ "(" ++ ("?" ++ "::" ++ "regconfig") ++ ", " ++ "?" ++ ")") ++
        ", 32) AS ") := rfl
  unfold rankOf searchSides
  simp only [Expr.template_apply₂, Expr.template_cast, Expr.text, Expr.template_param, Expr.params, h,
    Fragment.mk.injEq]
  refine ⟨?_, rfl⟩
  rw [hvector, hquery]
  simp only [String.append_assoc]

theorem rank_eq_rankOf (language field term : String) :
    rank language field term = rankOf (searchSides language (.column field) term) := by
  rw [rankOf_searchSides language term rfl]
  unfold rank
  simp only [Expr.template_column, String.append_assoc]

theorem rankOf_sidesOn_eq_iff (scope : Scope) (other : String × TextSearch)
    (language field term : String) :
    rankOf (Query.sidesOn scope other) = rank language field term ↔
      Sql.isDotted field = false ∧ other.1 = field ∧
        other.2.language.getD scope.language = language ∧ other.2.term = term := by
  rw [rank_eq_rankOf, rankOf_searchSides language term rfl, Query.sidesOn, Target.sidesOf,
    rankOf_searchSides _ _ Target.column_params, Fragment.mk.injEq, String.append_left_inj,
    String.append_right_inj]
  have hcolumn := (scope.target other.1).column_template_eq_iff field
  simp only [Expr.template_column, hcolumn, List.cons.injEq, Datum.text.injEq, and_true, and_assoc]
  simp only [Scope.target, and_self_left]

/-- The rank that a projection of the query shows. -/
def rank? (scope : Scope) (query : Query) : Option Fragment :=
  (Query.search? query).map fun (field, search) =>
    rank (search.language.getD scope.language) field search.term

def Placed (next : Nat) (params : List Datum) (f : Fragment) (column : String) : Prop :=
  ∃ before after, params = before ++ f.params ++ after ∧
    column = number (next + before.length) f.template

namespace Placed

variable {next : Nat} {params : List Datum} {f : Fragment} {column : String}

theorem append_right (h : Placed next params f column) (more : List Datum) :
    Placed next (params ++ more) f column := by
  obtain ⟨before, after, rfl, hcolumn⟩ := h
  exact ⟨before, after ++ more, by simp, hcolumn⟩

theorem append_left {earlier : List Datum}
    (h : Placed (next + earlier.length) params f column) :
    Placed next (earlier ++ params) f column := by
  obtain ⟨before, after, rfl, hcolumn⟩ := h
  refine ⟨earlier ++ before, after, by simp, ?_⟩
  rw [hcolumn, List.length_append, Nat.add_assoc]

end Placed

/-- The columns are names and ranks, with a rank where one is asked for. -/
structure Projects (f? : Option Fragment) (ranked : Prop) (next : Nat) (params : List Datum)
    (columns : List String) : Prop where
  each : ∀ column ∈ columns, (∃ name, column = Sql.identifier name) ∨
    ∃ f ∈ f?, Placed next params f column
  present : ranked → ∃ f ∈ f?, ∃ column ∈ columns, Placed next params f column

namespace Projects

variable {f? : Option Fragment} {ranked more : Prop} {next : Nat} {params later : List Datum}
  {columns others : List String}

theorem names (names : List String) :
    Projects f? False next params (names.map Sql.identifier) := by
  refine ⟨fun column hcolumn => ?_, False.elim⟩
  obtain ⟨name, -, rfl⟩ := List.mem_map.1 hcolumn
  exact .inl ⟨name, rfl⟩

theorem placed {f : Fragment} (hf : f ∈ f?) :
    Projects f? ranked next f.params [number next f.template] := by
  have hplaced : Placed next f.params f (number next f.template) :=
    ⟨[], [], (List.append_nil _).symm, rfl⟩
  refine ⟨fun column hcolumn => .inr ⟨f, hf, ?_⟩, fun _ =>
    ⟨f, hf, _, List.mem_singleton_self _, hplaced⟩⟩
  rwa [List.mem_singleton.1 hcolumn]

theorem append (h : Projects f? ranked next params columns)
    (hm : Projects f? more (next + params.length) later others) :
    Projects f? (ranked ∨ more) next (params ++ later) (columns ++ others) := by
  constructor
  · intro column hcolumn
    rcases List.mem_append.1 hcolumn with hcolumn | hcolumn
    · exact (h.each column hcolumn).imp_right fun ⟨f, hf, hplaced⟩ =>
        ⟨f, hf, hplaced.append_right later⟩
    · exact (hm.each column hcolumn).imp_right fun ⟨f, hf, hplaced⟩ => ⟨f, hf, hplaced.append_left⟩
  · rintro (hranked | hmore)
    · obtain ⟨f, hf, column, hcolumn, hplaced⟩ := h.present hranked
      exact ⟨f, hf, column, List.mem_append_left _ hcolumn, hplaced.append_right later⟩
    · obtain ⟨f, hf, column, hcolumn, hplaced⟩ := hm.present hmore
      exact ⟨f, hf, column, List.mem_append_right _ hcolumn, hplaced.append_left⟩

theorem of_mem_iff (h : Projects f? ranked next params columns)
    (hm : ∀ column, column ∈ others ↔ column ∈ columns) :
    Projects f? ranked next params others := by
  constructor
  · exact fun column hcolumn => h.each column ((hm column).1 hcolumn)
  · intro hranked
    obtain ⟨f, hf, column, hcolumn, hplaced⟩ := h.present hranked
    exact ⟨f, hf, column, (hm column).2 hcolumn, hplaced⟩

end Projects

theorem mem_dropRepeats (column : String) (columns : List String) :
    column ∈ dropRepeats columns ↔ column ∈ columns := by
  fun_induction dropRepeats columns with
  | case1 a rest ih => simp [ih]
  | case2 a b rest hab ih => simp only [List.mem_cons, ih]
  | case3 short hshort => rfl

theorem keyColumns_project (scope : Scope) (query : Query) (key : String) (b : Builder) :
    (keyColumns scope query key).Binds b fun columns params =>
      Projects (rank? scope query) (key = "$score") b.next params columns := by
  have hnames (names : List String) (hkey : key ≠ "$score") :
      Projects (rank? scope query) (key = "$score") b.next [] (names.map Sql.identifier) :=
    ⟨(Projects.names names).each, fun h => absurd h hkey⟩
  unfold keyColumns
  dsimp only
  split
  next hacl =>
    refine .pure (hnames [Schema.readPermissions, Schema.writePermissions] ?_)
    rw [hacl]
    decide
  next =>
    split
    next =>
      split
      next field search hsearch =>
        have haligned := rank_aligned (search.language.getD scope.language) field search.term
        refine (Assembly.Binds.fragment haligned).bind fun text params htext => .pure ?_
        obtain ⟨rfl, rfl⟩ := htext
        rw [List.append_nil]
        refine Projects.placed ?_
        rw [rank?, hsearch]
        rfl
      next => exact .throw rfl
    next hscore =>
      split
      · exact .pure (hnames [key] hscore)
      · exact .pure (hnames [] hscore)

theorem keys_project (scope : Scope) (query : Query) (keys : List String) (b : Builder) :
    (keys.mapM (keyColumns scope query)).Binds b fun texts params =>
      Projects (rank? scope query) ("$score" ∈ keys) b.next params texts.flatten := by
  induction keys generalizing b with
  | nil => exact .pure ⟨nofun, nofun⟩
  | cons key rest ih =>
    rw [List.mapM_cons]
    refine (keyColumns_project scope query key b).bind fun first params hfirst => ?_
    refine (ih _).bind fun others later hothers => .pure ?_
    rw [Builder.next_push] at hothers
    have hall := hfirst.append hothers
    rw [List.append_nil, List.flatten_cons]
    refine ⟨hall.each, fun hscore => hall.present ?_⟩
    exact (List.mem_cons.1 hscore).imp_left Eq.symm

theorem projection_ranks (scope : Scope) (query : Query) {keys : List String}
    (h : "$score" ∈ keys) (b : Builder) :
    (projection scope query (some keys)).Binds b fun text params => ∃ columns,
      text = ", ".intercalate columns ∧
        Projects (rank? scope query) True b.next params columns := by
  unfold projection
  refine (keys_project scope query keys b).bind fun texts params htexts => .pure ?_
  have hkept := htexts.of_mem_iff fun column => mem_dropRepeats column texts.flatten
  have hranked : Projects (rank? scope query) True b.next params (dropRepeats texts.flatten) :=
    ⟨hkept.each, fun _ => hkept.present h⟩
  obtain ⟨-, -, column, hcolumn, -⟩ := hranked.present trivial
  have hsome : (dropRepeats texts.flatten).isEmpty = false :=
    List.isEmpty_eq_false_iff_exists_mem.2 ⟨column, hcolumn⟩
  rw [List.append_nil]
  exact ⟨_, by rw [hsome]; rfl, hranked⟩

/-- A selection that shows a rank beside the conditions that were found: the
columns take the first parameters, and the conditions those behind them. -/
def Selects (scope : Scope) (options : Options) (f : Fragment) (found : List Sql.Predicate)
    (s : Statement) : Prop :=
  ∃ columns page shown paged,
    s.sql = (if options.explain then "EXPLAIN (ANALYZE, FORMAT JSON) " else "") ++
      "SELECT " ++ ", ".intercalate columns ++ " FROM " ++ Sql.identifier scope.schema.className ++
      Filter.whereClause { pattern := Filter.patternOf (1 + shown.length) found } ++ page ∧
    s.params = shown ++ paramsAll found ++ paged ∧
    Projects (some f) True 1 shown columns

theorem assemble_selects (scope : Scope) (query : Query) {options : Options} {keys : List String}
    (hkeys : options.keys = some keys) (hscore : "$score" ∈ keys) :
    (assemble scope query options).Binds (.startingAt 1) fun sql params => ∃ f found,
      f ∈ rank? scope query ∧ Query.predicates scope query = .ok found ∧
        Selects scope options f found ⟨sql, params⟩ := by
  unfold assemble
  rw [hkeys]
  refine (projection_ranks scope query hscore _).bind fun text shown htext => ?_
  refine (Query.filter_binds scope query _).bind fun filter tested hfilter => ?_
  refine (countClause_isClause rfl options.limit _).bind fun limit limited _ => ?_
  refine (countClause_isClause rfl options.skip _).bind fun offset skipped _ => .pure ?_
  obtain ⟨columns, rfl, hcolumns⟩ := htext
  obtain ⟨found, hfound, -, rfl, rfl⟩ := hfilter
  obtain ⟨f, hf, -⟩ := hcolumns.present trivial
  rw [Option.mem_def.1 hf] at hcolumns
  generalize orderings _ options.sort = order
  refine ⟨f, found, hf, hfound, columns, orderClause order ++ limit ++ offset, shown,
    limited ++ skipped, ?_, ?_, hcolumns⟩
  · simp only [Builder.next_push, Builder.next_startingAt, Nat.max_self, String.append_assoc]
    rfl
  · simp only [List.append_assoc, List.append_nil]

def RanksFirst (f : Fragment) (found : List Sql.Predicate) : Prop :=
  (textSearchesAll found).head?.map rankOf = some f

theorem ranksFirst_iff {scope : Scope} {query : Query} {found : List Sql.Predicate}
    (h : Query.predicates scope query = .ok found) (language field term : String) :
    RanksFirst (rank language field term) found ↔
      Sql.isDotted field = false ∧ ∃ other, Query.search? (Query.kept scope query) =
        some (field, other) ∧ other.language.getD scope.language = language ∧
          other.term = term := by
  unfold RanksFirst
  rw [(Query.first_search_of_predicates scope query).result h, Option.map_map,
    Option.map_eq_some_iff]
  constructor
  · rintro ⟨⟨name, other⟩, hother, hrank⟩
    obtain ⟨hplain, rfl, hlanguage, hterm⟩ := (rankOf_sidesOn_eq_iff scope _ _ _ _).1 hrank
    exact ⟨hplain, other, hother, hlanguage, hterm⟩
  · rintro ⟨hplain, other, hother, hlanguage, hterm⟩
    exact ⟨(field, other), hother,
      (rankOf_sidesOn_eq_iff scope _ _ _ _).2 ⟨hplain, rfl, hlanguage, hterm⟩⟩

/-- A selection with a rank shows that of the first text search of its
conditions just where the searched field is not dotted, which would be written
as one name, and where the first search of the query is that of the clauses
that are not skipped; so where no skipped clause searches for a text, dotted
fields are the only ones that are not ranked as they are searched. -/
theorem statement_ranksFirst_iff (scope : Scope) (query : Json) {options : Options}
    {keys : List String} (hkeys : options.keys = some keys) (hscore : "$score" ∈ keys) :
    Yields (statement scope query options) fun s => ∃ q field search found,
      let f := rank (search.language.getD scope.language) field search.term
      Query.ofJson query = .ok q ∧ Query.search? q = some (field, search) ∧
      Query.predicates scope q = .ok found ∧ Selects scope options f found s ∧
      (RanksFirst f found ↔ Sql.isDotted field = false ∧
        ∃ other, Query.search? (Query.kept scope q) = some (field, other) ∧
          other.language.getD scope.language = search.language.getD scope.language ∧
          other.term = search.term) ∧
      ((∀ clause ∈ Query.skipped scope q, clause.2.searches = []) →
        (RanksFirst f found ↔ Sql.isDotted field = false)) := by
  unfold statement
  refine (Query.ofJson_refuses query).made.bind fun q hq => Assembly.Binds.statement ?_
  refine (assemble_selects scope q hkeys hscore).mono fun sql params h => ?_
  obtain ⟨f, found, hf, hfound, hselects⟩ := h
  obtain ⟨⟨field, search⟩, hsearch, rfl⟩ := Option.map_eq_some_iff.1 hf
  refine ⟨q, field, search, found, hq.1, hsearch, hfound, hselects,
    ranksFirst_iff hfound _ _ _, fun hskipped => ?_⟩
  rw [ranksFirst_iff hfound, Query.search?_kept hskipped, hsearch]
  constructor
  · exact fun h => h.1
  · exact fun hplain => ⟨hplain, search, rfl, rfl, rfl⟩

/-- A search on a plain field is ranked as it is searched. -/
theorem title_ranked_as_searched :
    let scope := Scope.ofSchema { className := "Post", fields := [("title", .string)] } ⟨0, 0⟩
    let query : Json :=
      .obj [("title", .obj [("$text", .obj [("$search", .obj [("$term", .str "x")])])])]
    let options : Options := { keys := some ["title", "$score"] }
    (options.keys = some ["title", "$score"] ∧ "$score" ∈ ["title", "$score"]) ∧
    ∃ s q found, statement scope query options = .ok s ∧
      Query.ofJson query = .ok q ∧ Query.predicates scope q = .ok found ∧
      Selects scope options (rank "english" "title" "x") found s ∧
      RanksFirst (rank "english" "title" "x") found := by
  intro scope query options
  have hkeys : options.keys = some ["title", "$score"] := rfl
  have hscore : "$score" ∈ ["title", "$score"] := by decide
  have hname : Clause.IsFieldName "title" := by decide +kernel
  have hquery : Query.ofJson query = .ok [.field "title" (.operators [.search ⟨"x", none⟩])] := by
    rw [Query.ofJson_single hname]
    rfl
  have hmade : (fun _ => ()) <$> statement scope query options = .ok () := by decide +kernel
  obtain ⟨s, hs, -⟩ := map_eq_ok.1 hmade
  obtain ⟨q, field, search, found, hq, hsearch, hfound, hselects, hiff, -⟩ :=
    (statement_ranksFirst_iff scope query hkeys hscore).result hs
  cases hquery.symm.trans hq
  cases hsearch
  exact ⟨⟨hkeys, hscore⟩, s, _, found, hs, hq, hfound, hselects,
    hiff.2 ⟨by decide, ⟨"x", none⟩, by decide, rfl, rfl⟩⟩

/-- A dotted field is searched as a path and ranked as one name. -/
theorem dotted_field_ranked_as_name :
    let scope := Scope.ofSchema { className := "Post", fields := [("profile", .object)] } ⟨0, 0⟩
    let query : Json :=
      .obj [("profile.bio", .obj [("$text", .obj [("$search", .obj [("$term", .str "x")])])])]
    Statement.sql <$> statement scope query { keys := some ["$score"] } = .ok (
      "SELECT ts_rank_cd(to_tsvector($1::regconfig, \"profile.bio\"), " ++
      "to_tsquery($2::regconfig, $3), 32) AS \"score\" FROM \"Post\" " ++
      "WHERE to_tsvector($4::regconfig, \"profile\"->>'bio') @@ to_tsquery($5::regconfig, $6)") ∧
    ∃ q found, Query.ofJson query = .ok q ∧ Query.predicates scope q = .ok found ∧
      ¬RanksFirst (rank "english" "profile.bio" "x") found := by
  intro scope query
  have hname : Clause.IsFieldName "profile.bio" := by decide +kernel
  have hquery : Query.ofJson query =
      .ok [.field "profile.bio" (.operators [.search ⟨"x", none⟩])] := by
    rw [Query.ofJson_single hname]
    rfl
  obtain ⟨found, hfound, -⟩ := map_eq_ok.1 (show List.length <$> Query.predicates scope
    [.field "profile.bio" (.operators [.search ⟨"x", none⟩])] = .ok 1 by decide +kernel)
  refine ⟨by decide +kernel, _, found, hquery, hfound, fun h => ?_⟩
  have hplain := ((ranksFirst_iff hfound _ _ _).1 h).1
  exact absurd hplain (by decide)

example :
    let scope := Scope.ofSchema { className := "Post", fields := [("title", .string)] } ⟨0, 0⟩
    let query : Query := [.field "ghost" (.operators [.present false, .search ⟨"x", none⟩]),
      .field "title" (.operators [.search ⟨"y", none⟩])]
    Query.search? query = some ("ghost", ⟨"x", none⟩) ∧
    Query.search? (Query.kept scope query) = some ("title", ⟨"y", none⟩) := by
  decide

end Find
end DocSql
