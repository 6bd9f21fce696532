import DocSql.Proofs.Statement.Pipeline

/-!
The columns that a pipeline selects. A key, each of its parts, each accumulator
of a field and each field of a projection adds one column, and whatever else a
stage of these does, what the statement groups by, the names of parts and the
field of a count, is what its columns do one after the other.
-/
namespace DocSql.Aggregate

open Sql (Assembly Builder)

/-- A column of a statement: what is computed, and its name in the rows. -/
structure Output where
  expr : String
  name : String

def Output.text (output : Output) : String := output.expr ++ " AS " ++ Sql.identifier output.name

/-- What a column is for: a key of its own, a part of a key, a number of rows,
any other accumulator, or a field that a projection shows. -/
inductive Role
  | key
  | part
  | count
  | accumulated
  | shown
deriving DecidableEq

structure Heading where
  role : Role
  name : String
deriving DecidableEq

structure Column where
  heading : Heading
  expr : String

/-- What the parts of a key are computed as. -/
inductive IsKeyExpr : String → Prop
  | column (field : String) : IsKeyExpr (Sql.identifier field)
  | datePart (part field : String) :
    IsKeyExpr ("EXTRACT(" ++ part ++ " FROM " ++ Sql.identifier field ++
      " AT TIME ZONE 'UTC')::integer")

/-- The expressions that fit a heading. -/
inductive Heading.Admits : Heading → String → Prop
  | key {expr : String} (h : IsKeyExpr expr) (name : String) : Admits ⟨.key, name⟩ expr
  | part {expr : String} (h : IsKeyExpr expr) (name : String) : Admits ⟨.part, name⟩ expr
  | count (name : String) : Admits ⟨.count, name⟩ "COUNT(*)"
  | accumulated {function : String} (h : function ∈ ["SUM", "MAX", "MIN", "AVG"])
    (field name : String) :
    Admits ⟨.accumulated, name⟩ (function ++ "(" ++ Sql.identifier field ++ ")")
  | shown (name : String) : Admits ⟨.shown, name⟩ (Sql.identifier name)

namespace Column

def output (column : Column) : Output := ⟨column.expr, column.heading.name⟩

def text (column : Column) : String :=
  if column.heading.role = .shown then column.expr else column.output.text

def groups (before : List String) (column : Column) : List String :=
  match column.heading.role with
  | .key => before ++ [column.expr]
  | .part => if before.contains column.expr then before else before ++ [column.expr]
  | _ => before

end Column

def namesOf (role : Role) (headings : List Heading) : List String :=
  (headings.filter fun heading => heading.role = role).map Heading.name

theorem namesOf_append (role : Role) (headings more : List Heading) :
    namesOf role (headings ++ more) = namesOf role headings ++ namesOf role more := by
  simp only [namesOf, List.filter_append, List.map_append]

theorem namesOf_eq_nil {role : Role} {headings : List Heading}
    (h : ∀ heading ∈ headings, heading.role ≠ role) : namesOf role headings = [] := by
  rw [namesOf, List.map_eq_nil_iff, List.filter_eq_nil_iff]
  intro heading hheading
  simpa using h heading hheading

/-- The clauses got columns of these headings; the last count is the one that is known. -/
structure Clauses.Gains (c : Clauses) (columns : List Column) (d : Clauses) : Prop where
  admits : ∀ column ∈ columns, column.heading.Admits column.expr
  texts : d.columns = c.columns ++ columns.map Column.text
  groupBy : d.groupBy = columns.foldl Column.groups c.groupBy
  aliases : d.groupAliases = c.groupAliases ++ namesOf .part (columns.map Column.heading)
  count : d.countField = (namesOf .count (columns.map Column.heading)).getLast?.or c.countField

namespace Clauses

def selection (c : Clauses) : List String × List String × List String × Option String :=
  (c.columns, c.groupBy, c.groupAliases, c.countField)

def Heads (c : Clauses) (headings : List Heading) (d : Clauses) : Prop :=
  ∃ columns, columns.map Column.heading = headings ∧ c.Gains columns d

variable {c d e : Clauses} {headings more : List Heading}

theorem Heads.nothing (h : d.selection = c.selection) : c.Heads [] d := by
  simp only [selection, Prod.mk.injEq] at h
  obtain ⟨hcolumns, hgroups, haliases, hcount⟩ := h
  exact ⟨[], rfl, nofun, by simp [hcolumns], by simp [hgroups], by simp [haliases, namesOf],
    by simp [hcount, namesOf]⟩

theorem Heads.trans (h : c.Heads headings d) (hm : d.Heads more e) :
    c.Heads (headings ++ more) e := by
  obtain ⟨columns, rfl, hc⟩ := h
  obtain ⟨others, rfl, ho⟩ := hm
  refine ⟨columns ++ others, List.map_append, List.forall_mem_append.2 ⟨hc.admits, ho.admits⟩,
    ?_, ?_, ?_, ?_⟩
  · rw [ho.texts, hc.texts, List.map_append, List.append_assoc]
  · rw [ho.groupBy, hc.groupBy, List.foldl_append]
  · rw [ho.aliases, hc.aliases, List.map_append, namesOf_append, List.append_assoc]
  · rw [ho.count, hc.count, List.map_append, namesOf_append, List.getLast?_append, Option.or_assoc]

theorem Heads.computed {role : Role} {name expr : String} (ha : Heading.Admits ⟨role, name⟩ expr)
    (hr : role ≠ .shown) (hc : d.columns = c.columns ++ [expr ++ " AS " ++ Sql.identifier name])
    (hg : d.groupBy = Column.groups c.groupBy ⟨⟨role, name⟩, expr⟩)
    (hn : d.groupAliases = c.groupAliases ++ namesOf .part [⟨role, name⟩])
    (hf : d.countField = (namesOf .count [⟨role, name⟩]).getLast?.or c.countField) :
    c.Heads [⟨role, name⟩] d := by
  refine ⟨[⟨⟨role, name⟩, expr⟩], rfl, List.forall_mem_singleton.2 ha, ?_, hg, hn, hf⟩
  rw [hc, List.map_singleton, Column.text, if_neg hr, Column.output, Output.text]

theorem Heads.shown (names : List String) (hc : d.columns = c.columns ++ names.map Sql.identifier)
    (hg : d.groupBy = c.groupBy) (hn : d.groupAliases = c.groupAliases)
    (hf : d.countField = c.countField) : c.Heads (names.map (Heading.mk .shown)) d := by
  have hnames {role : Role} (hr : role ≠ .shown) :
      namesOf role (names.map (Heading.mk .shown)) = [] := by
    refine namesOf_eq_nil fun heading hheading => ?_
    obtain ⟨name, -, rfl⟩ := List.mem_map.1 hheading
    exact hr.symm
  have hheadings : (names.map fun name => Column.mk ⟨.shown, name⟩ (Sql.identifier name)).map
      Column.heading = names.map (Heading.mk .shown) := by
    rw [List.map_map]
    rfl
  refine ⟨_, hheadings, ?_, ?_, ?_, ?_, ?_⟩
  · intro column hcolumn
    obtain ⟨name, -, rfl⟩ := List.mem_map.1 hcolumn
    exact .shown name
  · rw [hc, List.map_map]
    rfl
  · rw [hg, List.foldl_map]
    exact (List.foldl_fixed names).symm
  · rw [hheadings, hnames (by decide), hn, List.append_nil]
  · rw [hheadings, hnames (by decide), hf]
    rfl

end Clauses

theorem foldlM_heads {α : Type} {f : Clauses → α → Except Error Clauses} {g : α → List Heading}
    {items : List α} (hf : ∀ c a, Yields (f c a) (c.Heads (g a))) (c : Clauses) :
    Yields (items.foldlM f c) (c.Heads (items.flatMap g)) := by
  induction items generalizing c with
  | nil => exact .pure (.nothing rfl)
  | cons a rest ih =>
    rw [List.foldlM_cons, List.flatMap_cons]
    exact (hf c a).bind fun d hd => (ih d).mono fun e he => hd.trans he

def keyHeadings : Json → List Heading
  | .str _ => [⟨.key, "objectId"⟩]
  | .obj parts => parts.map fun part => ⟨.part, part.1⟩
  | _ => []

def accumulatorRole (entry : String × Json) : Role :=
  if entry.1 = "$sum" ∧ entry.2.str? = none then .count else .accumulated

def memberHeadings (member : String × Json) : List Heading :=
  if member.1 = "_id" then keyHeadings member.2
  else ((member.2.obj?).getD []).map fun entry => ⟨accumulatorRole entry, member.1⟩

def groupHeadings (members : List (String × Json)) : List Heading :=
  members.flatMap memberHeadings

theorem keyHeadings_role {key : Json} {heading : Heading} (h : heading ∈ keyHeadings key) :
    heading.role = .key ∨ heading.role = .part := by
  cases key with
  | str _ =>
    cases List.mem_singleton.1 h
    exact .inl rfl
  | obj parts =>
    obtain ⟨part, -, rfl⟩ := List.mem_map.1 h
    exact .inr rfl
  | null | bool _ | num _ | arr _ => cases h

theorem accumulatorRole_cases (entry : String × Json) :
    accumulatorRole entry = .count ∨ accumulatorRole entry = .accumulated := by
  unfold accumulatorRole
  split
  · exact .inl rfl
  · exact .inr rfl

theorem memberHeadings_role {member : String × Json} (hid : member.1 ≠ "_id") {heading : Heading}
    (h : heading ∈ memberHeadings member) :
    heading.role = .count ∨ heading.role = .accumulated := by
  rw [memberHeadings, if_neg hid] at h
  obtain ⟨entry, -, rfl⟩ := List.mem_map.1 h
  exact accumulatorRole_cases entry

theorem groupHeadings_not_shown {members : List (String × Json)} {heading : Heading}
    (h : heading ∈ groupHeadings members) : heading.role ≠ .shown := by
  obtain ⟨member, -, hheading⟩ := List.mem_flatMap.1 h
  by_cases hid : member.1 = "_id"
  · rw [memberHeadings, if_pos hid] at hheading
    rcases keyHeadings_role hheading with hrole | hrole
    · simp [hrole]
    · simp [hrole]
  · rcases memberHeadings_role hid hheading with hrole | hrole
    · simp [hrole]
    · simp [hrole]

theorem keyExpr_isKeyExpr (name : String) (source : Json) :
    Yields (keyExpr name source) IsKeyExpr := by
  unfold keyExpr
  dsimp only
  split
  · split
    · exact .error rfl
    · exact .ok (.column _)
  · exact .error rfl
  · split
    · split
      · exact .pure (.datePart _ _)
      · exact .throw rfl
    · exact .throw rfl
  · exact .error rfl

theorem addKeyPart_heads (c : Clauses) (part : String × Json) :
    Yields (addKeyPart c part) (c.Heads [⟨.part, part.1⟩]) := by
  unfold addKeyPart
  refine (keyExpr_isKeyExpr part.1 part.2).bind fun expr hexpr => .pure ?_
  exact .computed (.part hexpr part.1) (by decide) rfl rfl rfl rfl

theorem addKey_heads (c : Clauses) (key : Json) :
    Yields (addKey c key) (c.Heads (keyHeadings key)) := by
  have hid (text : String) : text ++ " AS \"objectId\"" =
      text ++ " AS " ++ Sql.identifier "objectId" := by
    rw [String.append_assoc]
    rfl
  unfold addKey
  dsimp only
  split
  · split
    · exact .error rfl
    next reference _ =>
      have hadmits : Heading.Admits ⟨.key, "objectId"⟩ (referencedColumn reference) :=
        .key (.column (referencedField reference)) "objectId"
      refine .ok (.computed hadmits (by decide) ?_ rfl (List.append_nil _).symm rfl)
      rw [hid]
  next part parts =>
    rw [keyHeadings, List.map_eq_flatMap]
    exact foldlM_heads addKeyPart_heads c
  · exact .error rfl

theorem addAccumulator_heads (field : String) (c : Clauses) (entry : String × Json) :
    Yields (addAccumulator field c entry) (c.Heads [⟨accumulatorRole entry, field⟩]) := by
  have hadmits {function : String} (hf : function ∈ ["SUM", "MAX", "MIN", "AVG"])
      (reference : String) : Heading.Admits ⟨.accumulated, field⟩
        (function ++ "(" ++ referencedColumn reference ++ ")") :=
    .accumulated hf (referencedField reference) field
  have hsum (reference : String) : Heading.Admits ⟨.accumulated, field⟩
      ("SUM(" ++ referencedColumn reference ++ ")") :=
    hadmits (show "SUM" ∈ ["SUM", "MAX", "MIN", "AVG"] by decide) reference
  unfold addAccumulator
  dsimp only
  split
  next hname =>
    split
    next reference hreference =>
      have hrole : accumulatorRole entry = .accumulated :=
        if_neg fun h => by simp [hreference] at h
      rw [hrole]
      exact .pure (.computed (hsum reference) (by decide) rfl rfl (List.append_nil _).symm rfl)
    next hreference =>
      have hrole : accumulatorRole entry = .count := if_pos ⟨hname, hreference⟩
      rw [hrole]
      exact .pure (.computed (.count field) (by decide) rfl rfl (List.append_nil _).symm rfl)
  next hname =>
    have hrole : accumulatorRole entry = .accumulated := if_neg fun h => hname h.1
    rw [hrole]
    split
    next function hfunction =>
      have hknown : function ∈ ["SUM", "MAX", "MIN", "AVG"] := by
        unfold accumulator? at hfunction
        split at hfunction <;> cases hfunction <;> decide
      split
      · exact .pure (.computed (hadmits hknown _) (by decide) rfl rfl (List.append_nil _).symm rfl)
      · exact .throw rfl
    next => exact .throw rfl

theorem addGroupMember_heads (c : Clauses) (member : String × Json) :
    Yields (addGroupMember c member) (c.Heads (memberHeadings member)) := by
  obtain ⟨field, value⟩ := member
  unfold addGroupMember memberHeadings
  dsimp only
  split
  next hnull =>
    have hvalue : value = .null := by
      cases value with
      | null => rfl
      | bool _ | num _ | str _ | arr _ | obj _ => cases hnull
    subst hvalue
    have hnone : (if field = "_id" then keyHeadings .null
        else ((Json.null.obj?).getD []).map fun entry => ⟨accumulatorRole entry, field⟩) = [] := by
      split
      · rfl
      · rfl
    rw [hnone]
    exact .ok (.nothing rfl)
  · split
    · exact addKey_heads c value
    · split
      next accumulators _ =>
        change Yields _ (c.Heads (accumulators.map fun entry => ⟨accumulatorRole entry, field⟩))
        rw [List.map_eq_flatMap]
        exact foldlM_heads (addAccumulator_heads field) c
      · exact .error rfl

theorem addGroup_heads (c : Clauses) (spec : Json) : Yields (addGroup c spec) fun d =>
    ∃ members, spec = .obj members ∧ c.Heads (groupHeadings members) d := by
  unfold addGroup
  split
  next members =>
    exact (foldlM_heads addGroupMember_heads c).mono fun d hd => ⟨members, rfl, hd⟩
  · exact .error rfl

def projectHeadings (members : List (String × Json)) : List Heading :=
  ((members.filter fun member => isShown member.2).map fun member => outputName member.1).map
    (Heading.mk .shown)

theorem addProjection_heads (c : Clauses) (spec : Json) : Yields (addProjection c spec) fun d =>
    ∃ members, spec = .obj members ∧ c.Heads (projectHeadings members) d := by
  unfold addProjection
  split
  next members =>
    refine .ok ⟨members, rfl, .shown _ ?_ rfl rfl rfl⟩
    rw [List.map_map]
    rfl
  · exact .error rfl

def stageHeadings (stage : String × Json) : List Heading :=
  if stage.1 = "$group" then groupHeadings ((stage.2.obj?).getD [])
  else if stage.1 = "$project" then projectHeadings ((stage.2.obj?).getD [])
  else []

theorem flatMap_of_single {α : Type} {f : String × Json → List α} {stages : List (String × Json)}
    (hf : ∀ stage ∈ stages, stage.1 ≠ "$group" → f stage = [])
    (h : stageCount "$group" stages = 1) :
    ∃ spec, ("$group", spec) ∈ stages ∧ stages.flatMap f = f ("$group", spec) := by
  induction stages with
  | nil => simp [stageCount] at h
  | cons stage rest ih =>
    obtain ⟨name, spec⟩ := stage
    obtain ⟨hfirst, hlater⟩ := List.forall_mem_cons.1 hf
    rw [← List.singleton_append, stageCount_append] at h
    rw [List.flatMap_cons]
    by_cases hname : name = "$group"
    · subst hname
      rw [stageCount_same] at h
      have hrest : rest.flatMap f = [] := by
        rw [List.flatMap_eq_nil_iff]
        intro other hother
        have hnone : "$group" ∉ rest.map Prod.fst := List.count_eq_zero.1 (by
          unfold stageCount at h
          omega)
        exact hlater other hother fun hsame => hnone (hsame ▸ List.mem_map_of_mem hother)
      exact ⟨spec, List.mem_cons_self, by rw [hrest, List.append_nil]⟩
    · rw [stageCount_other hname] at h
      obtain ⟨found, hfound, heq⟩ := ih hlater (by omega)
      exact ⟨found, List.mem_cons_of_mem _ hfound, by rw [heq, hfirst hname, List.nil_append]⟩

theorem addFilter_selection (scope : Scope) (c : Clauses) (spec : Json) (b : Builder) :
    (addFilter scope c spec).Binds b fun d _ => d.selection = c.selection := by
  unfold addFilter
  refine .lift_bind (Query.ofJson_refuses _) fun query _ => ?_
  refine (Query.filter_binds scope query b).bind fun filter params _ => ?_
  split
  · exact .pure rfl
  · exact .pure rfl

/-- What the stages so far leave: the clauses have their columns, and those of
the stages that add columns are objects. -/
structure Collects (stages : List (String × Json)) (c : Clauses) : Prop where
  objects : ∀ stage ∈ stages, stage.1 = "$group" ∨ stage.1 = "$project" →
    ∃ members, stage.2 = .obj members
  heads : Clauses.Heads {} (stages.flatMap stageHeadings) c

namespace Collects

variable {stages : List (String × Json)} {c d : Clauses}

theorem adds (h : Collects stages c) {name : String} {members : List (String × Json)}
    (hd : c.Heads (stageHeadings (name, .obj members)) d) :
    Collects (stages ++ [(name, .obj members)]) d := by
  constructor
  · intro stage hstage hname
    rcases List.mem_append.1 hstage with hold | hnew
    · exact h.objects stage hold hname
    · cases List.mem_singleton.1 hnew
      exact ⟨members, rfl⟩
  · rw [List.flatMap_append, List.flatMap_singleton]
    exact h.heads.trans hd

theorem other (h : Collects stages c) {name : String} (spec : Json) (hg : name ≠ "$group")
    (hp : name ≠ "$project") (hd : d.selection = c.selection) :
    Collects (stages ++ [(name, spec)]) d := by
  constructor
  · intro stage hstage hname
    rcases List.mem_append.1 hstage with hold | hnew
    · exact h.objects stage hold hname
    · cases List.mem_singleton.1 hnew
      exact absurd hname (not_or.2 ⟨hg, hp⟩)
  · rw [List.flatMap_append, List.flatMap_singleton, stageHeadings, if_neg hg, if_neg hp]
    exact h.heads.trans (.nothing hd)

end Collects

theorem addStage_collects (scope : Scope) {stages : List (String × Json)} {c : Clauses}
    (h : Collects stages c) (stage : String × Json) (b : Builder) :
    (addStage scope c stage).Binds b fun d _ => Collects (stages ++ [stage]) d := by
  obtain ⟨name, spec⟩ := stage
  unfold addStage
  dsimp only
  split
  · refine .lift ((addGroup_heads c spec).mono fun d hd => ?_)
    obtain ⟨members, rfl, hheads⟩ := hd
    exact h.adds hheads
  · refine .lift ((addProjection_heads c spec).mono fun d hd => ?_)
    obtain ⟨members, rfl, hheads⟩ := hd
    exact h.adds hheads
  · exact (addFilter_selection scope c spec b).mono fun d _ hd =>
      h.other spec (by decide) (by decide) hd
  · exact (bindCount_shows "$limit" spec b).bind fun _ _ _ =>
      .pure (h.other spec (by decide) (by decide) rfl)
  · exact (bindCount_shows "$skip" spec b).bind fun _ _ _ =>
      .pure (h.other spec (by decide) (by decide) rfl)
  · exact .lift_bind (sortKeys_shows spec) fun _ _ =>
      .pure (h.other spec (by decide) (by decide) rfl)
  · exact .throw rfl

theorem addStages_collects (scope : Scope) {stages : List (String × Json)} {c : Clauses}
    (h : Collects stages c) (member : Json) (b : Builder) :
    (addStages scope c member).Binds b fun d _ => Collects (stages ++ stagesOf member) d := by
  unfold addStages
  split
  next members =>
    have hstart : Collects (stages ++ []) c := by rwa [List.append_nil]
    refine .foldlM (I := fun done d _ => Collects (stages ++ done) d) ?_ hstart
    intro done stage made b hmade
    rw [← List.append_assoc]
    exact addStage_collects scope hmade stage b
  next => exact .throw rfl

theorem pipeline_collects (scope : Scope) (pipeline : List Json) :
    Assembly.Binds (pipeline.foldlM (addStages scope) {}) (.startingAt 1) fun c _ =>
      Collects (pipeline.flatMap stagesOf) c := by
  have hstart : Collects (([] : List Json).flatMap stagesOf) {} := ⟨nofun, .nothing rfl⟩
  refine .foldlM (I := fun done c _ => Collects (done.flatMap stagesOf) c) ?_ hstart
  intro done member made b hmade
  rw [List.flatMap_append, List.flatMap_singleton]
  exact addStages_collects scope hmade member b

end DocSql.Aggregate
