import DocSql.Proofs.Json
import DocSql.Proofs.Statement.Columns
import Mathlib.Data.List.Nodup
import Mathlib.Data.List.Pairwise

/-!
The columns that a group computes. A key and every accumulator of a field add a
column, under the name of the key, of a part of it, or of the field, and nothing
looks at the names that are there. A row is keyed by the names of its columns,
so of several columns of one name a single one is left in it.
-/
namespace DocSql.Aggregate

open Sql (Assembly)

/-- What the columns of a group are computed as. -/
inductive IsComputed : String → Prop
  | column (field : String) : IsComputed (Sql.identifier field)
  | datePart (part field : String) :
    IsComputed ("EXTRACT(" ++ part ++ " FROM " ++ Sql.identifier field ++
      " AT TIME ZONE 'UTC')::integer")
  | count : IsComputed "COUNT(*)"
  | accumulated {function : String} (h : function ∈ ["SUM", "MAX", "MIN", "AVG"])
    (field : String) : IsComputed (function ++ "(" ++ Sql.identifier field ++ ")")

def keyNames : Json → List String
  | .str _ => ["objectId"]
  | .obj parts => Entries.keys parts
  | _ => []

def memberNames (member : String × Json) : List String :=
  if member.1 = "_id" then keyNames member.2
  else ((member.2.obj?).getD []).map fun _ => member.1

def groupNames (members : List (String × Json)) : List String := members.flatMap memberNames

def Clauses.Computes (c : Clauses) (names : List String) (d : Clauses) : Prop :=
  ∃ outputs : List Output, outputs.map Output.name = names ∧
    (∀ output ∈ outputs, IsComputed output.expr) ∧
    d.columns = c.columns ++ outputs.map Output.text

theorem Heading.Admits.isComputed {heading : Heading} {expr : String} (h : heading.Admits expr)
    (hr : heading.role ≠ .shown) : IsComputed expr := by
  have hkey {expr : String} (hexpr : IsKeyExpr expr) : IsComputed expr := by
    cases hexpr with
    | column field => exact .column field
    | datePart part field => exact .datePart part field
  cases h with
  | key hexpr name => exact hkey hexpr
  | part hexpr name => exact hkey hexpr
  | count name => exact .count
  | accumulated hfunction field name => exact .accumulated hfunction field
  | shown name => exact absurd rfl hr

namespace Clauses

variable {c d : Clauses} {columns : List Column}

theorem Gains.isComputed (h : c.Gains columns d)
    (hs : ∀ column ∈ columns, column.heading.role ≠ .shown) :
    ∀ output ∈ columns.map Column.output, IsComputed output.expr := by
  intro output houtput
  obtain ⟨column, hcolumn, rfl⟩ := List.mem_map.1 houtput
  exact (h.admits column hcolumn).isComputed (hs column hcolumn)

theorem Gains.computed_texts (h : c.Gains columns d)
    (hs : ∀ column ∈ columns, column.heading.role ≠ .shown) :
    d.columns = c.columns ++ (columns.map Column.output).map Output.text := by
  rw [h.texts, List.map_map]
  congr 1
  exact List.map_congr_left fun column hcolumn => if_neg (hs column hcolumn)

theorem Heads.computes {headings : List Heading} (h : c.Heads headings d)
    (hs : ∀ heading ∈ headings, heading.role ≠ .shown) :
    c.Computes (headings.map Heading.name) d := by
  obtain ⟨columns, rfl, hgains⟩ := h
  have hroles : ∀ column ∈ columns, column.heading.role ≠ .shown :=
    fun column hcolumn => hs _ (List.mem_map_of_mem hcolumn)
  refine ⟨columns.map Column.output, ?_, hgains.isComputed hroles, hgains.computed_texts hroles⟩
  rw [List.map_map, List.map_map]
  rfl

end Clauses

theorem keyHeadings_names (key : Json) : (keyHeadings key).map Heading.name = keyNames key := by
  cases key with
  | obj parts => exact List.map_map
  | str _ | null | bool _ | num _ | arr _ => rfl

theorem memberHeadings_names (member : String × Json) :
    (memberHeadings member).map Heading.name = memberNames member := by
  unfold memberHeadings memberNames
  split
  · exact keyHeadings_names member.2
  · exact List.map_map

theorem groupHeadings_names (members : List (String × Json)) :
    (groupHeadings members).map Heading.name = groupNames members := by
  rw [groupHeadings, groupNames, List.map_flatMap]
  exact List.flatMap_congr fun member _ => memberHeadings_names member

def stageNames (stage : String × Json) : List String :=
  if stage.1 = "$group" then groupNames ((stage.2.obj?).getD []) else []

/-- What the stages so far leave: groups are objects, and without a projection
the columns are those that the groups compute. -/
structure Gathers (stages : List (String × Json)) (c : Clauses) : Prop where
  groups : ∀ spec, ("$group", spec) ∈ stages → ∃ members, spec = .obj members
  columns : stageCount "$project" stages = 0 → Clauses.Computes {} (stages.flatMap stageNames) c

theorem stageHeadings_names {stage : String × Json} (h : stage.1 ≠ "$project") :
    (stageHeadings stage).map Heading.name = stageNames stage := by
  unfold stageHeadings stageNames
  split
  · exact groupHeadings_names _
  · rfl

theorem Collects.gathers {stages : List (String × Json)} {c : Clauses} (h : Collects stages c) :
    Gathers stages c := by
  refine ⟨fun spec hspec => h.objects _ hspec (.inl rfl), fun hnone => ?_⟩
  have hname {stage : String × Json} (hs : stage ∈ stages) : stage.1 ≠ "$project" := fun hsame =>
    List.count_eq_zero.1 hnone (hsame ▸ List.mem_map_of_mem hs)
  have hnames : (stages.flatMap stageHeadings).map Heading.name = stages.flatMap stageNames := by
    rw [List.map_flatMap]
    exact List.flatMap_congr fun stage hstage => stageHeadings_names (hname hstage)
  rw [← hnames]
  refine h.heads.computes fun heading hheading => ?_
  obtain ⟨stage, hstage, hheading⟩ := List.mem_flatMap.1 hheading
  unfold stageHeadings at hheading
  split at hheading
  · exact groupHeadings_not_shown hheading
  · rw [if_neg (hname hstage)] at hheading
    cases hheading

theorem pipeline_gathers (scope : Scope) (pipeline : List Json) :
    Assembly.Binds (pipeline.foldlM (addStages scope) {}) (.startingAt 1) fun c _ =>
      Gathers (pipeline.flatMap stagesOf) c :=
  (pipeline_collects scope pipeline).mono fun _ _ h => h.gathers

theorem stageNames_of_single {stages : List (String × Json)} (h : stageCount "$group" stages = 1) :
    ∃ spec, ("$group", spec) ∈ stages ∧ stages.flatMap stageNames = stageNames ("$group", spec) :=
  flatMap_of_single (fun _ _ hname => if_neg hname) h

/-- No field has two accumulators, and none that has one is a name of the key. -/
def NamesApart (members : List (String × Json)) : Prop :=
  ∀ field accumulators, (field, Json.obj accumulators) ∈ members → field ≠ "_id" →
    accumulators.length ≤ 1 ∧
    (accumulators ≠ [] → ∀ key, ("_id", key) ∈ members → field ∉ keyNames key)

theorem memberNames_obj {field : String} (hid : field ≠ "_id") (accumulators : Entries Json) :
    memberNames (field, .obj accumulators) = List.replicate accumulators.length field := by
  rw [memberNames, if_neg hid]
  exact List.map_const' ..

theorem memberNames_id (key : Json) : memberNames ("_id", key) = keyNames key := if_pos rfl

theorem mem_memberNames {member : String × Json} {name : String} (hid : member.1 ≠ "_id")
    (h : name ∈ memberNames member) :
    name = member.1 ∧ ∃ accumulators, member.2 = .obj accumulators ∧ accumulators ≠ [] := by
  obtain ⟨field, value⟩ := member
  cases value with
  | obj accumulators =>
    rw [memberNames_obj hid, List.mem_replicate] at h
    exact ⟨h.2, accumulators, rfl, fun hnone => h.1 (by rw [hnone]; rfl)⟩
  | null | bool _ | num _ | str _ | arr _ =>
    rw [memberNames, if_neg hid] at h
    cases h

theorem keyNames_nodup {key : Json} (h : key.IsRead) : (keyNames key).Nodup := by
  cases key with
  | str _ => exact List.nodup_singleton _
  | obj parts => exact Entries.keys_nodup (Json.isRead_obj_iff.1 h).1
  | null | bool _ | num _ | arr _ => exact List.nodup_nil

theorem memberNames_nodup {members : List (String × Json)} (h : NamesApart members)
    {member : String × Json} (hmember : member ∈ members) (hread : member.2.IsRead) :
    (memberNames member).Nodup := by
  obtain ⟨field, value⟩ := member
  by_cases hid : field = "_id"
  · subst hid
    rw [memberNames_id]
    exact keyNames_nodup hread
  · cases value with
    | obj accumulators =>
      rw [memberNames_obj hid, List.nodup_replicate]
      exact (h field accumulators hmember hid).1
    | null | bool _ | num _ | str _ | arr _ =>
      rw [memberNames, if_neg hid]
      exact List.nodup_nil

theorem memberNames_disjoint {members : List (String × Json)} (h : NamesApart members)
    {a b : String × Json} (ha : a ∈ members) (hb : b ∈ members) (hab : a.1 ≠ b.1) :
    (memberNames a).Disjoint (memberNames b) := by
  have hkey {member key : String × Json} {name : String} (hm : member ∈ members)
      (hid : member.1 ≠ "_id") (hk : key ∈ members) (hkid : key.1 = "_id")
      (hn : name ∈ memberNames member) : name ∉ memberNames key := by
    obtain ⟨rfl, accumulators, hvalue, hsome⟩ := mem_memberNames hid hn
    obtain ⟨_, value⟩ := key
    subst hkid
    rw [memberNames_id]
    exact (h member.1 accumulators (hvalue ▸ hm) hid).2 hsome value hk
  intro name hna hnb
  by_cases hida : a.1 = "_id"
  · exact hkey hb (fun hidb => hab (hida.trans hidb.symm)) ha hida hnb hna
  · by_cases hidb : b.1 = "_id"
    · exact hkey ha hida hb hidb hna hnb
    · exact hab ((mem_memberNames hida hna).1.symm.trans (mem_memberNames hidb hnb).1)

theorem groupNames_nodup_iff {members : List (String × Json)} (h : (Json.obj members).IsRead) :
    (groupNames members).Nodup ↔ NamesApart members := by
  obtain ⟨hsorted, hread⟩ := Json.isRead_obj_iff.1 h
  rw [groupNames, List.nodup_flatMap]
  constructor
  · rintro ⟨heach, hdisjoint⟩ field accumulators hmember hid
    refine ⟨?_, fun hsome key hkey hname => ?_⟩
    · have hown := heach _ hmember
      rwa [memberNames_obj hid, List.nodup_replicate] at hown
    · have hsymm : Std.Symm (Function.onFun List.Disjoint memberNames) :=
        ⟨fun _ _ hd _ hb ha => hd ha hb⟩
      have hne : (field, Json.obj accumulators) ≠ ("_id", key) :=
        fun hsame => hid (congrArg Prod.fst hsame)
      have hown : field ∈ memberNames (field, .obj accumulators) := by
        rw [memberNames_obj hid, List.mem_replicate]
        exact ⟨fun hnone => hsome (List.length_eq_zero_iff.1 hnone), rfl⟩
      exact hdisjoint.forall hmember hkey hne hown (memberNames_id key ▸ hname)
  · intro hapart
    have hkeys : members.Pairwise fun a b => a.1 ≠ b.1 :=
      List.pairwise_map.1 (Entries.keys_nodup hsorted)
    exact ⟨fun member hmember => memberNames_nodup hapart hmember (hread member hmember),
      hkeys.imp_of_mem fun ha hb hab => memberNames_disjoint hapart ha hb hab⟩

/-- A row keyed by these names has the value of every column, whatever the values are. -/
def KeepsColumns (names : List String) : Prop :=
  ∀ values : List Datum, values.length = names.length → ∀ column ∈ names.zip values,
    Entries.find? (Entries.ofList (names.zip values)) column.1 = some column.2

theorem keepsColumns_iff (names : List String) : KeepsColumns names ↔ names.Nodup := by
  constructor
  · intro h
    -- Columns with the numbers of their places as values tell every two places apart.
    let values := (List.range names.length).map fun i : Nat => Datum.int i
    have hvalues : values.length = names.length := by simp [values]
    have hplace {i : Nat} (hi : i < names.length) :
        Entries.find? (Entries.ofList (names.zip values)) names[i] = some (.int i) := by
      have hcolumn : (names[i], Datum.int i) ∈ names.zip values := by
        rw [List.mem_iff_getElem]
        exact ⟨i, by simpa [hvalues] using hi, by simp [values]⟩
      exact h values hvalues _ hcolumn
    rw [List.nodup_iff_pairwise_ne, List.pairwise_iff_getElem]
    intro i j hi hj hij hsame
    have hfound := hplace hi
    rw [hsame, hplace hj, Option.some.injEq, Datum.int.injEq] at hfound
    omega
  · intro hn values hvalues column hcolumn
    refine Entries.find?_ofList_of_mem ?_ hcolumn
    rwa [Entries.keys, List.map_fst_zip hvalues.ge]

theorem Clauses.exists_text_eq (c : Clauses) (table : String) : ∃ rest,
    c.text table = "SELECT " ++ (if c.columns.isEmpty then "*" else ", ".intercalate c.columns) ++
      " FROM " ++ Sql.identifier table ++ rest := by
  refine ⟨listClause " WHERE " " AND " c.filters ++ (listClause " GROUP BY " ", " c.groupBy ++
    (listClause " ORDER BY " ", " c.orderBy.toList ++ (listClause " LIMIT " ", " c.limit.toList ++
      listClause " OFFSET " ", " c.offset.toList))), ?_⟩
  unfold text
  simp only [String.append_assoc]

theorem isRead_of_mem_stages {pipeline : List Json} (h : ∀ member ∈ pipeline, member.IsRead)
    {stage : String × Json} (hs : stage ∈ pipeline.flatMap stagesOf) : stage.2.IsRead := by
  obtain ⟨member, hmember, hstage⟩ := List.mem_flatMap.1 hs
  cases member with
  | obj stages => exact (Json.isRead_obj_iff.1 (h _ hmember)).2 stage hstage
  | null | bool _ | num _ | str _ | arr _ => cases hstage

/-- A pipeline with a single group and no projection selects what the group
computes, each column under its name. The names all differ, and so no column is
lost in a row keyed by them, just where no field of the group has two
accumulators and none that has one is a name of the key. -/
theorem plan_names_nodup_iff (scope : Scope) (table : String) {pipeline : List Json}
    (hread : ∀ member ∈ pipeline, member.IsRead)
    (hgroup : stageCount "$group" (pipeline.flatMap stagesOf) = 1)
    (hproject : stageCount "$project" (pipeline.flatMap stagesOf) = 0) :
    Yields (plan scope table pipeline) fun made => ∃ members, ∃ outputs : List Output, ∃ rest,
      ("$group", Json.obj members) ∈ pipeline.flatMap stagesOf ∧
      outputs.map Output.name = groupNames members ∧
      (∀ output ∈ outputs, IsComputed output.expr) ∧
      made.statement.sql = "SELECT " ++ (if outputs.isEmpty then "*"
        else ", ".intercalate (outputs.map Output.text)) ++ " FROM " ++ Sql.identifier table ++
        rest ∧
      ((outputs.map Output.name).Nodup ↔ NamesApart members) ∧
      (KeepsColumns (outputs.map Output.name) ↔ NamesApart members) := by
  unfold plan
  refine (pipeline_gathers scope pipeline).runFrom.bind fun (c, params) hgathers => .pure ?_
  obtain ⟨spec, hspec, hnames⟩ := stageNames_of_single hgroup
  obtain ⟨members, rfl⟩ := hgathers.groups spec hspec
  obtain ⟨outputs, houtputs, hcomputed, hcolumns⟩ := hgathers.columns hproject
  rw [hnames] at houtputs
  have hapart : (outputs.map Output.name).Nodup ↔ NamesApart members := by
    rw [houtputs]
    exact groupNames_nodup_iff (isRead_of_mem_stages hread hspec)
  rw [List.nil_append] at hcolumns
  obtain ⟨rest, hrest⟩ := c.exists_text_eq table
  rw [hcolumns, List.isEmpty_map] at hrest
  exact ⟨members, outputs, rest, hspec, houtputs, hcomputed, hrest, hapart,
    (keepsColumns_iff _).trans hapart⟩

/-- A group of one sum keeps both of its columns. -/
theorem total_kept :
    let scope := Scope.ofSchema { className := "Sale", fields := [("amount", .number)] } ⟨0, 0⟩
    let pipeline : List Json := [.obj [("$group", .obj [("_id", .str "$region"),
      ("total", .obj [("$sum", .str "$amount")])])]]
    let sql := "SELECT \"region\" AS \"objectId\", SUM(\"amount\") AS \"total\" " ++
      "FROM \"Sale\" GROUP BY \"region\""
    ((∀ member ∈ pipeline, member.IsRead) ∧
      stageCount "$group" (pipeline.flatMap stagesOf) = 1 ∧
      stageCount "$project" (pipeline.flatMap stagesOf) = 0) ∧
    ∃ (made : Aggregate) (outputs : List Output), plan scope "Sale" pipeline = .ok made ∧
      made.statement.sql = sql ∧ outputs.map Output.name = ["objectId", "total"] ∧
      KeepsColumns (outputs.map Output.name) := by
  intro scope pipeline sql
  have hread : ∀ member ∈ pipeline, member.IsRead := by
    simp only [pipeline, List.forall_mem_singleton, List.forall_mem_cons, Json.isRead_obj_iff,
      Json.isRead_str, and_true, true_and]
    exact ⟨by decide, by decide, by decide⟩
  have hgroup : stageCount "$group" (pipeline.flatMap stagesOf) = 1 := by decide
  have hproject : stageCount "$project" (pipeline.flatMap stagesOf) = 0 := by decide
  have hplan : (fun made => made.statement.sql) <$> plan scope "Sale" pipeline = .ok sql := by
    decide +kernel
  obtain ⟨made, hmade, hsql⟩ := map_eq_ok.1 hplan
  obtain ⟨members, outputs, -, hmembers, hnames, -, -, hnodup, hkeeps⟩ :=
    (plan_names_nodup_iff scope "Sale" hread hgroup hproject).result hmade
  cases List.mem_singleton.1 hmembers
  have hapart := hnodup.1 (by rw [hnames]; decide)
  exact ⟨⟨hread, hgroup, hproject⟩, made, outputs, hmade, hsql, hnames, hkeeps.2 hapart⟩

/-- Two accumulators of a field make two columns of its name, one of which a row loses. -/
theorem second_accumulator_lost :
    let scope := Scope.ofSchema { className := "Sale", fields := [("amount", .number)] } ⟨0, 0⟩
    let members : List (String × Json) := [("_id", .str "$region"),
      ("amount", .obj [("$max", .str "$amount"), ("$min", .str "$amount")])]
    (fun made => made.statement.sql) <$> plan scope "Sale" [.obj [("$group", .obj members)]] = .ok (
      "SELECT \"region\" AS \"objectId\", MAX(\"amount\") AS \"amount\", " ++
        "MIN(\"amount\") AS \"amount\" FROM \"Sale\" GROUP BY \"region\"") ∧
    groupNames members = ["objectId", "amount", "amount"] ∧ ¬(groupNames members).Nodup ∧
    ¬KeepsColumns (groupNames members) := by
  intro scope members
  have hnames : groupNames members = ["objectId", "amount", "amount"] := by decide
  refine ⟨by decide +kernel, hnames, by rw [hnames]; decide, ?_⟩
  rw [keepsColumns_iff, hnames]
  decide

example :
    let scope := Scope.ofSchema { className := "Sale", fields := [("amount", .number)] } ⟨0, 0⟩
    (fun made => made.statement.sql) <$> plan scope "Sale" [.obj [("$group", .obj [
      ("_id", .str "$region"), ("objectId", .obj [("$sum", .int 1)])])]] = .ok (
      "SELECT \"region\" AS \"objectId\", COUNT(*) AS \"objectId\" " ++
        "FROM \"Sale\" GROUP BY \"region\"") := by
  decide +kernel

end DocSql.Aggregate
