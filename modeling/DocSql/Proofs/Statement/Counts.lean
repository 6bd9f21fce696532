import DocSql.Proofs.Statement.GroupKeys
import DocSql.Proofs.Statement.Results
import DocSql.Proofs.Storage.Numbers

/-!
Numbers of rows in results. An engine may send them as numbers or as texts, and
a plan knows the field of one of them, the last, which becomes a whole number
unless the key takes its place. Main statement: `plan_counts_whole_iff`.
-/
namespace DocSql.Aggregate

open Number (WritesInt fitsInt64)

/-- A number of 64 bits in one of the forms that engines send it in. -/
inductive IsCount : Json → Int → Prop
  | whole {n : Int} (hf : fitsInt64 n) : IsCount (.int n) n
  | float {x : Double} {n : Int} (hx : x.isFinite) (h : x.value = n) (hf : fitsInt64 n) :
    IsCount (.float x) n
  | text {text : String} {n : Int} (h : WritesInt text.toList n) (hf : fitsInt64 n) :
    IsCount (.str text) n

theorem countValue?_of_isCount {value : Json} {n : Int} (h : IsCount value n) :
    countValue? value = some n := by
  cases h with
  | whole hf => simp [countValue?, Number.toInt64?, hf]
  | @float x n hx h hf =>
    obtain ⟨hlow, hhigh⟩ := Number.fitsInt64_iff.1 hf
    have hclamp : x.clampTo Number.minInt64 Number.maxInt64 = n := by
      simp only [Double.clampTo, Double.toInt?_of_value hx h]
      omega
    simp [countValue?, Number.toInt64?, Number.toDouble, hclamp]
  | text h hf => exact Number.int64OfText?_eq_some_iff.2 ⟨h, hf⟩

theorem IsCount.eq_of_converts {value result : Json} {n : Int} (h : IsCount value n)
    (hc : Converts value result) : result = .int n := by
  have hread := countValue?_of_isCount h
  cases hc with
  | number hn => rw [Option.some.inj (hn.symm.trans hread)]
  | text hwrites hf =>
    have hown := Number.int64OfText?_eq_some_iff.2 ⟨hwrites, hf⟩
    rw [Option.some.inj (hown.symm.trans hread)]
  | other hn ht =>
    cases h with
    | whole _ | float _ _ _ => cases hn
    | text hwrites hf => exact absurd hf (ht _ n rfl hwrites)

theorem IsCount.eq_of_rel {value : Json} {found : Option Json} {n : Int} (h : IsCount value n)
    (hr : Option.Rel Converts (some value) found) : found = some (.int n) := by
  cases hr with
  | some hc => rw [h.eq_of_converts hc]

def headingsOf (pipeline : List Json) : List Heading :=
  (pipeline.flatMap stagesOf).flatMap stageHeadings

def countFields (pipeline : List Json) : List String := namesOf .count (headingsOf pipeline)

theorem Heading.Admits.eq_count_iff {heading : Heading} {expr : String}
    (h : heading.Admits expr) : expr = "COUNT(*)" ↔ heading.role = .count := by
  have hrole (hcount : expr = "COUNT(*)") : heading.role.isAccumulated = true := by
    rw [← h.isAccumulator_eq, hcount]
    decide
  cases h with
  | key _ name | part _ name | shown name =>
    exact iff_of_false (fun hcount => Bool.false_ne_true (hrole hcount)) nofun
  | count name => exact iff_of_true rfl rfl
  | accumulated hfunction field name =>
    refine iff_of_false (fun hcount => ?_) nofun
    have hhead := congrArg (fun text => text.toList.head?) hcount
    simp only [List.mem_cons, List.not_mem_nil, or_false] at hfunction
    rcases hfunction with rfl | rfl | rfl | rfl <;> simp [String.toList_append] at hhead

theorem namesOf_nodup {headings : List Heading} (h : (headings.map Heading.name).Nodup)
    (role : Role) : (namesOf role headings).Nodup :=
  h.sublist (List.filter_sublist.map _)

theorem namesOf_disjoint {headings : List Heading} (h : (headings.map Heading.name).Nodup)
    {role other : Role} (hr : role ≠ other) {name : String} (hn : name ∈ namesOf role headings) :
    name ∉ namesOf other headings := by
  intro ho
  obtain ⟨a, ha, hname⟩ := List.mem_map.1 hn
  obtain ⟨b, hb, hsame⟩ := List.mem_map.1 ho
  obtain ⟨ha, hrole⟩ := List.mem_filter.1 ha
  obtain ⟨hb, hother⟩ := List.mem_filter.1 hb
  have heq := List.inj_on_of_nodup_map h ha hb (hname.trans hsame.symm)
  rw [decide_eq_true_eq] at hrole hother
  exact hr (hrole.symm.trans (heq ▸ hother))

/-- Every count of a row is there in one of its forms. -/
def HoldsCounts (fields : List String) (row : Entries Json) : Prop :=
  ∀ field ∈ fields, ∃ value n, Entries.find? row field = some value ∧ IsCount value n

def ShowsCounts (fields : List String) (row : Entries Json) (result : Json) : Prop :=
  ∀ field ∈ fields, ∀ value n, Entries.find? row field = some value → IsCount value n →
    result.get? field = some (.int n)

/-- Some plan and its fields with a count, no part of a key among them. -/
structure Counting (plan : Aggregate) (fields : List String) : Prop where
  last : plan.countField = fields.getLast?
  nodup : fields.Nodup
  apart : ∀ field ∈ fields, field ∉ plan.groupAliases

namespace Counting

variable {plan : Aggregate} {fields : List String}

theorem shows (h : Counting plan fields) (hone : fields.length ≤ 1)
    (hid : "objectId" ∈ fields → plan.groupAliases = []) (row : Entries Json) :
    ShowsCounts fields row (.obj (plan.withCount (plan.withKey row))) := by
  intro field hfield value n hvalue hcount
  have hlast : plan.countField = some field := by
    obtain ⟨only, hfields⟩ := List.length_eq_one_iff.1
      (Nat.le_antisymm hone (List.length_pos_of_mem hfield))
    obtain rfl : field = only := List.mem_singleton.1 (hfields ▸ hfield)
    rw [h.last, hfields]
    rfl
  have hshapes := shapes plan row
  by_cases hname : field = "objectId"
  · subst hname
    obtain ⟨shown, hshown, hconverts, -⟩ := hshapes.alone (hid hfield)
    have hown := hconverts hlast
    rw [valueIn, hvalue, Option.getD_some] at hown
    exact hshown.trans (congrArg some (hcount.eq_of_converts hown))
  · have hrel := hshapes.count field hlast hname (h.apart field hfield)
    rw [hvalue] at hrel
    exact hcount.eq_of_rel hrel

def textRow (fields : List String) : Entries Json := fields.map fun field => (field, .str "7")

theorem find?_textRow {field : String} (h : field ∈ fields) :
    Entries.find? (textRow fields) field = some (.str "7") := by
  induction fields with
  | nil => cases h
  | cons first rest ih =>
    rw [textRow, List.map_cons, Entries.find?_cons]
    split
    · rfl
    next hne => exact ih ((List.mem_cons.1 h).resolve_left (Ne.symm hne))

theorem isCount_seven : IsCount (.str "7") 7 :=
  .text (show WritesInt ['7'] (Double.digitsValue ['7']) from
    .unsigned (List.cons_ne_nil _ _) (List.forall_mem_singleton.2 rfl)) rfl

theorem textRow_holds (fields : List String) : HoldsCounts fields (textRow fields) :=
  fun _ hfield => ⟨_, 7, find?_textRow hfield, isCount_seven⟩

theorem of_shows (h : Counting plan fields) (hs : ShowsCounts fields (textRow fields)
      (.obj (plan.withCount (plan.withKey (textRow fields))))) :
    fields.length ≤ 1 ∧ ("objectId" ∈ fields → plan.groupAliases = []) := by
  have hshapes := shapes plan (textRow fields)
  have hwhole {field : String} (hfield : field ∈ fields) : Entries.find?
      (plan.withCount (plan.withKey (textRow fields))) field = some (.int 7) :=
    hs field hfield _ 7 (find?_textRow hfield) isCount_seven
  have hid : "objectId" ∈ fields → plan.groupAliases = [] := by
    intro hfield
    by_contra hparts
    obtain ⟨key, hkey, -⟩ := hshapes.parts hparts
    cases (hwhole hfield).symm.trans hkey
  refine ⟨?_, hid⟩
  by_contra hmany
  obtain ⟨first, second, rest, rfl⟩ : ∃ first second rest, fields = first :: second :: rest := by
    match fields, hmany with
    | first :: second :: rest, _ => exact ⟨first, second, rest, rfl⟩
    | [], hmany | [_], hmany => exact absurd (by simp) hmany
  -- the first of several counts is not the one that the plan knows
  have hother : plan.countField ≠ some first := by
    rw [h.last, List.getLast?_cons_cons]
    exact fun hlast => (List.nodup_cons.1 h.nodup).1 (List.mem_of_getLast? hlast)
  have hfirst : first ∈ first :: second :: rest := List.mem_cons_self
  have hkept : Entries.find? (plan.withCount (plan.withKey (textRow (first :: second :: rest))))
      first = some (.str "7") := by
    by_cases hname : first = "objectId"
    · subst hname
      obtain ⟨value, hvalue, -, hown⟩ := hshapes.alone (hid hfirst)
      rw [hvalue, hown hother, valueIn, find?_textRow hfirst, Option.getD_some]
    · rw [hshapes.others first hname (h.apart first hfirst) hother, find?_textRow hfirst]
  cases (hwhole hfirst).symm.trans hkept

end Counting

/-- A pipeline selects its columns, those of its fields with a count as
`COUNT(*)`. Where all names differ, every such field of every result is a whole
number, whatever form the row has it in, just where there is at most one and a
key of parts does not take its place. -/
theorem plan_counts_whole_iff (scope : Scope) (table : String) {pipeline : List Json}
    (hnames : ((headingsOf pipeline).map Heading.name).Nodup) :
    Yields (plan scope table pipeline) fun made =>
      (∃ columns : List Column, ∃ rest,
        columns.map Column.heading = headingsOf pipeline ∧
        made.statement.sql = "SELECT " ++ (if columns.isEmpty then "*"
          else ", ".intercalate (columns.map Column.text)) ++ " FROM " ++
          Sql.identifier table ++ rest ∧
        (columns.filter fun column => column.expr = "COUNT(*)").map
          (fun column => column.heading.name) = countFields pipeline) ∧
      ((∀ rows, (∀ row ∈ rows, HoldsCounts (countFields pipeline) row) →
          List.Forall₂ (ShowsCounts (countFields pipeline)) rows (made.results rows)) ↔
        (countFields pipeline).length ≤ 1 ∧
          ("objectId" ∈ countFields pipeline → namesOf .part (headingsOf pipeline) = [])) := by
  unfold plan
  refine (pipeline_collects scope pipeline).runFrom.bind fun (c, params) hcollects => .pure ?_
  obtain ⟨columns, hcolumns, hgains⟩ := hcollects.heads
  change columns.map Column.heading = headingsOf pipeline at hcolumns
  obtain ⟨rest, hrest⟩ := c.exists_text_eq table
  have htexts : c.columns = columns.map Column.text := hgains.texts
  rw [htexts, List.isEmpty_map] at hrest
  have haliases : c.groupAliases = namesOf .part (headingsOf pipeline) := by
    rw [hgains.aliases, hcolumns]
    rfl
  have hcount : c.countField = (countFields pipeline).getLast? := by
    rw [hgains.count, hcolumns]
    exact Option.or_none
  refine ⟨⟨columns, rest, hcolumns, hrest, ?_⟩, ?_⟩
  · rw [countFields, ← hcolumns, namesOf, List.filter_map, List.map_map]
    congr 1
    refine List.filter_congr fun column hcolumn => ?_
    exact decide_eq_decide.2 (hgains.admits column hcolumn).eq_count_iff
  · have hcounting : Counting
        { statement := { sql := c.text table, params }, groupAliases := c.groupAliases,
          countField := c.countField } (countFields pipeline) :=
      ⟨hcount, namesOf_nodup hnames .count,
        fun field hfield => haliases ▸ namesOf_disjoint hnames (by decide) hfield⟩
    rw [← haliases]
    constructor
    · intro h
      have htexts := Counting.textRow_holds (countFields pipeline)
      obtain ⟨hshows, -⟩ := List.forall₂_cons.1 (h [Counting.textRow (countFields pipeline)]
        (List.forall_mem_singleton.2 htexts))
      exact hcounting.of_shows hshows
    · rintro ⟨hone, hid⟩ rows -
      exact results_forall₂ _ (hcounting.shows hone hid) rows

/-- A group with one count shows it as a whole number. -/
theorem single_count_whole :
    let pipeline : List Json := [.obj [("$group", .obj [("_id", .str "$region"),
      ("n", .obj [("$sum", .int 1)]), ("total", .obj [("$sum", .str "$amount")])])]]
    let scope := Scope.ofSchema { className := "Sale", fields := [("amount", .number)] } ⟨0, 0⟩
    ((headingsOf pipeline).map Heading.name).Nodup ∧ countFields pipeline = ["n"] ∧
    Yields (plan scope "Sale" pipeline) fun made =>
      ∀ rows, (∀ row ∈ rows, HoldsCounts ["n"] row) →
        List.Forall₂ (ShowsCounts ["n"]) rows (made.results rows) := by
  intro pipeline scope
  have hnames : ((headingsOf pipeline).map Heading.name).Nodup := by decide
  have hfields : countFields pipeline = ["n"] := by decide
  refine ⟨hnames, hfields, ?_⟩
  refine (plan_counts_whole_iff scope "Sale" hnames).mono fun made hmade => ?_
  rw [← hfields]
  refine hmade.2.2 ⟨by rw [hfields]; decide, fun hid => ?_⟩
  rw [hfields] at hid
  simp at hid

/-- The first of two counts stays the text that the engine sent. -/
theorem second_count_kept_as_text :
    let scope := Scope.ofSchema { className := "Sale", fields := [("amount", .number)] } ⟨0, 0⟩
    let pipeline : List Json := [.obj [("$group", .obj [("_id", .str "$region"),
      ("m", .obj [("$sum", .int 1)]), ("n", .obj [("$sum", .int 1)])])]]
    let row : Entries Json := [("m", .str "7"), ("n", .str "7"), ("objectId", .str "north")]
    ((headingsOf pipeline).map Heading.name).Nodup ∧ HoldsCounts (countFields pipeline) row ∧
    ∃ made, plan scope "Sale" pipeline = .ok made ∧
      made.results [row] = [.obj [("m", .str "7"), ("n", .int 7), ("objectId", .str "north")]] ∧
      ¬List.Forall₂ (ShowsCounts (countFields pipeline)) [row] (made.results [row]) := by
  intro scope pipeline row
  have hfields : countFields pipeline = ["m", "n"] := by decide
  have hrow : HoldsCounts (countFields pipeline) row := by
    rw [hfields]
    intro field hfield
    simp only [List.mem_cons, List.not_mem_nil, or_false] at hfield
    rcases hfield with rfl | rfl
    · exact ⟨_, 7, rfl, Counting.isCount_seven⟩
    · exact ⟨_, 7, rfl, Counting.isCount_seven⟩
  have hplan : (fun made => (made.groupAliases, made.countField)) <$>
      plan scope "Sale" pipeline = .ok ([], some "n") := by
    decide +kernel
  obtain ⟨⟨statement, aliases, count⟩, hmade, hfound⟩ := map_eq_ok.1 hplan
  cases hfound
  have hresults : results ⟨statement, [], some "n"⟩ [row] =
      [.obj [("m", .str "7"), ("n", .int 7), ("objectId", .str "north")]] := by
    rfl
  refine ⟨by decide, hrow, _, hmade, hresults, fun hshows => ?_⟩
  rw [hresults] at hshows
  have hfirst := (List.forall₂_cons.1 hshows).1 "m" (hfields ▸ List.mem_cons_self) _ 7 rfl
    Counting.isCount_seven
  cases hfirst

end DocSql.Aggregate
