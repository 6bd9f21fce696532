import DocSql.Proofs.Query.Numbering
import DocSql.Statement.Aggregate
import Mathlib.Data.List.Perm.Subperm

/-!
Pipelines bind when a stage is met and write when all stages are gathered. A
page that is given again replaces the text of the one before, but not its
parameter, so parameters and placeholders agree just where no page is given
twice.
-/
namespace DocSql.Aggregate

open Sql (Assembly Builder IsClause Shows ShowsAll placeholders)

/-- The columns, groups and orderings have no placeholders. -/
structure Clauses.IsQuiet (c : Clauses) : Prop where
  columns : ∀ text ∈ c.columns, Shows text.toList []
  groupBy : ∀ text ∈ c.groupBy, Shows text.toList []
  orderBy : ∀ text ∈ c.orderBy, Shows text.toList []

def Clauses.bound (c : Clauses) : List String × Option String × Option String :=
  (c.filters, c.limit, c.offset)

def Clauses.Extends (c d : Clauses) : Prop := d.IsQuiet ∧ d.bound = c.bound

namespace Clauses

theorem IsQuiet.extends {c : Clauses} (h : c.IsQuiet) : c.Extends c := ⟨h, rfl⟩

theorem Extends.trans {c d e : Clauses} (h : c.Extends d) (hd : d.Extends e) : c.Extends e :=
  ⟨hd.1, hd.2.trans h.2⟩

theorem IsQuiet.adds {c d : Clauses} (h : c.IsQuiet)
    (hc : ∀ text ∈ d.columns, text ∈ c.columns ∨ Shows text.toList [])
    (hg : ∀ text ∈ d.groupBy, text ∈ c.groupBy ∨ Shows text.toList [])
    (ho : d.orderBy = c.orderBy) (hb : d.bound = c.bound) : c.Extends d := by
  refine ⟨⟨fun text htext => ?_, fun text htext => ?_, fun text htext => ?_⟩, hb⟩
  · rcases hc text htext with hold | hnew
    · exact h.columns text hold
    · exact hnew
  · rcases hg text htext with hold | hnew
    · exact h.groupBy text hold
    · exact hnew
  · rw [ho] at htext
    exact h.orderBy text htext

theorem mem_appended {text : String} {old new : List String}
    (hn : ∀ text ∈ new, Shows text.toList []) (h : text ∈ old ++ new) :
    text ∈ old ∨ Shows text.toList [] := by
  rcases List.mem_append.1 h with hold | hnew
  · exact .inl hold
  · exact .inr (hn text hnew)

theorem IsQuiet.addColumns {c d : Clauses} (h : c.IsQuiet) {texts : List String}
    (ht : ∀ text ∈ texts, Shows text.toList []) (hc : d.columns = c.columns ++ texts)
    (hg : d.groupBy = c.groupBy) (ho : d.orderBy = c.orderBy) (hb : d.bound = c.bound) :
    c.Extends d := by
  refine h.adds (fun text htext => ?_) (fun text htext => ?_) ho hb
  · rw [hc] at htext
    exact mem_appended ht htext
  · rw [hg] at htext
    exact .inl htext

end Clauses

theorem named_shows {text : String} (h : Shows text.toList []) (name : String) :
    Shows (text ++ " AS " ++ Sql.identifier name).toList [] := by
  simp only [String.toList_append, List.append_assoc]
  exact h.joined rfl (Sql.identifier_shows name)

theorem referencedColumn_shows (reference : String) :
    Shows (referencedColumn reference).toList [] := Sql.identifier_shows _

theorem datePart_plain {operator part : String} (h : datePart? operator = some part) :
    Sql.isPlain part.toList := by
  unfold datePart? at h
  split at h <;> cases h <;> rfl

theorem keyExpr_shows (name : String) (source : Json) :
    Yields (keyExpr name source) fun text => Shows text.toList [] := by
  unfold keyExpr
  dsimp only
  split
  · split
    · exact .error rfl
    · exact .ok (referencedColumn_shows _)
  · exact .error rfl
  · split
    next part hpart =>
      split
      next reference _ =>
        refine .pure ?_
        have hzone : Shows " AT TIME ZONE 'UTC')::integer".toList [] := ⟨rfl, rfl⟩
        have hcolumn := (referencedColumn_shows reference).append hzone rfl
        have hfrom := Shows.plain_append (show Sql.isPlain " FROM ".toList from rfl) hcolumn
        simp only [String.toList_append, List.append_assoc]
        exact .plain_append rfl (.plain_append (datePart_plain hpart) hfrom)
      next => exact .throw rfl
    next => exact .throw rfl
  · exact .error rfl

theorem addKeyPart_extends {c : Clauses} (h : c.IsQuiet) (part : String × Json) :
    Yields (addKeyPart c part) c.Extends := by
  obtain ⟨name, source⟩ := part
  unfold addKeyPart
  refine (keyExpr_shows name source).bind fun expr hexpr => .pure ?_
  refine h.adds (fun text htext => ?_) (fun text htext => ?_) rfl rfl
  · refine Clauses.mem_appended ?_ htext
    simpa using named_shows hexpr name
  · dsimp only at htext
    split at htext
    · exact .inl htext
    · refine Clauses.mem_appended ?_ htext
      simpa using hexpr

theorem foldlM_extends {α : Type} {f : Clauses → α → Except Error Clauses} {items : List α}
    {c : Clauses} (h : c.IsQuiet) (hf : ∀ d a, d.IsQuiet → Yields (f d a) d.Extends) :
    Yields (items.foldlM f c) c.Extends :=
  .foldlM h.extends fun d a hd => (hf d a hd.1).mono fun _ he => hd.trans he

theorem addKey_extends {c : Clauses} (h : c.IsQuiet) (key : Json) :
    Yields (addKey c key) c.Extends := by
  unfold addKey
  dsimp only
  split
  · split
    · exact .error rfl
    next reference _ =>
      have hcolumn := referencedColumn_shows reference
      have hid : Shows (referencedColumn reference ++ " AS \"objectId\"").toList [] := by
        rw [String.toList_append]
        exact hcolumn.append ⟨rfl, rfl⟩ rfl
      refine .ok (h.adds (fun text htext => ?_) (fun text htext => ?_) rfl rfl)
      · refine Clauses.mem_appended ?_ htext
        simpa using hid
      · refine Clauses.mem_appended ?_ htext
        simpa using hcolumn
  · exact foldlM_extends h fun d part hd => addKeyPart_extends hd part
  · exact .error rfl

theorem addAccumulator_extends (field : String) {c : Clauses} (h : c.IsQuiet)
    (entry : String × Json) : Yields (addAccumulator field c entry) c.Extends := by
  have hcall {function : String} (hf : Sql.isPlain function.toList) (reference : String) :
      Shows (function ++ "(" ++ referencedColumn reference ++ ")").toList [] := by
    simp only [String.toList_append, List.append_assoc]
    have hcolumn : Shows ((referencedColumn reference).toList ++ ")".toList) [] :=
      (referencedColumn_shows reference).closedBy rfl
    exact .plain_append hf (.plain_append rfl hcolumn)
  have hadd {text : String} (ht : Shows text.toList []) {d : Clauses}
      (hc : d.columns = c.columns ++ [text ++ " AS " ++ Sql.identifier field])
      (hg : d.groupBy = c.groupBy) (ho : d.orderBy = c.orderBy) (hb : d.bound = c.bound) :
      c.Extends d := by
    refine h.addColumns ?_ hc hg ho hb
    simpa using named_shows ht field
  obtain ⟨operator, source⟩ := entry
  unfold addAccumulator
  dsimp only
  split
  · split
    next reference _ =>
      have hsum := hcall (show Sql.isPlain "SUM".toList from rfl) reference
      exact .pure (hadd hsum rfl rfl rfl rfl)
    next =>
      have hcount : Shows "COUNT(*)".toList [] := .plain rfl
      exact .pure (hadd hcount rfl rfl rfl rfl)
  · split
    next function hfunction =>
      have hplain : Sql.isPlain function.toList := by
        unfold accumulator? at hfunction
        split at hfunction <;> cases hfunction <;> rfl
      split
      next reference _ => exact .pure (hadd (hcall hplain reference) rfl rfl rfl rfl)
      next => exact .throw rfl
    next => exact .throw rfl

theorem addGroup_extends {c : Clauses} (h : c.IsQuiet) (spec : Json) :
    Yields (addGroup c spec) c.Extends := by
  unfold addGroup
  split
  · refine foldlM_extends h fun d member hd => ?_
    unfold addGroupMember
    dsimp only
    split
    · exact .ok hd.extends
    · split
      · exact addKey_extends hd _
      · split
        · exact foldlM_extends hd fun e entry he => addAccumulator_extends _ he entry
        · exact .error rfl
  · exact .error rfl

theorem addProjection_extends {c : Clauses} (h : c.IsQuiet) (spec : Json) :
    Yields (addProjection c spec) c.Extends := by
  unfold addProjection
  split
  · refine .ok (h.addColumns (fun text htext => ?_) rfl rfl rfl rfl)
    obtain ⟨member, -, rfl⟩ := List.mem_map.1 htext
    exact Sql.identifier_shows _
  · exact .error rfl

theorem sortKeys_shows (spec : Json) : Yields (sortKeys spec) fun text => Shows text.toList [] := by
  unfold sortKeys
  split
  · refine .ok ((ShowsAll.nothing fun text htext => ?_).intercalate rfl)
    obtain ⟨⟨field, direction⟩, -, rfl⟩ := List.mem_map.1 htext
    dsimp only
    rw [String.toList_append]
    split
    · exact (Sql.identifier_shows _).append (.plain rfl) rfl
    · exact (Sql.identifier_shows _).append (.plain rfl) rfl
  · exact .error rfl

def stageCount (name : String) (stages : List (String × Json)) : Nat :=
  (stages.map Prod.fst).count name

theorem stageCount_append (name : String) (stages more : List (String × Json)) :
    stageCount name (stages ++ more) = stageCount name stages + stageCount name more := by
  simp only [stageCount, List.map_append, List.count_append]

theorem stageCount_same (name : String) (spec : Json) : stageCount name [(name, spec)] = 1 := by
  simp [stageCount]

theorem stageCount_other {name other : String} (h : other ≠ name) (spec : Json) :
    stageCount name [(other, spec)] = 0 := by
  simp [stageCount, h]

/-- The positions that the condition, the limit and the offset show. -/
structure Shown where
  filters : List Nat
  limit : List Nat
  offset : List Nat

def Shown.all (shown : Shown) : List Nat := shown.filters ++ shown.limit ++ shown.offset

/-- The clauses show different positions of the parameters bound. A position
was lost for each limit and each offset that another one replaced. -/
structure Shown.Fits (shown : Shown) (stages : List (String × Json)) (c : Clauses) (n : Nat) :
    Prop where
  filters : ShowsAll c.filters shown.filters
  limit : ShowsAll c.limit.toList shown.limit
  offset : ShowsAll c.offset.toList shown.offset
  nodup : shown.all.Nodup
  bounds : ∀ i ∈ shown.all, 1 ≤ i ∧ i ≤ n
  limits : shown.limit.length = min 1 (stageCount "$limit" stages)
  offsets : shown.offset.length = min 1 (stageCount "$skip" stages)
  count : shown.filters.length + stageCount "$limit" stages + stageCount "$skip" stages = n

/-- What every stage keeps. -/
structure Tracks (stages : List (String × Json)) (c : Clauses) (b : Builder) : Prop where
  next : b.next = b.params.length + 1
  quiet : c.IsQuiet
  shown : ∃ shown : Shown, shown.Fits stages c b.params.length

theorem tracks_start : Tracks [] {} (.startingAt 1) := by
  refine ⟨rfl, ⟨by simp, by simp, by simp⟩, ⟨[], [], []⟩, ?_⟩
  exact ⟨.nil, .nil, .nil, .nil, by simp [Shown.all], rfl, rfl, rfl⟩

namespace Tracks

variable {stages : List (String × Json)} {c d : Clauses} {b : Builder}

theorem push_next (h : Tracks stages c b) (params : List Datum) :
    (b.push params).next = (b.push params).params.length + 1 := by
  rw [Builder.next_push, h.next, Builder.push_params, List.length_append]
  omega

theorem extend (h : Tracks stages c b) {name : String} {spec : Json} (he : c.Extends d)
    (hl : name ≠ "$limit") (hs : name ≠ "$skip") : Tracks (stages ++ [(name, spec)]) d b := by
  obtain ⟨hquiet, hbound⟩ := he
  obtain ⟨shown, hfits⟩ := h.shown
  simp only [Clauses.bound, Prod.mk.injEq] at hbound
  refine ⟨h.next, hquiet, shown, ?_⟩
  have hlimits : stageCount "$limit" (stages ++ [(name, spec)]) = stageCount "$limit" stages := by
    rw [stageCount_append, stageCount_other hl, Nat.add_zero]
  have hskips : stageCount "$skip" (stages ++ [(name, spec)]) = stageCount "$skip" stages := by
    rw [stageCount_append, stageCount_other hs, Nat.add_zero]
  constructor
  · rw [hbound.1]
    exact hfits.filters
  · rw [hbound.2.1]
    exact hfits.limit
  · rw [hbound.2.2]
    exact hfits.offset
  · exact hfits.nodup
  · exact hfits.bounds
  · rw [hlimits]
    exact hfits.limits
  · rw [hskips]
    exact hfits.offsets
  · rw [hlimits, hskips]
    exact hfits.count

end Tracks

theorem fresh_positions {old kept found : List Nat} {n k : Nat} (hn : old.Nodup)
    (hb : ∀ i ∈ old, 1 ≤ i ∧ i ≤ n) (hk : kept.Sublist old)
    (hp : found.Perm (kept ++ List.range' (n + 1) k)) :
    found.Nodup ∧ ∀ i ∈ found, 1 ≤ i ∧ i ≤ n + k := by
  constructor
  · rw [hp.nodup_iff, List.nodup_append]
    refine ⟨hn.sublist hk, List.nodup_range', ?_⟩
    intro i hi j hj
    have hold := hb i (hk.subset hi)
    rw [List.mem_range'_1] at hj
    omega
  · intro i hi
    rcases List.mem_append.1 (hp.subset hi) with hold | hnew
    · have hbound := hb i (hk.subset hold)
      omega
    · rw [List.mem_range'_1] at hnew
      omega

namespace Tracks

variable {stages : List (String × Json)} {c : Clauses} {b : Builder} {params : List Datum}

theorem unfiltered (h : Tracks stages c b) (spec : Json) :
    Tracks (stages ++ [("$match", spec)]) c b :=
  h.extend h.quiet.extends (by decide) (by decide)

theorem bound (h : Tracks stages c b) {d : Clauses} (hquiet : d.IsQuiet) {stage : String × Json}
    {shown : Shown} (hfits : shown.Fits stages c b.params.length) (made : Shown)
    (hfilters : ShowsAll d.filters made.filters) (hlimit : ShowsAll d.limit.toList made.limit)
    (hoffset : ShowsAll d.offset.toList made.offset) {kept : List Nat}
    (hk : kept.Sublist shown.all)
    (hp : made.all.Perm (kept ++ List.range' (b.params.length + 1) params.length))
    (hlimits : made.limit.length = min 1 (stageCount "$limit" (stages ++ [stage])))
    (hoffsets : made.offset.length = min 1 (stageCount "$skip" (stages ++ [stage])))
    (hcount : made.filters.length + stageCount "$limit" (stages ++ [stage]) +
      stageCount "$skip" (stages ++ [stage]) = b.params.length + params.length) :
    Tracks (stages ++ [stage]) d (b.push params) := by
  obtain ⟨hnodup, hbounds⟩ := fresh_positions hfits.nodup hfits.bounds hk hp
  refine ⟨h.push_next params, hquiet, made, hfilters, hlimit, hoffset, hnodup, ?_, hlimits,
    hoffsets, ?_⟩
  · rw [Builder.push_params, List.length_append]
    exact hbounds
  · rw [Builder.push_params, List.length_append]
    exact hcount

theorem addFilter (h : Tracks stages c b) {text : String} (spec : Json)
    (ht : Shows text.toList (List.range' b.next params.length)) :
    Tracks (stages ++ [("$match", spec)]) { c with filters := c.filters ++ [text] }
      (b.push params) := by
  obtain ⟨shown, hfits⟩ := h.shown
  rw [h.next] at ht
  have hlimits : stageCount "$limit" (stages ++ [("$match", spec)]) =
      stageCount "$limit" stages := by
    rw [stageCount_append, stageCount_other (by decide), Nat.add_zero]
  have hskips : stageCount "$skip" (stages ++ [("$match", spec)]) = stageCount "$skip" stages := by
    rw [stageCount_append, stageCount_other (by decide), Nat.add_zero]
  have hperm : (Shown.all ⟨shown.filters ++ List.range' (b.params.length + 1) params.length,
      shown.limit, shown.offset⟩).Perm
      (shown.all ++ List.range' (b.params.length + 1) params.length) := by
    unfold Shown.all
    simp only [List.append_assoc]
    refine List.Perm.append_left _ ?_
    rw [← List.append_assoc shown.limit]
    exact List.perm_append_comm.trans (by simp)
  have hquiet : Clauses.IsQuiet { c with filters := c.filters ++ [text] } :=
    ⟨h.quiet.columns, h.quiet.groupBy, h.quiet.orderBy⟩
  refine h.bound hquiet hfits
    ⟨shown.filters ++ List.range' (b.params.length + 1) params.length, shown.limit, shown.offset⟩
    (hfits.filters.append (.single ht)) hfits.limit hfits.offset
    (List.Sublist.refl _) hperm ?_ ?_ ?_
  · rw [hlimits]
    exact hfits.limits
  · rw [hskips]
    exact hfits.offsets
  · have hcount := hfits.count
    rw [hlimits, hskips, List.length_append, List.length_range']
    omega

theorem setLimit (h : Tracks stages c b) {text : String} (spec : Json)
    (ht : Shows text.toList [b.next]) (hp : params.length = 1) :
    Tracks (stages ++ [("$limit", spec)]) { c with limit := some text } (b.push params) := by
  obtain ⟨shown, hfits⟩ := h.shown
  rw [h.next] at ht
  have hlimits : stageCount "$limit" (stages ++ [("$limit", spec)]) =
      stageCount "$limit" stages + 1 := by
    rw [stageCount_append, stageCount_same]
  have hskips : stageCount "$skip" (stages ++ [("$limit", spec)]) = stageCount "$skip" stages := by
    rw [stageCount_append, stageCount_other (by decide), Nat.add_zero]
  have hkept : (shown.filters ++ shown.offset).Sublist shown.all := by
    unfold Shown.all
    exact (List.sublist_append_left _ _).append (List.Sublist.refl _)
  have hperm : (Shown.all ⟨shown.filters, [b.params.length + 1], shown.offset⟩).Perm
      (shown.filters ++ shown.offset ++ List.range' (b.params.length + 1) params.length) := by
    rw [hp]
    simp only [Shown.all, List.append_assoc]
    exact List.Perm.append_left _ List.perm_append_comm
  have hquiet : Clauses.IsQuiet { c with limit := some text } :=
    ⟨h.quiet.columns, h.quiet.groupBy, h.quiet.orderBy⟩
  refine h.bound hquiet hfits ⟨shown.filters, [b.params.length + 1], shown.offset⟩ hfits.filters
    (.single ht) hfits.offset hkept hperm ?_ ?_ ?_
  · rw [hlimits]
    simp
  · rw [hskips]
    exact hfits.offsets
  · have hcount := hfits.count
    dsimp only
    omega

theorem setOffset (h : Tracks stages c b) {text : String} (spec : Json)
    (ht : Shows text.toList [b.next]) (hp : params.length = 1) :
    Tracks (stages ++ [("$skip", spec)]) { c with offset := some text } (b.push params) := by
  obtain ⟨shown, hfits⟩ := h.shown
  rw [h.next] at ht
  have hlimits : stageCount "$limit" (stages ++ [("$skip", spec)]) =
      stageCount "$limit" stages := by
    rw [stageCount_append, stageCount_other (by decide), Nat.add_zero]
  have hskips : stageCount "$skip" (stages ++ [("$skip", spec)]) =
      stageCount "$skip" stages + 1 := by
    rw [stageCount_append, stageCount_same]
  have hperm : (Shown.all ⟨shown.filters, shown.limit, [b.params.length + 1]⟩).Perm
      (shown.filters ++ shown.limit ++ List.range' (b.params.length + 1) params.length) := by
    rw [hp]
    exact List.Perm.refl _
  have hquiet : Clauses.IsQuiet { c with offset := some text } :=
    ⟨h.quiet.columns, h.quiet.groupBy, h.quiet.orderBy⟩
  refine h.bound hquiet hfits ⟨shown.filters, shown.limit, [b.params.length + 1]⟩ hfits.filters
    hfits.limit (.single ht) (List.sublist_append_left _ _) hperm ?_ ?_ ?_
  · rw [hlimits]
    exact hfits.limits
  · rw [hskips]
    simp
  · have hcount := hfits.count
    dsimp only
    omega

end Tracks

theorem bindCount_shows (stage : String) (spec : Json) (b : Builder) :
    (bindCount stage spec).Binds b fun text params =>
      Shows text.toList [b.next] ∧ params.length = 1 := by
  unfold bindCount
  split
  next n _ =>
    refine (Assembly.Binds.fragment (f := ⟨"?", [.int n]⟩) .marker).mono fun text params hmade => ?_
    obtain ⟨rfl, rfl⟩ := hmade
    exact ⟨Sql.Aligned.marker.number_shows b.next, rfl⟩
  next => exact .throw rfl

theorem addFilter_tracks (scope : Scope) {stages : List (String × Json)} {c : Clauses}
    {b : Builder} (h : Tracks stages c b) (spec : Json) :
    (addFilter scope c spec).Binds b fun d params =>
      Tracks (stages ++ [("$match", spec)]) d (b.push params) := by
  unfold addFilter
  refine .lift_bind (Query.ofJson_refuses _) fun query _ => ?_
  refine (Query.filter_binds scope query b).bind fun filter params hfilter => ?_
  split
  next hempty =>
    have hnone : params.length = 0 := by
      have hfound := Sql.Filter.isEmpty_shows hempty hfilter.shows
      rwa [List.range'_eq_nil_iff] at hfound
    rw [List.length_eq_zero_iff] at hnone
    subst hnone
    refine .pure ?_
    rw [List.append_nil, Builder.push_nil]
    exact h.unfiltered spec
  next =>
    refine .pure ?_
    rw [List.append_nil]
    refine h.addFilter spec ?_
    simp only [String.toList_append, List.append_assoc]
    exact .plain_append rfl (hfilter.shows.closedBy rfl)

theorem addStage_tracks (scope : Scope) {stages : List (String × Json)} {c : Clauses}
    {b : Builder} (h : Tracks stages c b) (stage : String × Json) :
    (addStage scope c stage).Binds b fun d params => Tracks (stages ++ [stage]) d (b.push params) := by
  have hextend {name : String} {spec : Json} {work : Except Error Clauses}
      (hl : name ≠ "$limit") (hs : name ≠ "$skip") (hw : Yields work c.Extends) :
      Assembly.Binds (liftM work) b fun d params =>
        Tracks (stages ++ [(name, spec)]) d (b.push params) := by
    refine .lift (hw.mono fun d hd => ?_)
    rw [Builder.push_nil]
    exact h.extend hd hl hs
  obtain ⟨name, spec⟩ := stage
  unfold addStage
  dsimp only
  split
  · exact hextend (by decide) (by decide) (addGroup_extends h.quiet spec)
  · exact hextend (by decide) (by decide) (addProjection_extends h.quiet spec)
  · exact addFilter_tracks scope h spec
  · refine (bindCount_shows "$limit" spec b).bind fun text params htext => .pure ?_
    rw [List.append_nil]
    exact h.setLimit spec htext.1 htext.2
  · refine (bindCount_shows "$skip" spec b).bind fun text params htext => .pure ?_
    rw [List.append_nil]
    exact h.setOffset spec htext.1 htext.2
  · refine .lift_bind (sortKeys_shows spec) fun text htext => .pure ?_
    rw [Builder.push_nil]
    refine h.extend ⟨⟨h.quiet.columns, h.quiet.groupBy, ?_⟩, rfl⟩ (by decide) (by decide)
    intro other hother
    cases hother
    exact htext
  · exact .throw rfl

def stagesOf (member : Json) : List (String × Json) := member.obj?.getD []

theorem addStages_tracks (scope : Scope) {stages : List (String × Json)} {c : Clauses}
    {b : Builder} (h : Tracks stages c b) (member : Json) :
    (addStages scope c member).Binds b fun d params =>
      Tracks (stages ++ stagesOf member) d (b.push params) := by
  unfold addStages
  split
  next members =>
    have hstart : Tracks (stages ++ []) c b := by rwa [List.append_nil]
    refine .foldlM (I := fun done d b => Tracks (stages ++ done) d b) ?_ hstart
    intro done stage made b hmade
    rw [← List.append_assoc]
    exact addStage_tracks scope hmade stage
  next => exact .throw rfl

theorem pipeline_tracks (scope : Scope) (pipeline : List Json) :
    Assembly.Binds (pipeline.foldlM (addStages scope) {}) (.startingAt 1) fun c params =>
      Tracks (pipeline.flatMap stagesOf) c (Builder.push (.startingAt 1) params) := by
  have hstart : Tracks (([] : List Json).flatMap stagesOf) {} (.startingAt 1) := tracks_start
  refine .foldlM (I := fun done c b => Tracks (done.flatMap stagesOf) c b) ?_ hstart
  intro done member made b hmade
  rw [List.flatMap_append, List.flatMap_singleton]
  exact addStages_tracks scope hmade member

theorem listClause_isClause {keyword joiner : String} {items : List String} {found : List Nat}
    (hk : Sql.isJoint keyword.toList) (hj : Sql.isJoint joiner.toList) (h : ShowsAll items found) :
    IsClause (listClause keyword joiner items) found := by
  unfold listClause
  split
  next hempty =>
    rw [List.isEmpty_iff.1 hempty] at h
    cases h with
    | nil => exact .empty
  next => exact .keyword hk (h.intercalate hj)

theorem text_shows {stages : List (String × Json)} {c : Clauses} {n : Nat} {shown : Shown}
    (hq : c.IsQuiet) (h : shown.Fits stages c n) (table : String) :
    Shows (c.text table).toList shown.all := by
  have hcolumns : Shows (if c.columns.isEmpty then "*"
      else String.intercalate ", " c.columns).toList [] := by
    split
    · exact .plain rfl
    · exact (ShowsAll.nothing hq.columns).intercalate rfl
  have horder : ShowsAll c.orderBy.toList [] := .nothing (by simpa using hq.orderBy)
  have hselect : Shows ("SELECT " ++ (if c.columns.isEmpty then "*"
      else String.intercalate ", " c.columns) ++ " FROM " ++ Sql.identifier table).toList [] := by
    simp only [String.toList_append, List.append_assoc]
    exact .plain_append rfl (hcolumns.joined rfl (Sql.identifier_shows table))
  have hwhere : IsClause (listClause " WHERE " " AND " c.filters) shown.filters :=
    listClause_isClause rfl rfl h.filters
  have hgroup : IsClause (listClause " GROUP BY " ", " c.groupBy) [] :=
    listClause_isClause rfl rfl (.nothing hq.groupBy)
  have hsort : IsClause (listClause " ORDER BY " ", " c.orderBy.toList) [] :=
    listClause_isClause rfl rfl horder
  have hlimit : IsClause (listClause " LIMIT " ", " c.limit.toList) shown.limit :=
    listClause_isClause rfl rfl h.limit
  have hoffset : IsClause (listClause " OFFSET " ", " c.offset.toList) shown.offset :=
    listClause_isClause rfl rfl h.offset
  have hrows := hsort.closing (hgroup.closing (hwhere.behind hselect))
  exact hoffset.after (hlimit.after hrows)

theorem covers_iff {found : List Nat} {n : Nat} (hn : found.Nodup)
    (hb : ∀ i ∈ found, 1 ≤ i ∧ i ≤ n) :
    (∀ i, i ∈ found ↔ 1 ≤ i ∧ i ≤ n) ↔ found.length = n := by
  have hrange : ∀ i, i ∈ List.range' 1 n ↔ 1 ≤ i ∧ i ≤ n := by
    intro i
    rw [List.mem_range'_1]
    omega
  constructor
  · intro hall
    have hperm : found.Perm (List.range' 1 n) := by
      rw [List.perm_ext_iff_of_nodup hn List.nodup_range']
      intro i
      rw [hall, hrange]
    rw [hperm.length_eq, List.length_range']
  · intro hlength i
    have hsub : found.Subperm (List.range' 1 n) :=
      List.subperm_of_subset hn fun i hi => (hrange i).2 (hb i hi)
    have hperm := hsub.perm_of_length_le (by rw [List.length_range', hlength])
    rw [hperm.mem_iff, hrange]

/-- A pipeline never fails internally and never shows a position without a
parameter. All of its parameters are shown just where it has at most one limit
and at most one offset: a second one replaces the placeholder of the first, but
the parameter of the first stays. -/
theorem plan_covers_iff (scope : Scope) (table : String) (pipeline : List Json) :
    Yields (plan scope table pipeline) fun plan =>
      (∀ i ∈ placeholders plan.statement.sql, 1 ≤ i ∧ i ≤ plan.statement.params.length) ∧
      ((∀ i, i ∈ placeholders plan.statement.sql ↔ 1 ≤ i ∧ i ≤ plan.statement.params.length) ↔
        stageCount "$limit" (pipeline.flatMap stagesOf) ≤ 1 ∧
          stageCount "$skip" (pipeline.flatMap stagesOf) ≤ 1) := by
  unfold plan
  refine (pipeline_tracks scope pipeline).runFrom.bind fun made hmade => .pure ?_
  obtain ⟨c, params⟩ := made
  obtain ⟨-, hquiet, shown, hfits⟩ := hmade
  have hparams : (Builder.push (.startingAt 1) params).params.length = params.length := rfl
  rw [hparams] at hfits
  dsimp only
  rw [(text_shows hquiet hfits table).placeholders_eq]
  refine ⟨hfits.bounds, ?_⟩
  rw [covers_iff hfits.nodup hfits.bounds]
  have hlength : shown.all.length =
      shown.filters.length + shown.limit.length + shown.offset.length := by
    simp only [Shown.all, List.length_append]
  rw [hlength, hfits.limits, hfits.offsets]
  have hcount := hfits.count
  omega

/-- Two limits bind two parameters, and only the second one has a placeholder. -/
theorem repeated_limit_uncovered :
    ∃ made, plan (Scope.ofSchema { className := "Sale" } ⟨0, 0⟩) "Sale"
        [.obj [("$limit", .int 1)], .obj [("$limit", .int 2)]] = .ok made ∧
      ¬∀ i, i ∈ placeholders made.statement.sql ↔ 1 ≤ i ∧ i ≤ made.statement.params.length := by
  refine ⟨_, rfl, fun h => ?_⟩
  have hfirst := (h 1).2 (by decide)
  have hshown : placeholders "SELECT * FROM \"Sale\" LIMIT $2" = [2] := rfl
  change 1 ∈ placeholders "SELECT * FROM \"Sale\" LIMIT $2" at hfirst
  rw [hshown] at hfirst
  exact absurd hfirst (by decide)

end DocSql.Aggregate
