import DocSql.Proofs.Entries
import DocSql.Proofs.Outcome
import DocSql.Query.Reader

/-!
Tests and what they are read from. A condition has one test for each key of a
test, in a fixed order, and the test has what stands under its key for its
operand. Main statement: `Operator.ofJson_eq_ok_iff`.
-/
namespace DocSql

def Comparator.key : Comparator → String
  | gt => "$gt"
  | gte => "$gte"
  | lt => "$lt"
  | lte => "$lte"

namespace Operator

def key : Operator → String
  | ne _ => "$ne"
  | eq _ => "$eq"
  | isIn _ => "$in"
  | notIn _ => "$nin"
  | all _ => "$all"
  | present _ => "$exists"
  | containedBy _ => "$containedBy"
  | search _ => "$text"
  | near _ _ => "$nearSphere"
  | withinBox _ _ => "$within"
  | withinSphere _ _ | withinPolygon _ => "$geoWithin"
  | covers _ => "$geoIntersects"
  | regex _ _ => "$regex"
  | compare comparator _ => comparator.key

def order : List String :=
  ["$ne", "$eq", "$in", "$nin", "$all", "$exists", "$containedBy", "$text", "$nearSphere",
    "$within", "$geoWithin", "$geoIntersects", "$regex", "$gt", "$gte", "$lt", "$lte"]

def HasFlag (search : Json) (key : String) (only : Bool) : Prop :=
  ∀ given, search.get? key = some given → given = .bool only

/-- What has to stand under the key of a test, in the condition that it is part of. -/
def HasOperand (condition : Entries Json) (value : Json) : Operator → Prop
  | ne operand | eq operand | compare _ operand => value = operand
  | isIn items | notIn items | all items | containedBy items => value = .arr items
  | present expected => value = .bool expected
  | search text => ∃ given, value.get? "$search" = some given ∧
      given.getStr? "$term" = some text.term ∧ given.get? "$language" = text.language.map .str ∧
      HasFlag given "$caseSensitive" false ∧ HasFlag given "$diacriticSensitive" true
  | near point bound => GeoPoint.ofJson value = .ok point ∧ maxDistance condition = .ok bound
  | withinBox southWest northEast => ∃ first second,
      value.get? "$box" = some (.arr [first, second]) ∧
      GeoPoint.ofJson first = .ok southWest ∧ GeoPoint.ofJson second = .ok northEast
  | withinSphere point radius => ∃ center given rest,
      value.get? "$centerSphere" = some (.arr (center :: given :: rest)) ∧
      GeoPoint.ofJson center = .ok point ∧ distance? given = some radius
  | withinPolygon points => ∃ polygon, value.get? "$centerSphere" = none ∧
      value.get? "$polygon" = some polygon ∧ polygonPoints polygon = .ok points ∧
      3 ≤ points.length
  | covers point => ∃ given, value.get? "$point" = some given ∧
      given.typeTag? = some "GeoPoint" ∧ GeoPoint.ofJson given = .ok point
  | regex pattern options => value = .str pattern ∧
      (∀ c ∈ options.toList, c ∈ ['i', 'm', 'x', 's']) ∧
      (Entries.find? condition "$options").getD (.str "") = .str options

variable {condition : Entries Json} {value : Json} {test : Operator}

theorem items_eq_ok {name : String} {listed : List Json} :
    items name value = .ok listed ↔ value = .arr listed := by
  unfold items
  split
  · simp
  next hother => exact ⟨nofun, fun h => absurd h (hother listed)⟩

theorem readPresent_eq_ok : readPresent value = .ok test ↔
    ∃ expected, test = present expected ∧ value = .bool expected := by
  unfold readPresent
  split
  next b => simp [eq_comm]
  next hother =>
    refine ⟨fun h => ?_, fun ⟨expected, _, h⟩ => absurd h (hother expected)⟩
    split at h <;> cases h

theorem readContainedBy_eq_ok : readContainedBy value = .ok test ↔
    ∃ items, test = containedBy items ∧ value = .arr items := by
  unfold readContainedBy
  split
  · simp [eq_comm]
  next hother => exact ⟨nofun, fun ⟨items, _, h⟩ => absurd h (hother items)⟩

theorem readFlag_eq_ok {given : Json} {name refusal : String} {only : Bool} :
    readFlag given name only refusal = .ok () ↔ HasFlag given name only := by
  unfold readFlag HasFlag
  cases given.get? name with
  | none => simp
  | some flag =>
    cases flag with
    | bool b => by_cases h : b = only <;> simp [h]
    | null | num _ | str _ | arr _ | obj _ => simp

variable (condition) in
theorem readSearch_eq_ok : readSearch value = .ok test ↔
    ∃ text, test = search text ∧ (search text).HasOperand condition value := by
  constructor
  · intro h
    unfold readSearch at h
    split at h
    next members hmembers =>
      dsimp only at h
      split at h
      next term hterm =>
        have hflagged (language : Option String) {first second : String}
            (hlanguage : (Json.obj members).get? "$language" = language.map .str)
            (hread : (do
              readFlag (.obj members) "$caseSensitive" false first
              readFlag (.obj members) "$diacriticSensitive" true second
              return search { term, language }) = .ok test) :
            ∃ text, test = search text ∧ (search text).HasOperand condition value := by
          obtain ⟨_, hcase, hread⟩ := bind_eq_ok.1 hread
          obtain ⟨_, hmarks, hread⟩ := bind_eq_ok.1 hread
          cases hread
          exact ⟨_, rfl, _, hmembers, hterm, hlanguage, readFlag_eq_ok.1 hcase,
            readFlag_eq_ok.1 hmarks⟩
        split at h
        next hnone => exact hflagged none hnone h
        next language hsome => exact hflagged (some language) hsome h
        next => cases h
      next => cases h
    next => cases h
  · rintro ⟨⟨term, language⟩, rfl, given, hgiven, hterm, hlanguage, hcase, hmarks⟩
    cases given with
    | obj members =>
      unfold readSearch
      rw [hgiven]
      dsimp only
      rw [hterm, hlanguage]
      dsimp only
      rw [readFlag_eq_ok.2 hcase, readFlag_eq_ok.2 hmarks]
      cases language with
      | none => rfl
      | some language => rfl
    | null | bool _ | num _ | str _ | arr _ => cases hterm

theorem readNear_eq_ok : readNear condition value = .ok test ↔
    ∃ point bound, test = near point bound ∧ (near point bound).HasOperand condition value := by
  unfold readNear
  constructor
  · intro h
    obtain ⟨point, hpoint, h⟩ := bind_eq_ok.1 h
    obtain ⟨bound, hbound, h⟩ := bind_eq_ok.1 h
    cases h
    exact ⟨point, bound, rfl, hpoint, hbound⟩
  · rintro ⟨point, bound, rfl, hpoint, hbound⟩
    rw [hpoint, hbound]
    rfl

variable (condition) in
theorem readWithin_eq_ok : readWithin value = .ok test ↔ ∃ southWest northEast,
    test = withinBox southWest northEast ∧
      (withinBox southWest northEast).HasOperand condition value := by
  constructor
  · intro h
    unfold readWithin at h
    split at h
    next first second hbox =>
      obtain ⟨southWest, hsouthWest, h⟩ := bind_eq_ok.1 h
      obtain ⟨northEast, hnorthEast, h⟩ := bind_eq_ok.1 h
      cases h
      exact ⟨southWest, northEast, rfl, first, second, hbox, hsouthWest, hnorthEast⟩
    next => cases h
    next => cases h
  · rintro ⟨southWest, northEast, rfl, first, second, hbox, hsouthWest, hnorthEast⟩
    unfold readWithin
    rw [hbox]
    dsimp only
    rw [hsouthWest, hnorthEast]
    rfl

theorem readCenterSphere_eq_ok {center : Json} : readCenterSphere center = .ok test ↔
    ∃ point radius first second rest, test = withinSphere point radius ∧
      center = .arr (first :: second :: rest) ∧ GeoPoint.ofJson first = .ok point ∧
      distance? second = some radius := by
  constructor
  · intro h
    unfold readCenterSphere at h
    split at h
    next first second rest =>
      split at h
      next => cases h
      next => cases h
      next point radius hpoint hradius =>
        cases h
        exact ⟨point, radius, first, second, rest, rfl, rfl, hpoint, hradius⟩
    next => cases h
  · rintro ⟨point, radius, first, second, rest, rfl, rfl, hpoint, hradius⟩
    unfold readCenterSphere
    dsimp only
    rw [hpoint, hradius]

theorem readPolygon_eq_ok {polygon : Json} : readPolygon polygon = .ok test ↔
    ∃ points, test = withinPolygon points ∧ polygonPoints polygon = .ok points ∧
      3 ≤ points.length := by
  unfold readPolygon
  constructor
  · intro h
    obtain ⟨points, hpoints, h⟩ := bind_eq_ok.1 h
    dsimp only at h
    split at h
    next => cases h
    next hmany =>
      cases h
      exact ⟨points, rfl, hpoints, Nat.not_lt.1 hmany⟩
  · rintro ⟨points, rfl, hpoints, hmany⟩
    rw [hpoints]
    change (if points.length < 3 then _ else _ : Except Error Operator) = _
    rw [if_neg (Nat.not_lt.2 hmany)]
    rfl

variable (condition) in
theorem readGeoWithin_eq_ok : readGeoWithin value = .ok test ↔
    (∃ point radius, test = withinSphere point radius ∧
      (withinSphere point radius).HasOperand condition value) ∨
    ∃ points, test = withinPolygon points ∧ (withinPolygon points).HasOperand condition value := by
  unfold readGeoWithin HasOperand
  cases hcenter : value.get? "$centerSphere" with
  | some center =>
    simp only [readCenterSphere_eq_ok]
    constructor
    · rintro ⟨point, radius, first, second, rest, rfl, rfl, hpoint, hradius⟩
      exact .inl ⟨point, radius, rfl, first, second, rest, rfl, hpoint, hradius⟩
    · rintro (⟨point, radius, rfl, first, second, rest, hsame, hpoint, hradius⟩ |
        ⟨_, _, _, hnone, _⟩)
      · exact ⟨point, radius, first, second, rest, rfl, Option.some.inj hsame, hpoint, hradius⟩
      · cases hnone
  | none =>
    cases hpolygon : value.get? "$polygon" with
    | some polygon =>
      simp only [readPolygon_eq_ok]
      constructor
      · rintro ⟨points, rfl, hpoints, hmany⟩
        exact .inr ⟨points, rfl, polygon, trivial, rfl, hpoints, hmany⟩
      · rintro (⟨_, _, _, _, _, _, hsome, _⟩ | ⟨points, rfl, other, _, hsame, hpoints, hmany⟩)
        · cases hsome
        · cases hsame
          exact ⟨points, rfl, hpoints, hmany⟩
    | none =>
      refine ⟨nofun, ?_⟩
      rintro (⟨_, _, _, _, _, _, hsome, _⟩ | ⟨_, _, _, _, hsome, _⟩)
      · cases hsome
      · cases hsome

variable (condition) in
theorem readGeoIntersects_eq_ok : readGeoIntersects value = .ok test ↔
    ∃ point, test = covers point ∧ (covers point).HasOperand condition value := by
  unfold readGeoIntersects HasOperand
  cases value.get? "$point" with
  | none => simp
  | some given =>
    by_cases htag : given.typeTag? = some "GeoPoint"
    · simp only [if_pos htag, map_eq_ok]
      constructor
      · rintro ⟨point, hpoint, rfl⟩
        exact ⟨point, rfl, given, rfl, htag, hpoint⟩
      · rintro ⟨point, rfl, other, hsame, -, hpoint⟩
        cases hsame
        exact ⟨point, hpoint, rfl⟩
    · simp only [if_neg htag]
      refine ⟨nofun, ?_⟩
      rintro ⟨point, -, other, hsame, htag', -⟩
      cases hsame
      exact absurd htag' htag

theorem readRegex_eq_ok : readRegex condition value = .ok test ↔
    ∃ pattern options, test = regex pattern options ∧
      (regex pattern options).HasOperand condition value := by
  unfold readRegex HasOperand
  cases value with
  | str pattern =>
    simp only [Json.str?]
    cases Entries.find? condition "$options" with
    | none =>
      constructor
      · intro h
        cases h
        exact ⟨pattern, "", rfl, rfl, by simp, rfl⟩
      · rintro ⟨_, options, rfl, hpattern, -, hoptions⟩
        cases hpattern
        cases hoptions
        rfl
    | some given =>
      cases given with
      | str options =>
        have hall : options.toList.all ['i', 'm', 'x', 's'].contains = true ↔
            ∀ c ∈ options.toList, c ∈ ['i', 'm', 'x', 's'] := by
          simp only [List.all_eq_true, List.contains_iff_mem]
        by_cases hlegal : options.toList.all ['i', 'm', 'x', 's'].contains
        · simp only [if_pos hlegal]
          constructor
          · intro h
            cases h
            exact ⟨pattern, options, rfl, rfl, hall.1 hlegal, rfl⟩
          · rintro ⟨_, _, rfl, hpattern, -, hoptions⟩
            cases hpattern
            cases hoptions
            rfl
        · simp only [if_neg hlegal]
          refine ⟨nofun, ?_⟩
          rintro ⟨_, _, rfl, -, hlegal', hoptions⟩
          cases hoptions
          exact absurd (hall.2 hlegal') hlegal
      | null | bool _ | num _ | arr _ | obj _ =>
        refine ⟨nofun, ?_⟩
        rintro ⟨_, _, -, -, -, hoptions⟩
        cases hoptions
  | null | bool _ | num _ | arr _ | obj _ =>
    refine ⟨nofun, ?_⟩
    rintro ⟨_, _, -, hpattern, -⟩
    cases hpattern

theorem readers_sound : ∀ entry ∈ readers, entry.2 condition value = .ok test →
    test.key = entry.1 ∧ test.HasOperand condition value := by
  have hitems {name : String} {make : List Json → Operator}
      (hmake : ∀ items, (make items).key = name ∧
        ((make items).HasOperand condition (.arr items)))
      (h : make <$> items name value = .ok test) :
      test.key = name ∧ test.HasOperand condition value := by
    obtain ⟨listed, hlisted, rfl⟩ := map_eq_ok.1 h
    rw [items_eq_ok.1 hlisted]
    exact hmake listed
  have hvalue {made : Operator} (h : (.ok made : Except Error Operator) = .ok test)
      {name : String} (hmade : made.key = name ∧ made.HasOperand condition value) :
      test.key = name ∧ test.HasOperand condition value := by
    cases h
    exact hmade
  simp only [readers, List.forall_mem_cons, List.not_mem_nil, false_implies, implies_true, and_true]
  refine ⟨(hvalue · ⟨rfl, rfl⟩), (hvalue · ⟨rfl, rfl⟩), hitems fun _ => ⟨rfl, rfl⟩,
    hitems fun _ => ⟨rfl, rfl⟩, hitems fun _ => ⟨rfl, rfl⟩, ?present, ?containedBy, ?text, ?near,
    ?within, ?geoWithin, ?geoIntersects, ?regex, (hvalue · ⟨rfl, rfl⟩), (hvalue · ⟨rfl, rfl⟩),
    (hvalue · ⟨rfl, rfl⟩), (hvalue · ⟨rfl, rfl⟩)⟩
  all_goals intro h
  case present =>
    obtain ⟨expected, rfl, hoperand⟩ := readPresent_eq_ok.1 h
    exact ⟨rfl, hoperand⟩
  case containedBy =>
    obtain ⟨items, rfl, hoperand⟩ := readContainedBy_eq_ok.1 h
    exact ⟨rfl, hoperand⟩
  case text =>
    obtain ⟨text, rfl, hoperand⟩ := (readSearch_eq_ok condition).1 h
    exact ⟨rfl, hoperand⟩
  case near =>
    obtain ⟨point, bound, rfl, hoperand⟩ := readNear_eq_ok.1 h
    exact ⟨rfl, hoperand⟩
  case within =>
    obtain ⟨southWest, northEast, rfl, hoperand⟩ := (readWithin_eq_ok condition).1 h
    exact ⟨rfl, hoperand⟩
  case geoWithin =>
    rcases (readGeoWithin_eq_ok condition).1 h with
      ⟨point, radius, rfl, hoperand⟩ | ⟨points, rfl, hoperand⟩
    · exact ⟨rfl, hoperand⟩
    · exact ⟨rfl, hoperand⟩
  case geoIntersects =>
    obtain ⟨point, rfl, hoperand⟩ := (readGeoIntersects_eq_ok condition).1 h
    exact ⟨rfl, hoperand⟩
  case regex =>
    obtain ⟨pattern, options, rfl, hoperand⟩ := readRegex_eq_ok.1 h
    exact ⟨rfl, hoperand⟩

theorem readers_complete (h : test.HasOperand condition value) :
    ∃ reader, Entries.find? readers test.key = some reader ∧ reader condition value = .ok test := by
  cases test with
  | ne | eq =>
    cases h
    exact ⟨_, rfl, rfl⟩
  | isIn items | notIn items | all items | containedBy items =>
    cases h
    exact ⟨_, rfl, rfl⟩
  | present expected =>
    cases h
    exact ⟨_, rfl, rfl⟩
  | search text => exact ⟨_, rfl, (readSearch_eq_ok condition).2 ⟨text, rfl, h⟩⟩
  | near point bound => exact ⟨_, rfl, readNear_eq_ok.2 ⟨point, bound, rfl, h⟩⟩
  | withinBox southWest northEast =>
    exact ⟨_, rfl, (readWithin_eq_ok condition).2 ⟨southWest, northEast, rfl, h⟩⟩
  | withinSphere point radius =>
    exact ⟨_, rfl, (readGeoWithin_eq_ok condition).2 (.inl ⟨point, radius, rfl, h⟩)⟩
  | withinPolygon points =>
    exact ⟨_, rfl, (readGeoWithin_eq_ok condition).2 (.inr ⟨points, rfl, h⟩)⟩
  | covers point => exact ⟨_, rfl, (readGeoIntersects_eq_ok condition).2 ⟨point, rfl, h⟩⟩
  | regex pattern options => exact ⟨_, rfl, readRegex_eq_ok.2 ⟨pattern, options, rfl, h⟩⟩
  | compare comparator operand =>
    cases h
    cases comparator with
    | _ => exact ⟨_, rfl, rfl⟩

/-- A condition as its tests describe it: it has no other keys than those of
tests and modifiers, and each key of a test has one test, in the order of tests. -/
structure Describes (condition : Entries Json) (tests : List Operator) : Prop where
  known : ∀ name ∈ Entries.keys condition, name ∈ order ∨ name ∈ modifiers
  asked : tests ≠ []
  keys : tests.map key = order.filter (· ∈ Entries.keys condition)
  operands : ∀ test ∈ tests, ∃ value, Entries.find? condition test.key = some value ∧
    test.HasOperand condition value

theorem isKnown_iff {name : String} : isKnown name ↔ name ∈ order ∨ name ∈ modifiers := by
  have horder : readers.map (·.1) = order := rfl
  rw [isKnown, Bool.or_eq_true, List.contains_iff_mem, ← horder, List.any_eq_true, List.mem_map]
  simp only [beq_iff_eq]

theorem mapM_readers_eq_ok {chosen : List (String × Reader)} {tests : List Operator}
    (hc : ∀ entry ∈ chosen, entry ∈ readers) :
    (chosen.filterMap fun entry =>
      (Entries.find? condition entry.1).map (entry.2 condition)).mapM id = .ok tests ↔
    tests.map key = (chosen.map (·.1)).filter (· ∈ Entries.keys condition) ∧
      ∀ test ∈ tests, ∃ value, Entries.find? condition test.key = some value ∧
        test.HasOperand condition value := by
  induction chosen generalizing tests with
  | nil =>
    refine ⟨fun h => ?_, fun h => ?_⟩
    · cases h
      exact ⟨rfl, nofun⟩
    · rw [List.map_eq_nil_iff.1 h.1]
      rfl
  | cons entry rest ih =>
    obtain ⟨name, reader⟩ := entry
    obtain ⟨hentry, hrest⟩ := List.forall_mem_cons.1 hc
    rw [List.filterMap_cons, List.map_cons, List.filter_cons]
    dsimp only
    cases hfound : Entries.find? condition name with
    | none =>
      have hno : name ∉ Entries.keys condition := by
        rw [Entries.mem_keys_iff, hfound]
        exact fun ⟨_, h⟩ => nomatch h
      simp only [Option.map_none, hno, decide_false, Bool.false_eq_true, if_false]
      exact ih hrest
    | some value =>
      have hyes : name ∈ Entries.keys condition := Entries.mem_keys_iff.2 ⟨value, hfound⟩
      simp only [Option.map_some, hyes, decide_true, if_true]
      rw [List.mapM_cons]
      constructor
      · intro h
        obtain ⟨test, htest, h⟩ := bind_eq_ok.1 h
        obtain ⟨others, hothers, h⟩ := bind_eq_ok.1 h
        cases h
        obtain ⟨hkey, hoperand⟩ := readers_sound _ hentry htest
        obtain ⟨hkeys, hoperands⟩ := (ih hrest).1 hothers
        refine ⟨by rw [List.map_cons, hkey, hkeys], List.forall_mem_cons.2 ⟨?_, hoperands⟩⟩
        exact ⟨value, by rw [hkey, hfound], hoperand⟩
      · rintro ⟨hkeys, hoperands⟩
        cases tests with
        | nil => cases hkeys
        | cons test others =>
          obtain ⟨hkey, hkeys⟩ := List.cons.inj hkeys
          obtain ⟨⟨given, hgiven, hoperand⟩, hoperands⟩ := List.forall_mem_cons.1 hoperands
          cases (hkey ▸ hgiven).symm.trans hfound
          obtain ⟨own, hown, hread⟩ := readers_complete hoperand
          have hsame : own = reader := by
            have hfirst := Entries.find?_of_mem_of_nodup (by decide) hentry
            rw [hkey, hfirst] at hown
            exact (Option.some.inj hown).symm
          subst hsame
          have hothers := (ih hrest).2 ⟨hkeys, hoperands⟩
          exact bind_eq_ok.2 ⟨test, hread, bind_eq_ok.2 ⟨others, hothers, rfl⟩⟩

theorem ofJson_eq_ok_iff {tests : List Operator} :
    ofJson condition = .ok tests ↔ Describes condition tests := by
  have hreads {found : List Operator} : readKnown condition = .ok found ↔
      found.map key = order.filter (· ∈ Entries.keys condition) ∧
        ∀ test ∈ found, ∃ value, Entries.find? condition test.key = some value ∧
          test.HasOperand condition value :=
    mapM_readers_eq_ok fun _ h => h
  unfold ofJson
  dsimp only
  split
  next name hname =>
    have hunknown := List.find?_some hname
    refine ⟨nofun, fun h => ?_⟩
    rw [isKnown_iff.2 (h.known name (List.mem_of_find?_eq_some hname))] at hunknown
    cases hunknown
  next hknown =>
    have hall : ∀ name ∈ Entries.keys condition, name ∈ order ∨ name ∈ modifiers := by
      intro name hname
      have hkept := List.find?_eq_none.1 (Option.eq_none_iff_forall_ne_some.2 hknown) name hname
      exact isKnown_iff.1 (by simpa using hkept)
    constructor
    · intro h
      obtain ⟨found, hfound, h⟩ := bind_eq_ok.1 h
      cases found with
      | nil => cases h
      | cons test rest =>
        cases h
        obtain ⟨hkeys, hoperands⟩ := hreads.1 hfound
        exact ⟨hall, List.cons_ne_nil _ _, hkeys, hoperands⟩
    · intro h
      refine bind_eq_ok.2 ⟨tests, hreads.2 ⟨h.keys, h.operands⟩, ?_⟩
      cases tests with
      | nil => exact absurd rfl h.asked
      | cons test rest => rfl

end Operator

end DocSql
