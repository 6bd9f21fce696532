import DocSql.Proofs.Query.Operands

/-!
Modifiers of a condition. Options qualify a pattern and distances a point, but a
condition may have them beside any test, and of several distances the first one
counts. So an accepted condition may have modifiers that make no difference to
what is read. Main statement: `Operator.ofJson_heeds_iff`.
-/
namespace DocSql.Operator

def distances : List String := distanceFactors.map (·.1)

/-- Another value of the member would be read as something else, or not at all. -/
def Heeds (condition : Entries Json) (name : String) : Prop :=
  ∃ value, ofJson (Entries.insert condition name value) ≠ ofJson condition

/-- The modifiers that qualify a test: options beside a pattern, and the first
distance beside a point. -/
def Governs (condition : Entries Json) (name : String) : Prop :=
  name = "$options" ∧ "$regex" ∈ Entries.keys condition ∨
    distances.find? (· ∈ Entries.keys condition) = some name ∧
      "$nearSphere" ∈ Entries.keys condition

def Carries (tests : List Operator) (name : String) (value : Json) : Prop :=
  (name = "$options" ∧ ∃ pattern options, value = .str options ∧ regex pattern options ∈ tests) ∨
    ∃ factor point d, (name, factor) ∈ distanceFactors ∧ distance? value = some d ∧
      near point (some (d * factor)) ∈ tests

/-- Modifiers stand only beside the tests that they qualify, and no two distances
stand together. -/
structure IsQualified (condition : Entries Json) : Prop where
  options : "$options" ∈ Entries.keys condition → "$regex" ∈ Entries.keys condition
  distance : ∀ name ∈ distances, name ∈ Entries.keys condition →
    "$nearSphere" ∈ Entries.keys condition
  single : ∀ name ∈ distances, ∀ other ∈ distances, name ∈ Entries.keys condition →
    other ∈ Entries.keys condition → name = other

variable {condition changed : Entries Json} {name : String} {value : Json} {tests : List Operator}

theorem mem_modifiers : name ∈ modifiers ↔ name = "$options" ∨ name ∈ distances :=
  List.mem_cons

theorem not_mem_order_of_mem_modifiers : ∀ name ∈ modifiers, name ∉ order := by
  decide

def firstGiven (condition : Entries Json) (chosen : List (String × Double)) :
    Option (String × Double × Json) :=
  chosen.findSome? fun (key, factor) => (Entries.find? condition key).map (key, factor, ·)

theorem maxDistance_eq (condition : Entries Json) : maxDistance condition =
    match firstGiven condition distanceFactors with
    | none => .ok none
    | some (key, factor, value) =>
      match distance? value with
      | some d => .ok (some (d * factor))
      | none => .error (.invalidQuery ("bad " ++ key ++ " value: " ++ value.text)) :=
  rfl

theorem firstGiven_cons (condition : Entries Json) (key : String) (factor : Double)
    (rest : List (String × Double)) : firstGiven condition ((key, factor) :: rest) =
      match Entries.find? condition key with
      | some value => some (key, factor, value)
      | none => firstGiven condition rest := by
  unfold firstGiven
  rw [List.findSome?_cons]
  dsimp only
  cases Entries.find? condition key with
  | none => rfl
  | some value => rfl

theorem firstGiven_congr {chosen : List (String × Double)}
    (hfirst : (chosen.map (·.1)).find? (· ∈ Entries.keys condition) ≠ some name)
    (hfound : ∀ key ≠ name, Entries.find? changed key = Entries.find? condition key)
    (hname : name ∈ Entries.keys changed → name ∈ Entries.keys condition) :
    firstGiven changed chosen = firstGiven condition chosen := by
  induction chosen with
  | nil => rfl
  | cons entry rest ih =>
    obtain ⟨key, factor⟩ := entry
    rw [List.map_cons, List.find?_cons] at hfirst
    rw [firstGiven_cons, firstGiven_cons]
    by_cases hgiven : key ∈ Entries.keys condition
    · have hother : key ≠ name := by
        rintro rfl
        simp [hgiven] at hfirst
      obtain ⟨value, hvalue⟩ := Entries.mem_keys_iff.1 hgiven
      rw [hfound key hother, hvalue]
    · have hskipped : key ∉ Entries.keys changed := by
        by_cases hsame : key = name
        · exact hsame ▸ fun h => hgiven (hsame ▸ hname h)
        · rwa [Entries.mem_keys_iff, hfound key hsame, ← Entries.mem_keys_iff]
      rw [Entries.find?_eq_none_iff.2 hskipped, Entries.find?_eq_none_iff.2 hgiven]
      simp only [hgiven, decide_false] at hfirst
      exact ih hfirst

theorem firstGiven_of_first {chosen : List (String × Double)}
    (hfirst : (chosen.map (·.1)).find? (· ∈ Entries.keys condition) = some name)
    (hvalue : Entries.find? condition name = some value) :
    ∃ factor, (name, factor) ∈ chosen ∧
      firstGiven condition chosen = some (name, factor, value) := by
  induction chosen with
  | nil => cases hfirst
  | cons entry rest ih =>
    obtain ⟨key, factor⟩ := entry
    rw [List.map_cons, List.find?_cons] at hfirst
    rw [firstGiven_cons]
    by_cases hgiven : key ∈ Entries.keys condition
    · simp only [hgiven, decide_true, Option.some.injEq] at hfirst
      subst hfirst
      rw [hvalue]
      exact ⟨factor, List.mem_cons_self, rfl⟩
    · simp only [hgiven, decide_false] at hfirst
      obtain ⟨own, hown, hrest⟩ := ih hfirst
      rw [Entries.find?_eq_none_iff.2 hgiven]
      exact ⟨own, List.mem_cons_of_mem _ hown, hrest⟩

theorem Describes.of_agree (h : Describes condition tests)
    (hfound : ∀ key ∈ order, Entries.find? changed key = Entries.find? condition key)
    (hkept : ∀ key ∈ Entries.keys changed, key ∈ Entries.keys condition)
    (hbound : "$nearSphere" ∈ Entries.keys condition → maxDistance changed = maxDistance condition)
    (hoptions : "$regex" ∈ Entries.keys condition →
      Entries.find? changed "$options" = Entries.find? condition "$options") :
    Describes changed tests where
  known := fun key hkey => h.known key (hkept key hkey)
  asked := h.asked
  keys := by
    rw [h.keys]
    refine List.filter_congr fun key hkey => ?_
    rw [decide_eq_decide, Entries.mem_keys_iff, Entries.mem_keys_iff, hfound key hkey]
  operands := by
    intro test htest
    obtain ⟨operand, hoperand, hhas⟩ := h.operands test htest
    have hkey : test.key ∈ Entries.keys condition := Entries.mem_keys_iff.2 ⟨operand, hoperand⟩
    have horder : test.key ∈ order := by
      have hmem := List.mem_map_of_mem htest (f := key)
      rw [h.keys] at hmem
      exact List.mem_of_mem_filter hmem
    refine ⟨operand, by rw [hfound _ horder, hoperand], ?_⟩
    cases test with
    | near point bound => exact ⟨hhas.1, (hbound hkey).trans hhas.2⟩
    | regex pattern options => exact ⟨hhas.1, hhas.2.1, by rw [hoptions hkey]; exact hhas.2.2⟩
    | _ => exact hhas

theorem Describes.exists_test (h : Describes condition tests) {key : String} (horder : key ∈ order)
    (hkey : key ∈ Entries.keys condition) : ∃ test ∈ tests, test.key = key ∧
      ∃ value, Entries.find? condition key = some value ∧ test.HasOperand condition value := by
  have hmem : key ∈ tests.map Operator.key := by
    rw [h.keys]
    exact List.mem_filter.2 ⟨horder, decide_eq_true hkey⟩
  obtain ⟨test, htest, rfl⟩ := List.mem_map.1 hmem
  exact ⟨test, htest, rfl, h.operands test htest⟩

theorem Describes.exists_regex (h : Describes condition tests)
    (hkey : "$regex" ∈ Entries.keys condition) : ∃ pattern options, regex pattern options ∈ tests ∧
      (Entries.find? condition "$options").getD (.str "") = .str options := by
  obtain ⟨test, htest, hown, value, -, hhas⟩ := h.exists_test (by decide) hkey
  cases test with
  | regex pattern options => exact ⟨pattern, options, htest, hhas.2.2⟩
  | compare comparator => cases comparator <;> simp [key, Comparator.key] at hown
  | _ => simp [key] at hown

theorem Describes.exists_near (h : Describes condition tests)
    (hkey : "$nearSphere" ∈ Entries.keys condition) :
    ∃ point bound, near point bound ∈ tests ∧ maxDistance condition = .ok bound := by
  obtain ⟨test, htest, hown, value, -, hhas⟩ := h.exists_test (by decide) hkey
  cases test with
  | near point bound => exact ⟨point, bound, htest, hhas.2⟩
  | compare comparator => cases comparator <;> simp [key, Comparator.key] at hown
  | _ => simp [key] at hown

theorem Describes.of_not_governs (h : Describes condition tests) (hmodifier : name ∈ modifiers)
    (hgoverns : ¬ Governs condition name)
    (hfound : ∀ key ≠ name, Entries.find? changed key = Entries.find? condition key)
    (hname : name ∈ Entries.keys changed → name ∈ Entries.keys condition) :
    Describes changed tests := by
  refine h.of_agree (fun key hkey => hfound key ?_) (fun key hkey => ?_) (fun hnear => ?_)
    fun hregex => hfound _ ?_
  · rintro rfl
    exact not_mem_order_of_mem_modifiers key hmodifier hkey
  · by_cases hsame : key = name
    · exact hsame ▸ hname (hsame ▸ hkey)
    · rwa [Entries.mem_keys_iff, hfound key hsame, ← Entries.mem_keys_iff] at hkey
  · have hfirst : distances.find? (· ∈ Entries.keys condition) ≠ some name :=
      fun hfirst => hgoverns (.inr ⟨hfirst, hnear⟩)
    rw [maxDistance_eq, maxDistance_eq, firstGiven_congr hfirst hfound hname]
  · rintro rfl
    exact hgoverns (.inl ⟨rfl, hregex⟩)

theorem Describes.carries (h : Describes condition tests) (hgoverns : Governs condition name)
    (hvalue : Entries.find? condition name = some value) : Carries tests name value := by
  rcases hgoverns with ⟨rfl, hregex⟩ | ⟨hfirst, hnear⟩
  · obtain ⟨pattern, options, hmem, hoptions⟩ := h.exists_regex hregex
    rw [hvalue] at hoptions
    exact .inl ⟨rfl, pattern, options, hoptions, hmem⟩
  · obtain ⟨point, bound, hmem, hbound⟩ := h.exists_near hnear
    obtain ⟨factor, hfactor, hgiven⟩ := firstGiven_of_first hfirst hvalue
    rw [maxDistance_eq, hgiven] at hbound
    dsimp only at hbound
    cases hd : distance? value with
    | none =>
      rw [hd] at hbound
      cases hbound
    | some d =>
      rw [hd] at hbound
      cases hbound
      exact .inr ⟨factor, point, d, hfactor, hd, hmem⟩

theorem not_carries_null : ¬ Carries tests name .null := by
  rintro (⟨_, _, _, h, _⟩ | ⟨_, _, d, _, h, _⟩)
  · cases h
  · cases h

theorem keys_insert_of_mem (hname : name ∈ Entries.keys condition) {key : String} :
    key ∈ Entries.keys (Entries.insert condition name value) ↔ key ∈ Entries.keys condition := by
  rw [Entries.mem_keys_iff, Entries.find?_insert]
  split
  next hsame => exact iff_of_true ⟨value, rfl⟩ (hsame ▸ hname)
  next => exact Entries.mem_keys_iff.symm

theorem governs_insert_iff (hname : name ∈ Entries.keys condition) {key : String} :
    Governs (Entries.insert condition name value) key ↔ Governs condition key := by
  unfold Governs
  simp only [keys_insert_of_mem hname]

theorem heeds_iff_governs (h : Describes condition tests) (hmodifier : name ∈ modifiers)
    (hname : name ∈ Entries.keys condition) : Heeds condition name ↔ Governs condition name := by
  have hread : ofJson condition = .ok tests := ofJson_eq_ok_iff.2 h
  constructor
  · rintro ⟨value, hheeded⟩
    by_contra hgoverns
    refine hheeded ?_
    rw [hread, ofJson_eq_ok_iff]
    exact h.of_not_governs hmodifier hgoverns
      (fun key hkey => Entries.find?_insert_other condition value hkey.symm) fun _ => hname
  · intro hgoverns
    -- Null is no value of options or distances, so a test that carries it cannot be read.
    refine ⟨.null, fun hsame => ?_⟩
    have hchanged : Describes (Entries.insert condition name .null) tests :=
      ofJson_eq_ok_iff.1 (hsame.trans hread)
    have hcarries := hchanged.carries ((governs_insert_iff hname).2 hgoverns)
      (Entries.find?_insert_self condition name .null)
    exact not_carries_null hcarries

theorem governs_iff_isQualified :
    (∀ name ∈ modifiers, name ∈ Entries.keys condition → Governs condition name) ↔
      IsQualified condition := by
  constructor
  · intro h
    have hdistance : ∀ name ∈ distances, name ∈ Entries.keys condition →
        distances.find? (· ∈ Entries.keys condition) = some name ∧
          "$nearSphere" ∈ Entries.keys condition := by
      intro name hmem hname
      rcases h name (mem_modifiers.2 (.inr hmem)) hname with ⟨rfl, _⟩ | hfirst
      · exact absurd hmem (by decide)
      · exact hfirst
    refine ⟨fun hname => ?_, fun name hmem hname => (hdistance name hmem hname).2,
      fun name hmem other hother hname hname' => ?_⟩
    · rcases h "$options" (by decide) hname with ⟨_, hregex⟩ | ⟨hfirst, _⟩
      · exact hregex
      · exact absurd (List.mem_of_find?_eq_some hfirst) (by decide)
    · have hfirst := (hdistance name hmem hname).1
      rw [(hdistance other hother hname').1] at hfirst
      exact (Option.some.inj hfirst).symm
  · intro h name hmodifier hname
    rcases mem_modifiers.1 hmodifier with rfl | hmem
    · exact .inl ⟨rfl, h.options hname⟩
    · refine .inr ⟨?_, h.distance name hmem hname⟩
      cases hfirst : distances.find? (· ∈ Entries.keys condition) with
      | none => exact absurd hname (by simpa using List.find?_eq_none.1 hfirst name hmem)
      | some first =>
        have hgiven : first ∈ Entries.keys condition := by simpa using List.find?_some hfirst
        rw [h.single first (List.mem_of_find?_eq_some hfirst) name hmem hgiven hname]

/-- The modifiers of an accepted condition that make a difference are those that
qualify a test, which then has what they give; the others could as well be left
out. All of them make one just if options stand only beside a pattern, distances
only beside a point, and no two distances together. -/
theorem ofJson_heeds_iff (h : ofJson condition = .ok tests) :
    (∀ name ∈ modifiers, ∀ value, Entries.find? condition name = some value →
      (Heeds condition name ↔ Governs condition name) ∧
      (Governs condition name → Carries tests name value) ∧
      (¬ Governs condition name → ofJson (Entries.erase condition name) = .ok tests)) ∧
    ((∀ name ∈ modifiers, name ∈ Entries.keys condition → Heeds condition name) ↔
      IsQualified condition) := by
  have hdescribes := ofJson_eq_ok_iff.1 h
  refine ⟨fun name hmodifier value hvalue => ?_, ?_⟩
  · have hname : name ∈ Entries.keys condition := Entries.mem_keys_iff.2 ⟨value, hvalue⟩
    refine ⟨heeds_iff_governs hdescribes hmodifier hname, (hdescribes.carries · hvalue), ?_⟩
    intro hgoverns
    refine ofJson_eq_ok_iff.2 (hdescribes.of_not_governs hmodifier hgoverns ?_ fun _ => hname)
    intro key hkey
    rw [Entries.find?_erase, if_neg hkey]
  · rw [← governs_iff_isQualified]
    refine forall_congr' fun name => forall_congr' fun hmodifier => forall_congr' fun hname => ?_
    exact heeds_iff_governs hdescribes hmodifier hname

/-- A point with a distance and a pattern with options. -/
theorem modifiers_heeded :
    let point := Json.obj [("__type", .str "GeoPoint"), ("latitude", .int 1), ("longitude", .int 2)]
    let condition := [("$maxDistance", .int 1), ("$nearSphere", point), ("$options", .str "i"),
      ("$regex", .str "a")]
    (ofJson condition).isOk ∧ Heeds condition "$options" ∧ Heeds condition "$maxDistance" := by
  intro point condition
  have hok : (ofJson condition).isOk := by decide +kernel
  obtain ⟨tests, h⟩ := exists_of_isOk hok
  have hall := (ofJson_heeds_iff h).2.2 ⟨by decide, by decide, by decide⟩
  exact ⟨hok, hall _ (by decide) (by decide), hall _ (by decide) (by decide)⟩

/-- Options beside a comparison, and the second of two distances, are accepted and
make no difference. -/
theorem modifiers_ignored :
    let compared := [("$gt", Json.int 1), ("$options", .str "i")]
    let point := Json.obj [("__type", .str "GeoPoint"), ("latitude", .int 1), ("longitude", .int 2)]
    let bounded :=
      [("$maxDistance", .int 1), ("$maxDistanceInMiles", .int 5), ("$nearSphere", point)]
    (ofJson compared).isOk ∧ ¬ Heeds compared "$options" ∧
      (ofJson bounded).isOk ∧ ¬ Heeds bounded "$maxDistanceInMiles" := by
  intro compared point bounded
  have hignored {condition : Entries Json} {name : String} (hok : (ofJson condition).isOk)
      (hmodifier : name ∈ modifiers) (hname : name ∈ Entries.keys condition)
      (hgoverns : ¬ Governs condition name) : ¬ Heeds condition name := by
    obtain ⟨tests, h⟩ := exists_of_isOk hok
    exact fun hheeds =>
      hgoverns ((heeds_iff_governs (ofJson_eq_ok_iff.1 h) hmodifier hname).1 hheeds)
  have hcompared : (ofJson compared).isOk := rfl
  have hbounded : (ofJson bounded).isOk := by decide +kernel
  refine ⟨hcompared, hignored hcompared (by decide) (by decide) ?_,
    hbounded, hignored hbounded (by decide) (by decide) ?_⟩
  · rintro (⟨-, h⟩ | ⟨h, -⟩)
    · exact absurd h (by decide)
    · exact absurd h (by decide)
  · rintro (⟨h, -⟩ | ⟨h, -⟩)
    · exact absurd h (by decide)
    · exact absurd h (by decide)

end DocSql.Operator
