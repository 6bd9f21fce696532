import DocSql.Proofs.Joining
import DocSql.Proofs.Store.SchemaDocument

/-!
What the engine reads in the path of a change of metadata. It takes the path for
an array literal, where keys may be quoted and escaped and lose the blanks
around them, while the path is its keys joined by commas. So keys that have a
comma make equal texts of different paths, and only plain keys are read back.
Main statement: `Catalog.setSchemaPath_reads_iff`.
-/
namespace DocSql

namespace Sql

/-- Where the reading of an array literal is. -/
inductive Scan
  /-- Before an element, or before the end where there is none yet. -/
  | opening (isFirst : Bool)
  /-- In an element without quotes, after some blanks that may not belong to it. -/
  | bare (text blanks : List Char) (isEscaped : Bool)
  | escape (text : List Char)
  | quoted (text : List Char)
  | quotedEscape (text : List Char)
  | closed (text : List Char)
  | ended

/-- The word for null, which is no text unless a part of it is escaped. -/
def isNullWord (text : List Char) : Bool := text.map Char.toLower == "null".toList

namespace Scan

def parted (c : Char) : Scan := if c = ',' then opening false else ended

def step (c : Char) : Scan → Option (Option (List Char) × Scan)
  | opening isFirst =>
    if c = '\x7d' ∧ isFirst then some (none, ended)
    else if c = '"' then some (none, quoted [])
    else if c = '\\' then some (none, escape [])
    else if isArrayMark c then none
    else if isArraySpace c then some (none, opening isFirst)
    else some (none, bare [c] [] false)
  | bare text blanks isEscaped =>
    if c = ',' ∨ c = '\x7d' then
      if !isEscaped && isNullWord text then none else some (some text, parted c)
    else if c = '\\' then some (none, escape (text ++ blanks))
    else if isArrayMark c then none
    else if isArraySpace c then some (none, bare text (blanks ++ [c]) isEscaped)
    else some (none, bare (text ++ blanks ++ [c]) [] isEscaped)
  | escape text => some (none, bare (text ++ [c]) [] true)
  | quoted text =>
    if c = '"' then some (none, closed text)
    else if c = '\\' then some (none, quotedEscape text)
    else some (none, quoted (text ++ [c]))
  | quotedEscape text => some (none, quoted (text ++ [c]))
  | closed text =>
    if c = ',' ∨ c = '\x7d' then some (some text, parted c)
    else if isArraySpace c then some (none, closed text)
    else none
  | ended => if isArraySpace c then some (none, ended) else none

def run : Scan → List Char → Option (List (List Char))
  | ended, [] => some []
  | _, [] => none
  | scan, c :: rest =>
    match scan.step c with
    | none => none
    | some (element?, next) => (next.run rest).map (element?.toList ++ ·)

end Scan

def readArray? (text : String) : Option (List String) :=
  match text.toList.dropWhile isArraySpace with
  | '\x7b' :: rest => ((Scan.opening true).run rest).map (·.map String.ofList)
  | _ => none

def weight : List (List Char) → Nat
  | [] => 0
  | element :: rest => element.length + 1 + weight rest

theorem weight_append (first rest : List (List Char)) :
    weight (first ++ rest) = weight first + weight rest := by
  induction first with
  | nil => exact (Nat.zero_add _).symm
  | cons element others ih =>
    rw [List.cons_append, weight, weight, ih]
    omega

/-- A text that nothing was left out of, nor read as something else. -/
structure IsVerbatim (text : List Char) : Prop where
  nonempty : text ≠ []
  unmarked : ∀ c ∈ text, isArrayMark c = false
  head : ∀ c ∈ text.head?, isArraySpace c = false
  last : ∀ c ∈ text.getLast?, isArraySpace c = false

theorem isPlainElement_iff {element : List Char} :
    isPlainElement element ↔ IsVerbatim element ∧ isNullWord element = false := by
  have hhead (place : Option Char) :
      (!place.any isArraySpace) = true ↔ ∀ c ∈ place, isArraySpace c = false := by
    cases place with
    | none => simp
    | some c => simp
  unfold isPlainElement isNullWord
  simp only [Bool.and_eq_true, hhead, bne_iff_ne, beq_eq_false_iff_ne]
  constructor
  · rintro ⟨⟨⟨⟨hne, hmarks⟩, hfirst⟩, hlast⟩, hnull⟩
    exact ⟨⟨by simpa using hne, by simpa using hmarks, hfirst, hlast⟩, hnull⟩
  · rintro ⟨⟨hne, hmarks, hfirst, hlast⟩, hnull⟩
    exact ⟨⟨⟨⟨by simpa using hne, by simpa using hmarks⟩, hfirst⟩, hlast⟩, hnull⟩

theorem IsVerbatim.single {c : Char} (hmark : isArrayMark c = false)
    (hspace : isArraySpace c = false) : IsVerbatim [c] := by
  refine ⟨List.cons_ne_nil _ _, ?_, ?_, ?_⟩
  · simpa using hmark
  · simpa using hspace
  · simpa using hspace

theorem IsVerbatim.snoc {text blanks : List Char} (h : IsVerbatim text)
    (hb : ∀ c ∈ blanks, isArrayMark c = false) {c : Char} (hmark : isArrayMark c = false)
    (hspace : isArraySpace c = false) : IsVerbatim (text ++ blanks ++ [c]) where
  nonempty := by simp
  unmarked := by
    intro d hd
    rcases List.mem_append.1 hd with hd | hd
    · exact (List.mem_append.1 hd).elim (h.unmarked d) (hb d)
    · exact List.mem_singleton.1 hd ▸ hmark
  head := by
    rw [List.append_assoc, List.head?_append_of_ne_nil _ h.nonempty]
    exact h.head
  last := by
    intro d hd
    rw [List.getLast?_concat] at hd
    cases hd
    exact hspace

namespace Scan

def taken : Scan → Nat
  | opening _ | ended => 0
  | bare text blanks _ => text.length + blanks.length
  | escape text | quoted text | quotedEscape text | closed text => text.length

def IsClean : Scan → Prop
  | opening _ | ended => True
  | bare text blanks isEscaped =>
    isEscaped = false ∧ IsVerbatim text ∧ ∀ c ∈ blanks, isArrayMark c = false
  | escape _ | quoted _ | quotedEscape _ | closed _ => False

variable {scan next : Scan} {c : Char} {element? : Option (List Char)} {chars : List Char}
  {elements : List (List Char)}

theorem taken_parted (c : Char) : (parted c).taken = 0 := by
  unfold parted
  split <;> rfl

theorem isClean_parted (c : Char) : (parted c).IsClean := by
  unfold parted
  split <;> trivial

/-- What reading a character comes to: it is a mark or a blank that counts for
nothing, or is taken, or ends an element. -/
inductive Effect (scan : Scan) (c : Char) : Option (List Char) → Scan → Prop
  | skips {next : Scan} (h : next.taken = scan.taken) : Effect scan c none next
  | takes {next : Scan} (h : next.taken = scan.taken + 1) (hc : scan.IsClean → next.IsClean) :
    Effect scan c none next
  | ends {text : List Char} (h : text.length ≤ scan.taken)
    (hc : scan.IsClean → isPlainElement text) : Effect scan c (some text) (parted c)

theorem step_effect (h : scan.step c = some (element?, next)) : Effect scan c element? next := by
  cases scan with
  | opening isFirst =>
    simp only [step] at h
    split at h
    · cases h
      exact .skips rfl
    split at h
    · cases h
      exact .skips rfl
    split at h
    · cases h
      exact .skips rfl
    split at h
    · cases h
    next hmark =>
      split at h
      · cases h
        exact .skips rfl
      next hspace =>
        cases h
        have hclean := IsVerbatim.single (eq_false_of_ne_true hmark) (eq_false_of_ne_true hspace)
        exact .takes rfl fun _ => ⟨rfl, hclean, nofun⟩
  | bare text blanks isEscaped =>
    simp only [step] at h
    split at h
    · split at h
      · cases h
      next hnull =>
        cases h
        refine .ends (Nat.le_add_right _ _) ?_
        rintro ⟨rfl, htext, -⟩
        exact isPlainElement_iff.2 ⟨htext, by simpa using hnull⟩
    split at h
    · cases h
      exact .skips List.length_append
    split at h
    · cases h
    next hmark =>
      have hc := eq_false_of_ne_true hmark
      split at h
      · cases h
        refine .takes (by simp [taken, Nat.add_assoc]) ?_
        rintro ⟨rfl, htext, hblanks⟩
        exact ⟨rfl, htext, List.forall_mem_append.2 ⟨hblanks, by simpa using hc⟩⟩
      next hspace =>
        cases h
        refine .takes (by simp [taken, Nat.add_assoc]) ?_
        rintro ⟨rfl, htext, hblanks⟩
        exact ⟨rfl, htext.snoc hblanks hc (eq_false_of_ne_true hspace), nofun⟩
  | escape text | quotedEscape text =>
    cases h
    exact .takes (by simp [taken]) False.elim
  | quoted text =>
    simp only [step] at h
    split at h
    · cases h
      exact .skips rfl
    split at h
    · cases h
      exact .skips rfl
    · cases h
      exact .takes (by simp [taken]) False.elim
  | closed text =>
    simp only [step] at h
    split at h
    · cases h
      exact .ends (Nat.le_refl _) False.elim
    split at h
    · cases h
      exact .skips rfl
    · cases h
  | ended =>
    simp only [step] at h
    split at h
    · cases h
      exact .skips rfl
    · cases h

theorem Effect.weight_le (h : Effect scan c element? next) :
    weight element?.toList + next.taken ≤ scan.taken + 1 := by
  cases h with
  | skips h => simp [weight, h]
  | takes h hc => simp [weight, h]
  | ends h hc =>
    rw [taken_parted]
    simpa [weight] using h

theorem Effect.clean (h : Effect scan c element? next) (hc : scan.IsClean)
    (hw : scan.taken + 1 ≤ weight element?.toList + next.taken) :
    next.IsClean ∧ ∀ element ∈ element?, isPlainElement element := by
  cases h with
  | skips h =>
    change scan.taken + 1 ≤ 0 + next.taken at hw
    omega
  | takes h hnext => exact ⟨hnext hc, nofun⟩
  | ends h hplain =>
    refine ⟨isClean_parted c, fun element helement => ?_⟩
    cases helement
    exact hplain hc

theorem run_cons (scan : Scan) (c : Char) (rest : List Char) : scan.run (c :: rest) =
    (scan.step c).bind fun (element?, next) => (next.run rest).map (element?.toList ++ ·) := by
  cases hstep : scan.step c with
  | none => simp [run, hstep]
  | some result => simp [run, hstep]

theorem run_weight (h : scan.run chars = some elements) :
    weight elements ≤ scan.taken + chars.length := by
  induction chars generalizing scan elements with
  | nil =>
    cases scan with
    | ended =>
      cases h
      exact Nat.le_refl 0
    | _ => cases h
  | cons c rest ih =>
    rw [run_cons] at h
    obtain ⟨⟨element?, next⟩, hstep, h⟩ := Option.bind_eq_some_iff.1 h
    obtain ⟨others, hothers, rfl⟩ := Option.map_eq_some_iff.1 h
    have hfirst := (step_effect hstep).weight_le
    have hrest := ih hothers
    rw [weight_append, List.length_cons]
    omega

theorem run_clean (h : scan.run chars = some elements) (hc : scan.IsClean)
    (hw : scan.taken + chars.length ≤ weight elements) :
    ∀ element ∈ elements, isPlainElement element := by
  induction chars generalizing scan elements with
  | nil =>
    cases scan with
    | ended =>
      cases h
      exact nofun
    | _ => cases h
  | cons c rest ih =>
    rw [run_cons] at h
    obtain ⟨⟨element?, next⟩, hstep, h⟩ := Option.bind_eq_some_iff.1 h
    obtain ⟨others, hothers, rfl⟩ := Option.map_eq_some_iff.1 h
    -- The rest cannot make up for a character that is skipped here.
    have heffect := step_effect hstep
    have hfirst := heffect.weight_le
    have hrest := run_weight hothers
    rw [weight_append, List.length_cons] at hw
    obtain ⟨hnext, hplain⟩ := heffect.clean hc (by omega)
    refine List.forall_mem_append.2 ⟨fun element helement => ?_, ih hothers hnext (by omega)⟩
    exact hplain element (Option.mem_toList.1 helement)

theorem ne_of_unmarked {mark : Char} (hc : isArrayMark c = false) (hm : isArrayMark mark) :
    c ≠ mark := by
  rintro rfl
  rw [hm] at hc
  cases hc

theorem step_opening (isFirst : Bool) (hmark : isArrayMark c = false)
    (hspace : isArraySpace c = false) :
    (opening isFirst).step c = some (none, bare [c] [] false) := by
  have hend : c ≠ '\x7d' := ne_of_unmarked hmark rfl
  have hquote : c ≠ '"' := ne_of_unmarked hmark rfl
  have hescape : c ≠ '\\' := ne_of_unmarked hmark rfl
  simp [step, hend, hquote, hescape, hmark, hspace]

theorem step_bare (text blanks : List Char) (isEscaped : Bool) (hmark : isArrayMark c = false) :
    (bare text blanks isEscaped).step c = some (none,
      if isArraySpace c then bare text (blanks ++ [c]) isEscaped
      else bare (text ++ blanks ++ [c]) [] isEscaped) := by
  have hpart : c ≠ ',' := ne_of_unmarked hmark rfl
  have hend : c ≠ '\x7d' := ne_of_unmarked hmark rfl
  have hescape : c ≠ '\\' := ne_of_unmarked hmark rfl
  simp only [step, hpart, hend, hescape, hmark, or_self, if_false, Bool.false_eq_true]
  split
  · rfl
  · rfl

theorem run_bare {text blanks more : List Char} (rest : List Char)
    (hmarks : ∀ c ∈ more, isArrayMark c = false)
    (hlast : ∀ c ∈ more.getLast?, isArraySpace c = false) (hnone : more = [] → blanks = []) :
    (bare text blanks false).run (more ++ rest) =
      (bare (text ++ blanks ++ more) [] false).run rest := by
  induction more generalizing text blanks with
  | nil => rw [hnone rfl, List.append_nil, List.append_nil, List.nil_append]
  | cons c more ih =>
    obtain ⟨hmark, hmarks⟩ := List.forall_mem_cons.1 hmarks
    have hlater : ∀ d ∈ more.getLast?, isArraySpace d = false := fun d hd =>
      hlast d (List.mem_getLast?_cons hd)
    rw [List.cons_append, run_cons, step_bare _ _ _ hmark]
    change Option.map ([] ++ ·) _ = _
    simp only [List.nil_append, Option.map_id']
    split
    next hspace =>
      have hmore : more ≠ [] := by
        rintro rfl
        rw [hlast c rfl] at hspace
        cases hspace
      rw [ih hmarks hlater fun h => absurd h hmore]
      simp
    next =>
      rw [ih hmarks hlater fun _ => rfl]
      simp

theorem run_plain {element : List Char} (h : isPlainElement element) {mark : Char}
    (hmark : mark = ',' ∨ mark = '\x7d') (isFirst : Bool) (rest : List Char) :
    (opening isFirst).run (element ++ mark :: rest) =
      ((parted mark).run rest).map (element :: ·) := by
  obtain ⟨hverbatim, hnull⟩ := isPlainElement_iff.1 h
  cases element with
  | nil => exact absurd rfl hverbatim.nonempty
  | cons c more =>
    obtain ⟨hfirst, hmarks⟩ := List.forall_mem_cons.1 hverbatim.unmarked
    have hlast : ∀ d ∈ more.getLast?, isArraySpace d = false := fun d hd =>
      hverbatim.last d (List.mem_getLast?_cons hd)
    have hend : (bare (c :: more) [] false).step mark = some (some (c :: more), parted mark) := by
      simp only [step, hmark, hnull, if_true]
      rfl
    rw [List.cons_append, run_cons, step_opening isFirst hfirst (hverbatim.head c rfl)]
    change Option.map ([] ++ ·) _ = _
    simp only [List.nil_append, Option.map_id']
    rw [run_bare _ hmarks hlast fun _ => rfl, run_cons, List.append_nil, List.singleton_append,
      hend]
    rfl

theorem run_elements {elements : List (List Char)} (hne : elements ≠ [])
    (h : ∀ element ∈ elements, isPlainElement element) (isFirst : Bool) :
    (opening isFirst).run ([','].intercalate elements ++ ['\x7d']) = some elements := by
  induction elements generalizing isFirst with
  | nil => exact absurd rfl hne
  | cons element rest ih =>
    obtain ⟨hfirst, hrest⟩ := List.forall_mem_cons.1 h
    cases rest with
    | nil =>
      rw [List.intercalate_singleton, run_plain hfirst (.inr rfl)]
      rfl
    | cons second rest =>
      rw [List.intercalate_cons_cons, List.append_assoc, List.append_assoc, List.singleton_append,
        run_plain hfirst (.inl rfl)]
      change ((opening false).run _).map _ = _
      rw [ih (List.cons_ne_nil _ _) hrest]
      rfl

end Scan

theorem length_intercalate_add_one {elements : List (List Char)} (hne : elements ≠ []) :
    ([','].intercalate elements).length + 1 = weight elements := by
  induction elements with
  | nil => exact absurd rfl hne
  | cons element rest ih =>
    cases rest with
    | nil => simp [weight]
    | cons second rest =>
      have hrest := ih (List.cons_ne_nil _ _)
      rw [List.intercalate_cons_cons, weight, ← hrest]
      simp
      omega

theorem readArray?_of_arrayElements? {text : String} {path : List String}
    (h : arrayElements? text = some path) : readArray? text = some path := by
  unfold arrayElements? at h
  split at h
  next rest htext =>
    dsimp only at h
    split at h
    next hread =>
      cases h
      have hrest : rest = [','].intercalate (rest.dropLast.splitOn ',') ++ ['\x7d'] := by
        rw [List.intercalate_splitOn]
        exact (List.dropLast_append_getLast? _ hread.1).symm
      unfold readArray?
      rw [htext]
      change (((Scan.opening true).run rest).map _) = _
      have hrun := Scan.run_elements (List.splitOn_ne_nil ',' rest.dropLast)
        (by simpa using hread.2) true
      rw [← hrest] at hrun
      rw [hrun]
      rfl
    next => cases h
  next => cases h

theorem readArray?_pathText_iff {path : List String} :
    readArray? (Catalog.pathText path) = some path ↔ ∀ key ∈ path, isPlainElement key.toList := by
  by_cases hne : path = []
  · subst hne
    exact iff_of_true rfl nofun
  constructor
  · intro h
    unfold readArray? at h
    rw [pathText_toList] at h
    change ((Scan.opening true).run _).map _ = _ at h
    obtain ⟨elements, hrun, hpath⟩ := Option.map_eq_some_iff.1 h
    have helements : elements = path.map String.toList := by
      rw [← hpath, List.map_map]
      simp
    -- The text has the characters of the keys and one mark after each, and no more.
    have hlength := length_intercalate_add_one (by simpa using hne : path.map String.toList ≠ [])
    have hplain := Scan.run_clean hrun trivial (by rw [helements, ← hlength]; simp [Scan.taken])
    rw [helements] at hplain
    simpa using hplain
  · exact fun h => readArray?_of_arrayElements? (arrayElements?_pathText hne h)

def pieces (path : List String) : List (List Char) :=
  path.flatMap fun key => key.toList.splitOn ','

theorem pieces_eq (path : List String) : pieces path = piecesOf ',' (path.map String.toList) := by
  rw [pieces, piecesOf, List.flatMap_map]

theorem pieces_ne_nil (key : String) (rest : List String) : pieces (key :: rest) ≠ [] :=
  List.append_ne_nil_of_left_ne_nil (List.splitOn_ne_nil ',' key.toList) _

theorem intercalate_keys_ne_nil {key : String} (h : key ≠ "") (rest : List String) :
    [','].intercalate ((key :: rest).map String.toList) ≠ [] := by
  cases rest with
  | nil => simpa using h
  | cons second rest => simp [List.intercalate_cons_cons]

theorem pathText_eq_iff {path other : List String} (hp : ∀ key ∈ path, key ≠ "")
    (ho : ∀ key ∈ other, key ≠ "") :
    Catalog.pathText path = Catalog.pathText other ↔ pieces path = pieces other := by
  have hjoined : Catalog.pathText path = Catalog.pathText other ↔
      [','].intercalate (path.map String.toList) = [','].intercalate (other.map String.toList) := by
    rw [← String.toList_inj, pathText_toList, pathText_toList]
    simp
  rw [hjoined]
  cases path with
  | nil =>
    cases other with
    | nil => exact iff_of_true rfl rfl
    | cons first others =>
      exact iff_of_false (intercalate_keys_ne_nil (ho first List.mem_cons_self) others).symm
        (pieces_ne_nil first others).symm
  | cons key rest =>
    cases other with
    | nil =>
      exact iff_of_false (intercalate_keys_ne_nil (hp key List.mem_cons_self) rest)
        (pieces_ne_nil key rest)
    | cons first others =>
      rw [pieces_eq, pieces_eq]
      exact joined_eq_iff ',' (List.cons_ne_nil _ _) (List.cons_ne_nil _ _)

end Sql

/-- The path of a change of metadata is read back just where all its keys are
plain, and another path is the same to the engine just where it has the same
texts between commas. -/
theorem Catalog.setSchemaPath_reads_iff (catalog : Catalog) (className : String) (value : Json)
    {path other : List String} (hp : ∀ key ∈ path, key ≠ "") (ho : ∀ key ∈ other, key ≠ "") :
    ∃ text, (catalog.setSchemaPath className path value).params =
        [.text text, .json value, .text className] ∧
      (Sql.readArray? text = some path ↔ ∀ key ∈ path, Sql.isPlainElement key.toList) ∧
      ((catalog.setSchemaPath className other value).params =
        [.text text, .json value, .text className] ↔ Sql.pieces other = Sql.pieces path) := by
  refine ⟨pathText path, rfl, Sql.readArray?_pathText_iff, ?_⟩
  rw [← Sql.pathText_eq_iff ho hp]
  simp [setSchemaPath]

/-- A path whose last key has a blank within it. -/
theorem Catalog.blank_within_key_read :
    let path := ["fields", "sub title"]
    let other := ["fields", "sub", "title"]
    let statement (path : List String) := ({} : Catalog).setSchemaPath "Post" path .null
    ∃ text, (statement path).params = [.text text, .json .null, .text "Post"] ∧
      Sql.readArray? text = some path ∧
      (statement other).params ≠ [.text text, .json .null, .text "Post"] := by
  intro path other statement
  have hp : ∀ key ∈ path, key ≠ "" := by decide
  have ho : ∀ key ∈ other, key ≠ "" := by decide
  obtain ⟨text, htext, hread, hsame⟩ :=
    ({} : Catalog).setSchemaPath_reads_iff "Post" .null hp ho
  exact ⟨text, htext, hread.2 (by decide), fun h => absurd (hsame.1 h) (by decide)⟩

/-- A field with a comma in its name has the path of an entry within another field,
and one with a blank before its name that of the field without it. -/
theorem Catalog.comma_path_confused :
    let params (path : List String) := (({} : Catalog).setSchemaPath "Post" path .null).params
    params ["fields", "a,b"] = params ["fields", "a", "b"] ∧
      params ["fields", "a,b"] = [.text "\x7bfields,a,b\x7d", .json .null, .text "Post"] ∧
      Sql.readArray? "\x7bfields,a,b\x7d" = some ["fields", "a", "b"] ∧
      params ["fields", " a"] = [.text "\x7bfields, a\x7d", .json .null, .text "Post"] ∧
      Sql.readArray? "\x7bfields, a\x7d" = some ["fields", "a"] :=
  ⟨rfl, rfl, by decide, rfl, by decide⟩

end DocSql
