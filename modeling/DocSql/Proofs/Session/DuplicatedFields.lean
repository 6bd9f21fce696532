import DocSql.Proofs.Session.Runs
import DocSql.Statement.Table
import Mathlib.Data.List.TakeWhile

/-!
The field that a client is told of when a value is taken already. The engine names
the constraint, whose name has class and field on the two sides of a mark, and the
field is looked for behind the first mark that has letters behind it. So a field
of anything but letters is never told in full, and a class whose name has a mark
is taken for the end of one. Main statement: `EngineError.tells_field_iff`.
-/
namespace DocSql.EngineError

def mark : List Char := "unique_".toList

theorem mark_eq : mark = "unique_".toList := rfl

def markedLetters (text : List Char) : List Char :=
  if mark.isPrefixOf text then (text.drop mark.length).takeWhile Char.isAlpha else []

theorem fieldOfConstraint_cons (c : Char) (rest : List Char) :
    fieldOfConstraint (c :: rest) =
      if markedLetters (c :: rest) = [] then fieldOfConstraint rest
      else some (markedLetters (c :: rest)) := by
  let letters := ((c :: rest).drop mark.length).takeWhile Char.isAlpha
  have hsearch : fieldOfConstraint (c :: rest) =
      if mark.isPrefixOf (c :: rest) && !letters.isEmpty then some letters
      else fieldOfConstraint rest := rfl
  have hmarked : markedLetters (c :: rest) =
      if mark.isPrefixOf (c :: rest) then letters else [] := rfl
  rw [hsearch, hmarked]
  generalize mark.isPrefixOf (c :: rest) = isMarked
  generalize letters = found
  cases isMarked with
  | false => rfl
  | true =>
    cases found with
    | nil => rfl
    | cons letter more => rfl

theorem exists_of_fieldOfConstraint {text field : List Char}
    (h : fieldOfConstraint text = some field) :
    field ≠ [] ∧ (∀ c ∈ field, c.isAlpha) ∧
      ∃ before after, text = before ++ mark ++ field ++ after := by
  induction text with
  | nil => cases h
  | cons c rest ih =>
    rw [fieldOfConstraint_cons] at h
    split at h
    next =>
      obtain ⟨hne, hletters, before, after, hrest⟩ := ih h
      exact ⟨hne, hletters, c :: before, after, by rw [hrest]; rfl⟩
    next hne =>
      cases h
      unfold markedLetters at hne ⊢
      split at hne
      next hmark =>
        rw [if_pos hmark]
        obtain ⟨behind, hbehind⟩ := List.isPrefixOf_iff_prefix.1 hmark
        refine ⟨hne, fun d hd => List.mem_takeWhile_imp hd, [],
          ((c :: rest).drop mark.length).dropWhile Char.isAlpha, ?_⟩
        rw [List.nil_append, List.append_assoc, List.takeWhile_append_dropWhile, ← hbehind,
          List.drop_left]
      next => exact absurd rfl hne

theorem markedLetters_append {text : List Char} (h : mark.length ≤ text.length)
    {c : Char} (hc : c.isAlpha = false) (rest : List Char) :
    markedLetters (text ++ c :: rest) = markedLetters text := by
  have hmark : mark.isPrefixOf (text ++ c :: rest) = mark.isPrefixOf text := by
    rw [Bool.eq_iff_iff, List.isPrefixOf_iff_prefix, List.isPrefixOf_iff_prefix]
    constructor
    · intro hprefix
      exact List.prefix_of_prefix_length_le hprefix (List.prefix_append text _) h
    · intro hprefix
      exact hprefix.trans (List.prefix_append text _)
  have hletters : ((text ++ c :: rest).drop mark.length).takeWhile Char.isAlpha =
      (text.drop mark.length).takeWhile Char.isAlpha := by
    rw [List.drop_append_of_le_length h, List.takeWhile_append]
    split
    next hall =>
      rw [List.takeWhile_cons_of_neg (by simp [hc]), List.append_nil]
      exact ((List.takeWhile_prefix _).eq_of_length hall).symm
    next => rfl
  rw [markedLetters, markedLetters, hmark, hletters]

/-- A name that goes on behind the joint of its class is searched in the class first,
and in the class a name ends where the joint does. -/
theorem fieldOfConstraint_joined (className rest : List Char) :
    fieldOfConstraint (className ++ '_' :: (mark ++ rest)) =
      (fieldOfConstraint (className ++ "_unique".toList)).or (fieldOfConstraint (mark ++ rest)) := by
  induction className with
  | nil =>
    have hend : fieldOfConstraint "_unique".toList = none := by decide
    rw [List.nil_append, List.nil_append, hend, Option.none_or, fieldOfConstraint_cons]
    rfl
  | cons c before ih =>
    have hsplit : c :: before ++ '_' :: (mark ++ rest) =
        (c :: before ++ "_unique".toList) ++ '_' :: rest := by
      rw [List.append_assoc]
      rfl
    have hletters : markedLetters (c :: before ++ '_' :: (mark ++ rest)) =
        markedLetters (c :: before ++ "_unique".toList) := by
      rw [hsplit]
      exact markedLetters_append (by simp [mark_eq]) rfl rest
    rw [List.cons_append] at hletters ⊢
    rw [List.cons_append] at hletters ⊢
    rw [fieldOfConstraint_cons, fieldOfConstraint_cons, hletters]
    split
    · exact ih
    · rfl

theorem fieldOfConstraint_mark_iff (field : List Char) :
    fieldOfConstraint (mark ++ field) = some field ↔ field ≠ [] ∧ ∀ c ∈ field, c.isAlpha := by
  have hfirst : markedLetters (mark ++ field) = field.takeWhile Char.isAlpha := by
    have hmark : mark.isPrefixOf (mark ++ field) :=
      List.isPrefixOf_iff_prefix.2 (List.prefix_append mark field)
    rw [markedLetters, if_pos hmark, List.drop_left]
  constructor
  · intro h
    obtain ⟨hne, hletters, -⟩ := exists_of_fieldOfConstraint h
    exact ⟨hne, hletters⟩
  · rintro ⟨hne, hletters⟩
    have hwhole : markedLetters (mark ++ field) = field := by
      rw [hfirst, List.takeWhile_eq_self_iff]
      exact hletters
    change fieldOfConstraint ('u' :: ("nique_".toList ++ field)) = _
    rw [fieldOfConstraint_cons]
    change (if markedLetters (mark ++ field) = [] then _
      else some (markedLetters (mark ++ field))) = _
    rw [hwhole, if_neg hne]

theorem infix_of_fieldOfConstraint {className field : List Char}
    (h : fieldOfConstraint (className ++ "_unique".toList) = some field) :
    "unique".toList <:+: className := by
  obtain ⟨-, -, before, after, htext⟩ := exists_of_fieldOfConstraint h
  have hparts : className ++ "_unique".toList =
      before ++ "unique".toList ++ '_' :: (field ++ after) := by
    rw [htext]
    simp [mark_eq]
  rcases List.append_eq_append_iff.1 hparts with ⟨tail, hbefore, hjoint⟩ | ⟨rest, hclass, -⟩
  · cases tail with
    | nil => exact ⟨before, [], by simpa using hbefore⟩
    | cons c tail =>
      -- The end of the mark would stand within the word of the joint.
      have hword : "unique".toList = tail ++ '_' :: (field ++ after) := (List.cons.inj hjoint).2
      have habsent : '_' ∉ "unique".toList := by decide
      rw [hword] at habsent
      simp at habsent
  · exact ⟨before, rest, hclass.symm⟩

theorem uniqueConstraint_single (className field : String) :
    (Catalog.uniqueConstraint className [field]).toList =
      className.toList ++ '_' :: (mark ++ field.toList) := by
  simp [Catalog.uniqueConstraint, Catalog.joinedFields, mark_eq]

/-- Whether the name of the constraint on one field leads back to the field: it has
only letters, and no others are found before it. -/
def Recoverable (className field : String) : Prop :=
  field ≠ "" ∧ (∀ c ∈ field.toList, c.isAlpha) ∧
    ∀ earlier ∈ duplicatedField (className ++ "_unique"), earlier = field

theorem duplicatedField_eq_some_iff {name field : String} :
    duplicatedField name = some field ↔ fieldOfConstraint name.toList = some field.toList := by
  unfold duplicatedField
  rw [Option.map_eq_some_iff]
  constructor
  · rintro ⟨found, hfound, rfl⟩
    rw [hfound, String.toList_ofList]
  · intro h
    exact ⟨field.toList, h, String.ofList_toList⟩

theorem duplicatedField_uniqueConstraint_iff (className field : String) :
    duplicatedField (Catalog.uniqueConstraint className [field]) = some field ↔
      Recoverable className field := by
  have hempty : field ≠ "" ↔ field.toList ≠ [] := by simp
  rw [duplicatedField_eq_some_iff, uniqueConstraint_single, fieldOfConstraint_joined]
  unfold Recoverable
  simp only [Option.mem_def, duplicatedField_eq_some_iff, String.toList_append, hempty]
  cases hearlier : fieldOfConstraint (className.toList ++ "_unique".toList) with
  | none =>
    rw [Option.none_or, fieldOfConstraint_mark_iff]
    simp
  | some found =>
    obtain ⟨hne, hletters, -⟩ := exists_of_fieldOfConstraint hearlier
    simp only [Option.some_or, Option.some.injEq]
    constructor
    · rintro rfl
      exact ⟨hne, hletters, fun earlier h => String.toList_inj.1 h.symm⟩
    · rintro ⟨-, -, h⟩
      rw [← h (String.ofList found) (by simp), String.toList_ofList]

theorem toError_of_isUniqueViolation {e : EngineError} (h : e.isUniqueViolation) {name : String}
    (hc : e.root.constraint = some name) : e.toError = .duplicateValue (duplicatedField name) := by
  rw [toError, if_pos h, hc, Option.bind_some]

/-- A client whose value is taken already is told the field of the violated
constraint just where the field is recoverable from the name of the constraint.
In a class without the word of the mark these are the fields of letters. -/
theorem tells_field_iff (className field : String) {e : EngineError}
    (hv : e.isUniqueViolation)
    (hc : e.root.constraint = some (Catalog.uniqueConstraint className [field])) :
    (duplicatedField (Catalog.uniqueConstraint className [field]) = some field ↔
        Recoverable className field) ∧
      (∀ (statement : Statement) (engine : Engine), engine [] (.execute statement) = .error e →
        (((Operation.execute statement).exchange engine).2 =
            .error (.duplicateValue (some field)) ↔ Recoverable className field)) ∧
      (¬"unique".toList <:+: className.toList →
        (Recoverable className field ↔ field ≠ "" ∧ ∀ c ∈ field.toList, c.isAlpha)) := by
  have hrecovered := duplicatedField_uniqueConstraint_iff className field
  refine ⟨hrecovered, fun statement engine hreply => ?_, fun hclass => ?_⟩
  · have htold : ((Operation.execute statement).exchange engine).2 = .error e.toError := by
      refine congrArg Prod.snd (Operation.run_request_bind engine [] _ _ ?_)
      rw [hreply]
      rfl
    rw [htold, toError_of_isUniqueViolation hv hc]
    simp [hrecovered]
  · constructor
    · rintro ⟨hne, hletters, -⟩
      exact ⟨hne, hletters⟩
    · rintro ⟨hne, hletters⟩
      refine ⟨hne, hletters, fun earlier hearlier => ?_⟩
      have hfound := duplicatedField_eq_some_iff.1 hearlier
      rw [String.toList_append] at hfound
      exact absurd (infix_of_fieldOfConstraint hfound) hclass

/-- An address that another account has. -/
theorem taken_email_told :
    let e : EngineError := { fault := {
      message := "duplicate key", code := some SqlState.uniqueViolation,
      constraint := some (Catalog.uniqueConstraint "_User" ["email"]) } }
    let adding : Statement := { sql := "INSERT INTO \"_User\" (\"email\") VALUES ($1)" }
    let refusing : Engine := fun _ call =>
      match call with
      | .execute _ => .error e
      | other => Store.answering [] [] other
    duplicatedField (Catalog.uniqueConstraint "_User" ["email"]) = some "email" ∧
      ((Operation.execute adding).exchange refusing).2 =
        .error (.duplicateValue (some "email")) := by
  intro e adding refusing
  have hclass : ¬"unique".toList <:+: "_User".toList := fun h =>
    absurd h.length_le (by decide)
  obtain ⟨hfield, htold, hletters⟩ :=
    tells_field_iff "_User" "email" (e := e) (by decide) rfl
  have hrecoverable := (hletters hclass).2 ⟨by decide, List.all_eq_true.1 (by decide)⟩
  exact ⟨hfield.2 hrecoverable, (htold adding refusing rfl).2 hrecoverable⟩

/-- Of a field with a digit only the letters before it are told, of one that starts
with an underscore nothing, and for a class that has the mark in its name another
part of the name is taken for the field. -/
theorem other_field_told :
    duplicatedField (Catalog.uniqueConstraint "Post" ["address2"]) = some "address" ∧
      duplicatedField (Catalog.uniqueConstraint "Post" ["_slug"]) = none ∧
      duplicatedField (Catalog.uniqueConstraint "unique_code" ["email"]) = some "code" := by
  refine ⟨?_, ?_, ?_⟩
  · rw [duplicatedField_eq_some_iff, uniqueConstraint_single]
    decide
  · rw [duplicatedField, uniqueConstraint_single]
    decide
  · rw [duplicatedField_eq_some_iff, uniqueConstraint_single]
    decide

end DocSql.EngineError
