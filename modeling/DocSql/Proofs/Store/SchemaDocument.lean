import DocSql.Proofs.Schema.Document
import DocSql.Proofs.Store.Discipline

/-!
What the statements of the metadata table do to the row of one class. The row
holds a schema document; a change replaces it or sets one path in it, and a
question asks whether it declares a field. Paths travel as array literals of the
engine, which take some characters for marks of their own. Main statements:
which change and which question a statement is, and what a change declares.
-/
namespace DocSql

open Sql (identifier)

namespace Sql

def isArrayMark (c : Char) : Bool := "\x7b\x7d,\"\\".toList.contains c

def isArraySpace (c : Char) : Bool := " \t\n\r\x0b\x0c".toList.contains c

/-- An element of an array literal that is read as it stands: it has no marks,
no space around it, and is neither empty nor the word for null. -/
def isPlainElement (element : List Char) : Bool :=
  !element.isEmpty && !element.any isArrayMark && !element.head?.any isArraySpace &&
    !element.getLast?.any isArraySpace && element.map Char.toLower != "null".toList

def arrayElements? (text : String) : Option (List String) :=
  match text.toList with
  | '\x7b' :: rest =>
    let elements := rest.dropLast.splitOn ','
    if rest.getLast? = some '\x7d' ∧ elements.all isPlainElement then
      some (elements.map String.ofList)
    else none
  | _ => none

theorem not_mem_of_isPlainElement {element : List Char} (h : isPlainElement element) {c : Char}
    (hc : isArrayMark c) : c ∉ element := by
  intro hmem
  have hmark : element.any isArrayMark := List.any_eq_true.2 ⟨c, hmem, hc⟩
  simp [isPlainElement, hmark] at h

theorem pathText_toList (path : List String) : (Catalog.pathText path).toList =
    '\x7b' :: ([','].intercalate (path.map String.toList) ++ ['\x7d']) := by
  unfold Catalog.pathText
  rw [String.toList_append, String.toList_append, String.toList_intercalate]
  rfl

theorem arrayElements?_pathText {path : List String} (hne : path ≠ [])
    (h : ∀ step ∈ path, isPlainElement step.toList) :
    arrayElements? (Catalog.pathText path) = some path := by
  have hsplit : ([','].intercalate (path.map String.toList)).splitOn ',' =
      path.map String.toList := by
    refine List.splitOn_intercalate ',' (fun cs hcs => ?_) (by simpa using hne)
    obtain ⟨step, hstep, rfl⟩ := List.mem_map.1 hcs
    exact not_mem_of_isPlainElement (h step hstep) (by decide)
  have hall : (path.map String.toList).all isPlainElement := by simpa using h
  unfold arrayElements?
  rw [pathText_toList]
  simp [hsplit, hall]

end Sql

/-- The value with another one at a path. The last step may be new, the steps
before it have to be there, and only objects are walked into. -/
def Json.setAt (document : Json) (path : List String) (value : Json) : Json :=
  match path, document with
  | [name], .obj members => .obj (Entries.insert members name value)
  | name :: rest, .obj members =>
    match Entries.find? members name with
    | some held => .obj (Entries.insert members name (held.setAt rest value))
    | none => .obj members
  | _, document => document

def Json.declares (document : Json) (field : String) : Bool :=
  ((document.get? "fields").bind (Json.get? field)).isSome

inductive DocumentChange
  | replace (document : Json)
  | set (path : List String) (value : Json)
deriving Inhabited

namespace Json

def apply (document : Json) : DocumentChange → Json
  | .replace other => other
  | .set path value => document.setAt path value

def applyAll (document : Json) (changes : List DocumentChange) : Json :=
  changes.foldl apply document

end Json

namespace Statement

def documentChange? (catalog : Catalog) (className : String) (statement : Statement) :
    Option DocumentChange :=
  match statement.params with
  | [.json document, .text name] =>
    if statement.sql = "UPDATE " ++ identifier catalog.metadataTable ++
        " SET \"schema\" = $1::jsonb WHERE \"className\" = $2" ∧ name = className then
      some (.replace document)
    else none
  | [.text path, .json value, .text name] =>
    if statement.sql = "UPDATE " ++ identifier catalog.metadataTable ++
        " SET \"schema\" = jsonb_set(\"schema\", $1::text[], $2::jsonb) WHERE \"className\" = $3" ∧
        name = className then
      (Sql.arrayElements? path).map (.set · value)
    else none
  | _ => none

def askedField? (catalog : Catalog) (className : String) (statement : Statement) : Option String :=
  match statement.params with
  | [.text name, .text field] =>
    if statement.sql = "SELECT \"schema\" FROM " ++ identifier catalog.metadataTable ++
        " WHERE \"className\" = $1 AND (\"schema\"::jsonb->'fields'->$2) IS NOT NULL" ∧
        name = className then
      some field
    else none
  | _ => none

variable (catalog : Catalog) (className : String)

theorem documentChange?_updateSchema (schema : Schema) :
    (catalog.updateSchema schema).documentChange? catalog schema.className =
      some (.replace schema.toJson) :=
  if_pos ⟨rfl, rfl⟩

theorem documentChange?_setSchemaPath {path : List String} (value : Json) (hne : path ≠ [])
    (h : ∀ step ∈ path, Sql.isPlainElement step.toList) :
    (catalog.setSchemaPath className path value).documentChange? catalog className =
      some (.set path value) := by
  have hread := Sql.arrayElements?_pathText hne h
  have hchange : (catalog.setSchemaPath className path value).documentChange? catalog className =
      (Sql.arrayElements? (Catalog.pathText path)).map (.set · value) := if_pos ⟨rfl, rfl⟩
  rw [hchange, hread, Option.map_some]

theorem askedField?_selectDeclaredField (field : String) :
    (catalog.selectDeclaredField className field).askedField? catalog className = some field :=
  if_pos ⟨rfl, rfl⟩

theorem documentChange?_of_verb {statement : Statement} (h : statement.verb ≠ "UPDATE".toList) :
    statement.documentChange? catalog className = none := by
  have hother {same : Statement} (hs : same.verb = "UPDATE".toList) :
      statement.sql ≠ same.sql := fun hsql => h ((congrArg
        (fun sql : String => sql.toList.takeWhile (· ≠ ' ')) hsql).trans hs)
  unfold documentChange?
  split
  · rw [if_neg fun hc => hother (Catalog.verb_updateSchema catalog {}) hc.1]
  · rw [if_neg fun hc => hother (Catalog.verb_setSchemaPath catalog "" [] .null) hc.1]
  · rfl

end Statement

theorem Schema.declares_toJson (schema : Schema) (field : String) :
    schema.toJson.declares field = (schema.field? field).isSome := by
  unfold Json.declares field?
  rw [schema.toJson_parts.2.1, Option.bind_some, Json.get?, Entries.find?_mapValues,
    Option.isSome_map]

theorem Json.declares_setAt {document : Json} {fields : Entries Json}
    (h : document.get? "fields" = some (.obj fields)) (name field : String) (value : Json) :
    (document.setAt ["fields", name] value).declares field =
      (decide (name = field) || document.declares field) := by
  cases document with
  | obj members =>
    have hfields : Entries.find? members "fields" = some (.obj fields) := h
    have hset : (Json.obj members).setAt ["fields", name] value =
        .obj (Entries.insert members "fields" (.obj (Entries.insert fields name value))) := by
      simp [setAt, hfields]
    rw [hset]
    unfold declares
    rw [h]
    simp only [get?, Entries.find?_insert_self, Option.bind_some, Entries.find?_insert]
    by_cases hname : name = field <;> simp [hname]
  | null | bool | num | str | arr => cases h

end DocSql
