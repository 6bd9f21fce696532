import DocSql.Proofs.Sql.Identifiers
import DocSql.Proofs.Sql.Words

/-!
Reading the definition of a table back out of its text. The statement falls into
words at the spaces outside quotes and brackets, as a condition does, and the last
of them has the items of the table in its brackets. An item goes to the word that
has a comma at its end; it is a column with a type, or the column of the primary
key. Main statement: `readTable?_of_reads`.
-/
namespace DocSql.Sql

/-- One item in the definition of a table. -/
inductive TableItem
  | column (name type : String)
  | primaryKey (name : String)
deriving DecidableEq

namespace TableItem

def column? : TableItem → Option (String × String)
  | column name type => some (name, type)
  | primaryKey _ => none

def primaryKey? : TableItem → Option String
  | primaryKey name => some name
  | column _ _ => none

end TableItem

def readName? (word : List Char) : Option String :=
  let name := String.ofList (unquoted '"' word.tail)
  if (identifier name).toList = word then some name else none

def keyWords : List (List Char) := ["PRIMARY".toList, "KEY".toList]

def readItem? : List (List Char) → Option TableItem
  | [] => none
  | first :: rest =>
    if (first :: rest).dropLast = keyWords then
      ((rest.getLast?.bind interior?).bind readName?).map .primaryKey
    else (readName? first).map fun name => .column name (String.ofList (joinWords rest))

def endsItem (word : List Char) : Bool := word.getLast? == some ','

def itemsOf : List (List Char) → List (List (List Char))
  | [] => [[]]
  | word :: rest =>
    if endsItem word then [word.dropLast] :: itemsOf rest
    else match itemsOf rest with
      | item :: items => (word :: item) :: items
      | [] => [[word]]

def tableWords : List (List Char) :=
  ["CREATE".toList, "TABLE".toList, "IF".toList, "NOT".toList, "EXISTS".toList]

/-- The name of the table that a statement creates, and its items in order. -/
def readTable? (sql : String) : Option (String × List TableItem) :=
  match words sql.toList with
  | create :: table :: ifWord :: notWord :: exists_ :: name :: [body] =>
    if [create, table, ifWord, notWord, exists_] = tableWords then do
      let name ← readName? name
      let items ← (itemsOf (words (← interior? body))).mapM readItem?
      return (name, items)
    else none
  | _ => none

theorem readName?_identifier (name : String) : readName? (identifier name).toList = some name := by
  have hname : String.ofList (unquoted '"' (identifier name).toList.tail) = name := by
    rw [identifier, enclose_toList, List.tail_cons, unquoted_doubled, String.ofList_toList]
  unfold readName?
  rw [hname]
  exact if_pos rfl

def IsItem (text : List Char) (ws : List (List Char)) : Prop :=
  Spells text ws ∧ ∀ word ∈ ws, endsItem word = false

theorem IsItem.single {text : List Char} (h : IsWord text) (he : endsItem text = false) :
    IsItem text [text] := ⟨.single h, by simpa using he⟩

theorem IsItem.append {a b : List Char} {ws vs : List (List Char)} (ha : IsItem a ws)
    (hb : IsItem b vs) : IsItem (a ++ ' ' :: b) (ws ++ vs) :=
  ⟨ha.1.append hb.1, List.forall_mem_append.2 ⟨ha.2, hb.2⟩⟩

theorem itemsOf_append {ws : List (List Char)} (h : ∀ word ∈ ws, endsItem word = false)
    {item : List (List Char)} {items : List (List (List Char))} {rest : List (List Char)}
    (hr : itemsOf rest = item :: items) : itemsOf (ws ++ rest) = (ws ++ item) :: items := by
  induction ws with
  | nil => exact hr
  | cons word ws ih =>
    obtain ⟨hword, hws⟩ := List.forall_mem_cons.1 h
    rw [List.cons_append, itemsOf, if_neg (by simp [hword]), ih hws]
    rfl

theorem Spells.comma {text : List Char} {ws : List (List Char)} (h : Spells text ws) :
    ∃ init last, ws = init ++ [last] ∧ Spells (text ++ [',']) (init ++ [last ++ [',']]) := by
  obtain ⟨hne, hwords, rfl⟩ := h
  obtain ⟨init, last, rfl⟩ : ∃ init last, ws = init ++ [last] :=
    ⟨_, _, (List.dropLast_append_getLast hne).symm⟩
  refine ⟨init, last, rfl, ?_⟩
  obtain ⟨hinit, hlast⟩ := List.forall_mem_append.1 hwords
  have hword : IsWord last := hlast last List.mem_cons_self
  have hcomma : IsWord [','] := by decide
  have hend : Spells (last ++ [',']) [last ++ [',']] := .single (hword.append hcomma)
  cases init with
  | nil => simpa [joinWords] using hend
  | cons word words =>
    have hbefore : Spells (joinWords (word :: words)) (word :: words) := ⟨by simp, hinit, rfl⟩
    rw [← (hbefore.append (.single hword)).joined, List.append_assoc, List.cons_append]
    exact hbefore.append hend

theorem itemsOf_intercalate {texts : List (List Char)} {items : List (List (List Char))}
    (h : List.Forall₂ IsItem texts items) (hne : texts ≠ []) :
    ∃ ws, Spells (", ".toList.intercalate texts) ws ∧ itemsOf ws = items := by
  induction h with
  | nil => exact absurd rfl hne
  | @cons text item texts items hfirst hrest ih =>
    cases hrest with
    | nil =>
      refine ⟨item, by simpa using hfirst.1, ?_⟩
      have hnone : itemsOf [] = [[]] := rfl
      simpa using itemsOf_append hfirst.2 hnone
    | @cons second others texts items hsecond hrest =>
      obtain ⟨ws, hspells, hitems⟩ := ih (List.cons_ne_nil _ _)
      obtain ⟨init, last, rfl, hcomma⟩ := hfirst.1.comma
      refine ⟨(init ++ [last ++ [',']]) ++ ws, ?_, ?_⟩
      · rw [List.intercalate_cons_cons, List.append_assoc]
        simpa using hcomma.append hspells
      · obtain ⟨hinit, -⟩ := List.forall_mem_append.1 hfirst.2
        have hend : itemsOf ([last ++ [',']] ++ ws) = [last] :: itemsOf ws := by
          simp [itemsOf, endsItem]
        rw [List.append_assoc, itemsOf_append hinit hend, hitems]

def Reads (text : String) (item : TableItem) : Prop :=
  ∃ ws, IsItem text.toList ws ∧ readItem? ws = some item

def IsType (type : String) : Prop := ∃ ws, IsItem type.toList ws

theorem identifier_endsItem (name : String) : endsItem (identifier name).toList = false := by
  rw [endsItem, identifier, enclose_getLast?]
  rfl

theorem column_reads (name : String) {type : String} (h : IsType type) :
    Reads (identifier name ++ " " ++ type) (.column name type) := by
  obtain ⟨ws, hitem⟩ := h
  have hname := IsItem.single (identifier_word name) (identifier_endsItem name)
  refine ⟨(identifier name).toList :: ws, ?_, ?_⟩
  · simpa using hname.append hitem
  · have hne : ((identifier name).toList :: ws).dropLast ≠ keyWords := by
      intro hkey
      obtain ⟨word, more, rfl⟩ := List.exists_cons_of_ne_nil hitem.1.nonempty
      rw [List.dropLast_cons_cons] at hkey
      have hfirst : (identifier name).toList = "PRIMARY".toList := (List.cons.inj hkey).1
      rw [identifier, enclose_toList] at hfirst
      exact absurd (List.cons.inj hfirst).1 (by decide)
    rw [readItem?, if_neg hne, readName?_identifier, Option.map_some, ← hitem.1.joined,
      String.ofList_toList]

theorem readItem?_key (word : List Char) : readItem? (keyWords ++ [word]) =
    ((interior? word).bind readName?).map .primaryKey := rfl

theorem primaryKey_reads (name : String) :
    Reads ("PRIMARY KEY (" ++ identifier name ++ ")") (.primaryKey name) := by
  let columns := "(".toList ++ ((identifier name).toList ++ ")".toList)
  have hclosed := (identifier_word name).isClosed
  have hprimary : IsItem "PRIMARY".toList ["PRIMARY".toList] := .single (by decide) (by decide)
  have hkey : IsItem "KEY".toList ["KEY".toList] := .single (by decide) (by decide)
  have hcolumns : IsItem columns [columns] := by
    apply IsItem.single hclosed.parenthesized
    have hlast : columns.getLast? = some ')' := by
      simp only [columns, ← List.append_assoc]
      exact List.getLast?_concat
    rw [endsItem, hlast]
    rfl
  refine ⟨keyWords ++ [columns], ?_, ?_⟩
  · simpa [columns, keyWords] using (hprimary.append hkey).append hcolumns
  · rw [readItem?_key, interior?_parenthesized hclosed, Option.bind_some, readName?_identifier,
      Option.map_some]

theorem readTable?_of_reads (name : String) {texts : List String} {items : List TableItem}
    (h : List.Forall₂ Reads texts items) (hne : texts ≠ []) :
    readTable? ("CREATE TABLE IF NOT EXISTS " ++ identifier name ++ " (" ++
      ", ".intercalate texts ++ ")") = some (name, items) := by
  obtain ⟨parts, hparts, hread⟩ : ∃ parts, List.Forall₂ IsItem (texts.map String.toList) parts ∧
      parts.mapM readItem? = some items := by
    clear hne
    induction h with
    | nil => exact ⟨[], .nil, rfl⟩
    | cons hfirst _ ih =>
      obtain ⟨ws, hitem, hws⟩ := hfirst
      obtain ⟨parts, hparts, hread⟩ := ih
      refine ⟨ws :: parts, .cons hitem hparts, ?_⟩
      rw [List.mapM_cons, hws, hread]
      rfl
  obtain ⟨ws, hspells, hitems⟩ := itemsOf_intercalate hparts (by simpa using hne)
  let body := ", ".toList.intercalate (texts.map String.toList)
  have hclosed : IsClosed body := hspells.isClosed
  have hcreate : Spells "CREATE TABLE IF NOT EXISTS".toList tableWords :=
    ⟨by decide, by decide, by decide⟩
  have hsql : ("CREATE TABLE IF NOT EXISTS " ++ identifier name ++ " (" ++
      ", ".intercalate texts ++ ")").toList =
        "CREATE TABLE IF NOT EXISTS".toList ++ ' ' :: (identifier name).toList ++
          ' ' :: ("(".toList ++ (body ++ ")".toList)) := by
    simp [body, String.toList_intercalate]
  have hwords := ((hcreate.append (.single (identifier_word name))).append
    (.single hclosed.parenthesized)).words_eq
  unfold readTable?
  rw [hsql, hwords]
  change (do
    let name ← readName? (identifier name).toList
    let items ← (itemsOf (words (← interior? ("(".toList ++ (body ++ ")".toList))))).mapM readItem?
    return (name, items)) = _
  rw [readName?_identifier, interior?_parenthesized hclosed]
  change (do
    let items ← (itemsOf (words body)).mapM readItem?
    return (name, items)) = _
  rw [hspells.words_eq, hitems, hread]
  rfl

end DocSql.Sql
