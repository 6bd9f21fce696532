import DocSql.Json.Printer
import DocSql.Json.Reader
import DocSql.Proofs.Number.DecimalText
import DocSql.Proofs.Sql.Evaluation
import DocSql.Proofs.Update.Paths

/-!
JSON objects in columns and what the operators of the engine make of them: `-`
removes a member, `||` lays one object over another, and `->>` gives the text of
a member, which a cast turns into a number. Numbers are added exactly. An
expression of these operators is written so that its text groups as it does.
-/
namespace DocSql

/-- JSON that a column holds or an expression makes: a value that was written,
a number that was computed, or an object of either. -/
inductive Jsonb
  | given (value : Json)
  | number (value : ℚ)
  | object (members : List (String × Jsonb))

namespace Jsonb

def members? : Jsonb → Option (Entries Jsonb)
  | given value => value.obj?.map (Entries.mapValues given)
  | object members => some members
  | number _ => none

def at? : Jsonb → List String → Option Jsonb
  | held, [] => some held
  | held, name :: path => (held.members?.bind (Entries.find? · name)).bind fun inner => inner.at? path

theorem at?_cons {held : Jsonb} {members : Entries Jsonb} (h : held.members? = some members)
    (name : String) (path : List String) :
    held.at? (name :: path) = (Entries.find? members name).bind fun inner => inner.at? path := by
  rw [at?, h]
  rfl

theorem at?_given (value : Json) (path : List String) :
    (given value).at? path = (value.at? path).map given := by
  induction path generalizing value with
  | nil => rfl
  | cons name path ih =>
    cases value with
    | obj members =>
      rw [at?_cons rfl, Entries.find?_mapValues, Json.at?_obj_cons]
      cases Entries.find? members name with
      | none => rfl
      | some inner => exact ih inner
    | null | bool _ | num _ | str _ | arr _ => rfl

end Jsonb

namespace Sql

/-- A value of an expression: a text, a number, JSON, or one that no operator on
objects looks at. -/
inductive Cell
  | text (value : String)
  | number (value : ℚ)
  | jsonb (value : Jsonb)
  | other (value : Datum)

def unquoted (quote : Char) : List Char → List Char
  | [] => []
  | [c] => if c = quote then [] else [c]
  | c :: d :: rest =>
    if c = quote then if d = quote then c :: unquoted quote rest else []
    else c :: unquoted quote (d :: rest)

theorem unquoted_doubled (quote : Char) (text : List Char) :
    unquoted quote (doubled quote text ++ [quote]) = text := by
  induction text with
  | nil => simp [doubled, unquoted]
  | cons c rest ih =>
    by_cases hc : c = quote
    · subst hc
      simp [doubled, unquoted, ih]
    · obtain ⟨d, more, hmore⟩ := List.exists_cons_of_ne_nil
        (List.append_ne_nil_of_right_ne_nil (doubled quote rest) (List.cons_ne_nil quote []))
      rw [hmore] at ih
      simp [doubled, hc, hmore, unquoted, ih]

namespace Cell

def members? : Cell → Option (Entries Jsonb)
  | jsonb value => value.members?
  | _ => none

def toJsonb : Cell → Jsonb
  | text s => .given (.str s)
  | number q => .number q
  | jsonb value => value
  | other d => .given d.toJson

def shown : Jsonb → Option Cell
  | .given .null => none
  | .given (.str s) => some (text s)
  | .given value => some (text value.text)
  | .number q => some (number q)
  | .object members => some (jsonb (.object members))

def ofConstant (constant : String) : Cell :=
  match constant.toList with
  | '\'' :: rest => text (String.ofList (unquoted '\'' rest))
  | _ => (readDecimal? constant).elim (text constant) number

/-- A parameter. A binary64 number counts as the decimal that it is written as. -/
def ofDatum : Datum → Cell
  | .text s => text s
  | .int n => number n
  | .float x => number (Number.exact (.float x))
  | .json value => jsonb (.given value)
  | d => other d

def cast (type : String) : Cell → Cell
  | text s =>
    if type = "double precision" then (readDecimal? s).elim (text s) number
    else if type = "jsonb" then (Json.ofText? s).elim (text s) fun value => jsonb (.given value)
    else text s
  | cell => cell

def single (key : String) (value : Option Cell) : Jsonb :=
  .object [(key, value.elim (.given .null) toJsonb)]

/-- The operators and functions on objects; where an argument is missing or of
another kind there is no value. -/
def call : String → List (Option Cell) → Option Cell
  | "COALESCE", [a, b] => a.or b
  | "->>", [some held, some (text key)] =>
    (held.members?.bind (Entries.find? · key)).bind shown
  | "-", [some held, some (text key)] =>
    held.members?.map fun members => jsonb (.object (Entries.erase members key))
  | "+", [some (number a), some (number b)] => some (number (a + b))
  | "||", [some a, some b] =>
    a.members?.bind fun lower => b.members?.map fun upper =>
      jsonb (.object (Entries.merge lower upper))
  | "jsonb_build_object", [some (text key), value] => some (jsonb (single key value))
  | "json_object_set_key", [held, some (text key), value] =>
    (held.elim (some []) members?).map fun members =>
      let kept := Entries.erase members key
      jsonb (.object (value.elim kept fun cell => Entries.insert kept key cell.toJsonb))
  | _, _ => none

def operations : List String :=
  ["COALESCE", "->>", "-", "+", "||", "jsonb_build_object", "json_object_set_key"]

end Cell

def Valuation.ofObjects (stored : String → Option (Entries Json)) : Valuation Cell where
  column name := (stored name).map fun members => .jsonb (.given (.obj members))
  path _ := none
  asText := some
  constant := .ofConstant
  datum := .ofDatum
  array _ := .other .null
  cast := Cell.cast
  call f args :=
    if f ∈ Cell.operations then Cell.call f args
    else if f ∈ strictFunctions ∧ args.any Option.isNone then none
    else some (.other .null)
  isTrue _ := false
  relate _ _ _ := false
  call_strict f hf args := by
    have hother : f ∉ Cell.operations := by
      intro hoperation
      revert f
      decide
    simp [hother, hf]
  call_listTest f hf list values := by
    have hother : f ∉ Cell.operations ∧ f ∉ strictFunctions := by
      revert f
      decide
    simp [hother]

theorem Valuation.ofObjects_call (stored : String → Option (Entries Json)) {f : String}
    (h : f ∈ Cell.operations) (args : List (Option Cell)) :
    (ofObjects stored).call f args = Cell.call f args := if_pos h

theorem Cell.ofConstant_literal (s : String) : ofConstant (literal s) = text s := by
  unfold ofConstant literal enclose
  rw [String.toList_ofList]
  change text (String.ofList (unquoted '\'' _)) = _
  rw [unquoted_doubled, String.ofList_toList]

theorem Cell.ofDatum_ofNumber {n : Number} (h : n.IsCarried) :
    ofDatum (.ofNumber n) = number n.exact := by
  cases n with
  | int n =>
    have hfits : Number.fitsInt64 n = true := h
    simp only [Datum.ofNumber, Number.toInt64?, hfits, if_true, ofDatum, Number.exact]
  | float x => rfl

namespace Expr

section Members

variable (stored : String → Option (Entries Json))

def members? (e : Expr) : Option (Entries Jsonb) :=
  (e.value (.ofObjects stored)).bind Cell.members?

variable {stored}

theorem members?_of_value {e : Expr} {members : Entries Jsonb}
    (h : e.value (.ofObjects stored) = some (.jsonb (.object members))) :
    e.members? stored = some members := by
  rw [members?, h]
  rfl

theorem members?_column (name : String) :
    (column name).members? stored = (stored name).map (Entries.mapValues .given) := by
  change ((stored name).map _).bind _ = _
  cases stored name with
  | none => rfl
  | some members => rfl

theorem value_quoted (s : String) : (quoted s).value (.ofObjects stored) = some (.text s) :=
  congrArg some (Cell.ofConstant_literal s)

theorem value_coalesce (e standIn : Expr) :
    (coalesce e standIn).value (.ofObjects stored) =
      (e.value (.ofObjects stored)).or (standIn.value (.ofObjects stored)) :=
  Valuation.ofObjects_call stored (by decide) _

theorem value_emptyObject : emptyObject.value (.ofObjects stored) = some (.jsonb (.given (.obj []))) := by
  change ((quoted _).value (.ofObjects stored)).map (Cell.cast "jsonb") = _
  rw [value_quoted]
  rfl

theorem members?_orEmpty (name : String) :
    (coalesce (column name) emptyObject).members? stored =
      some (Entries.mapValues .given ((stored name).getD [])) := by
  have hcolumn : (column name).value (.ofObjects stored) =
      (stored name).map fun members => .jsonb (.given (.obj members)) := rfl
  rw [members?, value_coalesce, hcolumn, value_emptyObject]
  cases stored name with
  | none => rfl
  | some members => rfl

theorem members?_emptyObject : emptyObject.members? stored = some [] := by
  rw [members?, value_emptyObject]
  rfl

theorem members?_json (members : Entries Json) :
    (json (.obj members)).members? stored = some (Entries.mapValues .given members) := rfl

theorem value_without (e : Expr) (key : String) :
    (combine "-" e (cast (text key) "text")).value (.ofObjects stored) =
      (e.members? stored).map fun members => .jsonb (.object (Entries.erase members key)) := by
  have hcall := Valuation.ofObjects_call stored (f := "-") (by decide)
    [e.value (.ofObjects stored), some (.text key)]
  refine hcall.trans ?_
  unfold members?
  cases e.value (.ofObjects stored) with
  | none => rfl
  | some held => rfl

theorem value_over (a b : Expr) :
    (combine "||" a b).value (.ofObjects stored) =
      (a.members? stored).bind fun lower => (b.members? stored).map fun upper =>
        .jsonb (.object (Entries.merge lower upper)) := by
  have hcall := Valuation.ofObjects_call stored (f := "||") (by decide)
    [a.value (.ofObjects stored), b.value (.ofObjects stored)]
  refine hcall.trans ?_
  unfold members?
  cases a.value (.ofObjects stored) with
  | none => rfl
  | some lower =>
    cases b.value (.ofObjects stored) with
    | none =>
      change none = lower.members?.bind fun _ => none
      cases lower.members? with
      | none => rfl
      | some members => rfl
    | some upper => rfl

theorem value_keyText (e : Expr) (key : String) :
    (keyText e key).value (.ofObjects stored) =
      ((e.members? stored).bind (Entries.find? · key)).bind Cell.shown := by
  have hcall := Valuation.ofObjects_call stored (f := "->>") (by decide)
    [e.value (.ofObjects stored), some (.ofConstant (literal key))]
  refine hcall.trans ?_
  rw [Cell.ofConstant_literal]
  unfold members?
  cases e.value (.ofObjects stored) with
  | none => rfl
  | some held => rfl

theorem value_setKey (key : String) {e value : Expr} {members : Entries Jsonb}
    (h : e.members? stored = some members) :
    (apply₃ "json_object_set_key" e (cast (text key) "text") value).value (.ofObjects stored) =
      some (.jsonb (.object ((value.value (.ofObjects stored)).elim (Entries.erase members key)
        fun cell => Entries.insert (Entries.erase members key) key cell.toJsonb))) := by
  have hcall := Valuation.ofObjects_call stored (f := "json_object_set_key") (by decide)
    [e.value (.ofObjects stored), some (.text key), value.value (.ofObjects stored)]
  refine hcall.trans ?_
  obtain ⟨held, hheld, hmembers⟩ := Option.bind_eq_some_iff.1 h
  rw [hheld]
  change (held.members?.map _) = _
  rw [hmembers]
  rfl

theorem value_number {n : Number} (h : n.IsCarried) :
    (param (.ofNumber n)).value (.ofObjects stored) = some (.number n.exact) := by
  have hsome : (param (.ofNumber n)).value (.ofObjects stored) =
      some (Cell.ofDatum (.ofNumber n)) := by
    change (if (Datum.ofNumber n).isNull then none else _) = _
    unfold Datum.ofNumber
    split
    · rfl
    · rfl
  rw [hsome, Cell.ofDatum_ofNumber h]

theorem value_sum {a b : Expr} {x y : ℚ} (ha : a.value (.ofObjects stored) = some (.number x))
    (hb : b.value (.ofObjects stored) = some (.number y)) :
    (combine "+" a b).value (.ofObjects stored) = some (.number (x + y)) := by
  have hcall := Valuation.ofObjects_call stored (f := "+") (by decide)
    [a.value (.ofObjects stored), b.value (.ofObjects stored)]
  rw [ha, hb] at hcall
  change (Valuation.ofObjects stored).call "+" [a.value _, b.value _] = _
  rw [ha, hb]
  exact hcall

theorem members?_single (key : String) {e : Expr} {x : ℚ}
    (h : e.value (.ofObjects stored) = some (.number x)) :
    (apply₂ "jsonb_build_object" (cast (text key) "text") e).members? stored =
      some [(key, .number x)] := by
  have hcall := Valuation.ofObjects_call stored (f := "jsonb_build_object") (by decide)
    [some (.text key), some (.number x)]
  refine members?_of_value (Eq.trans ?_ hcall)
  change (Valuation.ofObjects stored).call _ [_, e.value _] = _
  rw [h]
  rfl

end Members

def strengthOf (operation : String) : Nat := if operation = "+" ∨ operation = "-" then 2 else 1

def strength : Expr → Nat
  | cast _ _ => 3
  | combine operation _ _ => strengthOf operation
  | keyText _ _ | jsonAt _ | textAt _ => 1
  | _ => 4

/-- The text of the expression groups as the expression does: operators of one
strength group to the left, and a cast is of what stands right before it. -/
def IsGrouped : Expr → Prop
  | cast e _ => 3 ≤ e.strength ∧ e.IsGrouped
  | keyText e _ => e.IsGrouped
  | combine operation a b =>
    strengthOf operation ≤ a.strength ∧ strengthOf operation < b.strength ∧
      a.IsGrouped ∧ b.IsGrouped
  | castAs e _ | paren e | elements e | apply _ e => e.IsGrouped
  | apply₂ _ a b => a.IsGrouped ∧ b.IsGrouped
  | apply₃ _ a b c => a.IsGrouped ∧ b.IsGrouped ∧ c.IsGrouped
  | null | zero | quoted _ | column _ | jsonAt _ | textAt _ | param _ | array _ => True

/-- A grouped expression that binds at least as tightly. -/
structure Binds (least : Nat) (e : Expr) : Prop where
  strong : least ≤ e.strength
  grouped : e.IsGrouped

namespace Binds

variable {least : Nat} {a b : Expr}

theorem mono {less : Nat} (h : Binds least a) (hl : less ≤ least) : Binds less a :=
  ⟨hl.trans h.strong, h.grouped⟩

theorem column (name : String) : Binds 4 (column name) := ⟨le_rfl, trivial⟩

theorem quoted (s : String) : Binds 4 (quoted s) := ⟨le_rfl, trivial⟩

theorem param (d : Datum) : Binds 4 (param d) := ⟨le_rfl, trivial⟩

theorem cast (h : Binds 3 a) (type : String) : Binds 3 (cast a type) := ⟨le_rfl, h.strong, h.grouped⟩

theorem apply₂ (function : String) (ha : a.IsGrouped) (hb : b.IsGrouped) :
    Binds 4 (apply₂ function a b) := ⟨le_rfl, ha, hb⟩

theorem apply₃ {c : Expr} (function : String) (ha : a.IsGrouped) (hb : b.IsGrouped)
    (hc : c.IsGrouped) : Binds 4 (apply₃ function a b c) := ⟨le_rfl, ha, hb, hc⟩

theorem combine {operation : String} (ho : strengthOf operation = least) (ha : Binds least a)
    (hb : Binds (least + 1) b) : Binds least (combine operation a b) := by
  subst ho
  exact ⟨le_rfl, ha.strong, hb.strong, ha.grouped, hb.grouped⟩

theorem json (value : Json) : Binds 3 (json value) := ((param _).mono (by decide)).cast _

theorem emptyObject : Binds 3 emptyObject := ((quoted _).mono (by decide)).cast _

end Binds
end Expr
end Sql
end DocSql
