import DocSql.Pattern
import DocSql.Query.Reader
import DocSql.Sql.Predicate
import DocSql.Timestamp.Relative

/-!
Queries as conditions on the columns of a class. Each clause becomes the
conditions of its operators, one for one, and a group keeps its connective, so
the tree of conditions has the shape of the query.
-/
namespace DocSql

open Sql (Expr Relation Predicate Filter Assembly)

structure Scope where
  /-- The schema in its storage view. -/
  schema : Schema
  foldCase : Bool := false
  /-- The language of text searches that name none. -/
  language : String := "english"
  /-- The instant that relative times count from. -/
  now : Timestamp
deriving Inhabited

def Scope.ofSchema (schema : Schema) (now : Timestamp) : Scope := { schema := schema.toStorage, now }

structure Target where
  name : String
  type? : Option FieldType
deriving Inhabited

namespace Target

def isDotted (t : Target) : Bool := Sql.isDotted t.name

def isArray (t : Target) : Bool := t.type?.any FieldType.isArray

def isTextArray (t : Target) : Bool := t.type?.any FieldType.isTextArray

def column (t : Target) : Expr := if t.isDotted then .textAt t.name else .column t.name

def arrayColumn (t : Target) : Expr :=
  if t.isTextArray then .apply "to_jsonb" t.column else t.column

def arrayTest (t : Target) (function : String) (items : List Json) : Predicate :=
  .holds (.apply₂ function t.arrayColumn (.json (.arr items)))

def operand (t : Target) (value : Json) : Except Error Datum :=
  match t.type?, value with
  | some .date, .str _ => .timestamp <$> Timestamp.ofJson value
  | some (.pointer _), .null => Datum.infer value
  | some (.pointer _), _ => .text <$> Datum.pointerId value
  | _, _ => Datum.infer value

/-- The expression and parameter for a value compared with a dotted path; the
text there is cast where the value is a number or a boolean. -/
def dottedOperand (t : Target) (value : Json) : Except Error (Expr × Datum) :=
  let text := Expr.textAt t.name
  match value with
  | .num n => .ok (.castAs text "double precision", .ofNumber n)
  | .bool b => .ok (.castAs text "boolean", .bool b)
  | .str s => .ok (text, .text s)
  | _ =>
    match value.typeTag? with
    | some "Date" => return (text, .text (← Timestamp.ofJson value).iso)
    | some "Pointer" => return (text, .text (← Datum.pointerId value))
    | _ => .ok (text, .text value.text)

def sides (t : Target) (value : Json) : Except Error (Expr × Datum) :=
  if t.isDotted then t.dottedOperand value else return (t.column, ← t.operand value)

def rejectRelativeTime (value : Json) : Except Error Unit :=
  if value.has "$relativeTime" then .error Operator.misplacedRelativeTime else .ok ()

/-- Compared with a number column in place of a boolean, which no number
equals; no stored number is expected to be this one. -/
def numberMismatch : Datum := .float (.ofNat (pow2 63))

def equals (scope : Scope) (t : Target) (value : Json) : Except Error Predicate := do
  rejectRelativeTime value
  if t.isDotted then
    let (expr, param) ← t.dottedOperand value
    return .compare expr .eq (.param param)
  if t.isArray && value.arr?.isNone then return t.arrayTest "array_contains" [value]
  match value, t.type? with
  | .bool _, some .number => return .compare t.column .eq (.param numberMismatch)
  | .str s, _ =>
    if scope.foldCase then
      return .compare (.apply "LOWER" t.column) .eq (.apply "LOWER" (.text s))
    return .compare t.column .eq (.param (← t.operand value))
  | _, _ => return .compare t.column .eq (.param (← t.operand value))

def differs (t : Target) (value : Json) : Except Error Predicate := do
  rejectRelativeTime value
  if t.isArray then return .not (t.arrayTest "array_contains" [value])
  if value.isNull then return .isNotNull t.column
  if value.typeTag? = some "GeoPoint" then
    let p ← GeoPoint.ofJson value
    return .orNull t.column (.compare t.column .ne (.point p.toPoint))
  let (expr, param) ← t.sides value
  return .orNull expr (.compare expr .ne (.param param))

/-- Membership on a native text array: an element in common, or no array where
null is listed. -/
def overlaps (t : Target) (items : List Json) : Except Error Predicate := do
  let values ← (items.filter (!·.isNull)).mapM Datum.infer
  let common := Predicate.compare t.column .overlaps (.array values)
  if values.isEmpty then return .isNull t.column
  if items.any Json.isNull then return .paren (.or [.isNull t.column, common])
  return common

def flattened (items : List Json) : List Json :=
  items.flatMap fun item => (item.arr?).getD [item]

def scalarMembership (t : Target) (items : List Json) (negated : Bool) : Except Error Predicate := do
  let values ← (items.filter (!·.isNull)).mapM t.operand
  let column := t.column
  if values.isEmpty then return if negated then .isNotNull column else .isNull column
  match negated, items.any Json.isNull with
  | false, false => return .isIn column values
  | false, true => return .paren (.or [.isNull column, .isIn column values])
  | true, false => return .notIn column values
  | true, true => return .paren (.and [.isNotNull column, .notIn column values])

def membership (t : Target) (items : List Json) (negated : Bool) :
    Except Error (Option Predicate) := do
  if t.isDotted then
    if negated then return none
    return some (.compare (.cast (.paren (.jsonAt t.name)) "jsonb") .contains (.json (.arr items)))
  if t.isTextArray && !negated then return some (← t.overlaps items)
  let items := flattened items
  if items.isEmpty then return some (if negated then .always else .isNull t.column)
  if t.isArray then
    let test := t.arrayTest "array_contains" items
    return some (if negated then .not test else test)
  return some (← t.scalarMembership items negated)

def containsAll (t : Target) (items : List Json) : Except Error (Option Predicate) := do
  if t.isArray then
    if Pattern.anyLiteralStart items then
      return some (t.arrayTest "array_contains_all_regex" (← Pattern.likeStarts items))
    return some (t.arrayTest "array_contains_all" items)
  match items with
  | [single] => return some (.compare t.column .eq (.text (← Datum.pointerId single)))
  | _ => return none

def searches (scope : Scope) (t : Target) (search : TextSearch) : Predicate :=
  let language := Expr.cast (.text (search.language.getD scope.language)) "regconfig"
  .compare (.apply₂ "to_tsvector" language t.column) .matchesText
    (.apply₂ "to_tsquery" language (.text search.term))

def comparison (scope : Scope) (t : Target) (comparator : Comparator) (value : Json) :
    Except Error Predicate := do
  let relation : Relation := match comparator with
    | .gt => .gt
    | .gte => .ge
    | .lt => .lt
    | .lte => .le
  match value.get? "$relativeTime" with
  | none =>
    let (expr, param) ← t.sides value
    return .compare expr relation (.param param)
  | some relative =>
    if t.type? ≠ some .date then
      throw (.invalidQuery "$relativeTime can only be used with Date field")
    let some text := relative.str?
      | throw (.invalidQuery ("bad $relativeTime value: " ++ relative.text))
    let instant ← Timestamp.Relative.resolve scope.now text
    return .compare t.column relation (.param (.timestamp instant))

def distance (t : Target) (p : GeoPoint) : Expr :=
  .apply₂ "ST_DistanceSphere" (.cast t.column "geometry") (.cast (.point p.toPoint) "geometry")

def meters (radians : Double) : Datum := .float (radians * GeoPoint.earthMeters)

def matchesPattern (t : Target) (pattern options : String) : Predicate :=
  let relation : Relation :=
    if options.toList.contains 'i' then .matchesRegexFolded else .matchesRegex
  let pattern :=
    if options.toList.contains 'x' then Pattern.strip pattern.toList else pattern.toList
  .compare t.column relation (.text (String.ofList (Pattern.toEngine pattern)))

def operator (scope : Scope) (t : Target) : Operator → Except Error (Option Predicate)
  | .ne value => some <$> t.differs value
  | .eq .null => .ok (some (.isNull t.column))
  | .eq value => some <$> equals scope t value
  | .isIn items => t.membership items false
  | .notIn items => t.membership items true
  | .all items => t.containsAll items
  | .present true => .ok (some (.isNotNull t.column))
  | .present false => .ok (some (.isNull t.column))
  | .containedBy items =>
    .ok (some (.compare t.arrayColumn .containedIn (.json (.arr items))))
  | .search text => .ok (some (searches scope t text))
  | .near p limit => .ok (some (.nearest (t.distance p) (limit.map meters)))
  | .withinSphere p radius =>
    .ok (some (.compare (t.distance p) .le (.param (meters radius))))
  | .withinBox southWest northEast =>
    .ok (some (.compare (.cast t.column "point") .containedIn
      (.cast (.text (southWest.boxLiteral northEast)) "box")))
  | .withinPolygon points =>
    .ok (some (.compare (.cast t.column "point") .containedIn
      (.polygon (points.map GeoPoint.toPoint))))
  | .covers p =>
    .ok (some (.compare (.cast t.column "polygon") .contains
      (.cast (.text p.literal) "point")))
  | .regex pattern options => .ok (some (t.matchesPattern pattern options))
  | .compare comparator value => some <$> comparison scope t comparator value

def conditions (scope : Scope) (t : Target) : Condition → Except Error (List Predicate)
  | .null => .ok [.isNull t.column]
  | .scalar value => do return [← equals scope t value.toJson]
  | .pointer value => do
    if t.isArray then return [t.arrayTest "array_contains" [value]]
    return [.compare t.column .eq (.text (← Datum.pointerId value))]
  | .date instant => .ok [.compare t.column .eq (.param (.timestamp instant))]
  | .geoPoint p => .ok [.compare t.column .sameShape (.point p.toPoint)]
  | .polygon value => do
    let ring ← Ring.ofJson value
    return [.compare t.column .sameShape (.polygon ring)]
  | .operators tests => do return (← tests.mapM (operator scope t)).filterMap id

/-- A column that no row has is missing in all of them, so a condition that
asks for its absence says nothing, and neither do the tests beside it. -/
def skips (t : Target) : Condition → Bool
  | .operators tests =>
    !t.isDotted && t.type?.isNone && tests.any fun
      | .present false => true
      | _ => false
  | _ => false

def clause (scope : Scope) (t : Target) (condition : Condition) :
    Except Error (List Predicate) := do
  if t.skips condition then return []
  match ← t.conditions scope condition with
  | [] => throw (.unsupported
      ("Postgres doesn't support this query type yet for field '" ++ t.name ++ "'"))
  | found => return found

end Target

def Group.predicate (kind : Group) (parts : List Predicate) : Predicate :=
  match kind with
  | .or => .paren (.or parts)
  | .and => .paren (.and parts)
  | .nor => .not (.paren (.or parts))

namespace Query

def conjunction (conjuncts : List Predicate) : Predicate :=
  if conjuncts.isEmpty then .always else .and conjuncts

mutual

def clausePredicates (scope : Scope) : Clause → Except Error (List Predicate)
  | .field name condition => Target.clause scope ⟨name, scope.schema.field? name⟩ condition
  | .group kind queries => do return [kind.predicate (← groupPredicates scope queries)]

def predicates (scope : Scope) : List Clause → Except Error (List Predicate)
  | [] => .ok []
  | clause :: rest => do return (← clausePredicates scope clause) ++ (← predicates scope rest)

def groupPredicates (scope : Scope) : List (List Clause) → Except Error (List Predicate)
  | [] => .ok []
  | query :: rest => do
    return conjunction (← predicates scope query) :: (← groupPredicates scope rest)

end

def filter (scope : Scope) (query : Query) : Assembly Filter := do
  Filter.assemble (← predicates scope query)

def compile (scope : Scope) (query : Json) (first : Nat) : Except Error (Filter × List Datum) := do
  Assembly.runFrom first (filter scope (← ofJson query))

end Query
end DocSql
