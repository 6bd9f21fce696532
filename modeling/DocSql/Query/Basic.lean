import DocSql.Geo
import DocSql.Timestamp.Basic

/-!
Document queries after reading. A query is a conjunction of clauses, each of
them a condition on a field or a group of queries.
-/
namespace DocSql

inductive Comparator
  | gt
  | gte
  | lt
  | lte
deriving DecidableEq, Inhabited

structure TextSearch where
  term : String
  language : Option String
deriving DecidableEq, Inhabited

/-- A test of a field; distances are in radians. -/
inductive Operator
  | ne (value : Json)
  | eq (value : Json)
  | isIn (items : List Json)
  | notIn (items : List Json)
  | all (items : List Json)
  | present (expected : Bool)
  | containedBy (items : List Json)
  | search (text : TextSearch)
  | near (point : GeoPoint) (maxDistance : Option Double)
  | withinBox (southWest northEast : GeoPoint)
  | withinSphere (point : GeoPoint) (radius : Double)
  | withinPolygon (points : List GeoPoint)
  | covers (point : GeoPoint)
  | regex (pattern options : String)
  | compare (comparator : Comparator) (value : Json)
deriving Inhabited

inductive Scalar
  | string (value : String)
  | number (value : Number)
  | bool (value : Bool)
deriving DecidableEq, Inhabited

namespace Scalar

def toJson : Scalar → Json
  | string s => .str s
  | number n => .num n
  | bool b => .bool b

end Scalar

inductive Condition
  | null
  | scalar (value : Scalar)
  | pointer (value : Json)
  | date (value : Timestamp)
  | geoPoint (value : GeoPoint)
  | polygon (value : Json)
  | operators (tests : List Operator)
deriving Inhabited

inductive Group
  | or
  | and
  | nor
deriving DecidableEq, Inhabited

namespace Group

def key : Group → String
  | or => "$or"
  | and => "$and"
  | nor => "$nor"

def ofKey? : String → Option Group
  | "$or" => some or
  | "$and" => some and
  | "$nor" => some nor
  | _ => none

end Group

inductive Clause
  | field (name : String) (condition : Condition)
  | group (kind : Group) (queries : List (List Clause))
deriving Inhabited

abbrev Query := List Clause

def Operator.search? : Operator → Option TextSearch
  | search text => some text
  | _ => none

def Condition.search? : Condition → Option TextSearch
  | operators tests => tests.findSome? Operator.search?
  | _ => none

mutual

def Clause.search? : Clause → Option (String × TextSearch)
  | .field name condition => condition.search?.map (name, ·)
  | .group _ queries => Query.searchAny? queries

def Query.search? : List Clause → Option (String × TextSearch)
  | [] => none
  | clause :: rest => clause.search?.or (Query.search? rest)

def Query.searchAny? : List (List Clause) → Option (String × TextSearch)
  | [] => none
  | query :: rest => (Query.search? query).or (Query.searchAny? rest)

end

end DocSql
