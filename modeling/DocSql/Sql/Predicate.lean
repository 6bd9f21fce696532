import DocSql.Sql.Expr

/-!
Conditions as trees, which keep what a condition says apart from how it is
written. As in expressions, markers and parameters come in the same order.
-/
namespace DocSql.Sql

inductive Relation
  | eq
  | ne
  | lt
  | le
  | gt
  | ge
  | sameShape
  | overlaps
  | containedIn
  | contains
  | matchesRegex
  | matchesRegexFolded
  | matchesText
deriving DecidableEq, Inhabited

def Relation.symbol : Relation → String
  | eq => "="
  | ne => "<>"
  | lt => "<"
  | le => "<="
  | gt => ">"
  | ge => ">="
  | sameShape => "~="
  | overlaps => "&&"
  | containedIn => "<@"
  | contains => "@>"
  | matchesRegex => "~"
  | matchesRegexFolded => "~*"
  | matchesText => "@@"

/-- Conditions on a row. Parentheses are part of the tree: the connectives are
written without them, so `NOT` binds before `AND` and `AND` before `OR`. -/
inductive Predicate
  | always
  | isNull (e : Expr)
  | isNotNull (e : Expr)
  | holds (e : Expr)
  | compare (left : Expr) (relation : Relation) (right : Expr)
  | isIn (e : Expr) (items : List Datum)
  | notIn (e : Expr) (items : List Datum)
  | nearest (distance : Expr) (limit : Option Datum)
  | not (p : Predicate)
  | and (ps : List Predicate)
  | or (ps : List Predicate)
  | paren (p : Predicate)
deriving Inhabited

namespace Predicate

mutual

def template : Predicate → String
  | always => "TRUE"
  | isNull e => e.template ++ " IS NULL"
  | isNotNull e => e.template ++ " IS NOT NULL"
  | holds e => e.template
  | compare left relation right => left.template ++ " " ++ relation.symbol ++ " " ++ right.template
  | isIn e items => e.template ++ " IN (" ++ markers items ++ ")"
  | notIn e items => e.template ++ " NOT IN (" ++ markers items ++ ")"
  | nearest distance (some _) => distance.template ++ " <= ?"
  | nearest distance none => distance.template ++ " IS NOT NULL"
  | not p => "NOT " ++ template p
  | and ps => String.intercalate " AND " (templates ps)
  | or ps => String.intercalate " OR " (templates ps)
  | paren p => "(" ++ template p ++ ")"

def templates : List Predicate → List String
  | [] => []
  | p :: rest => template p :: templates rest

end

mutual

def params : Predicate → List Datum
  | always => []
  | isNull e | isNotNull e | holds e => e.params
  | compare left _ right => left.params ++ right.params
  | isIn e items | notIn e items => e.params ++ items
  | nearest distance limit => distance.params ++ limit.toList
  | not p | paren p => params p
  | and ps | or ps => paramsAll ps

def paramsAll : List Predicate → List Datum
  | [] => []
  | p :: rest => params p ++ paramsAll rest

end

mutual

/-- The orderings that a condition asks for, by distance, nearest first; `next`
is the position of its first parameter. -/
def orderings (next : Nat) : Predicate → List String
  | nearest distance _ => [number next distance.template ++ " ASC"]
  | not p | paren p => orderings next p
  | and ps | or ps => orderingsAll next ps
  | _ => []

def orderingsAll (next : Nat) : List Predicate → List String
  | [] => []
  | p :: rest => orderings next p ++ orderingsAll (next + (params p).length) rest

end

def fragment (p : Predicate) : Fragment := { template := p.template, params := p.params }

def orNull (e : Expr) (p : Predicate) : Predicate := paren (or [p, isNull e])

end Predicate

/-- The condition of a statement in its final text, with the orderings it asks
for; no condition is the empty text. -/
structure Filter where
  pattern : String := ""
  sorts : List String := []
deriving Inhabited

namespace Filter

def isEmpty (filter : Filter) : Bool := filter.pattern.isEmpty

def whereClause (filter : Filter) : String :=
  if filter.isEmpty then "" else " WHERE " ++ filter.pattern

def assemble (conjuncts : List Predicate) : Assembly Filter := do
  if conjuncts.isEmpty then return {}
  let all := Predicate.and conjuncts
  let next ← Assembly.next
  return { pattern := ← Assembly.bind all.fragment, sorts := all.orderings next }

end Filter
end DocSql.Sql
