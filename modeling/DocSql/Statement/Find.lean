import DocSql.Query.Filter
import DocSql.Schema.Columns

/-!
Selecting documents: the projected columns, the filter, the orderings of the
query before those that are asked for, and the page.
-/
namespace DocSql.Find

open Sql (Assembly Fragment Filter)

inductive Direction
  | ascending
  | descending
deriving DecidableEq, Inhabited

def Direction.ofJson (value : Json) : Direction :=
  if value.toInt64? = some 1 then .ascending else .descending

def Direction.keyword : Direction → String
  | ascending => "ASC"
  | descending => "DESC"

structure Options where
  skip : Option Nat := none
  limit : Option Nat := none
  sort : List (String × Direction) := []
  /-- The fields to show; all columns where there is no list. -/
  keys : Option (List String) := none
  explain : Bool := false
deriving Inhabited

def scoreColumn : String := "score"

def rank (language field term : String) : Fragment where
  template := "ts_rank_cd(to_tsvector(?::regconfig, " ++ Sql.identifier field ++
    "), to_tsquery(?::regconfig, ?), 32) AS " ++ Sql.identifier scoreColumn
  params := [.text language, .text language, .text term]

/-- The columns that a projected key stands for; unknown keys stand for none. -/
def keyColumns (scope : Scope) (query : Query) (key : String) : Assembly (List String) := do
  if key = "ACL" then
    return [Sql.identifier Schema.readPermissions, Sql.identifier Schema.writePermissions]
  if key = "$score" then
    let some (field, search) := Query.search? query
      | throw (.invalidQuery "$score requires a $text query")
    return [← Assembly.bind (rank (search.language.getD scope.language) field search.term)]
  if Entries.contains scope.schema.columns key then return [Sql.identifier key]
  return []

def dropRepeats : List String → List String
  | a :: b :: rest => if a = b then dropRepeats (b :: rest) else a :: dropRepeats (b :: rest)
  | short => short

def projection (scope : Scope) (query : Query) (keys : Option (List String)) :
    Assembly String := do
  let some keys := keys | return "*"
  let columns := dropRepeats (← keys.mapM (keyColumns scope query)).flatten
  return if columns.isEmpty then "*" else String.intercalate ", " columns

def sortColumn (key : String) : String :=
  if key = "$score" then Sql.identifier scoreColumn
  else if key = "_created_at" then Sql.identifier "createdAt"
  else if key = "_updated_at" then Sql.identifier "updatedAt"
  else if Sql.isDotted key then Sql.jsonPath key
  else Sql.identifier key

def orderings (filter : Filter) (sort : List (String × Direction)) : List String :=
  filter.sorts ++ sort.map fun (key, direction) => sortColumn key ++ " " ++ direction.keyword

/-- A clause that takes a count, clamped to 64 bits, where one is given. -/
def countClause (keyword : String) (count : Option Nat) : Assembly String :=
  match count with
  | none => return ""
  | some n => Assembly.bind
      { template := " " ++ keyword ++ " ?", params := [.int (min (n : Int) Number.maxInt64)] }

def assemble (scope : Scope) (query : Query) (options : Options) : Assembly String := do
  let columns ← projection scope query options.keys
  let filter ← Query.filter scope query
  let order := orderings filter options.sort
  let limit ← countClause "LIMIT" options.limit
  let offset ← countClause "OFFSET" options.skip
  return (if options.explain then "EXPLAIN (ANALYZE, FORMAT JSON) " else "") ++
    "SELECT " ++ columns ++ " FROM " ++ Sql.identifier scope.schema.className ++
    filter.whereClause ++
    (if order.isEmpty then "" else " ORDER BY " ++ String.intercalate ", " order) ++
    limit ++ offset

def statement (scope : Scope) (query : Json) (options : Options) : Except Error Statement := do
  let query ← Query.ofJson query
  Assembly.statement (assemble scope query options)

end DocSql.Find
