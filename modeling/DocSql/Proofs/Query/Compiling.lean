import DocSql.Proofs.Query.Numbering

/-!
Compiling as an equation. Conditions that were found can always be bound, so
compiling fails just where reading the query or one of its clauses fails, and
with the same failure.
-/
namespace DocSql

open Sql (Assembly Builder Filter Predicate)

def Scope.target (scope : Scope) (name : String) : Target := ⟨name, scope.schema.field? name⟩

theorem Target.column_undotted {name : String} (h : Sql.isDotted name = false)
    (type? : Option FieldType) : column ⟨name, type?⟩ = .column name := by
  unfold column isDotted
  rw [h]
  rfl

/-- Whether a query takes the name for a field or a path into one. -/
def Clause.IsFieldName (name : String) : Prop :=
  name.startsWith "$" = false ∧ name.startsWith "_auth_data_" = false

instance (name : String) : Decidable (Clause.IsFieldName name) :=
  inferInstanceAs (Decidable (_ ∧ _))

theorem Group.ofKey?_of_name {name : String} (h : name.startsWith "$" = false) :
    ofKey? name = none := by
  unfold ofKey?
  split
  · exact absurd h (by decide +kernel)
  · exact absurd h (by decide +kernel)
  · exact absurd h (by decide +kernel)
  · rfl

namespace Query

variable (scope : Scope)

theorem ofJson_single {name : String} (h : Clause.IsFieldName name) (value : Json) :
    ofJson (.obj [(name, value)]) =
      (fun condition => [.field name condition]) <$> Condition.ofJson value := by
  simp only [ofJson, ofMembers, Group.ofKey?_of_name h.1, Clause.ofField, h.1, h.2,
    Bool.false_eq_true, if_false]
  cases Condition.ofJson value with
  | error e => rfl
  | ok condition => rfl

theorem predicates_single (clause : Clause) :
    predicates scope [clause] = clausePredicates scope clause := by
  rw [predicates, predicates]
  cases clausePredicates scope clause with
  | error e => rfl
  | ok found => exact congrArg Except.ok (List.append_nil found)

theorem run_filter (query : Query) (b : Builder) : (filter scope query).run b = (do
    let found ← predicates scope query
    return (⟨Filter.patternOf b.next found, Predicate.orderingsAll b.next found⟩,
      b.push (Predicate.paramsAll found))) := by
  unfold filter
  cases hfound : predicates scope query with
  | error e => rfl
  | ok found =>
    have hplain := ((predicates_yields scope query).result hfound).1
    exact Filter.run_assemble hplain b

theorem compile_eq (query : Json) (first : Nat) : compile scope query first = (do
    let found ← predicates scope (← ofJson query)
    return (⟨Filter.patternOf (max first 1) found, Predicate.orderingsAll (max first 1) found⟩,
      Predicate.paramsAll found)) := by
  unfold compile
  cases ofJson query with
  | error e => rfl
  | ok q =>
    change Assembly.runFrom first (filter scope q) = (predicates scope q >>= _)
    unfold Assembly.runFrom
    rw [run_filter]
    cases predicates scope q with
    | error e => rfl
    | ok found => rfl

theorem compile_single {name : String} (h : Clause.IsFieldName name) (value : Json) (first : Nat) :
    compile scope (.obj [(name, value)]) first = (do
      let found ← (scope.target name).clause scope (← Condition.ofJson value)
      return (⟨Filter.patternOf (max first 1) found, Predicate.orderingsAll (max first 1) found⟩,
        Predicate.paramsAll found)) := by
  rw [compile_eq, ofJson_single h]
  cases Condition.ofJson value with
  | error e => rfl
  | ok condition =>
    change (predicates scope [.field name condition] >>= _) = _
    rw [predicates_single, clausePredicates]
    rfl

end Query
end DocSql
