import DocSql.Proofs.Query.Compiling
import DocSql.Proofs.Schema.Columns
import DocSql.Statement.Modify

/-!
Clauses that are skipped because their field is missing in every row. The
declared fields decide what is missing, while tables have columns that need no
declaration, so a clause on such a column is skipped with the others.
-/
namespace DocSql

open Sql (Predicate)

def Scope.skips (scope : Scope) (field : String × Condition) : Bool :=
  (scope.target field.1).skips field.2

def Operator.asksAbsence : Operator → Bool
  | present false => true
  | _ => false

def Condition.asksAbsence : Condition → Bool
  | operators tests => tests.any Operator.asksAbsence
  | _ => false

namespace Query

mutual

def clauseFields : Clause → List (String × Condition)
  | .field name condition => [(name, condition)]
  | .group _ queries => groupFields queries

def fields : List Clause → List (String × Condition)
  | [] => []
  | clause :: rest => clauseFields clause ++ fields rest

def groupFields : List (List Clause) → List (String × Condition)
  | [] => []
  | query :: rest => fields query ++ groupFields rest

end

mutual

def clauseKept (scope : Scope) : Clause → List Clause
  | .field name condition =>
    if scope.skips (name, condition) then [] else [.field name condition]
  | .group kind queries => [.group kind (groupKept scope queries)]

/-- The query without the clauses that are skipped. -/
def kept (scope : Scope) : List Clause → List Clause
  | [] => []
  | clause :: rest => clauseKept scope clause ++ kept scope rest

def groupKept (scope : Scope) : List (List Clause) → List (List Clause)
  | [] => []
  | query :: rest => kept scope query :: groupKept scope rest

end

end Query

theorem Target.skips_eq (t : Target) (condition : Condition) :
    t.skips condition = (!t.isDotted && t.type?.isNone && condition.asksAbsence) := by
  cases condition with
  | operators tests => rfl
  | null | scalar _ | pointer _ | date _ | geoPoint _ | polygon _ =>
    simp [skips, Condition.asksAbsence]

theorem Scope.skips_iff (scope : Scope) (field : String × Condition) :
    scope.skips field ↔ Sql.isDotted field.1 = false ∧ scope.schema.field? field.1 = none ∧
      field.2.asksAbsence := by
  simp [skips, Target.skips_eq, target, Target.isDotted, and_assoc]

namespace Query

variable (scope : Scope)

theorem predicates_append (query more : Query) :
    predicates scope (query ++ more) =
      (do return (← predicates scope query) ++ (← predicates scope more)) := by
  induction query with
  | nil =>
    rw [List.nil_append, predicates]
    cases predicates scope more with
    | error e => rfl
    | ok found => rfl
  | cons clause rest ih =>
    rw [List.cons_append, predicates, predicates, ih]
    cases clausePredicates scope clause with
    | error e => rfl
    | ok first =>
      cases predicates scope rest with
      | error e => rfl
      | ok found =>
        cases predicates scope more with
        | error e => rfl
        | ok others => exact congrArg Except.ok (List.append_assoc first found others).symm

mutual

theorem clausePredicates_kept : ∀ clause : Clause,
    predicates scope (clauseKept scope clause) = clausePredicates scope clause
  | .field name condition => by
    simp only [clauseKept]
    split
    next h =>
      simp only [predicates, clausePredicates, Target.clause]
      exact (if_pos h).symm
    next => exact predicates_single scope _
  | .group kind queries => by
    simp only [clauseKept]
    rw [predicates_single, clausePredicates, clausePredicates, groupPredicates_kept queries]

theorem predicates_kept : ∀ query : List Clause,
    predicates scope (kept scope query) = predicates scope query
  | [] => rfl
  | clause :: rest => by
    simp only [kept, predicates]
    rw [predicates_append, clausePredicates_kept clause, predicates_kept rest]

theorem groupPredicates_kept : ∀ queries : List (List Clause),
    groupPredicates scope (groupKept scope queries) = groupPredicates scope queries
  | [] => rfl
  | query :: rest => by
    simp only [groupKept, groupPredicates]
    rw [predicates_kept query, groupPredicates_kept rest]

end

theorem fields_append (query more : Query) :
    fields (query ++ more) = fields query ++ fields more := by
  induction query with
  | nil => rfl
  | cons clause rest ih => rw [List.cons_append, fields, fields, ih, List.append_assoc]

mutual

theorem clauseFields_kept : ∀ clause : Clause,
    fields (clauseKept scope clause) = (clauseFields clause).filter (!scope.skips ·)
  | .field name condition => by
    simp only [clauseKept, clauseFields]
    split
    next h => simp [fields, h]
    next h => simp [fields, clauseFields, h]
  | .group kind queries => by
    simp [clauseKept, fields, clauseFields, groupFields_kept queries]

theorem fields_kept : ∀ query : List Clause,
    fields (kept scope query) = (fields query).filter (!scope.skips ·)
  | [] => rfl
  | clause :: rest => by
    simp only [kept, fields]
    rw [fields_append, clauseFields_kept clause, fields_kept rest, List.filter_append]

theorem groupFields_kept : ∀ queries : List (List Clause),
    groupFields (groupKept scope queries) = (groupFields queries).filter (!scope.skips ·)
  | [] => rfl
  | query :: rest => by
    simp only [groupKept, groupFields]
    rw [fields_kept query, groupFields_kept rest, List.filter_append]

end

end Query

theorem Target.clause_absence {scope : Scope} {t : Target} (h : Sql.isDotted t.name = false) :
    t.clause scope (.operators [.present false]) =
      .ok (if t.type?.isSome then [.isNull (.column t.name)] else []) := by
  have hcolumn : t.column = .column t.name := column_undotted h t.type?
  have hskips : t.skips (.operators [.present false]) = t.type?.isNone := by
    rw [skips_eq, isDotted, h]
    simp [Condition.asksAbsence, Operator.asksAbsence]
  unfold clause
  rw [hskips]
  cases t.type? with
  | none => rfl
  | some type =>
    rw [← hcolumn]
    rfl

theorem Schema.supplies_undotted {schema : Schema} {name : String} (h : schema.supplies name) :
    Sql.isDotted name = false := by
  have hplain : ∀ column ∈ defaultColumns ++ userColumns, Sql.isDotted column.1 = false := by
    decide
  obtain ⟨type, hfound⟩ := Option.isSome_iff_exists.1 h
  have hmem := Entries.mem_of_find? hfound
  refine hplain (name, type) ?_
  unfold suppliedColumns at hmem
  split at hmem
  · exact hmem
  · rw [List.append_nil] at hmem
    exact List.mem_append_left _ hmem

theorem Scope.skips_column_iff {scope : Scope} {schema : Schema}
    (hs : scope.schema = schema.toStorage) (field : String × Condition) :
    (scope.skips field ∧ Entries.contains schema.columns field.1) ↔
      field.2.asksAbsence ∧ schema.supplies field.1 ∧ schema.toStorage.field? field.1 = none := by
  rw [skips_iff, hs]
  constructor
  · rintro ⟨⟨-, hmissing, habsence⟩, hcolumn⟩
    rw [Schema.contains_columns_of_undeclared hmissing] at hcolumn
    exact ⟨habsence, hcolumn, hmissing⟩
  · rintro ⟨habsence, hsupplied, hmissing⟩
    rw [Schema.contains_columns_of_undeclared hmissing]
    exact ⟨⟨Schema.supplies_undotted hsupplied, hmissing, habsence⟩, hsupplied⟩

namespace Query

def skipped (scope : Scope) (query : Query) : List (String × Condition) :=
  (fields query).filter scope.skips

/-- Skipping leaves out clauses and changes nothing else. No clause on a column
of the table is left out just where every column of the table that a clause
wants to be missing is declared: the table has some columns without that, and
there the condition is lost instead of comparing with null. -/
theorem skipping_spares_columns_iff (schema : Schema) (foldCase : Bool) (language : String)
    (now : Timestamp) (query : Query) :
    let scope : Scope := { schema := schema.toStorage, foldCase, language, now }
    (filter scope query = filter scope (kept scope query) ∧
      fields (kept scope query) = (fields query).filter (!scope.skips ·)) ∧
    ((∀ field ∈ skipped scope query, ¬Entries.contains schema.columns field.1) ↔
      ∀ field ∈ fields query, field.2.asksAbsence → schema.supplies field.1 →
        (schema.toStorage.field? field.1).isSome) ∧
    ∀ name, schema.supplies name →
      predicates scope [.field name (.operators [.present false])] =
        .ok (if (schema.toStorage.field? name).isSome then [.isNull (.column name)] else []) := by
  intro scope
  refine ⟨⟨?_, fields_kept scope query⟩, ?_, ?_⟩
  · rw [filter, filter, predicates_kept]
  · simp only [skipped, List.mem_filter, and_imp]
    refine forall₂_congr fun field _ => ?_
    have hcolumn : (scope.skips field ∧ Entries.contains schema.columns field.1) ↔ _ :=
      Scope.skips_column_iff rfl field
    constructor
    · intro hspared habsence hsupplied
      cases hdeclared : schema.toStorage.field? field.1 with
      | some type => rfl
      | none =>
        obtain ⟨hskipped, hcontained⟩ := hcolumn.2 ⟨habsence, hsupplied, hdeclared⟩
        exact absurd hcontained (hspared hskipped)
    · intro hall hskipped hcontained
      obtain ⟨habsence, hsupplied, hmissing⟩ := hcolumn.1 ⟨hskipped, hcontained⟩
      have hdeclared := hall habsence hsupplied
      rw [hmissing] at hdeclared
      cases hdeclared
  · intro name hname
    rw [predicates_single, clausePredicates]
    exact Target.clause_absence (Schema.supplies_undotted hname)

/-- Every table has an identifier, and where it is not declared, deleting the
rows without one deletes all rows. -/
theorem absent_identifier_deletes_all :
    let schema : Schema := { className := "Post", fields := [("title", .string)] }
    let query : Json := .obj [("objectId", .obj [("$exists", .bool false)])]
    (∃ q, ofJson query = .ok q ∧ ¬∀ field ∈ skipped (.ofSchema schema ⟨0, 0⟩) q,
      ¬Entries.contains schema.columns field.1) ∧
    deleteStatement (.ofSchema schema ⟨0, 0⟩) query = .ok { sql :=
      "WITH deleted AS (DELETE FROM \"Post\" WHERE TRUE RETURNING *) SELECT count(*) FROM deleted" } := by
  dsimp only
  have hname : Clause.IsFieldName "objectId" := by decide +kernel
  have hquery : ofJson (.obj [("objectId", .obj [("$exists", .bool false)])]) =
      .ok [.field "objectId" (.operators [.present false])] := by
    rw [ofJson_single hname]
    rfl
  refine ⟨⟨_, hquery, fun h => ?_⟩, ?_⟩
  · have hskipped := h ("objectId", .operators [.present false]) List.mem_cons_self
    exact hskipped (by decide)
  · unfold deleteStatement
    rw [hquery]
    rfl

end Query
end DocSql
