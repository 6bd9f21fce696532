import DocSql.Proofs.Query.Compiling
import DocSql.Proofs.Schema.Columns
import DocSql.Proofs.Sql.Shifting
import DocSql.Proofs.Statement.Numbering

/-!
Statements put together from parts that were compiled on their own. A query
reads the parameters bound before it only through their number, so compiling it
from a later position on moves its placeholders and changes nothing else. An
update binds its assignments first, and its query goes on from there.
-/
namespace DocSql

open Sql (Assembly Builder Filter Predicate)

namespace Query

theorem compile_shifted (scope : Scope) (query : Json) (first : Nat) :
    compile scope query first =
      (fun made => (made.1.shifted (first - 1), made.2)) <$> compile scope query 1 := by
  rw [compile_eq, compile_eq]
  cases ofJson query with
  | error e => rfl
  | ok q =>
    change (predicates scope q >>= _) = _ <$> (predicates scope q >>= _)
    cases hfound : predicates scope q with
    | error e => rfl
    | ok found =>
      have hplain := ((predicates_yields scope q).result hfound).1
      have hfirst : max first 1 = 1 + (first - 1) := by omega
      have hshifted := Filter.shifted_number hplain Nat.one_pos (first - 1)
      rw [← hfirst] at hshifted
      exact congrArg (fun filter => Except.ok (filter, Predicate.paramsAll found)) hshifted.symm

theorem run_filter_behind (scope : Scope) (query : Query) (bound : List Datum) :
    (filter scope query).run ((Builder.startingAt 1).push bound) =
      (fun made => (made.1, (Builder.startingAt 1).push (bound ++ made.2))) <$>
        Assembly.runFrom (1 + bound.length) (filter scope query) := by
  have hnext : ((Builder.startingAt 1).push bound).next =
      (Builder.startingAt (1 + bound.length)).next := by
    rw [Builder.next_startingAt, Builder.next_push, Builder.next_startingAt]
    omega
  unfold Assembly.runFrom
  rw [run_filter, run_filter, hnext, ← bind_pure_comp, bind_assoc, bind_assoc]
  simp only [Builder.push_push]
  rfl

end Query

namespace Update

theorem setClause_storage (schema : Schema) (update : Update) :
    setClause schema.toStorage.toStorage update = setClause schema.toStorage update := by
  unfold setClause assignments
  simp only [Schema.field?_toStorage_toStorage]

theorem statement_andThen {α : Type} {work : Assembly α} {a : α} {b : Builder}
    (h : work.run (.startingAt 1) = .ok (a, b)) (more : α → Assembly String) :
    Assembly.statement (work >>= more) =
      (fun made => ⟨made.1, made.2.params⟩) <$> (more a).run b := by
  unfold Assembly.statement Assembly.runFrom
  rw [Assembly.run_andThen h]
  cases (more a).run b with
  | _ => rfl

/-- Once both documents are read, the assignments are bound from one on and the
query behind them. -/
theorem statement_eq (scope : Scope) (query update : Json) : statement scope query update = (do
    let update ← ofJson update
    let query ← Query.ofJson query
    let (set, bound) ← Assembly.runFrom 1 (setClause scope.schema.toStorage update)
    let (filter, asked) ← Assembly.runFrom (1 + bound.length) (Query.filter scope query)
    return ⟨"UPDATE " ++ scope.table ++ " SET " ++ set ++ filter.whereClause ++ " RETURNING *",
      bound ++ asked⟩) := by
  unfold statement
  cases ofJson update with
  | error e => rfl
  | ok update =>
    cases Query.ofJson query with
    | error e => rfl
    | ok query =>
      change Assembly.statement (setClause scope.schema.toStorage update >>= _) =
        (Assembly.runFrom 1 (setClause scope.schema.toStorage update) >>= _)
      have hbinds := (setClause_shows scope.schema.toStorage update (.startingAt 1)).yields
      cases hset : (setClause scope.schema.toStorage update).run (.startingAt 1) with
      | error e =>
        unfold Assembly.statement Assembly.runFrom
        rw [StateT.run_bind, hset]
        rfl
      | ok made =>
        obtain ⟨set, b⟩ := made
        obtain ⟨bound, rfl, -⟩ := hbinds.result hset
        rw [statement_andThen hset, Assembly.runFrom_eq hset, StateT.run_bind,
          Query.run_filter_behind]
        change _ = (Assembly.runFrom (1 + bound.length) (Query.filter scope query) >>= _)
        cases Assembly.runFrom (1 + bound.length) (Query.filter scope query) with
        | _ => rfl

/-- Compiling a query from a later position on moves its placeholders and those
of its orderings, and what it binds and whether it fails stay the same. So an
update is written just where its assignments and its query can be compiled one
after the other, and made of the two, although it takes the storage view of a
schema that is in its storage view already. -/
theorem statement_composed (schema : Schema) (foldCase : Bool) (language : String)
    (now : Timestamp) (query : Json) :
    let scope : Scope := { schema := schema.toStorage, foldCase, language, now }
    (∀ first, Query.compile scope query first =
      (fun made => (made.1.shifted (first - 1), made.2)) <$> Query.compile scope query 1) ∧
    ∀ update s, statement scope query update = .ok s ↔
      ∃ set bound filter asked, compile schema update 1 = .ok (set, bound) ∧
        Query.compile scope query (1 + bound.length) = .ok (filter, asked) ∧
        s = ⟨"UPDATE " ++ Sql.identifier schema.className ++ " SET " ++ set ++
          (if filter.pattern = "" then "" else " WHERE " ++ filter.pattern) ++ " RETURNING *",
          bound ++ asked⟩ := by
  intro scope
  refine ⟨Query.compile_shifted scope query, fun update s => ?_⟩
  have hwhere (filter : Filter) : filter.whereClause =
      if filter.pattern = "" then "" else " WHERE " ++ filter.pattern := by
    simp [Filter.whereClause, Filter.isEmpty]
  rw [statement_eq]
  unfold compile Query.compile
  simp only [bind_eq_ok, scope, setClause_storage]
  constructor
  · rintro ⟨changes, hchanges, clauses, hclauses, ⟨set, bound⟩, hset, ⟨filter, asked⟩, hfilter, hs⟩
    refine ⟨set, bound, filter, asked, ⟨changes, hchanges, hset⟩, ⟨clauses, hclauses, hfilter⟩, ?_⟩
    rw [← hwhere]
    exact (Except.ok.inj hs).symm
  · rintro ⟨set, bound, filter, asked, ⟨changes, hchanges, hset⟩, ⟨clauses, hclauses, hfilter⟩, rfl⟩
    refine ⟨changes, hchanges, clauses, hclauses, (set, bound), hset, (filter, asked), hfilter, ?_⟩
    rw [← hwhere]
    rfl

end Update
end DocSql
