import DocSql.Proofs.Query.Numbering
import DocSql.Proofs.Sql.Texts
import DocSql.Proofs.Update.Assignments
import DocSql.Statement.Distinct
import DocSql.Statement.Find
import DocSql.Statement.Insert
import DocSql.Statement.Modify

/-!
The statements that read and write documents. Their parts are bound in the
order in which the text has them, so placeholders count up from one; only a
selection refers to positions again, in its orderings by distance.
-/
namespace DocSql

open Sql (Assembly Builder Expr Filter Predicate Shows ShowsAll placeholders)

/-- Every parameter has one placeholder, and they stand in their order. -/
def Statement.InOrder (s : Statement) : Prop :=
  placeholders s.sql = List.range' 1 s.params.length

theorem Statement.inOrder {sql : String} {params : List Datum}
    (h : Shows sql.toList (List.range' (Builder.startingAt 1).next params.length)) :
    Statement.InOrder ⟨sql, params⟩ := h.placeholders_eq

theorem Scope.table_shows (scope : Scope) : Shows scope.table.toList [] :=
  Sql.identifier_shows scope.schema.className

namespace Insert

theorem values_yields (schema : Schema) (all : List (String × Json)) :
    Yields (values schema all) fun exprs => ∀ e ∈ exprs, e.IsPlain := by
  unfold values
  refine Yields.mapM fun (name, value) _ => ?_
  exact .map ((Datum.encode_refuses name _ value).mono fun _ _ => Expr.ofDatum_plain _)

theorem statement_inOrder (schema : Schema) (document : Entries Json) :
    Yields (statement schema document) Statement.InOrder := by
  unfold statement
  refine (checkMembers_refuses false document).bind fun _ _ => ?_
  dsimp only
  split
  · exact .throw_bind rfl
  · refine (values_yields schema _).bind fun exprs hexprs => Assembly.Binds.statement ?_
    have hrow : ∀ e ∈ exprs, ∀ b, (Assembly.bind e.fragment).Binds b fun text params =>
        Shows text.toList (List.range' b.next params.length) :=
      fun e he b => .fragment_shows (Expr.aligned (hexprs e he))
    refine (Assembly.Binds.mapM_shows hrow).bind fun row params hshows => .pure ?_
    rw [List.append_nil]
    refine Statement.inOrder ?_
    have hcolumns : Shows (String.intercalate ", "
        ((columns schema document).map fun column => Sql.identifier column.1)).toList [] := by
      refine (ShowsAll.nothing ?_).intercalate rfl
      intro text htext
      obtain ⟨column, -, rfl⟩ := List.mem_map.1 htext
      exact Sql.identifier_shows column.1
    simp only [String.toList_append, List.append_assoc]
    have hvalues : Shows ((String.intercalate ", " row).toList ++ ")".toList) _ :=
      (hshows.intercalate rfl).closedBy rfl
    exact .plain_append rfl ((Sql.identifier_shows _).joined rfl (hcolumns.joined rfl hvalues))

end Insert

namespace Update

theorem setClause_shows (schema : Schema) (update : Update) (b : Builder) :
    (setClause schema update).Binds b fun text params =>
      Shows text.toList (List.range' b.next params.length) := by
  unfold setClause
  refine .lift_bind (assignments_yields schema update) fun all hall => ?_
  dsimp only
  split
  · exact .throw_bind rfl
  · exact .fragment_shows (assignments_aligned hall)

theorem statement_inOrder (scope : Scope) (query update : Json) :
    Yields (statement scope query update) Statement.InOrder := by
  unfold statement
  refine (ofJson_refuses update).bind fun update _ => ?_
  refine (Query.ofJson_refuses query).bind fun query _ => Assembly.Binds.statement ?_
  refine (setClause_shows _ update _).bind fun set params hset => ?_
  refine (Query.filter_binds scope query _).bind fun filter more hfilter => .pure ?_
  rw [List.append_nil]
  refine Statement.inOrder ?_
  rw [List.length_append, ← List.range'_append_1, ← Builder.next_push]
  have hhead : Shows ("UPDATE " ++ scope.table ++ " SET " ++ set).toList
      (List.range' (Builder.startingAt 1).next params.length) := by
    simp only [String.toList_append, List.append_assoc]
    exact .plain_append rfl (scope.table_shows.joined rfl hset)
  have hall := (Filter.whereClause_isClause hfilter.shows).after hhead
  rw [String.toList_append]
  exact hall.closedBy rfl

end Update

namespace Query

theorem deleteStatement_inOrder (scope : Scope) (query : Json) :
    Yields (deleteStatement scope query) Statement.InOrder := by
  unfold deleteStatement
  refine (ofJson_refuses query).bind fun query _ => Assembly.Binds.statement ?_
  refine (filter_binds scope query _).bind fun filter params hfilter => .pure ?_
  rw [List.append_nil]
  refine Statement.inOrder ?_
  simp only [String.toList_append, List.append_assoc]
  have hpattern : Shows (if filter.isEmpty then "TRUE" else filter.pattern).toList
      (List.range' (Builder.startingAt 1).next params.length) := by
    split
    next he =>
      rw [Filter.isEmpty_shows he hfilter.shows]
      exact .plain rfl
    next => exact hfilter.shows
  exact .plain_append rfl (scope.table_shows.joined rfl (hpattern.closedBy rfl))

theorem countStatement_inOrder (scope : Scope) (query : Json) :
    Yields (countStatement scope query) Statement.InOrder := by
  unfold countStatement
  refine (ofJson_refuses query).bind fun query _ => Assembly.Binds.statement ?_
  refine (filter_binds scope query _).bind fun filter params hfilter => .pure ?_
  rw [List.append_nil]
  refine Statement.inOrder ?_
  refine (Filter.whereClause_isClause hfilter.shows).behind ?_
  rw [String.toList_append]
  exact .plain_append rfl scope.table_shows

end Query

namespace Distinct

theorem expression_shows (field : String) (type? : Option FieldType) :
    Shows (expression field type?).toList [] := by
  have hcolumn := Sql.identifier_shows field
  unfold expression
  dsimp only
  split
  · exact Sql.jsonPath_shows field
  · split
    · simp only [String.toList_append, List.append_assoc]
      exact .plain_append rfl (hcolumn.closedBy rfl)
    · split
      · simp only [String.toList_append, List.append_assoc]
        exact .plain_append rfl (hcolumn.closedBy rfl)
      · exact hcolumn

theorem plan_inOrder (scope : Scope) (query : Json) (field : String) :
    Yields (plan scope query field) fun plan => plan.statement.InOrder := by
  unfold plan
  refine (Query.ofJson_refuses query).bind fun query _ => ?_
  dsimp only
  refine Yields.bind (P := Statement.InOrder) (Assembly.Binds.statement ?_) fun _ hs => .pure hs
  refine (Query.filter_binds scope query _).bind fun filter params hfilter => .pure ?_
  rw [List.append_nil]
  refine Statement.inOrder ?_
  refine (Filter.whereClause_isClause hfilter.shows).behind ?_
  have htable := Sql.identifier_shows scope.schema.className
  simp only [String.toList_append, List.append_assoc]
  exact .plain_append rfl
    ((expression_shows field _).joined rfl ((Sql.identifier_shows field).joined rfl htable))

end Distinct

end DocSql
