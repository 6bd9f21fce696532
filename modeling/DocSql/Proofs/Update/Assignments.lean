import DocSql.Proofs.Refusals
import DocSql.Proofs.Sql.Binding
import DocSql.Update.Assignment

/-!
The expressions that updates and inserts write into columns. Keys, providers
and values are parameters or stand inside quotes, so every one of them is
plain, however deep the changes of an object go.
-/
namespace DocSql

open Sql (Aligned Assembly Builder Expr Fragment)

namespace Sql.Expr

theorem coalesce_plain {e standIn : Expr} (he : e.IsPlain) (hs : standIn.IsPlain) :
    (coalesce e standIn).IsPlain := ⟨rfl, he, hs⟩

theorem point_plain (p : Point) : (point p).IsPlain := ⟨rfl, trivial, trivial⟩

theorem polygon_plain (ring : Ring) : (polygon ring).IsPlain := ⟨trivial, rfl⟩

theorem json_plain (value : Json) : (json value).IsPlain := ⟨trivial, rfl⟩

theorem emptyObject_plain : emptyObject.IsPlain := ⟨trivial, rfl⟩

theorem emptyList_plain : emptyList.IsPlain := ⟨trivial, rfl⟩

theorem ofDatum_plain (value : Datum) : (ofDatum value).IsPlain := by
  cases value with
  | point p => exact point_plain p
  | polygon ring => exact polygon_plain ring
  | json value => exact json_plain value
  | textArray items => exact ⟨trivial, rfl⟩
  | null | bool _ | int _ | float _ | text _ | timestamp _ => trivial

end Sql.Expr

namespace Change

theorem listExpr_plain {column : Expr} (h : column.IsPlain) (type? : Option FieldType)
    (change : ListChange) (items : List Json) :
    (listExpr column type? change items).IsPlain := by
  have hfunction : Sql.isPlain change.function.toList := by
    cases change <;> rfl
  unfold listExpr
  dsimp only
  split
  · exact ⟨hfunction, Expr.coalesce_plain ⟨rfl, h⟩ Expr.emptyList_plain, Expr.json_plain _⟩
  · exact ⟨hfunction, Expr.coalesce_plain h Expr.emptyList_plain, Expr.json_plain _⟩

theorem incrementExpr_plain {column : Expr} (h : column.IsPlain) (key : String) (amount : Number) :
    (incrementExpr column key amount).IsPlain :=
  ⟨rfl, ⟨trivial, rfl⟩, rfl, ⟨Expr.coalesce_plain h trivial, rfl⟩, trivial⟩

theorem providersExpr_plain {column : Expr} (h : column.IsPlain)
    (entries : List (String × Option Json)) : (providersExpr column entries).IsPlain := by
  refine List.foldlRecOn entries _ h fun e he entry _ => ?_
  exact ⟨⟨rfl, Expr.coalesce_plain he Expr.emptyObject_plain, ⟨trivial, rfl⟩, ⟨trivial, rfl⟩⟩, rfl⟩

theorem patchExpr_plain {column : Expr} (h : column.IsPlain) (keys : Patch) :
    (patchExpr column keys).IsPlain := by
  unfold patchExpr
  dsimp only
  refine ⟨rfl, ?_, Expr.json_plain _⟩
  refine List.foldlRecOn keys.increments _ (List.foldlRecOn keys.deletes _ ?_ ?_) ?_
  · split
    · exact Expr.coalesce_plain h Expr.emptyObject_plain
    · exact Expr.emptyObject_plain
  · intro e he key _
    exact ⟨rfl, he, trivial, rfl⟩
  · intro e he entry _
    exact ⟨rfl, he, incrementExpr_plain h entry.1 entry.2⟩

theorem setExpr_yields (name : String) (type? : Option FieldType) (value : Json) :
    Yields (setExpr name type? value) fun found => ∀ e ∈ found, e.IsPlain := by
  have hsome {e : Expr} (h : e.IsPlain) : ∀ found ∈ some e, found.IsPlain := by
    simpa using h
  have hplain : Yields (do return some (Expr.param (← Datum.infer value)))
      fun found => ∀ e ∈ found, e.IsPlain :=
    (Datum.infer_refuses value).bind fun _ _ => .pure (hsome trivial)
  have hdated : Yields (do
      if (type? == some .date || Schema.isDefaultDate name) = true then
        return some (Expr.param (.timestamp (← Timestamp.ofJson value)))
      else do return some (Expr.param (← Datum.infer value)))
      fun found => ∀ e ∈ found, e.IsPlain := by
    split
    · exact (Timestamp.ofJson_refuses value).bind fun _ _ => .pure (hsome trivial)
    · exact hplain
  unfold setExpr
  dsimp only
  split
  · exact .pure (by simp)
  · exact (GeoPoint.ofJson_refuses _).bind fun _ _ => .pure (hsome (Expr.point_plain _))
  · exact (Ring.ofJson_refuses _).bind fun _ _ => .pure (hsome (Expr.polygon_plain _))
  · exact hdated
  · exact hplain
  · exact hplain
  · exact hdated
  · exact hplain
  · exact hplain
  · split
    · exact (Datum.encode_refuses _ _ _).bind fun _ _ => .pure (hsome (Expr.ofDatum_plain _))
    · exact .pure (hsome (Expr.json_plain _))
    · exact .pure (hsome (Expr.json_plain _))
    · exact .throw rfl
  · split
    · exact .pure (hsome (Expr.json_plain _))
    · exact .pure (hsome (Expr.json_plain _))
    · exact .throw rfl
  · exact .throw rfl

theorem expr_yields (name : String) (type? : Option FieldType) (change : Change) :
    Yields (change.expr name type?) fun found => ∀ e ∈ found, e.IsPlain := by
  have hsome {e : Expr} (h : e.IsPlain) : ∀ found ∈ some e, found.IsPlain := by
    simpa using h
  have hcolumn : (Expr.column name).IsPlain := trivial
  cases change with
  | unset => exact .ok (hsome trivial)
  | increment amount => exact .ok (hsome ⟨rfl, Expr.coalesce_plain hcolumn trivial, trivial⟩)
  | list change items => exact .ok (hsome (listExpr_plain hcolumn _ _ _))
  | providers entries => exact .ok (hsome (providersExpr_plain hcolumn _))
  | patch keys =>
    simp only [expr]
    split
    · exact .ok (hsome (patchExpr_plain hcolumn keys))
    · exact .error rfl
  | set value => exact setExpr_yields name type? value

end Change

theorem Assignment.aligned {a : Assignment} (h : a.value.IsPlain) :
    Aligned a.template.toList a.value.params.length := by
  simp only [template, String.toList_append, List.append_assoc]
  have hvalue := Expr.aligned h
  rw [← Nat.zero_add a.value.params.length]
  exact (Sql.identifier_aligned a.column).joined rfl hvalue

namespace Update

theorem assignments_yields (schema : Schema) (update : Update) :
    Yields (assignments schema update) fun all => ∀ a ∈ all, a.value.IsPlain := by
  unfold assignments
  refine Yields.bind (Yields.mapM (R := fun found => ∀ a ∈ found, a.value.IsPlain)
    fun (name, change) _ => ?_) fun found hfound => .pure ?_
  · refine (change.expr_yields name _).bind fun e he => .pure ?_
    intro a ha
    obtain ⟨value, hvalue, rfl⟩ := Option.map_eq_some_iff.1 ha
    exact he value hvalue
  · intro a ha
    obtain ⟨slot, hslot, hmade⟩ := List.mem_filterMap.1 ha
    exact hfound slot hslot a hmade

theorem assignments_aligned {all : List Assignment} (h : ∀ a ∈ all, a.value.IsPlain) :
    (Fragment.mk (String.intercalate ", " (all.map Assignment.template))
      (all.flatMap fun a => a.value.params)).IsAligned := by
  unfold Fragment.IsAligned
  dsimp only
  rw [List.length_flatMap]
  refine Aligned.intercalate rfl ?_
  induction all with
  | nil => exact .nil
  | cons a rest ih =>
    refine .cons (Assignment.aligned (h a List.mem_cons_self)) ?_
    exact ih fun other hother => h other (List.mem_cons_of_mem a hother)

theorem run_assignments {schema : Schema} {update : Update} {all : List Assignment}
    (h : assignments schema update = .ok all) (hne : all ≠ []) (b : Builder) :
    (setClause schema update).run b =
      .ok (Sql.number b.next (String.intercalate ", " (all.map Assignment.template)),
        b.push (all.flatMap fun a => a.value.params)) := by
  have hplain := (assignments_yields schema update).result h
  have hlift : (liftM (assignments schema update) : Assembly (List Assignment)).run b =
      .ok (all, b) := by
    rw [h]
    rfl
  unfold setClause
  rw [Assembly.run_andThen hlift, List.isEmpty_eq_false_iff.2 hne]
  simp only [Bool.false_eq_true, if_false]
  exact Assembly.run_bind (assignments_aligned hplain) b

end Update
end DocSql
