import DocSql.Proofs.Schema.Columns
import DocSql.Proofs.Statement.Numbering
import DocSql.Proofs.Storage.Values

/-!
Inserting as an equation. A document that passes the check of its keys and
whose values can be encoded is always inserted, and the expression of a column
depends on the column and its value alone, not on the rest of the document.
-/
namespace DocSql.Insert

open Sql (Assembly Builder Expr)

def expression (schema : Schema) (name : String) (value : Json) : Except Error Expr :=
  Expr.ofDatum <$> Datum.encode name (Entries.find? schema.columns name) value

def rowTexts (next : Nat) : List Expr → List String
  | [] => []
  | e :: rest => Sql.number next e.template :: rowTexts (next + e.params.length) rest

def text (schema : Schema) (names row : List String) : String :=
  "INSERT INTO " ++ Sql.identifier schema.className ++
    " (" ++ String.intercalate ", " (names.map Sql.identifier) ++
    ") VALUES (" ++ String.intercalate ", " row ++ ")"

/-- The statement gives this expression to the column: they stand at one place
of the two lists, and the expression has its parameters to itself. -/
def Writes (schema : Schema) (document : Entries Json) (s : Statement) (name : String) (e : Expr) :
    Prop :=
  let names := (columns schema document).map Prod.fst
  ∃ row earlier later, s.sql = text schema names row ∧ row.length = names.length ∧
    (name, Sql.number (1 + List.length earlier) e.template) ∈ names.zip row ∧
    s.params = earlier ++ e.params ++ later

theorem rowTexts_length (next : Nat) (exprs : List Expr) :
    (rowTexts next exprs).length = exprs.length := by
  induction exprs generalizing next with
  | nil => rfl
  | cons e rest ih => rw [rowTexts, List.length_cons, List.length_cons, ih]

theorem run_row {exprs : List Expr} (h : ∀ e ∈ exprs, e.IsPlain) (b : Builder) :
    (exprs.mapM fun e => Assembly.bind e.fragment).run b =
      .ok (rowTexts b.next exprs, b.push (exprs.flatMap Expr.params)) := by
  induction exprs generalizing b with
  | nil =>
    rw [List.flatMap_nil, Builder.push_nil]
    rfl
  | cons e rest ih =>
    have hfirst : (Assembly.bind e.fragment).run b =
        .ok (Sql.number b.next e.template, b.push e.params) :=
      Assembly.run_bind (f := e.fragment) (Expr.aligned (h e List.mem_cons_self)) b
    have hrest := ih (fun other hother => h other (List.mem_cons_of_mem e hother))
      (b.push e.params)
    rw [Builder.next_push, Builder.push_push] at hrest
    rw [List.mapM_cons, Assembly.run_andThen hfirst, Assembly.run_andThen hrest]
    rfl

theorem mem_row {all : List (String × Json)} {exprs : List Expr}
    {R : String × Json → Expr → Prop} (h : List.Forall₂ R all exprs) {column : String × Json}
    (hc : column ∈ all) (next : Nat) : ∃ e earlier later, R column e ∧
      exprs.flatMap Expr.params = earlier ++ e.params ++ later ∧
      (column.1, Sql.number (next + List.length earlier) e.template) ∈
        (all.map Prod.fst).zip (rowTexts next exprs) := by
  induction h generalizing next with
  | nil => cases hc
  | @cons first e others rest hfirst _ ih =>
    rw [List.flatMap_cons, List.map_cons, rowTexts, List.zip_cons_cons]
    rcases List.mem_cons.1 hc with rfl | hc
    · exact ⟨e, [], rest.flatMap Expr.params, hfirst, rfl, List.mem_cons_self⟩
    · obtain ⟨found, earlier, later, hfound, hparams, hmem⟩ := ih hc (next + e.params.length)
      refine ⟨found, e.params ++ earlier, later, hfound, ?_, ?_⟩
      · rw [hparams, List.append_assoc, List.append_assoc, List.append_assoc]
      · rw [List.length_append, ← Nat.add_assoc]
        exact List.mem_cons_of_mem _ hmem

theorem expression_yields (schema : Schema) (name : String) (value : Json) :
    Yields (expression schema name value) Expr.IsPlain :=
  .map ((Datum.encode_refuses name _ value).mono fun datum _ => Expr.ofDatum_plain datum)

theorem values_forall₂ {schema : Schema} {all : List (String × Json)} {exprs : List Expr}
    (h : values schema all = .ok exprs) : List.Forall₂
      (fun column e => expression schema column.1 column.2 = .ok e ∧ e.IsPlain) all exprs :=
  (Yields.mapM_forall₂ fun column _ => (expression_yields schema column.1 column.2).made).result h

theorem statement_eq (schema : Schema) (document : Entries Json) :
    statement schema document = (do
      checkMembers false document
      let all := columns schema document
      if all.isEmpty then throw (.invalidQuery "object has no columns to insert")
      let exprs ← values schema all
      return ⟨text schema (all.map Prod.fst) (rowTexts 1 exprs), exprs.flatMap Expr.params⟩) := by
  unfold statement
  cases checkMembers false document with
  | error e => rfl
  | ok _ =>
    cases columns schema document with
    | nil => rfl
    | cons column rest =>
      change (values schema _ >>= _) = (values schema _ >>= _)
      cases hvalues : values schema (column :: rest) with
      | error e => rfl
      | ok exprs =>
        have hplain : ∀ e ∈ exprs, e.IsPlain := (values_yields schema _).result hvalues
        refine Assembly.statement_eq ((Assembly.run_andThen (run_row hplain _) _).trans ?_)
        unfold text
        rw [List.map_map]
        rfl

theorem statement_ok_iff {schema : Schema} {document : Entries Json} {s : Statement} :
    statement schema document = .ok s ↔
      checkMembers false document = .ok () ∧ columns schema document ≠ [] ∧
        ∃ exprs, values schema (columns schema document) = .ok exprs ∧
          s = ⟨text schema ((columns schema document).map Prod.fst) (rowTexts 1 exprs),
            exprs.flatMap Expr.params⟩ := by
  rw [statement_eq]
  constructor
  · intro h
    obtain ⟨_, hcheck, h⟩ := bind_eq_ok.1 h
    dsimp only at h
    split at h
    · cases h
    next hsome =>
      obtain ⟨exprs, hvalues, hs⟩ := bind_eq_ok.1 h
      cases hs
      exact ⟨hcheck, by simpa using hsome, exprs, hvalues, rfl⟩
  · rintro ⟨hcheck, hsome, exprs, hvalues, rfl⟩
    rw [hcheck]
    change (if (columns schema document).isEmpty then _ else values schema _ >>= _) = _
    rw [if_neg (by simpa using hsome), hvalues]
    rfl

/-- Whether a key of a document is written to the column of its name: neither a
provider nor the whole of them, which share a column, nor a relation. -/
structure IsColumnKey (schema : Schema) (name : String) : Prop where
  isPlain : name ≠ "authData"
  isNoProvider : Update.provider? name = none
  isNoRelation : (schema.field? name).any FieldType.isRelation = false

/-- Inserting encodes the value of a column on its own: it fails where encoding
fails, and otherwise gives the column the expression, whatever stands beside it. -/
structure Stores (schema : Schema) (name : String) (value : Json) : Prop where
  alone : statement schema [(name, value)] =
    (fun e => ⟨text schema [name] [Sql.number 1 e.template], e.params⟩) <$>
      expression schema name value
  among : ∀ {document : Entries Json} {s : Statement}, (name, value) ∈ document →
    statement schema document = .ok s →
      ∃ e, expression schema name value = .ok e ∧ Writes schema document s name e

variable {schema : Schema} {name : String} {value : Json}

theorem expression_of_declared {type : FieldType} (hf : schema.toStorage.field? name = some type)
    (hv : type.Admits value) :
    expression schema name value = Expr.ofDatum <$> Datum.encodeAs name type value := by
  have hpermission : Schema.isPermissionField name → type = .arrayOf .string := by
    intro h
    rw [schema.field?_toStorage_permission h] at hf
    exact (Option.some.inj hf).symm
  unfold expression
  rw [Schema.find?_columns_of_declared hf hv.not_relation, Datum.encode_of_admits hpermission hv]

theorem columns_single (h : IsColumnKey schema name) (value : Json) :
    columns schema [(name, value)] = [(name, value)] := by
  have hproviders : providers [(name, value)] = [] := by
    simp [providers, h.isNoProvider, Entries.ofList]
  unfold columns
  rw [hproviders]
  simp [h.isNoProvider, h.isNoRelation]

theorem mem_columns (h : IsColumnKey schema name) {document : Entries Json}
    (hm : (name, value) ∈ document) : (name, value) ∈ columns schema document := by
  have hplain : (name, value) ∈ document.filter fun entry =>
      (Update.provider? entry.1).isNone && !(schema.field? entry.1).any FieldType.isRelation := by
    simp [hm, h.isNoProvider, h.isNoRelation]
  unfold columns
  split
  · exact hplain
  · refine List.mem_append_left _ (List.mem_filter.2 ⟨hplain, ?_⟩)
    simpa using h.isPlain

theorem values_single (schema : Schema) (name : String) (value : Json) :
    values schema [(name, value)] = (fun e => [e]) <$> expression schema name value := by
  unfold values
  rw [List.mapM_cons, List.mapM_nil]
  change (do return (← expression schema name value) :: (← pure [])) = _
  cases expression schema name value with
  | error e => rfl
  | ok e => rfl

theorem statement_single (h : IsColumnKey schema name) (hv : checkValue value = .ok ()) :
    statement schema [(name, value)] =
      (fun e => ⟨text schema [name] [Sql.number 1 e.template], e.params⟩) <$>
        expression schema name value := by
  have hcheck : checkMembers false [(name, value)] = .ok () := by
    simp only [checkMembers, Bool.false_and, Bool.false_eq_true, if_false, hv]
    rfl
  rw [statement_eq, hcheck, columns_single h]
  change (values schema [(name, value)] >>= _) = _
  rw [values_single]
  cases expression schema name value with
  | error e => rfl
  | ok e =>
    change Except.ok (Statement.mk _ (e.params ++ [])) = _
    rw [List.append_nil]
    rfl

theorem statement_writes (h : IsColumnKey schema name) {document : Entries Json} {s : Statement}
    (hm : (name, value) ∈ document) (hs : statement schema document = .ok s) :
    ∃ e, expression schema name value = .ok e ∧ Writes schema document s name e := by
  obtain ⟨-, -, exprs, hvalues, rfl⟩ := statement_ok_iff.1 hs
  have hall := values_forall₂ hvalues
  obtain ⟨e, earlier, later, ⟨he, -⟩, hparams, hmem⟩ := mem_row hall (mem_columns h hm) 1
  refine ⟨e, he, rowTexts 1 exprs, earlier, later, rfl, ?_, hmem, hparams⟩
  rw [rowTexts_length, List.length_map, hall.length_eq]

theorem stores (h : IsColumnKey schema name) (hv : checkValue value = .ok ()) :
    Stores schema name value :=
  ⟨statement_single h hv, statement_writes h⟩

end DocSql.Insert
