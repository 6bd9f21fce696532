import DocSql.Proofs.Alike
import DocSql.Proofs.Query.Productions
import DocSql.Proofs.Query.TextOperands

/-!
The folding of case. It looks at the value that a field equals and not at the
type of the column, so an identifier and the text of an instant are folded like
any other text, and they do not get the parameter that their column takes.
Everything else is compiled as without folding.
-/
namespace DocSql

open Sql (Expr Filter Predicate)

namespace Sql.Predicate

def lower : Predicate → Predicate
  | compare left relation right => compare (.apply "LOWER" left) relation (.apply "LOWER" right)
  | p => p

mutual

/-- The same condition, with `lower` on some equalities of a text and a column
that has the property. -/
inductive Lowers (P : String → Prop) : Predicate → Predicate → Prop
  | same (p : Predicate) : Lowers P p p
  | text {name : String} (h : P name) (s : String) :
    Lowers P (compare (.column name) .eq (.text s)) (lower (compare (.column name) .eq (.text s)))
  | not {p q : Predicate} (h : Lowers P p q) : Lowers P (not p) (not q)
  | paren {p q : Predicate} (h : Lowers P p q) : Lowers P (paren p) (paren q)
  | and {ps qs : List Predicate} (h : LowersAll P ps qs) : Lowers P (and ps) (and qs)
  | or {ps qs : List Predicate} (h : LowersAll P ps qs) : Lowers P (or ps) (or qs)

inductive LowersAll (P : String → Prop) : List Predicate → List Predicate → Prop
  | nil : LowersAll P [] []
  | cons {p q : Predicate} {ps qs : List Predicate} (h : Lowers P p q) (hs : LowersAll P ps qs) :
    LowersAll P (p :: ps) (q :: qs)

end

variable {P : String → Prop}

theorem LowersAll.refl (ps : List Predicate) : LowersAll P ps ps := by
  induction ps with
  | nil => exact .nil
  | cons p rest ih => exact .cons (.same p) ih

theorem LowersAll.append {ps qs others more : List Predicate} (h : LowersAll P ps qs)
    (hm : LowersAll P others more) : LowersAll P (ps ++ others) (qs ++ more) := by
  induction ps generalizing qs with
  | nil =>
    cases h
    exact hm
  | cons p rest ih =>
    cases h with
    | cons h hs => exact .cons h (ih hs)

mutual

theorem Lowers.params {p q : Predicate} : Lowers P p q → q.params = p.params
  | .same p => rfl
  | .text _ s => rfl
  | .not h | .paren h => by simp only [Predicate.params, h.params]
  | .and h | .or h => by simp only [Predicate.params, h.paramsAll]

theorem LowersAll.paramsAll {ps qs : List Predicate} :
    LowersAll P ps qs → paramsAll qs = paramsAll ps
  | .nil => rfl
  | .cons h hs => by simp only [Predicate.paramsAll, h.params, hs.paramsAll]

end

mutual

theorem Lowers.orderings {p q : Predicate} (next : Nat) :
    Lowers P p q → q.orderings next = p.orderings next
  | .same p => rfl
  | .text _ s => rfl
  | .not h | .paren h => by simp only [Predicate.orderings, h.orderings next]
  | .and h | .or h => by simp only [Predicate.orderings, h.orderingsAll next]

theorem LowersAll.orderingsAll {ps qs : List Predicate} (next : Nat) :
    LowersAll P ps qs → orderingsAll next qs = orderingsAll next ps
  | .nil => rfl
  | .cons h hs => by
    simp only [Predicate.orderingsAll, h.params, h.orderings next, hs.orderingsAll _]

end

end Sql.Predicate

open Sql.Predicate (Lowers LowersAll)

def Scope.folding (scope : Scope) : Scope := { scope with foldCase := true }

def Operator.equatesText : Operator → Bool
  | eq value => value.isText
  | _ => false

def Condition.equatesText : Condition → Bool
  | scalar value => value.toJson.isText
  | operators tests => tests.any Operator.equatesText
  | _ => false

namespace Target

def isTyped (t : Target) : Bool :=
  !t.isDotted && !t.isArray && t.type?.any (· ≠ .string)

/-- Whether folding changes a test: arrays and paths do not know it. -/
def folds (t : Target) (condition : Condition) : Bool :=
  !t.isDotted && !t.isArray && condition.equatesText

def fragments (scope : Scope) (t : Target) (condition : Condition) :
    Except Error (List Sql.Fragment) :=
  List.map Predicate.fragment <$> t.conditions scope condition

variable {scope : Scope} {t : Target}

theorem equals_folding {value : Json} (h : (!t.isDotted && !t.isArray && value.isText) = false) :
    equals scope.folding t value = equals scope t value := by
  unfold equals
  cases hd : t.isDotted with
  | true => rfl
  | false =>
    cases value with
    | str s =>
      have ha : t.isArray = true := by simpa [hd, Json.isText] using h
      rw [ha]
      rfl
    | bool b =>
      cases t.type? with
      | none => rfl
      | some type =>
        cases type with
        | _ => rfl
    | null | num _ | arr _ | obj _ => rfl

theorem equals_folded_text (hd : t.isDotted = false) (ha : t.isArray = false) (s : String) :
    equals scope.folding t (.str s) = .ok (.lower (.compare t.column .eq (.text s))) := by
  unfold equals
  rw [hd, ha]
  rfl

theorem equals_text (hs : scope.foldCase = false) (hd : t.isDotted = false)
    (ha : t.isArray = false) (s : String) :
    equals scope t (.str s) =
      (fun param => .compare t.column .eq (.param param)) <$> t.operand (.str s) := by
  unfold equals
  rw [hd, ha]
  change (if scope.foldCase then _ else _) = _
  rw [hs]
  rfl

theorem operator_folding {op : Operator}
    (h : (!t.isDotted && !t.isArray && op.equatesText) = false) :
    operator scope.folding t op = operator scope t op := by
  cases op with
  | eq value =>
    cases value with
    | null => rfl
    | bool _ | num _ | str _ | arr _ | obj _ => exact congrArg (some <$> ·) (equals_folding h)
  | present expected =>
    cases expected with
    | _ => rfl
  | _ => rfl

theorem conditions_folding {condition : Condition} (h : t.folds condition = false) :
    t.conditions scope.folding condition = t.conditions scope condition := by
  cases condition with
  | scalar value => simp only [conditions, equals_folding h]
  | operators tests =>
    have hall : ∀ op ∈ tests, operator scope.folding t op = operator scope t op := by
      intro op hop
      refine operator_folding ?_
      rw [folds, Bool.and_eq_false_iff] at h
      refine Bool.and_eq_false_iff.2 (h.imp_right fun h => ?_)
      exact Bool.eq_false_iff.2 (List.any_eq_false.1 h op hop)
    rw [conditions_operators, conditions_operators, mapM_congr hall]
  | null | pointer _ | date _ | geoPoint _ | polygon _ => rfl

theorem conditions_text {test condition : Condition} (ht : test ∈ condition.parts)
    (he : test.equatesText) :
    ∃ s, ∀ scope, t.conditions scope test = (fun p => [p]) <$> equals scope t (.str s) := by
  cases condition with
  | operators tests =>
    obtain ⟨op, -, rfl⟩ := List.mem_map.1 ht
    have hop : op.equatesText := by simpa [Condition.equatesText] using he
    cases op with
    | eq value =>
      cases value with
      | str s =>
        refine ⟨s, fun scope => ?_⟩
        have hequals : operator scope t (.eq (.str s)) = some <$> equals scope t (.str s) := rfl
        rw [conditions_operators, List.mapM_cons, hequals]
        cases equals scope t (.str s) with
        | _ => rfl
      | _ => cases hop
    | _ => cases hop
  | scalar value =>
    cases List.mem_singleton.1 ht
    cases value with
    | string s => exact ⟨s, fun scope => rfl⟩
    | number _ | bool _ => cases he
  | null | pointer _ | date _ | geoPoint _ | polygon _ =>
    cases List.mem_singleton.1 ht
    cases he

theorem head_compare {left : Expr} {c : Char} (h : left.template.toList.head? = some c)
    (relation : Sql.Relation) (right : Expr) :
    (Predicate.compare left relation right).template.toList.head? = some c := by
  simp only [Predicate.template, String.toList_append, List.append_assoc, List.head?_append, h,
    Option.some_or]

theorem lower_fragment_ne (name s : String) (e : Expr) :
    (Predicate.lower (.compare (.column name) .eq (.text s))).fragment ≠
      (Predicate.compare (.column name) .eq e).fragment := by
  intro heq
  have hcolumn : (Expr.column name).template.toList.head? = some '"' := by
    simp [Expr.template_column, Sql.identifier, Sql.enclose]
  have hlower (e : Expr) : (Expr.apply "LOWER" e).template.toList.head? = some 'L' := by
    rw [Expr.template_apply]
    generalize e.template = text
    simp
  have htemplate := (Sql.Fragment.mk.inj heq).1
  have hleft := head_compare (hlower (.column name)) .eq (.apply "LOWER" (.text s))
  rw [← Predicate.lower, htemplate, head_compare hcolumn] at hleft
  exact absurd hleft (by decide)

theorem fragments_folding_iff {test condition : Condition} (hp : test ∈ condition.parts)
    (hs : scope.foldCase = false) (ht : t.isTyped) :
    t.fragments scope.folding test = t.fragments scope test ↔ test.equatesText = false := by
  simp only [isTyped, Bool.and_eq_true, Bool.not_eq_true'] at ht
  obtain ⟨⟨hd, ha⟩, -⟩ := ht
  constructor
  · intro heq
    by_contra he
    obtain ⟨s, hequals⟩ := t.conditions_text hp (Bool.not_eq_false _ ▸ he)
    have hcolumn : t.column = .column t.name := column_undotted hd t.type?
    -- Where the text is no operand of the column, only folding has a result.
    unfold fragments at heq
    rw [hequals, hequals, equals_folded_text hd ha, equals_text hs hd ha, hcolumn] at heq
    cases hparam : t.operand (.str s) with
    | error e =>
      rw [hparam] at heq
      cases heq
    | ok param =>
      rw [hparam] at heq
      exact lower_fragment_ne t.name s _ (List.head_eq_of_cons_eq (Except.ok.inj heq))
  · intro he
    rw [fragments, fragments, conditions_folding (by rw [folds, he, Bool.and_false])]

theorem type?_untyped (hd : t.isDotted = false) (ha : t.isArray = false)
    (ht : t.isTyped = false) : t.type? = none ∨ t.type? = some .string := by
  rw [isTyped, hd, ha] at ht
  cases h : t.type? with
  | none => exact .inl rfl
  | some type =>
    rw [h] at ht
    exact .inr (congrArg some (by simpa using ht))

theorem equals_untyped_text (hs : scope.foldCase = false) (hd : t.isDotted = false)
    (ha : t.isArray = false) (ht : t.isTyped = false) (s : String) :
    equals scope t (.str s) = .ok (.compare t.column .eq (.text s)) := by
  have hdate : t.type? ≠ some .date := by
    rcases type?_untyped hd ha ht with h | h
    · simp [h]
    · simp [h]
  rw [equals_text hs hd ha, operand_text hdate]
  rfl

theorem conditions_untyped {test condition : Condition} (hp : test ∈ condition.parts)
    (hs : scope.foldCase = false) (ht : t.isTyped = false) :
    t.conditions scope.folding test =
      List.map (if t.folds test then .lower else id) <$> t.conditions scope test := by
  cases hf : t.folds test with
  | false =>
    rw [conditions_folding hf]
    cases t.conditions scope test with
    | error e => rfl
    | ok found => exact congrArg Except.ok (List.map_id found).symm
  | true =>
    simp only [folds, Bool.and_eq_true, Bool.not_eq_true'] at hf
    obtain ⟨⟨hd, ha⟩, he⟩ := hf
    obtain ⟨s, hequals⟩ := t.conditions_text hp he
    rw [hequals, hequals, equals_folded_text hd ha, equals_untyped_text hs hd ha ht]
    rfl

end Target

def Scope.IsTextColumn (scope : Scope) (name : String) : Prop :=
  Sql.isDotted name = false ∧
    (scope.schema.field? name = none ∨ scope.schema.field? name = some .string)

namespace Target

variable {scope : Scope} {name : String}

theorem equals_lowers (hs : scope.foldCase = false) (ht : (scope.target name).isTyped = false)
    (s : String) :
    Alike Eq (Lowers scope.IsTextColumn) (equals scope (scope.target name) (.str s))
      (equals scope.folding (scope.target name) (.str s)) := by
  cases hd : (scope.target name).isDotted with
  | true =>
    rw [equals_folding (by simp [hd])]
    exact .refl .same _
  | false =>
    cases ha : (scope.target name).isArray with
    | true =>
      rw [equals_folding (by simp [ha])]
      exact .refl .same _
    | false =>
      have hcolumn : (scope.target name).column = .column name := column_undotted hd _
      have htext : scope.IsTextColumn name := ⟨hd, type?_untyped hd ha ht⟩
      rw [equals_folded_text hd ha, equals_untyped_text hs hd ha ht, hcolumn]
      exact .ok (.text htext s)

theorem operator_lowers (hs : scope.foldCase = false) {op : Operator}
    (h : (scope.target name).isTyped → op.equatesText = false) :
    Alike Eq (fun found folded => LowersAll scope.IsTextColumn found.toList folded.toList)
      (operator scope (scope.target name) op) (operator scope.folding (scope.target name) op) := by
  cases he : op.equatesText with
  | false =>
    rw [operator_folding (by rw [he, Bool.and_false])]
    exact .refl (fun _ => .refl _) _
  | true =>
    have ht : (scope.target name).isTyped = false :=
      Bool.eq_false_iff.2 fun ht => Bool.false_ne_true ((h ht).symm.trans he)
    cases op with
    | eq value =>
      cases value with
      | str s => exact (equals_lowers hs ht s).bind fun _ _ h => .ok (.cons h .nil)
      | _ => cases he
    | _ => cases he

theorem conditions_lowers (hs : scope.foldCase = false) {condition : Condition}
    (h : (scope.target name).isTyped → condition.equatesText = false) :
    Alike Eq (LowersAll scope.IsTextColumn) ((scope.target name).conditions scope condition)
      ((scope.target name).conditions scope.folding condition) := by
  cases condition with
  | scalar value =>
    cases value with
    | string s =>
      have ht : (scope.target name).isTyped = false :=
        Bool.eq_false_iff.2 fun ht => Bool.false_ne_true (h ht).symm
      exact (equals_lowers hs ht s).bind fun _ _ h => .ok (.cons h .nil)
    | number _ | bool _ =>
      rw [conditions_folding (by simp [folds, Condition.equatesText, Scalar.toJson, Json.isText])]
      exact .refl .refl _
  | operators tests =>
    have hall : ∀ op ∈ tests, (scope.target name).isTyped → op.equatesText = false :=
      fun op hop ht => Bool.eq_false_iff.2 (List.any_eq_false.1 (h ht) op hop)
    refine (Alike.mapM (List.forall₂_same.2 fun op hop => operator_lowers hs (hall op hop))).bind
      fun results folded hall => .ok ?_
    -- From here on only the results count, and a test without one has none in both.
    clear h
    induction hall with
    | nil => exact .nil
    | @cons found other results folded hfirst _ ih =>
      rw [List.filterMap_cons, List.filterMap_cons]
      cases found with
      | none =>
        cases other with
        | none => exact ih
        | some q => cases hfirst
      | some p =>
        cases other with
        | none => cases hfirst
        | some q =>
          cases hfirst with
          | cons hp _ => exact .cons hp ih
  | null | pointer _ | date _ | geoPoint _ | polygon _ => exact .refl .refl _

theorem clause_lowers (hs : scope.foldCase = false) {condition : Condition}
    (h : (scope.target name).skips condition = false → (scope.target name).isTyped →
      condition.equatesText = false) :
    Alike Eq (LowersAll scope.IsTextColumn) ((scope.target name).clause scope condition)
      ((scope.target name).clause scope.folding condition) := by
  unfold clause
  cases hk : (scope.target name).skips condition with
  | true => exact .ok .nil
  | false =>
    refine (conditions_lowers hs (h hk)).bind fun found folded hfound => ?_
    cases hfound with
    | nil => exact .error rfl
    | cons hp hps => exact .ok (.cons hp hps)

end Target

theorem Condition.equatesText_eq_any_parts (condition : Condition) :
    condition.equatesText = condition.parts.any equatesText := by
  cases condition with
  | operators tests => simp [parts, equatesText, List.any_map, Function.comp_def]
  | null | scalar _ | pointer _ | date _ | geoPoint _ | polygon _ =>
    exact (Bool.or_false _).symm

namespace Query

def TextsApart (tests : List (Target × Condition)) : Prop :=
  ∀ part ∈ tests, part.1.isTyped → part.2.equatesText = false

variable {scope : Scope}

theorem clause_apart {name : String} {condition : Condition}
    (h : TextsApart (scope.parts (name, condition)))
    (hk : (scope.target name).skips condition = false) (ht : (scope.target name).isTyped) :
    condition.equatesText = false := by
  unfold Scope.parts Scope.skips at h
  rw [hk] at h
  rw [Condition.equatesText_eq_any_parts, List.any_eq_false]
  intro test htest
  exact Bool.eq_false_iff.1 (h (scope.target name, test) (List.mem_map_of_mem htest) ht)

theorem TextsApart.of_append {tests more : List (Target × Condition)}
    (h : TextsApart (tests ++ more)) : TextsApart tests ∧ TextsApart more :=
  List.forall_mem_append.1 h

theorem lowers_conjunction {found folded : List Predicate}
    (h : LowersAll scope.IsTextColumn found folded) :
    Lowers scope.IsTextColumn (conjunction found) (conjunction folded) := by
  cases h with
  | nil => exact .same _
  | cons hp hps => exact .and (.cons hp hps)

theorem lowers_group (kind : Group) {parts folded : List Predicate}
    (h : LowersAll scope.IsTextColumn parts folded) :
    Lowers scope.IsTextColumn (kind.predicate parts) (kind.predicate folded) := by
  cases kind with
  | or => exact .paren (.or h)
  | and => exact .paren (.and h)
  | nor => exact .not (.paren (.or h))

mutual

theorem clausePredicates_lowers (hs : scope.foldCase = false) : ∀ clause : Clause,
    TextsApart ((clauseFields clause).flatMap scope.parts) →
      Alike Eq (LowersAll scope.IsTextColumn) (clausePredicates scope clause)
        (clausePredicates scope.folding clause)
  | .field name condition, h => by
    simp only [clauseFields, List.flatMap_singleton] at h
    simp only [clausePredicates]
    exact Target.clause_lowers hs (clause_apart h)
  | .group kind queries, h => by
    simp only [clausePredicates]
    exact (groupPredicates_lowers hs queries h).bind fun _ _ hparts =>
      .ok (.cons (lowers_group kind hparts) .nil)

theorem predicates_lowers (hs : scope.foldCase = false) : ∀ query : List Clause,
    TextsApart ((fields query).flatMap scope.parts) →
      Alike Eq (LowersAll scope.IsTextColumn) (predicates scope query)
        (predicates scope.folding query)
  | [], _ => .ok .nil
  | clause :: rest, h => by
    simp only [fields, List.flatMap_append] at h
    simp only [predicates]
    refine (clausePredicates_lowers hs clause h.of_append.1).bind fun _ _ hfirst => ?_
    exact (predicates_lowers hs rest h.of_append.2).bind fun _ _ hrest => .ok (hfirst.append hrest)

theorem groupPredicates_lowers (hs : scope.foldCase = false) : ∀ queries : List (List Clause),
    TextsApart ((groupFields queries).flatMap scope.parts) →
      Alike Eq (LowersAll scope.IsTextColumn) (groupPredicates scope queries)
        (groupPredicates scope.folding queries)
  | [], _ => .ok .nil
  | query :: rest, h => by
    simp only [groupFields, List.flatMap_append] at h
    simp only [groupPredicates]
    refine (predicates_lowers hs query h.of_append.1).bind fun _ _ hquery => ?_
    exact (groupPredicates_lowers hs rest h.of_append.2).bind fun _ _ hrest =>
      .ok (.cons (lowers_conjunction hquery) hrest)

end

/-- A compiled query, and the same with `LOWER()` around both sides of some
equalities with a text. -/
def Folded (scope : Scope) (next : Nat) (plain folded : Filter × List Datum) : Prop :=
  ∃ found lowered, LowersAll scope.IsTextColumn found lowered ∧
    plain.1.pattern = Filter.patternOf next found ∧
    folded.1.pattern = Filter.patternOf next lowered ∧
    folded.1.sorts = plain.1.sorts ∧ folded.2 = plain.2

/-- A test of a typed column is compiled with the folding of case as without it
just where it is not equality with a text; a test of any other target gets
`LOWER()` or is the same. So a query that equates no typed column with a text
has the same parameters and orderings, and `LOWER()` at most, or fails alike. -/
theorem compile_folding_iff (schema : Schema) (language : String) (now : Timestamp) (query : Json)
    (first : Nat) :
    let scope : Scope := { schema := schema.toStorage, foldCase := false, language, now }
    (∀ q, ofJson query = .ok q → ∀ part ∈ parts scope q,
      (part.1.isTyped → (part.1.fragments scope.folding part.2 = part.1.fragments scope part.2 ↔
        part.2.equatesText = false)) ∧
      (part.1.isTyped = false → part.1.conditions scope.folding part.2 =
        List.map (if part.1.folds part.2 then .lower else id) <$>
          part.1.conditions scope part.2)) ∧
    ((∀ q, ofJson query = .ok q → TextsApart (parts scope q)) →
      Alike Eq (Folded scope (max first 1)) (compile scope query first)
        (compile scope.folding query first)) := by
  intro scope
  constructor
  · intro q _ part hpart
    obtain ⟨field, -, hmem⟩ := List.mem_flatMap.1 hpart
    unfold Scope.parts at hmem
    split at hmem
    · cases hmem
    · obtain ⟨test, htest, rfl⟩ := List.mem_map.1 hmem
      exact ⟨Target.fragments_folding_iff htest rfl, Target.conditions_untyped htest rfl⟩
  · intro hapart
    rw [compile_eq, compile_eq]
    cases hread : ofJson query with
    | error e => exact .error rfl
    | ok q =>
      refine (predicates_lowers rfl q (hapart q hread)).bind fun found lowered h => .ok ?_
      exact ⟨found, lowered, h, rfl, rfl, h.orderingsAll _, h.paramsAll⟩

/-- A date that is given by its text is a text with folding, and an instant without. -/
theorem born_folded_as_text :
    let scope := Scope.ofSchema { className := "Player", fields := [("born", .date)] } ⟨0, 0⟩
    let query : Json := .obj [("born", .str "2020-01-01T00:00:00.000Z")]
    (scope.target "born").isTyped ∧
    compile scope query 1 = .ok (⟨"\"born\" = $1", []⟩, [.timestamp ⟨1577836800, 0⟩]) ∧
    compile scope.folding query 1 =
      .ok (⟨"LOWER(\"born\") = LOWER($1)", []⟩, [.text "2020-01-01T00:00:00.000Z"]) := by
  dsimp only
  have hname : Clause.IsFieldName "born" := by decide +kernel
  refine ⟨by decide +kernel, ?_, ?_⟩
  · rw [compile_single _ hname]
    rfl
  · rw [compile_single _ hname]
    rfl

end Query
end DocSql
