import DocSql.Proofs.Query.TextOperands

/-!
Queries without the contents of the texts that they compare with. Queries that
are the same then are compiled to the same text with as many parameters, or are
refused in the same way: nothing that a text holds gets out of its parameter.
-/
namespace DocSql

open Error (SameKind)
open Sql (Filter)
open Sql.Predicate (SameShapes)

namespace Json

def blank : Json → Json
  | str _ => str ""
  | value => value

def blankItems : Json → Json
  | arr items => arr (items.map blank)
  | value => value

def withMember (name : String) (change : Json → Json) : Json → Json
  | obj members => obj (members.map fun (key, value) =>
      (key, if key = name then change value else value))
  | value => value

theorem get?_withMember (name : String) (change : Json → Json) (value : Json) :
    (value.withMember name change).get? name = (value.get? name).map change := by
  cases value with
  | obj members =>
    have hfound := Entries.find?_map
      (fun key value => if key = name then change value else value) members name
    simp only [if_true] at hfound
    exact hfound
  | null | bool _ | num _ | str _ | arr _ => rfl

theorem get?_withMember_other {name key : String} (h : key ≠ name) (change : Json → Json)
    (value : Json) : (value.withMember name change).get? key = value.get? key := by
  cases value with
  | obj members =>
    have hfound := Entries.find?_map
      (fun key value => if key = name then change value else value) members key
    simp only [if_neg h, Option.map_id'] at hfound
    exact hfound
  | null | bool _ | num _ | str _ | arr _ => rfl

theorem blank_akin (value : Json) : value.Akin value.blank := by
  cases value with
  | str s => exact .texts s ""
  | null | bool _ | num _ | arr _ | obj _ => exact .same _

end Json

def Operator.blankOperand (key : String) (operand : Json) : Json :=
  if ["$eq", "$ne", "$gt", "$gte", "$lt", "$lte", "$regex"].contains key then operand.blank
  else if ["$in", "$nin"].contains key then operand.blankItems
  else if key = "$text" then operand.withMember "$search" (Json.withMember "$term" Json.blank)
  else operand

def Operator.blankOperands (members : Entries Json) : Entries Json :=
  members.map fun (key, operand) => (key, blankOperand key operand)

/-- What stands under a field, without the contents of texts. A tagged value is
no text, whatever it is made of. -/
def Condition.blank (value : Json) : Json :=
  match value with
  | .obj members =>
    if value.typeTag?.isSome then value else .obj (Operator.blankOperands members)
  | value => value.blank

namespace Query

def blankField (schema : Schema) (name : String) (value : Json) : Json :=
  if schema.field? name = some .date then value else Condition.blank value

mutual

/-- A query without the contents of the texts that it compares fields with. -/
def blank (schema : Schema) : Json → Json
  | .obj members => .obj (blankMembers schema members)
  | value => value

def blankMembers (schema : Schema) : List (String × Json) → List (String × Json)
  | [] => []
  | (key, value) :: rest =>
    (key, if (Group.ofKey? key).isSome then blankGroup schema value
      else blankField schema key value) :: blankMembers schema rest

def blankGroup (schema : Schema) : Json → Json
  | .arr queries => .arr (blankAll schema queries)
  | value => value

def blankAll (schema : Schema) : List Json → List Json
  | [] => []
  | query :: rest => blank schema query :: blankAll schema rest

end

end Query

namespace Operator

theorem find?_blankOperands (members : Entries Json) (key : String) :
    Entries.find? (blankOperands members) key =
      (Entries.find? members key).map (blankOperand key) :=
  Entries.find?_map blankOperand members key

theorem keys_blankOperands (members : Entries Json) :
    Entries.keys (blankOperands members) = Entries.keys members := by
  rw [Entries.keys, blankOperands, List.map_map]
  rfl

theorem find?_blankOperands_kept (members : Entries Json) {key : String}
    (h : ∀ value, blankOperand key value = value) :
    Entries.find? (blankOperands members) key = Entries.find? members key := by
  rw [find?_blankOperands, funext h]
  exact Option.map_id'

theorem items_akin (key : String) (value : Json) :
    Alike SameKind (List.Forall₂ Json.Akin) (items key value) (items key value.blankItems) := by
  cases value with
  | arr items =>
    exact .ok (List.forall₂_map_right_iff.2 (List.forall₂_same.2 fun item _ => item.blank_akin))
  | null | bool _ | num _ | str _ | obj _ => exact .error rfl

theorem maxDistance_blank (condition : Entries Json) :
    maxDistance (blankOperands condition) = maxDistance condition := by
  unfold maxDistance distanceFactors
  simp only [List.findSome?_cons, List.findSome?_nil]
  rw [find?_blankOperands_kept condition fun _ => rfl, find?_blankOperands_kept condition fun _ => rfl,
    find?_blankOperands_kept condition fun _ => rfl, find?_blankOperands_kept condition fun _ => rfl]

theorem readRegex_akin (condition : Entries Json) (value : Json) :
    Alike SameKind Akin (readRegex condition value)
      (readRegex (blankOperands condition) value.blank) := by
  cases value with
  | str pattern =>
    unfold readRegex
    rw [find?_blankOperands_kept condition fun _ => rfl]
    simp only [Json.blank, Json.str?]
    split
    · exact .ok (.regex pattern "" "")
    · split
      · exact .ok (.regex pattern "" _)
      · exact .error rfl
    · exact .error rfl
  | null | bool _ | num _ | arr _ | obj _ => exact .error rfl

theorem getStr?_blank (search : Json) (name : String) :
    (search.withMember name Json.blank).getStr? name = (search.getStr? name).map fun _ => "" := by
  rw [Json.getStr?, Json.get?_withMember, Json.getStr?]
  cases search.get? name with
  | none => rfl
  | some term =>
    cases term with
    | _ => rfl

theorem readFlag_blank {name key : String} (h : key ≠ name) (search : Json) (only : Bool)
    (refusal : String) :
    readFlag (search.withMember name Json.blank) key only refusal =
      readFlag search key only refusal := by
  unfold readFlag
  rw [Json.get?_withMember_other h]

theorem readSearch_akin (value : Json) : Alike SameKind Akin (readSearch value)
    (readSearch (value.withMember "$search" (Json.withMember "$term" Json.blank))) := by
  unfold readSearch
  rw [Json.get?_withMember]
  cases value.get? "$search" with
  | none => exact .error rfl
  | some search =>
    cases search with
    | null | bool _ | num _ | str _ | arr _ => exact .error rfl
    | obj members =>
      obtain ⟨others, hothers⟩ : ∃ others,
          (Json.obj members).withMember "$term" Json.blank = .obj others := ⟨_, rfl⟩
      rw [Option.map_some, hothers]
      dsimp only
      rw [← hothers, getStr?_blank, Json.get?_withMember_other (by decide),
        readFlag_blank (by decide), readFlag_blank (by decide)]
      cases (Json.obj members).getStr? "$term" with
      | none => exact .error rfl
      | some term =>
        have hsame (work : Except Error Unit) : Alike SameKind Eq work work :=
          .refl (fun _ => rfl) _
        have hread (first second : Except Error Unit) (language : Option String) :
            Alike SameKind Akin (do first; second; return search { term, language })
              (do first; second; return search { term := "", language }) :=
          (hsame first).bind fun _ _ _ => (hsame second).bind fun _ _ _ =>
            .ok (.search term "" language)
        cases (Json.obj members).get? "$language" with
        | none => exact hread _ _ none
        | some given =>
          cases given with
          | str language => exact hread _ _ (some language)
          | null | bool _ | num _ | arr _ | obj _ => exact .error rfl

theorem readers_akin (condition : Entries Json) (value : Json) : ∀ entry ∈ readers,
    Alike SameKind Akin (entry.2 condition value)
      (entry.2 (blankOperands condition) (blankOperand entry.1 value)) := by
  have hkept (reader : Except Error Operator) : Alike SameKind Akin reader reader := .refl .same _
  have hnear : readNear (blankOperands condition) value = readNear condition value := by
    unfold readNear
    rw [maxDistance_blank]
  simp only [readers, List.forall_mem_cons, List.not_mem_nil, false_implies, implies_true, and_true]
  refine ⟨.ok (.ne value.blank_akin), .ok (.eq value.blank_akin),
    .map ((items_akin _ value).mono fun _ _ => .isIn),
    .map ((items_akin _ value).mono fun _ _ => .notIn), hkept _, hkept _, hkept _,
    readSearch_akin value, ?_, hkept _, hkept _, hkept _, readRegex_akin condition value,
    .ok (.compare _ value.blank_akin), .ok (.compare _ value.blank_akin),
    .ok (.compare _ value.blank_akin), .ok (.compare _ value.blank_akin)⟩
  change Alike SameKind Akin _ (readNear (blankOperands condition) value)
  rw [hnear]
  exact hkept _

theorem readKnown_akin (condition : Entries Json) :
    Alike SameKind (List.Forall₂ Akin) (readKnown condition)
      (readKnown (blankOperands condition)) := by
  have hreaders := readers_akin condition
  unfold readKnown
  refine .mapM ?_
  generalize readers = all at hreaders
  induction all with
  | nil => exact .nil
  | cons entry rest ih =>
    obtain ⟨key, reader⟩ := entry
    have hrest := ih fun value other hother => hreaders value other (List.mem_cons_of_mem _ hother)
    simp only [List.filterMap_cons, find?_blankOperands] at hrest ⊢
    cases Entries.find? condition key with
    | none => exact hrest
    | some value => exact .cons (hreaders value (key, reader) List.mem_cons_self) hrest

theorem ofJson_akin (condition : Entries Json) :
    Alike SameKind (List.Forall₂ Akin) (ofJson condition) (ofJson (blankOperands condition)) := by
  unfold ofJson
  dsimp only
  rw [keys_blankOperands]
  split
  · exact .error rfl
  · refine (readKnown_akin condition).bind fun tests others htests => ?_
    cases htests with
    | nil => exact .error rfl
    | cons htest hrest => exact .ok (.cons htest hrest)

end Operator

theorem Condition.ofJson_akin (value : Json) :
    Alike SameKind Akin (ofJson value) (ofJson (blank value)) := by
  cases value with
  | str s => exact .ok (.texts s "")
  | null | bool _ | num _ | arr _ => exact .refl .same _
  | obj members =>
    have htag : (Json.obj (Operator.blankOperands members)).typeTag? =
        (Json.obj members).typeTag? := by
      change (Entries.find? (Operator.blankOperands members) "__type").bind Json.str? =
        (Entries.find? members "__type").bind Json.str?
      rw [Operator.find?_blankOperands_kept members fun _ => rfl]
    cases htype : (Json.obj members).typeTag? with
    | some tag =>
      have hblank : blank (.obj members) = .obj members := by
        simp [blank, htype]
      rw [hblank]
      exact .refl .same _
    | none =>
      have hblank : blank (.obj members) = .obj (Operator.blankOperands members) := by
        simp [blank, htype]
      have hread {members : Entries Json} (h : (Json.obj members).typeTag? = none) :
          ofJson (.obj members) = operators <$> Operator.ofJson members := by
        unfold ofJson
        dsimp only
        rw [h]
      rw [hblank, hread htype, hread (htag.trans htype)]
      exact .map ((Operator.ofJson_akin members).mono fun _ _ => .operators)

namespace Query

variable (scope : Scope) {schema : Schema}

abbrev SameClause (clause other : Clause) : Prop :=
  Alike SameKind SameShapes (clausePredicates scope clause) (clausePredicates scope other)

abbrev SameQuery (query other : Query) : Prop :=
  Alike SameKind SameShapes (predicates scope query) (predicates scope other)

theorem SameQuery.refl (query : Query) : SameQuery scope query query :=
  Alike.refl SameShapes.refl _

theorem SameQuery.cons {clause other : Clause} {query others : Query}
    (h : SameClause scope clause other) (hq : SameQuery scope query others) :
    SameQuery scope (clause :: query) (other :: others) := by
  unfold SameQuery
  rw [predicates, predicates]
  exact h.bind fun _ _ hfirst => hq.bind fun _ _ hrest => .ok (hfirst.append hrest)

theorem conjunction_sameShape {conjuncts others : List Sql.Predicate}
    (h : SameShapes conjuncts others) :
    Sql.Predicate.SameShape (conjunction conjuncts) (conjunction others) := by
  have hempty : conjuncts.isEmpty = others.isEmpty := by
    rw [← List.isEmpty_map, h, List.isEmpty_map]
  unfold conjunction
  rw [hempty]
  split
  · exact .refl _
  · simp only [Sql.Predicate.SameShape, Sql.Predicate.shape, h.shapes_eq]

theorem predicate_sameShape (kind : Group) {parts others : List Sql.Predicate}
    (h : SameShapes parts others) :
    Sql.Predicate.SameShape (kind.predicate parts) (kind.predicate others) := by
  cases kind with
  | _ => simp only [Group.predicate, Sql.Predicate.SameShape, Sql.Predicate.shape, h.shapes_eq]

theorem groupPredicates_akin {queries others : List Query}
    (h : List.Forall₂ (SameQuery scope) queries others) :
    Alike SameKind SameShapes (groupPredicates scope queries) (groupPredicates scope others) := by
  induction h with
  | nil => exact .ok (.refl [])
  | cons hfirst _ ih =>
    rw [groupPredicates, groupPredicates]
    refine hfirst.bind fun _ _ hconjuncts => ih.bind fun _ _ hrest => .ok ?_
    exact .append (.single (conjunction_sameShape hconjuncts)) hrest

theorem SameClause.group (kind : Group) {queries others : List Query}
    (h : List.Forall₂ (SameQuery scope) queries others) :
    SameClause scope (.group kind queries) (.group kind others) := by
  unfold SameClause
  rw [clausePredicates, clausePredicates]
  exact (groupPredicates_akin scope h).bind fun _ _ hparts =>
    .ok (.single (predicate_sameShape kind hparts))

/-- What is a date to the query is declared as one, so the mask keeps it. -/
abbrev KeepsDates (schema : Schema) : Prop :=
  ∀ name, scope.schema.field? name = some .date → schema.field? name = some .date

theorem ofField_akin (hs : KeepsDates scope schema) (name : String) (value : Json) :
    Alike SameKind (SameClause scope) (Clause.ofField name value)
      (Clause.ofField name (blankField schema name value)) := by
  have hvalue : Alike SameKind (SameClause scope) (Clause.field name <$> Condition.ofJson value)
      (Clause.field name <$> Condition.ofJson (blankField schema name value)) := by
    refine .map ?_
    unfold blankField
    split
    · exact .refl (fun _ => .refl SameShapes.refl _) _
    next hdate =>
      refine (Condition.ofJson_akin value).mono fun condition other hakin => ?_
      unfold SameClause
      rw [clausePredicates, clausePredicates]
      exact Target.clause_akin scope (fun ht => hdate (hs name ht)) hakin
  unfold Clause.ofField
  split
  · exact .error rfl
  · split
    · exact .error rfl
    · exact hvalue

mutual

theorem ofJson_akin (hs : KeepsDates scope schema) : ∀ query : Json,
    Alike SameKind (SameQuery scope) (ofJson query) (ofJson (blank schema query))
  | .obj members => by
    rw [ofJson, blank, ofJson]
    exact ofMembers_akin hs members
  | .null | .bool _ | .num _ | .str _ | .arr _ => .error rfl

theorem ofMembers_akin (hs : KeepsDates scope schema) : ∀ members : List (String × Json),
    Alike SameKind (SameQuery scope) (ofMembers members) (ofMembers (blankMembers schema members))
  | [] => .ok (.refl scope [])
  | (key, value) :: rest => by
    have hrest := ofMembers_akin hs rest
    rw [ofMembers, blankMembers, ofMembers]
    have hread {clause other : Except Error Clause}
        (h : Alike SameKind (SameClause scope) clause other) :
        Alike SameKind (SameQuery scope) (do return (← clause) :: (← ofMembers rest))
          (do return (← other) :: (← ofMembers (blankMembers schema rest))) :=
      h.bind fun _ _ hclause => hrest.bind fun _ _ hquery => .ok (.cons scope hclause hquery)
    cases Group.ofKey? key with
    | none => exact hread (ofField_akin scope hs key value)
    | some kind =>
      exact hread (.map ((ofItems_akin hs key value).mono fun _ _ => .group scope kind))

theorem ofItems_akin (hs : KeepsDates scope schema) (key : String) : ∀ value : Json,
    Alike SameKind (List.Forall₂ (SameQuery scope)) (ofItems key value)
      (ofItems key (blankGroup schema value))
  | .arr [] => .error rfl
  | .arr (item :: items) => by
    rw [ofItems, blankGroup, blankAll, ofItems]
    exact ofList_akin hs (item :: items)
  | .null | .bool _ | .num _ | .str _ | .obj _ => .error rfl

theorem ofList_akin (hs : KeepsDates scope schema) : ∀ queries : List Json,
    Alike SameKind (List.Forall₂ (SameQuery scope)) (ofList queries)
      (ofList (blankAll schema queries))
  | [] => .ok .nil
  | query :: rest => by
    rw [ofList, blankAll, ofList]
    exact (ofJson_akin hs query).bind fun _ _ hfirst =>
      (ofList_akin hs rest).bind fun _ _ hothers => .ok (.cons hfirst hothers)

end

theorem declared_of_stored_date {schema : Schema} {name : String}
    (h : schema.toStorage.field? name = some .date) : schema.field? name = some .date := by
  by_cases hi : Schema.isInjected name
  · rw [Schema.isInjected, Bool.or_eq_true, beq_iff_eq] at hi
    rcases hi with hpermission | rfl
    · rw [schema.field?_toStorage_permission hpermission] at h
      cases h
    · rw [schema.field?_toStorage_password] at h
      split at h
      · cases h
      · exact h
  · rw [← schema.field?_toStorage (Bool.eq_false_iff.2 hi), h]

/-- Nothing that a text holds gets into the statement: queries that differ in
the contents of texts alone are compiled to the same text and bind as many
parameters, or fail in the same way. -/
theorem compile_blind {schema : Schema} {query other : Json}
    (h : blank schema query = blank schema other) (foldCase : Bool) (language : String)
    (now : Timestamp) (first : Nat) :
    let scope : Scope := { schema := schema.toStorage, foldCase, language, now }
    Alike SameKind (fun made others => made.1 = others.1 ∧ made.2.length = others.2.length)
      (compile scope query first) (compile scope other first) := by
  intro scope
  have hfound (query : Json) :
      Alike SameKind SameShapes (do predicates scope (← ofJson query))
        (do predicates scope (← ofJson (blank schema query))) :=
    (ofJson_akin scope (fun _ => declared_of_stored_date) query).bind fun _ _ hquery => hquery
  have hother := hfound other
  rw [← h] at hother
  have hboth := (hfound query).meet hother
  rw [compile_eq, compile_eq, ← bind_assoc, ← bind_assoc]
  refine hboth.bind fun found others hshapes => .ok ?_
  obtain ⟨blanked, hleft, hright⟩ := hshapes
  exact Filter.written_of_sameShapes (hleft.trans hright.symm) _

/-- A name that closes the list and goes on is a name like any other. -/
theorem quoted_name_listed :
    let schema : Schema := { className := "Post", fields := [("name", .string), ("stock", .number)] }
    let listed (name : String) : Json := .obj [("name", .obj [("$in", .arr [.str name, .null])])]
    let compiled (name : String) := compile (.ofSchema schema ⟨0, 0⟩) (listed name) 1
    blank schema (listed "Ann") = blank schema (listed "x') OR ('' = '") ∧
    compiled "Ann" = .ok (⟨"(\"name\" IS NULL OR \"name\" IN ($1))", []⟩, [.text "Ann"]) ∧
    ∃ name, compiled "x') OR ('' = '" =
      .ok (⟨"(\"name\" IS NULL OR \"name\" IN ($1))", []⟩, [name]) := by
  intro schema listed compiled
  have hblank : blank schema (listed "Ann") = blank schema (listed "x') OR ('' = '") := rfl
  have hplain : compiled "Ann" =
      .ok (⟨"(\"name\" IS NULL OR \"name\" IN ($1))", []⟩, [.text "Ann"]) := by
    have hn : Clause.IsFieldName "name" := by decide +kernel
    unfold compiled listed schema
    rw [compile_single _ hn]
    rfl
  refine ⟨hblank, hplain, ?_⟩
  have hboth : Alike SameKind _ (compiled "Ann") (compiled "x') OR ('' = '") :=
    compile_blind hblank false "english" ⟨0, 0⟩ 1
  rw [hplain] at hboth
  obtain ⟨made, hmade, hfilter, hlength⟩ := hboth.exists_of_ok
  obtain ⟨name, hname⟩ := List.length_eq_one_iff.1 hlength.symm
  exact ⟨name, hmade.trans (congrArg Except.ok (Prod.ext hfilter.symm hname))⟩

end Query
end DocSql
