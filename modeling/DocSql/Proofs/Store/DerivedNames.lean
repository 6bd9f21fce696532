import DocSql.Proofs.Joining
import DocSql.Proofs.Session.Transactions
import DocSql.Proofs.Sql.TableText
import DocSql.Store.Indexes

/-!
Names that constraints and indexes get from the fields they are over. Fields are
joined by underscores, which they may have themselves, and the name of an index
has neither the class nor the case mode. An engine takes a name for what it names,
so a constraint is taken for granted, and an index is left out, wherever another
one came to the same words. Main statement: `Store.ensured_iff`.
-/
namespace DocSql

namespace Catalog

def ordered (fields : List String) : List String := fields.mergeSort fun a b => !(b < a)

/-- The words that a name has for its fields, between underscores and those within
a field included. For no fields it has one empty word. -/
def nameWords (fields : List String) : List (List Char) :=
  if fields.isEmpty then [[]] else piecesOf '_' ((ordered fields).map String.toList)

theorem ordered_perm (fields : List String) : (ordered fields).Perm fields :=
  List.mergeSort_perm fields _

theorem ordered_eq_iff (fields others : List String) :
    ordered fields = ordered others ↔ fields.Perm others := by
  constructor
  · intro h
    have hperm := ordered_perm others
    rw [← h] at hperm
    exact (ordered_perm fields).symm.trans hperm
  · intro h
    have hle (a b : String) : (!decide (b < a)) = true ↔ a ≤ b := by
      rw [Bool.not_eq_true', decide_eq_false_iff_not, String.not_lt]
    have hsorted (list : List String) : (ordered list).Pairwise (· ≤ ·) := by
      refine List.Pairwise.imp (fun h => (hle _ _).1 h) (List.pairwise_mergeSort ?_ ?_ list)
      · intro a b c hab hbc
        exact (hle a c).2 (String.le_trans ((hle a b).1 hab) ((hle b c).1 hbc))
      · intro a b
        rw [Bool.or_eq_true, hle, hle]
        exact String.le_total a b
    exact (((ordered_perm fields).trans h).trans (ordered_perm others).symm).eq_of_pairwise
      (fun a b _ _ hab hba => String.le_antisymm hab hba) (hsorted fields) (hsorted others)

theorem nameWords_of_ordered {fields : List String} (hne : fields ≠ [])
    (h : fields.Pairwise fun a b => !(b < a)) :
    nameWords fields = piecesOf '_' (fields.map String.toList) := by
  rw [nameWords, if_neg (by simpa using hne), ordered, List.mergeSort_of_pairwise h]

theorem joinedFields_eq_iff (fields others : List String) :
    joinedFields fields = joinedFields others ↔ nameWords fields = nameWords others := by
  let parts (list : List String) : List (List Char) :=
    if list.isEmpty then [[]] else (ordered list).map String.toList
  have hjoined (list : List String) :
      (joinedFields list).toList = ['_'].intercalate (parts list) := by
    cases list with
    | nil => simp [joinedFields, parts]
    | cons field rest => simp [joinedFields, parts, ordered, String.toList_intercalate]
  have hwords (list : List String) : nameWords list = piecesOf '_' (parts list) := by
    cases list with
    | nil => simp [nameWords, parts, piecesOf]
    | cons field rest => simp [nameWords, parts]
  have hne (list : List String) : parts list ≠ [] := by
    cases list with
    | nil => simp [parts]
    | cons field rest =>
      have hlength := (ordered_perm (field :: rest)).length_eq
      simp only [parts, List.isEmpty_cons, Bool.false_eq_true, if_false]
      intro hnil
      rw [List.map_eq_nil_iff.1 hnil] at hlength
      cases hlength
  rw [← String.toList_inj, hjoined, hjoined, hwords, hwords]
  exact joined_eq_iff '_' (hne fields) (hne others)

theorem uniqueConstraint_eq_iff (className : String) (fields others : List String) :
    uniqueConstraint className fields = uniqueConstraint className others ↔
      nameWords fields = nameWords others := by
  rw [← joinedFields_eq_iff, uniqueConstraint, uniqueConstraint, String.append_right_inj]

theorem defaultIndex_eq_iff (fields others : List String) :
    defaultIndex fields = defaultIndex others ↔ nameWords fields = nameWords others := by
  rw [← joinedFields_eq_iff, defaultIndex, defaultIndex, String.append_right_inj]

def IsWordOfName (field : String) : Prop := field ≠ "" ∧ '_' ∉ field.toList

instance (field : String) : Decidable (IsWordOfName field) :=
  inferInstanceAs (Decidable (field ≠ "" ∧ '_' ∉ field.toList))

theorem nameWords_plain_iff {fields others : List String}
    (hf : ∀ field ∈ fields, IsWordOfName field) (ho : ∀ field ∈ others, IsWordOfName field) :
    nameWords fields = nameWords others ↔ fields.Perm others := by
  -- The empty word stands for no fields, and for no field among others.
  have hkept {list : List String} (h : ∀ field ∈ list, IsWordOfName field) :
      (nameWords list).filter (!·.isEmpty) = (ordered list).map String.toList := by
    have hword : ∀ part ∈ (ordered list).map String.toList, '_' ∉ part ∧ part ≠ [] := by
      intro part hpart
      obtain ⟨field, hfield, rfl⟩ := List.mem_map.1 hpart
      obtain ⟨hne, habsent⟩ := h field ((ordered_perm list).mem_iff.1 hfield)
      exact ⟨habsent, by simpa using hne⟩
    cases list with
    | nil => simp [nameWords, ordered]
    | cons field rest =>
      rw [nameWords, List.isEmpty_cons, if_neg (by simp),
        piecesOf_plain fun part hpart => (hword part hpart).1, List.filter_eq_self]
      intro part hpart
      simpa using (hword part hpart).2
  constructor
  · intro h
    have hlists := congrArg (List.filter (!·.isEmpty)) h
    rw [hkept hf, hkept ho] at hlists
    have hinjective : (List.map String.toList).Injective :=
      List.map_injective_iff.2 fun _ _ => String.toList_injective
    exact (ordered_eq_iff fields others).1 (hinjective hlists)
  · intro h
    have hempty : fields.isEmpty = others.isEmpty := by
      rw [Bool.eq_iff_iff, List.isEmpty_iff_length_eq_zero, List.isEmpty_iff_length_eq_zero,
        h.length_eq]
    rw [nameWords, nameWords, (ordered_eq_iff fields others).2 h, hempty]

theorem nameWords_pair : nameWords ["a", "b"] = nameWords ["a_b"] := by
  rw [nameWords_of_ordered (by decide) (by decide), nameWords_of_ordered (by decide) (by decide)]
  decide

end Catalog

namespace Sql

theorem Spells.words_append {text : List Char} {ws : List (List Char)} (h : Spells text ws)
    (rest : List Char) : words (text ++ ' ' :: rest) = ws ++ words rest := by
  obtain ⟨hne, hwords, rfl⟩ := h
  have hspace : wordsFrom .top (' ' :: rest) = [] :: words rest := by
    rw [wordsFrom, if_pos ⟨rfl, rfl⟩]
    rfl
  induction ws with
  | nil => exact absurd rfl hne
  | cons word more ih =>
    have hword := hwords word List.mem_cons_self
    by_cases hmore : more = []
    · subst hmore
      have hall := wordsFrom_walk hword hspace
      simpa [joinWords, words] using hall
    · have hrest := ih hmore fun other hother => hwords other (List.mem_cons_of_mem word hother)
      have hnext : wordsFrom .top (' ' :: (joinWords more ++ ' ' :: rest)) =
          [] :: (more ++ words rest) := by
        rw [wordsFrom, if_pos ⟨rfl, rfl⟩]
        exact congrArg _ hrest
      rw [joinWords_cons word hmore, List.append_assoc, List.cons_append, words,
        wordsFrom_walk hword hnext, List.append_nil]
      rfl

theorem Spells.spaced {a b : String} {ws vs : List (List Char)} (ha : Spells a.toList ws)
    (hb : Spells b.toList vs) : Spells (a ++ " " ++ b).toList (ws ++ vs) := by
  rw [String.toList_append, String.toList_append, List.append_assoc]
  exact ha.append hb

theorem identifier_spells (name : String) :
    Spells (identifier name).toList [(identifier name).toList] := .single (identifier_word name)

end Sql

namespace Statement

def indexWords : List (List Char) :=
  ["CREATE".toList, "INDEX".toList, "IF".toList, "NOT".toList, "EXISTS".toList]

def announcesName (before : List (List Char)) : Bool :=
  before == indexWords ||
    (before.take 2 == ["ALTER".toList, "TABLE".toList] &&
      before.drop 3 == ["ADD".toList, "CONSTRAINT".toList])

def createdName? (statement : Statement) : Option String :=
  let ws := Sql.words statement.sql.toList
  if announcesName (ws.take 5) then ws[5]?.bind Sql.readName? else none

theorem createdName?_eq {statement : Statement} {start : String} {ws : List (List Char)}
    (name rest : String) (h : statement.sql = start ++ " " ++ Sql.identifier name ++ " " ++ rest)
    (hs : Sql.Spells start.toList ws) (hl : ws.length = 5) (ha : announcesName ws) :
    statement.createdName? = some name := by
  let word := (Sql.identifier name).toList
  have hspells := hs.spaced (Sql.identifier_spells name)
  have hwords : Sql.words statement.sql.toList = ws ++ word :: Sql.words rest.toList := by
    rw [h, String.toList_append, String.toList_append, List.append_assoc]
    exact (hspells.words_append rest.toList).trans (List.append_assoc ws [word] _)
  have htake : (ws ++ word :: Sql.words rest.toList).take 5 = ws := List.take_left' hl
  have hget : (ws ++ word :: Sql.words rest.toList)[5]? = some word := by
    rw [← hl, List.getElem?_append_right (Nat.le_refl _)]
    simp
  unfold createdName?
  dsimp only
  rw [hwords, htake, hget, if_pos ha, Option.bind_some]
  exact Sql.readName?_identifier name

theorem createdName?_indexOn (className name : String) (columns : List String) :
    (Catalog.indexOn className name columns).createdName? = some name := by
  have hstart : Sql.Spells "CREATE INDEX IF NOT EXISTS".toList indexWords :=
    ⟨by decide, by decide, by decide⟩
  let rest := "ON " ++ Sql.identifier className ++ " (" ++ String.intercalate ", " columns ++ ")"
  refine createdName?_eq name rest ?_ hstart rfl (by decide)
  have hcreate : "CREATE INDEX IF NOT EXISTS " = "CREATE INDEX IF NOT EXISTS" ++ " " := by simp
  have hon : " ON " = " " ++ "ON " := by simp
  unfold Catalog.indexOn
  dsimp only [rest]
  rw [hcreate, hon]
  simp only [← String.append_assoc]

theorem createdName?_addUniqueConstraint (className : String) (fields : List String) :
    (Catalog.addUniqueConstraint className fields).createdName? =
      some (Catalog.uniqueConstraint className fields) := by
  have halter : Sql.Spells "ALTER TABLE".toList ["ALTER".toList, "TABLE".toList] :=
    ⟨by decide, by decide, by decide⟩
  have hadd : Sql.Spells "ADD CONSTRAINT".toList ["ADD".toList, "CONSTRAINT".toList] :=
    ⟨by decide, by decide, by decide⟩
  have hstart := (halter.spaced (Sql.identifier_spells className)).spaced hadd
  let rest := "UNIQUE (" ++ Catalog.identifiers fields ++ ")"
  refine createdName?_eq _ rest ?_ hstart rfl (by simp [announcesName])
  have htable : "ALTER TABLE " = "ALTER TABLE" ++ " " := by simp
  have hconstraint : " ADD CONSTRAINT " = " " ++ "ADD CONSTRAINT" ++ " " := by simp
  have hunique : " UNIQUE (" = " " ++ "UNIQUE (" := by simp
  unfold Catalog.addUniqueConstraint
  dsimp only [rest]
  rw [htable, hconstraint, hunique]
  simp only [← String.append_assoc]

end Statement

def Call.createdName? : Call → Option String
  | execute statement => statement.createdName?
  | _ => none

def takenNames (said : List Event) : List String := said.filterMap (·.call.createdName?)

/-- An engine that makes nothing under a name that is taken. An index is left out
then, as it is only asked for unless there is one, and anything else is refused.
Otherwise it answers with the number of things made. -/
def Engine.naming (refusal : EngineError) : Engine := fun said call =>
  match call with
  | .execute statement =>
    if !statement.createdName?.any (takenNames said).contains then .ok (1 : Nat)
    else if statement.verb == "CREATE".toList then .ok (0 : Nat)
    else .error refusal
  | other => Store.answering [] said other

theorem takenNames_eq (said : List Event) :
    takenNames said = (said.map Event.call).filterMap Call.createdName? := by
  rw [takenNames, List.filterMap_map]
  rfl

theorem Engine.naming_addUniqueConstraint (refusal : EngineError) (said : List Event)
    (className : String) (fields : List String) :
    Engine.naming refusal said (.execute (Catalog.addUniqueConstraint className fields)) =
      if Catalog.uniqueConstraint className fields ∈ takenNames said then .error refusal
      else .ok (1 : Nat) := by
  have hverb : (Catalog.addUniqueConstraint className fields).verb = "ALTER".toList := by
    unfold Catalog.addUniqueConstraint
    simp only [String.append_assoc]
    exact Statement.verb_append _ _ (by decide)
  unfold Engine.naming
  dsimp only
  rw [Statement.createdName?_addUniqueConstraint, hverb]
  by_cases htaken : Catalog.uniqueConstraint className fields ∈ takenNames said
  · rw [if_pos htaken, if_neg (by simpa using htaken), if_neg (by decide)]
  · rw [if_neg htaken, if_pos (by simpa using htaken)]

theorem Engine.naming_ensureIndex (refusal : EngineError) (said : List Event)
    (className name : String) (fields : List String) (foldCase : Bool) :
    Engine.naming refusal said (.execute (Catalog.ensureIndex className name fields foldCase)) =
      .ok (if name ∈ takenNames said then 0 else 1 : Nat) := by
  have hverb : (Catalog.ensureIndex className name fields foldCase).verb = "CREATE".toList := by
    unfold Catalog.ensureIndex Catalog.indexOn
    simp only [String.append_assoc]
    exact Statement.verb_append _ _ (by decide)
  unfold Engine.naming
  dsimp only
  rw [hverb]
  unfold Catalog.ensureIndex
  rw [Statement.createdName?_indexOn]
  by_cases htaken : name ∈ takenNames said
  · rw [if_pos htaken, if_neg (by simpa using htaken), if_pos (by decide)]
  · rw [if_neg htaken, if_pos (by simpa using htaken)]

namespace Operation

variable {α β : Type}

def Sends (op : Operation α) (engine : Engine) (statement : Statement) (a : α) : Prop :=
  ∀ said, Session.run engine said op.run =
    ([⟨.execute statement, engine said (.execute statement)⟩], .ok a)

theorem Sends.ignored {op : Operation α} {engine : Engine} {statement : Statement} {a : α}
    (h : op.Sends engine statement a) :
    (do let _ ← op; return : Operation Unit).Sends engine statement () := by
  intro said
  rw [run_bind_ok (h said)]
  rfl

theorem run_forM {engine : Engine} {request : β → Operation Unit} {statement : β → Statement}
    {items : List β} (h : ∀ item ∈ items, (request item).Sends engine (statement item) ())
    (said : List Event) : ∃ log, Session.run engine said (items.forM request).run = (log, .ok ()) ∧
      log.map Event.call = items.map fun item => .execute (statement item) := by
  induction items generalizing said with
  | nil => exact ⟨[], rfl, rfl⟩
  | cons item rest ih =>
    obtain ⟨hitem, hrest⟩ := List.forall_mem_cons.1 h
    let event : Event := ⟨_, engine said (.execute (statement item))⟩
    obtain ⟨log, hrun, hcalls⟩ := ih hrest (said ++ [event])
    refine ⟨event :: log, ?_, ?_⟩
    · change Session.run engine said (request item >>= fun _ => rest.forM request).run = _
      rw [run_bind_ok (hitem said), hrun]
      rfl
    · rw [List.map_cons, hcalls]
      rfl

theorem exchange_forM {engine : Engine} {request : β → Operation Unit} {statement : β → Statement}
    {items : List β} (h : ∀ item ∈ items, (request item).Sends engine (statement item) ())
    {last : Operation α} {final : Statement} {a : α} (hl : last.Sends engine final a) :
    ∃ before, (do items.forM request; last : Operation α).exchange engine =
        (before ++ [⟨.execute final, engine before (.execute final)⟩], .ok a) ∧
      takenNames before = items.filterMap fun item => (statement item).createdName? := by
  obtain ⟨before, hrun, hcalls⟩ := run_forM h []
  refine ⟨before, ?_, ?_⟩
  · unfold exchange
    rw [run_bind_ok hrun, List.nil_append, hl before]
  · rw [takenNames_eq, hcalls, List.filterMap_map]
    rfl

end Operation

namespace Store

def isKnownField (schema : Schema) (field : String) : Bool :=
  (schema.field? field).isSome || Schema.isDefaultColumn field

theorem ensureUniqueness_sends (className : String) {schema : Schema} {fields : List String}
    (hk : ∀ field ∈ fields, isKnownField schema field) {engine : Engine}
    (hr : ∀ said e, engine said (.execute (Catalog.addUniqueConstraint className fields)) =
      .error e → e.isSchemaRace) :
    (ensureUniqueness className schema fields).Sends engine
      (Catalog.addUniqueConstraint className fields) () := by
  intro said
  have hknown : (fields.find? fun field =>
      !((schema.field? field).isSome || Schema.isDefaultColumn field)) = none := by
    refine List.find?_eq_none.2 fun field hfield => ?_
    have hfieldKnown : ((schema.field? field).isSome || Schema.isDefaultColumn field) = true :=
      hk field hfield
    rw [hfieldKnown]
    decide
  unfold ensureUniqueness
  dsimp only
  rw [hknown]
  refine Operation.run_request_bind engine said _ _ ?_
  cases hreply : engine said (.execute (Catalog.addUniqueConstraint className fields)) with
  | ok count => rfl
  | error e =>
    dsimp only
    rw [if_pos (hr said e hreply)]
    rfl

theorem ensureIndex_sends (className : String) (fields : List String) (foldCase : Bool)
    {engine : Engine} (hr : ∀ said e, engine said (.execute (Catalog.ensureIndex className
      (Catalog.defaultIndex fields) fields foldCase)) ≠ .error e) :
    (ensureIndex className fields none foldCase).Sends engine
      (Catalog.ensureIndex className (Catalog.defaultIndex fields) fields foldCase)
      (Catalog.defaultIndex fields) := by
  intro said
  refine Operation.run_request_bind engine said _ _ ?_
  have hok := hr said
  dsimp only [Option.getD_none]
  cases hreply : engine said (.execute (Catalog.ensureIndex className
      (Catalog.defaultIndex fields) fields foldCase)) with
  | ok count => rfl
  | error e => exact absurd hreply (hok e)

/-- An index that is asked for without a name. -/
structure IndexRequest where
  className : String
  fields : List String
  foldCase : Bool

namespace IndexRequest

def ensure (index : IndexRequest) : Operation String :=
  ensureIndex index.className index.fields none index.foldCase

def statement (index : IndexRequest) : Statement :=
  Catalog.ensureIndex index.className (Catalog.defaultIndex index.fields) index.fields
    index.foldCase

end IndexRequest

open Catalog

theorem exchange_ensureUniqueness (className : String) (schema : Schema) {refusal : EngineError}
    (hr : refusal.isSchemaRace) {earlier : List (List String)} {fields : List String}
    (hk : ∀ known ∈ fields :: earlier, ∀ field ∈ known, isKnownField schema field) :
    ∃ before, (do
        earlier.forM (ensureUniqueness className schema)
        ensureUniqueness className schema fields : Operation Unit).exchange
          (Engine.naming refusal) =
        (before ++ [⟨.execute (addUniqueConstraint className fields),
          if ∃ others ∈ earlier, nameWords others = nameWords fields then .error refusal
          else .ok (1 : Nat)⟩], .ok ()) := by
  obtain ⟨hfields, hearlier⟩ := List.forall_mem_cons.1 hk
  have hrace (others : List String) (said : List Event) (e : EngineError)
      (he : Engine.naming refusal said (.execute (addUniqueConstraint className others)) =
        .error e) : e.isSchemaRace := by
    rw [Engine.naming_addUniqueConstraint] at he
    split at he
    · cases he
      exact hr
    · cases he
  obtain ⟨before, hrun, htaken⟩ := Operation.exchange_forM
    (fun others hothers => ensureUniqueness_sends className (hearlier others hothers)
      (hrace others)) (ensureUniqueness_sends className hfields (hrace fields))
  refine ⟨before, ?_⟩
  have hiff : uniqueConstraint className fields ∈ takenNames before ↔
      ∃ others ∈ earlier, nameWords others = nameWords fields := by
    simp [htaken, Statement.createdName?_addUniqueConstraint, uniqueConstraint_eq_iff]
  rw [hrun, Engine.naming_addUniqueConstraint]
  simp only [hiff]

theorem exchange_ensureIndex (refusal : EngineError) (asked : List IndexRequest)
    (index : IndexRequest) :
    ∃ before, (do
        asked.forM fun other => do
          let _ ← other.ensure
        index.ensure : Operation String).exchange (Engine.naming refusal) =
        (before ++ [⟨.execute index.statement,
          .ok (if ∃ other ∈ asked, nameWords other.fields = nameWords index.fields then 0
            else 1 : Nat)⟩], .ok (defaultIndex index.fields)) := by
  have hmade (other : IndexRequest) : other.ensure.Sends (Engine.naming refusal)
      other.statement (defaultIndex other.fields) := by
    refine ensureIndex_sends other.className other.fields other.foldCase fun said e he => ?_
    rw [Engine.naming_ensureIndex] at he
    cases he
  obtain ⟨before, hrun, htaken⟩ := Operation.exchange_forM
    (fun other (_ : other ∈ asked) => (hmade other).ignored) (hmade index)
  refine ⟨before, ?_⟩
  have hiff : defaultIndex index.fields ∈ takenNames before ↔
      ∃ other ∈ asked, nameWords other.fields = nameWords index.fields := by
    simp [htaken, IndexRequest.statement, Catalog.ensureIndex,
      Statement.createdName?_indexOn, defaultIndex_eq_iff]
  have hreply := Engine.naming_ensureIndex refusal before index.className
    (defaultIndex index.fields) index.fields index.foldCase
  rw [hrun]
  simp only [IndexRequest.statement, hreply, hiff]

/-- Names tell the words of their fields, which are the fields where each is one
word, and nothing of the class and the case mode of an index. A constraint is made
unless one of the class that was asked for before has the same words, and is
accepted all the same. An index is made unless any has them that was. -/
theorem ensured_iff (className : String) (schema : Schema) {refusal : EngineError}
    (hr : refusal.isSchemaRace) {earlier : List (List String)} {fields : List String}
    (hk : ∀ known ∈ fields :: earlier, ∀ field ∈ known, isKnownField schema field)
    (asked : List IndexRequest) (index : IndexRequest) :
    (∀ others, uniqueConstraint className fields = uniqueConstraint className others ↔
        nameWords fields = nameWords others) ∧
      (∀ others, defaultIndex fields = defaultIndex others ↔
        nameWords fields = nameWords others) ∧
      (∀ others, (∀ field ∈ fields ++ others, IsWordOfName field) →
        (nameWords fields = nameWords others ↔ fields.Perm others)) ∧
      (∃ before, (do
          earlier.forM (ensureUniqueness className schema)
          ensureUniqueness className schema fields : Operation Unit).exchange
            (Engine.naming refusal) =
          (before ++ [⟨.execute (addUniqueConstraint className fields),
            if ∃ others ∈ earlier, nameWords others = nameWords fields then .error refusal
            else .ok (1 : Nat)⟩], .ok ())) ∧
      (∃ before, (do
          asked.forM fun other => do
            let _ ← other.ensure
          index.ensure : Operation String).exchange (Engine.naming refusal) =
          (before ++ [⟨.execute index.statement,
            .ok (if ∃ other ∈ asked, nameWords other.fields = nameWords index.fields then 0
              else 1 : Nat)⟩], .ok (defaultIndex index.fields))) := by
  refine ⟨fun others => uniqueConstraint_eq_iff className fields others,
    fun others => defaultIndex_eq_iff fields others, fun others hplain => ?_,
    exchange_ensureUniqueness className schema hr hk, exchange_ensureIndex refusal asked index⟩
  obtain ⟨hf, ho⟩ := List.forall_mem_append.1 hplain
  exact nameWords_plain_iff hf ho

/-- A constraint on two fields behind one on a field that has both in its name, and
an index of comments behind one of posts. -/
theorem pair_behind_joined :
    let schema : Schema :=
      { className := "Post", fields := [("a", .string), ("a_b", .string), ("b", .string)] }
    let refusal : EngineError := { fault := {
      message := "relation already exists", code := some SqlState.duplicateTable } }
    let post : IndexRequest := { className := "Post", fields := ["title"], foldCase := false }
    let comment : IndexRequest := { className := "Comment", fields := ["title"], foldCase := true }
    uniqueConstraint "Post" ["a", "b"] = uniqueConstraint "Post" ["a_b"] ∧
      nameWords ["a", "b"] = nameWords ["b", "a"] ∧
      (∃ before, (do
          [["a_b"]].forM (ensureUniqueness "Post" schema)
          ensureUniqueness "Post" schema ["a", "b"] : Operation Unit).exchange
            (Engine.naming refusal) =
          (before ++ [⟨.execute (addUniqueConstraint "Post" ["a", "b"]),
            .error refusal⟩], .ok ())) ∧
      (∃ before, (do
          [post].forM fun other => do
            let _ ← other.ensure
          comment.ensure : Operation String).exchange (Engine.naming refusal) =
          (before ++ [⟨.execute comment.statement, .ok (0 : Nat)⟩],
            .ok (defaultIndex ["title"]))) := by
  intro schema refusal post comment
  have hrace : refusal.isSchemaRace := by decide
  have hknown : ∀ known ∈ [["a", "b"], ["a_b"]], ∀ field ∈ known, isKnownField schema field := by
    decide
  have hwords := nameWords_pair
  have hmeets : ∃ others ∈ [["a_b"]], nameWords others = nameWords ["a", "b"] :=
    ⟨_, List.mem_singleton_self _, hwords.symm⟩
  obtain ⟨hunique, -, hplain, hconstraint, hindex⟩ :=
    ensured_iff "Post" schema hrace hknown [post] comment
  refine ⟨(hunique ["a_b"]).2 hwords, (hplain ["b", "a"] (by decide)).2 (by decide), ?_, ?_⟩
  · rwa [if_pos hmeets] at hconstraint
  · rwa [if_pos ⟨post, List.mem_singleton_self _, rfl⟩] at hindex

/-- Two fields have the name of a field that has both in its name, and an index has
the name of one of another class and case mode. -/
theorem joined_names_shared :
    ¬["a_b"].Perm ["a", "b"] ∧
      uniqueConstraint "Post" ["a_b"] = uniqueConstraint "Post" ["a", "b"] ∧
      defaultIndex ["a_b"] = defaultIndex ["a", "b"] ∧
      ((ensureIndex "Post" ["title"] none false).exchange (answering [])).2 =
        ((ensureIndex "Comment" ["title"] none true).exchange (answering [])).2 := by
  have hwords := nameWords_pair.symm
  have hname (className : String) (foldCase : Bool) :
      ((ensureIndex className ["title"] none foldCase).exchange (answering [])).2 =
        .ok (defaultIndex ["title"]) :=
    congrArg Prod.snd (ensureIndex_sends className ["title"] foldCase (fun _ _ he => by cases he) [])
  exact ⟨by decide, (uniqueConstraint_eq_iff "Post" _ _).2 hwords, (defaultIndex_eq_iff _ _).2 hwords,
    (hname "Post" false).trans (hname "Comment" true).symm⟩

end Store
end DocSql
