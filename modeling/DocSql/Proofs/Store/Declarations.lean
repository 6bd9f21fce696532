import DocSql.Proofs.Store.AddedField
import DocSql.Proofs.Store.Clients
import DocSql.Proofs.Store.SchemaRow

/-!
Deleting fields while another request adds one. A deletion writes the schema
that its caller has read over the whole document, an addition sets its own entry
of it, and each makes just that change if it succeeds. Main statement: the
deleted fields are gone in the end, and the added one is declared just where the
deletion was committed first; one committed later takes the declaration back.
-/
namespace DocSql

namespace Footprint

variable {catalog : Catalog} {className : String} {body : List Event}

variable (catalog className) in
def changes (body : List Event) : List DocumentChange :=
  (body.filterMap Event.success?).filterMap (Statement.documentChange? catalog className)

theorem changes_append (first rest : List Event) :
    changes catalog className (first ++ rest) =
      changes catalog className first ++ changes catalog className rest := by
  unfold changes
  rw [List.filterMap_append, List.filterMap_append]

theorem changes_executed (statement : Statement) (count : Nat) :
    changes catalog className [.executed statement count] =
      (statement.documentChange? catalog className).toList := by
  unfold changes
  rw [List.filterMap_cons_some Event.success?_executed, List.filterMap_nil]
  cases hc : statement.documentChange? catalog className <;> simp [hc]

theorem changes_of_verbs
    (h : ∀ statement ∈ body.filterMap Event.success?, statement.verb ≠ "UPDATE".toList) :
    changes catalog className body = [] :=
  List.filterMap_eq_nil_iff.2 fun statement hstatement =>
    Statement.documentChange?_of_verb catalog className (h statement hstatement)

theorem after_inside {event : Event} (h : event.IsInside) (footprint : Footprint) :
    footprint.after catalog className event =
      { footprint with pending := footprint.pending ++ changes catalog className [event] } := by
  obtain ⟨call, reply⟩ := event
  obtain ⟨statement, rfl | rfl⟩ := h
  · have hnone : changes catalog className [⟨.queryInside statement, reply⟩] = [] := by
      cases reply <;> rfl
    simp [after, Event.keeps, Event.publishes, hnone]
  · cases reply with
    | error e =>
      have hnone : changes catalog className [⟨.executeInside statement, .error e⟩] = [] := rfl
      simp [after, Event.keeps, Event.publishes, hnone]
    | ok count =>
      have hsome : changes catalog className [⟨.executeInside statement, .ok count⟩] =
          (statement.documentChange? catalog className).toList := changes_executed statement count
      simp [after, Event.keeps, Event.publishes, hsome]

theorem foldl_inside (h : ∀ event ∈ body, event.IsInside) (footprint : Footprint) :
    body.foldl (after catalog className) footprint =
      { footprint with pending := footprint.pending ++ changes catalog className body } := by
  induction body generalizing footprint with
  | nil => simp [changes]
  | cons event rest ih =>
    have hrest := ih fun other hother => h other (List.mem_cons_of_mem event hother)
    rw [List.foldl_cons, hrest, after_inside (h event List.mem_cons_self), List.append_assoc,
      ← changes_append, List.singleton_append]

theorem ofLog_begun (h : ∀ event ∈ body, event.IsInside) :
    ofLog catalog className (.begun :: body) = { pending := changes catalog className body } := by
  change body.foldl (after catalog className) {} = _
  rw [foldl_inside h, List.nil_append]

theorem ofLog_committed (h : ∀ event ∈ body, event.IsInside) :
    (ofLog catalog className (.begun :: (body ++ [⟨.commit, .ok ()⟩]))).published =
      changes catalog className body := by
  rw [← List.cons_append, ofLog_append_singleton, ofLog_begun h]
  rfl

end Footprint

namespace Store

variable (store : Store) (className : String) {type : FieldType} {log : List Event}

def remaining (copy : Schema) (fields : List String) : Schema :=
  { copy.named className with fields := fields.foldl Entries.erase copy.fields }

theorem deleteFields_eq (copy : Schema) (fields : List String) :
    ∃ columns, store.deleteFields className copy fields = Transaction.run (do
      Work.execute (store.catalog.updateSchema (remaining className copy fields))
      (Catalog.dropColumns className columns).elim (pure ()) Work.execute) := by
  have hfold {step : Entries FieldType × List String → String → Entries FieldType × List String}
      (hstep : ∀ folded field, (step folded field).1 = Entries.erase folded.1 field)
      (start : Entries FieldType × List String) :
      (fields.foldl step start).1 = fields.foldl Entries.erase start.1 := by
    induction fields generalizing start with
    | nil => rfl
    | cons field rest ih => rw [List.foldl_cons, ih, hstep, List.foldl_cons]
  unfold deleteFields
  generalize hfolded : fields.foldl _ _ = folded
  obtain ⟨left, columns⟩ := folded
  have hleft : fields.foldl Entries.erase copy.fields = left := by
    refine Eq.trans (hfold ?_ (copy.fields, [])).symm (congrArg Prod.fst hfolded)
    exact fun _ _ => rfl
  rw [remaining, hleft]
  refine ⟨columns, ?_⟩
  refine congrArg (fun drop => Transaction.run (do
    Work.execute (store.catalog.updateSchema { copy.named className with fields := left })
    drop)) ?_
  cases Catalog.dropColumns className columns with
  | _ => rfl

theorem published_deleteFields {copy : Schema} {fields : List String}
    (h : (store.deleteFields className copy fields).Runs log (.ok ())) :
    (Footprint.ofLog store.catalog className log).published =
      [.replace (remaining className copy fields).toJson] := by
  obtain ⟨columns, heq⟩ := store.deleteFields_eq className copy fields
  rw [heq] at h
  rcases Transaction.runs_run h with ⟨e, -, hresult⟩ | ⟨body, outcome, tx, last, rfl, hwork, hend⟩
  · cases hresult
  cases hend
  obtain ⟨updated, _, middle, dropped, rfl, hupdated, hdropped⟩ := Work.runs_bind_ok hwork
  obtain ⟨count, rfl⟩ := Work.runs_execute_ok hupdated
  have hdrops : (∀ event ∈ dropped, event.IsInside) ∧
      ∀ statement ∈ dropped.filterMap Event.success?, statement.verb ≠ "UPDATE".toList := by
    cases hdrop : Catalog.dropColumns className columns with
    | none =>
      rw [hdrop] at hdropped
      obtain ⟨rfl, -⟩ := Work.runs_pure.1 hdropped
      simp
    | some statement =>
      rw [hdrop] at hdropped
      obtain ⟨count', rfl⟩ := Work.runs_execute_ok hdropped
      have hverb := Catalog.verb_dropColumns className hdrop
      simp [hverb]
  have hupdate : (store.catalog.updateSchema (remaining className copy fields)).documentChange?
      store.catalog className = some (.replace (remaining className copy fields).toJson) :=
    Statement.documentChange?_updateSchema ..
  rw [Footprint.ofLog_committed (by simpa using hdrops.1), Footprint.changes_append,
    Footprint.changes_executed, Footprint.changes_of_verbs hdrops.2, hupdate]
  rfl

theorem ColumnAdded.verbs {field : String} {successes : List Statement}
    {failures : List (Statement × EngineError)} {answers : List (Statement × List Row)}
    (h : ColumnAdded className field successes failures answers) :
    ∀ statement ∈ successes, statement.verb ≠ "UPDATE".toList := by
  cases h with
  | added n hadds => simp [Statement.verb_mark, Statement.verb_release, hadds.verb]
  | found n hadds e hr => simp [Statement.verb_mark, Statement.verb_undo]
  | created n m hadds e hr hc hi =>
    simp [Statement.verb_mark, Statement.verb_release, Statement.verb_undo, hc.verb, hi]
  | raced n m hadds e e' hr hc hi => simp [Statement.verb_mark, Statement.verb_undo, hi]

theorem runs_declaring_ok {field : String} {tx after : Transaction}
    (h : (do
      let declared ← Work.query (store.catalog.selectDeclaredField className field)
      if declared.isEmpty then Work.execute (store.declareField className field type) :
        Work Unit).Runs tx log (.ok ()) after) :
    ∃ rows told, log = .found (store.catalog.selectDeclaredField className field) rows :: told ∧
      (rows ≠ [] ∧ told = [] ∨ ∃ count,
        rows = [] ∧ told = [.executed (store.declareField className field type) count]) := by
  obtain ⟨asked, rows, middle, told, rfl, hasked, hrest⟩ := Work.runs_bind_ok h
  rw [Work.runs_query_ok hasked]
  refine ⟨rows, told, rfl, ?_⟩
  cases rows with
  | nil =>
    obtain ⟨count, rfl⟩ := Work.runs_execute_ok hrest
    exact .inr ⟨count, rfl, rfl⟩
  | cons row rest =>
    obtain ⟨rfl, -⟩ := Work.runs_pure.1 hrest
    exact .inl ⟨List.cons_ne_nil _ _, rfl⟩

theorem runs_addFieldInside {field : String} {tx after : Transaction}
    (h : (store.addFieldInside className field type).Runs tx log (.ok ()) after) :
    ∃ added rows told,
      log = added ++ .found (store.catalog.selectDeclaredField className field) rows :: told ∧
      (∀ statement ∈ added.filterMap Event.success?, statement.verb ≠ "UPDATE".toList) ∧
      (rows ≠ [] ∧ told = [] ∨ ∃ count,
        rows = [] ∧ told = [.executed (store.declareField className field type) count]) := by
  unfold addFieldInside at h
  cases hr : type.isRelation with
  | true =>
    rw [hr] at h
    obtain ⟨added, applied, middle, rest, rfl, hadded, hrest⟩ := Work.runs_bind_ok h
    obtain ⟨rows, told, rfl, htold⟩ := store.runs_declaring_ok className hrest
    refine ⟨added, rows, told, rfl, ?_, htold⟩
    have hcreate := Catalog.verb_createJoinTable store.catalog className field
    cases applied with
    | true =>
      rw [(Work.runs_absorbing_ok hadded).effects_true.1]
      simp [Statement.verb_mark, Statement.verb_release, hcreate]
    | false =>
      rw [(Work.runs_absorbing_ok hadded).effects_false.1]
      simp [Statement.verb_mark, Statement.verb_undo]
  | false =>
    rw [hr] at h
    obtain ⟨added, _, middle, rest, rfl, hadded, hrest⟩ := Work.runs_bind_ok h
    obtain ⟨rows, told, rfl, htold⟩ := store.runs_declaring_ok className hrest
    exact ⟨added, rows, told, rfl, (store.runs_addColumn hr hadded).verbs, htold⟩

theorem published_addField {field : String} (hf : Sql.isPlainElement field.toList)
    (h : (store.addField className field type).Runs log (.ok ())) :
    ∃ before rows later,
      log = before ++ .found (store.catalog.selectDeclaredField className field) rows :: later ∧
      Footprint.ofLog store.catalog className before = {} ∧
      (rows = [] → (Footprint.ofLog store.catalog className log).published =
        [.set ["fields", field] type.toJson]) := by
  rcases Transaction.runs_run h with ⟨e, -, hresult⟩ | ⟨body, outcome, tx, last, rfl, hwork, hend⟩
  · cases hresult
  cases hend
  obtain ⟨added, rows, told, rfl, hverbs, htold⟩ := store.runs_addFieldInside className hwork
  have hinside : ∀ event ∈ added ++ Event.found (store.catalog.selectDeclaredField className field)
      rows :: told, event.IsInside := by
    rcases store.obeys_addFieldInside className field type 0 _ _ _ hwork with
      ⟨_, -, -, hpassed⟩ | ⟨_, _, herror, -⟩
    · exact hpassed.inside
    · cases herror
  have hadded : Footprint.changes store.catalog className added = [] :=
    Footprint.changes_of_verbs hverbs
  refine ⟨.begun :: added, rows, told ++ [⟨.commit, .ok ()⟩], by simp, ?_, ?_⟩
  · rw [Footprint.ofLog_begun fun event hevent => hinside event (List.mem_append_left _ hevent),
      hadded]
  · rintro rfl
    rcases htold with ⟨hne, -⟩ | ⟨count, -, rfl⟩
    · exact absurd rfl hne
    have hset : (store.declareField className field type).documentChange? store.catalog className =
        some (.set ["fields", field] type.toJson) := by
      refine Statement.documentChange?_setSchemaPath _ _ _ (by simp) fun step hstep => ?_
      rcases List.mem_pair.1 hstep with rfl | rfl
      · decide
      · exact hf
    have hquestion : Footprint.changes store.catalog className
        [.found (store.catalog.selectDeclaredField className field) []] = [] := rfl
    rw [Footprint.ofLog_committed hinside, Footprint.changes_append, hadded, List.nil_append,
      ← List.singleton_append, Footprint.changes_append, hquestion, Footprint.changes_executed,
      hset]
    rfl

theorem declares_remaining (copy : Schema) (fields : List String) (name : String) :
    (remaining className copy fields).toJson.declares name =
      if name ∈ fields then false else (copy.field? name).isSome := by
  rw [Schema.declares_toJson]
  unfold Schema.field? remaining
  rw [Entries.find?_foldl_erase]
  split <;> rfl

/-- Two requests on one class: a deletion of fields from a schema that its
caller has read, and an addition of a field. -/
def evolving (copy : Schema) (fields : List String) (field : String) (type : FieldType) :
    Fin 2 → Session (Except Error Unit)
  | 0 => (store.deleteFields className copy fields).run
  | 1 => (store.addField className field type).run

end Store

namespace SchemaRow

variable {changes : List (Fin 2 × DocumentChange)} {i j : Fin 2}

theorem eq_of_changesOf_nil (hij : i ≠ j) (h : changesOf i changes = []) :
    changes = (changesOf j changes).map (j, ·) := by
  induction changes with
  | nil => rfl
  | cons entry rest ih =>
    obtain ⟨l, change⟩ := entry
    have hl : l = j := by
      by_contra hne
      have hli : l = i := by omega
      simp [changesOf, hli] at h
    subst hl
    have hrest : changesOf i rest = [] := by simpa [changesOf, Ne.symm hij] using h
    have hcons : changesOf l ((l, change) :: rest) = change :: changesOf l rest := by
      simp [changesOf]
    rw [hcons, List.map_cons, ← ih hrest]

theorem eq_of_changesOf_singleton {first second : DocumentChange}
    {history : List (Fin 2 × DocumentChange)}
    (h₀ : changesOf 0 history = [first]) (h₁ : changesOf 1 history = [second]) :
    history = [(0, first), (1, second)] ∨ history = [(1, second), (0, first)] := by
  cases history with
  | nil => cases h₀
  | cons entry rest =>
    obtain ⟨i, change⟩ := entry
    have hi : i = 0 ∨ i = 1 := by omega
    rcases hi with rfl | rfl
    · have hfirst : change = first ∧ changesOf 0 rest = [] := by simpa [changesOf] using h₀
      have hsecond : changesOf 1 rest = [second] := by simpa [changesOf] using h₁
      rw [eq_of_changesOf_nil (by decide : (0 : Fin 2) ≠ 1) hfirst.2, hsecond, hfirst.1]
      exact .inl rfl
    · have hsecond : change = second ∧ changesOf 1 rest = [] := by simpa [changesOf] using h₁
      have hfirst : changesOf 0 rest = [first] := by simpa [changesOf] using h₀
      rw [eq_of_changesOf_nil (by decide : (1 : Fin 2) ≠ 0) hsecond.2, hfirst, hsecond.1]
      exact .inr rfl

end SchemaRow

theorem Session.Reaches.runs_of_result {α : Type} {s left : Session α} {log : List Event} {a : α}
    (h : s.Reaches log left) (ha : left.result? = some a) : s.Runs log a := by
  cases left with
  | done result =>
    cases ha
    exact h.runs
  | ask call next => cases ha

namespace Store

variable (store : Store) (className : String) {stored copy : Schema} {fields : List String}
  {field : String} {type : FieldType} {row : SchemaRow 2 (Except Error Unit)}

/-- The addition finds no declaration: until it makes its own there is the
document that was stored at first, or the one that the deletion writes. -/
theorem found_nothing {before later : List Event} {rows : List Row}
    (h : row.IsTold store.catalog className stored.toJson
      (store.evolving className copy fields field type))
    (hs : stored.field? field = none) (hc : copy.field? field = none)
    (hdeleted : SchemaRow.changesOf 0 row.history =
      [.replace (remaining className copy fields).toJson])
    (hlog : (row.requests 1).log =
      before ++ .found (store.catalog.selectDeclaredField className field) rows :: later)
    (hbefore : Footprint.ofLog store.catalog className before = {}) : rows = [] := by
  obtain ⟨earlier, hbegins, hown, hrows⟩ := h.answered 1 before _ field rows later hlog
    (Statement.askedField?_selectDeclaredField ..)
  rw [hbefore] at hown hrows
  have hearlier := SchemaRow.eq_of_changesOf_nil (by decide : (1 : Fin 2) ≠ 0) hown
  have hother : SchemaRow.changesOf 0 earlier <+:
      [.replace (remaining className copy fields).toJson] := by
    rw [← hdeleted]
    exact (hbegins.filter _).map _
  refine hrows.2 ?_
  rcases List.prefix_cons_iff.1 hother with hnil | ⟨more, hmore, hmorenil⟩
  · rw [hearlier, hnil]
    change stored.toJson.declares field = false
    rw [Schema.declares_toJson, hs]
    rfl
  · rw [hearlier, hmore, List.prefix_nil.1 hmorenil]
    change (remaining className copy fields).toJson.declares field = false
    rw [declares_remaining, hc]
    split <;> rfl

theorem changesOf_deletion
    (h : row.IsTold store.catalog className stored.toJson
      (store.evolving className copy fields field type))
    (hok : (row.requests 0).session.result? = some (.ok ())) :
    SchemaRow.changesOf 0 row.history = [.replace (remaining className copy fields).toJson] := by
  rw [h.published 0]
  exact store.published_deleteFields className ((h.reached 0).runs_of_result hok)

theorem changesOf_addition (hf : Sql.isPlainElement field.toList)
    (h : row.IsTold store.catalog className stored.toJson
      (store.evolving className copy fields field type))
    (hs : stored.field? field = none) (hc : copy.field? field = none)
    (hdeleted : SchemaRow.changesOf 0 row.history =
      [.replace (remaining className copy fields).toJson])
    (hok : (row.requests 1).session.result? = some (.ok ())) :
    SchemaRow.changesOf 1 row.history = [.set ["fields", field] type.toJson] := by
  obtain ⟨before, rows, later, hlog, hbefore, hpublished⟩ :=
    store.published_addField className hf ((h.reached 1).runs_of_result hok)
  rw [h.published 1]
  exact hpublished (store.found_nothing className h hs hc hdeleted hlog hbefore)

theorem declares_deletion_addition
    (h : row.history = [(0, .replace (remaining className copy fields).toJson),
      (1, .set ["fields", field] type.toJson)]) (name : String) :
    row.document.declares name =
      (decide (field = name) || (remaining className copy fields).toJson.declares name) := by
  unfold SchemaRow.document SchemaRow.documentAfter
  rw [h]
  exact Json.declares_setAt (Schema.toJson_parts _).2.1 field name type.toJson

theorem document_addition_deletion
    (h : row.history = [(1, .set ["fields", field] type.toJson),
      (0, .replace (remaining className copy fields).toJson)]) :
    row.document = (remaining className copy fields).toJson := by
  unfold SchemaRow.document SchemaRow.documentAfter
  rw [h]
  rfl

/-- A deletion from a schema that its caller has read, and an addition that the
schema does not know of, both successful: each was committed once, in one of two
orders. The deleted fields are gone, and the added one is declared just where the
deletion was first; one that is later writes a document without it. -/
theorem evolving_declares_iff (hf : Sql.isPlainElement field.toList) (hn : field ∉ fields)
    (hs : stored.field? field = none) (hc : copy.field? field = none)
    (schedule : List (SchemaRow.Turn 2)) :
    let row := (SchemaRow.opening stored.toJson
      (store.evolving className copy fields field type)).run store.catalog className schedule
    (∀ i, (row.requests i).session.result? = some (.ok ())) →
      (row.order = [0, 1] ∨ row.order = [1, 0]) ∧
      (∀ name ∈ fields, row.document.declares name = false) ∧
      (row.document.declares field = true ↔ row.order = [0, 1]) := by
  intro row hok
  have htold : row.IsTold store.catalog className stored.toJson
      (store.evolving className copy fields field type) := SchemaRow.isTold_run _ _ schedule
  have hdeleted := store.changesOf_deletion className htold (hok 0)
  have hadded := store.changesOf_addition className hf htold hs hc hdeleted (hok 1)
  have hleft (name : String) := declares_remaining className copy fields name
  rcases SchemaRow.eq_of_changesOf_singleton hdeleted hadded with hfirst | hlater
  · have hdeclares := declares_deletion_addition className hfirst
    have horder : row.order = [0, 1] := congrArg (List.map Prod.fst) hfirst
    refine ⟨.inl horder, fun name hname => ?_, fun _ => horder, fun _ => ?_⟩
    · have hne : field ≠ name := fun heq => hn (heq ▸ hname)
      rw [hdeclares, hleft, if_pos hname]
      simp [hne]
    · rw [hdeclares]
      simp
  · have horder : row.order = [1, 0] := congrArg (List.map Prod.fst) hlater
    rw [document_addition_deletion className hlater]
    refine ⟨.inr horder, fun name hname => ?_, fun hdeclared => ?_, fun hother => ?_⟩
    · rw [hleft, if_pos hname]
    · rw [hleft, if_neg hn, hc] at hdeclared
      cases hdeclared
    · rw [horder] at hother
      exact absurd hother (by decide)

def obliging : (call : Call) → call.Reply
  | .query _ | .queryInside _ => .ok []
  | .execute _ | .executeInside _ => .ok (0 : Nat)
  | .start | .commit | .rollback => .ok ()

def oneAfterAnother (first second : Fin 2) : List (SchemaRow.Turn 2) :=
  List.replicate 7 ⟨first, obliging⟩ ++ List.replicate 7 ⟨second, obliging⟩

def postSchema : Schema := { className := "Post", fields := [("title", .string)] }

def evolvePosts (schedule : List (SchemaRow.Turn 2)) : SchemaRow 2 (Except Error Unit) :=
  let store : Store := { now := ⟨0, 0⟩ }
  (SchemaRow.opening postSchema.toJson
    (store.evolving "Post" postSchema ["title"] "stock" .number)).run store.catalog "Post" schedule

theorem deletion_first_keeps_stock :
    let row := evolvePosts (oneAfterAnother 0 1)
    (∀ i, (row.requests i).session.result? = some (.ok ())) ∧
      (∀ name ∈ ["title"], row.document.declares name = false) ∧
      row.document.declares "stock" = true := by
  have hok : ∀ i, ((evolvePosts (oneAfterAnother 0 1)).requests i).session.result? =
      some (.ok ()) := by decide +kernel
  have horder : (evolvePosts (oneAfterAnother 0 1)).order = [0, 1] := by decide +kernel
  obtain ⟨-, hdeleted, hdeclared⟩ :=
    @evolving_declares_iff { now := ⟨0, 0⟩ } "Post" postSchema postSchema ["title"] "stock" .number
      (by decide) (by decide) (by decide) (by decide) (oneAfterAnother 0 1) hok
  exact ⟨hok, hdeleted, hdeclared.2 horder⟩

/-- The addition comes to its end before the deletion begins. Both succeed, and
the field that was added is no longer declared. -/
theorem addition_first_loses_stock :
    let row := evolvePosts (oneAfterAnother 1 0)
    (∀ i, (row.requests i).session.result? = some (.ok ())) ∧ row.order = [1, 0] ∧
      row.document.declares "stock" = false := by
  decide +kernel

end Store
end DocSql
