import DocSql.Proofs.Outcome
import DocSql.Proofs.Session.Runs
import DocSql.Store.Documents

/-!
What is asked for a request on documents that does not compile. Nothing is,
but for a count that is not even an object: where the estimate of the catalog
answers counts of a whole class, it is asked before the query is looked at.
Main statement: `DocumentRequest.refused_unasked_iff`.
-/
namespace DocSql

open Store

/-- The requests on the documents of a class. -/
inductive DocumentRequest
  | create (document : Json)
  | find (query : Json) (options : Find.Options) (foldCase : Bool)
  | count (query : Json)
  | distinct (query : Json) (field : String)
  | update (query changes : Json)
  | delete (query : Json)
  | aggregate (pipeline : List Json)

namespace DocumentRequest

abbrev Answer : DocumentRequest → Type
  | create _ => Json
  | find _ _ _ | distinct _ _ | update _ _ | aggregate _ => List Json
  | count _ | delete _ => Nat

variable (store : Store) (className : String) (schema : Schema)

def statement : DocumentRequest → Except Error Statement
  | create document => do Insert.statement (schema.named className) (← expectObject document)
  | find query options foldCase =>
    Find.statement (store.scope className schema foldCase) query options
  | count query => Query.countStatement (store.scope className schema false) query
  | distinct query field =>
    Distinct.statement <$> Distinct.plan (store.scope className schema false) query field
  | update query changes => Update.statement (store.scope className schema false) query changes
  | delete query => Query.deleteStatement (store.scope className schema false) query
  | aggregate pipeline =>
    Aggregate.statement <$> Aggregate.plan (store.scope className schema false) className pipeline

def operation : (request : DocumentRequest) → Operation request.Answer
  | create document => Store.create className schema document
  | find query options foldCase => store.find className schema query options foldCase
  | count query => store.count className schema query
  | distinct query field => store.distinct className schema query field
  | update query changes => store.update className schema query changes
  | delete query => store.delete className schema query
  | aggregate pipeline => store.aggregate className schema pipeline

/-- A count of something that is no object, where the catalog is asked first. -/
def isEstimated : DocumentRequest → Bool
  | count query => query.obj?.isNone && store.settings.estimateCount
  | _ => false

variable {store className schema}

theorem countStatement_empty (scope : Scope) :
    ∃ statement, Query.countStatement scope (.obj []) = .ok statement :=
  ⟨_, rfl⟩

theorem selectsAll_of_refused {query : Json} {e : Error}
    (h : (count query).statement store className schema = .error e) :
    selectsAll query = query.obj?.isNone := by
  cases query with
  | obj members =>
    cases members with
    | nil =>
      obtain ⟨all, hall⟩ := countStatement_empty (store.scope className schema false)
      cases hall.symm.trans h
    | cons member rest => rfl
  | null | bool _ | num _ | str _ | arr _ => rfl

theorem exactCount_refused {query : Json} {e : Error}
    (h : (count query).statement store className schema = .error e) :
    store.exactCount className schema query = throw e :=
  Operation.lift_error_bind h _

def estimateOf (rows : List Row) : Option Nat :=
  (((rows.head?.bind fun row => Entries.find? row "approximate_row_count").bind
    Datum.toDouble?).filter (Double.le .zero)).map fun x => (x.clampTo 0 maxCount).toNat

theorem run_estimatedCount {α : Type} (className : String) (more : Option Nat → Operation α) :
    (estimatedCount className >>= more).run =
      .ask (.query (Query.estimatedCount className)) fun
        | .ok rows => (more (estimateOf rows)).run
        | .error failure => .done (.error failure.toError) := by
  refine congrArg (Session.ask _) (funext fun reply => ?_)
  cases reply with
  | ok rows => rfl
  | error failure => rfl

theorem operation_refused {request : DocumentRequest} {e : Error}
    (h : request.statement store className schema = .error e)
    (hn : request.isEstimated store = false) :
    request.operation store className schema = throw e := by
  cases request with
  | create document =>
    rcases bind_eq_error.1 h with hobject | ⟨members, hobject, hinsert⟩
    · exact Operation.lift_error_bind hobject _
    · change (liftM (expectObject document) >>= _) = _
      rw [hobject]
      exact Operation.lift_error_bind hinsert _
  | find query options foldCase => exact Operation.lift_error_bind h _
  | count query =>
    change (query.obj?.isNone && store.settings.estimateCount) = false at hn
    change store.count className schema query = _
    unfold Store.count
    rw [selectsAll_of_refused h, hn, exactCount_refused h]
    rfl
  | distinct query field => exact Operation.lift_error_bind (map_eq_error.1 h) _
  | update query changes => exact Operation.lift_error_bind h _
  | delete query => exact Operation.lift_error_bind h _
  | aggregate pipeline => exact Operation.lift_error_bind (map_eq_error.1 h) _

theorem exchange_estimated {query : Json} {e : Error} (hall : selectsAll query)
    (hs : store.settings.estimateCount)
    (h : (count query).statement store className schema = .error e) (engine : Engine) :
    let estimating : Call := .query (Query.estimatedCount className)
    (store.count className schema query).exchange engine =
      ([⟨estimating, engine [] estimating⟩],
        match engine [] estimating with
        | .ok rows => (estimateOf rows).elim (.error e) .ok
        | .error failure => .error failure.toError) := by
  intro estimating
  have hcount : store.count className schema query =
      estimatedCount className >>= fun n? => n?.elim (throw e) pure := by
    unfold Store.count
    rw [hall, hs, exactCount_refused h]
    refine congrArg (estimatedCount className >>= ·) (funext fun n? => ?_)
    cases n? with
    | none => rfl
    | some n => rfl
  rw [hcount, Operation.exchange, run_estimatedCount, Session.run]
  dsimp only [estimating]
  cases engine [] (.query (Query.estimatedCount className)) with
  | error failure => rfl
  | ok rows =>
    dsimp only
    cases estimateOf rows with
    | none => rfl
    | some n => rfl

/-- A request that does not compile fails with nothing asked, unless the catalog
is asked for an estimate, and then for nothing else. -/
theorem refused_unasked_iff {request : DocumentRequest} {e : Error}
    (h : request.statement store className schema = .error e) (engine : Engine) :
    ((request.operation store className schema).exchange engine = ([], .error e) ↔
      request.isEstimated store = false) ∧
    (request.isEstimated store →
      ((request.operation store className schema).exchange engine).1.map (·.call) =
        [.query (Query.estimatedCount className)]) := by
  have hasked (hestimated : request.isEstimated store) :
      ((request.operation store className schema).exchange engine).1.map (·.call) =
        [.query (Query.estimatedCount className)] := by
    cases request with
    | count query =>
      obtain ⟨hnone, hs⟩ := Bool.and_eq_true_iff.1 hestimated
      change ((store.count className schema query).exchange engine).1.map _ = _
      rw [exchange_estimated ((selectsAll_of_refused h).trans hnone) hs h]
      rfl
    | create _ | find _ _ _ | distinct _ _ | update _ _ | delete _ | aggregate _ => cases hestimated
  refine ⟨⟨fun hexchange => ?_, fun hn => ?_⟩, hasked⟩
  · refine Bool.eq_false_iff.2 fun hestimated => ?_
    have hcalls := hasked hestimated
    rw [hexchange] at hcalls
    cases hcalls
  · rw [operation_refused h hn]
    rfl

/-- A search by something that is no object asks nothing. -/
theorem malformed_find_unasked :
    let request : DocumentRequest := .find (.arr []) {} false
    let refusal : Error := .invalidQuery ("query must be an object: " ++ (Json.arr []).text)
    request.statement { now := ⟨0, 0⟩ } "Post" {} = .error refusal ∧
      (request.operation { now := ⟨0, 0⟩ } "Post" {}).exchange (answering []) =
        ([], .error refusal) :=
  have h : (find (.arr []) {} false).statement { now := ⟨0, 0⟩ } "Post" {} =
    .error (.invalidQuery ("query must be an object: " ++ (Json.arr []).text)) := rfl
  ⟨h, (refused_unasked_iff h (answering [])).1.2 rfl⟩

/-- A count by something that is no object is answered with the estimated number
of all documents. -/
theorem malformed_count_estimated :
    let query := Json.arr [.object [("title", .str "x")]]
    let rows : List Row := [[("approximate_row_count", .float (.ofInt 42))]]
    let estimating : Call := .query (Query.estimatedCount "Post")
    (count query).statement { now := ⟨0, 0⟩ } "Post" {} =
        .error (.invalidQuery ("query must be an object: " ++ query.text)) ∧
      ((count query).operation { now := ⟨0, 0⟩ } "Post" {}).exchange (answering rows) =
        ([⟨estimating, .ok rows⟩], .ok (42 : Nat)) := by
  intro query rows estimating
  have hrefused : (count query).statement { now := ⟨0, 0⟩ } "Post" {} =
    .error (.invalidQuery ("query must be an object: " ++ query.text)) := rfl
  have hestimate : estimateOf rows = some 42 := by decide +kernel
  refine ⟨hrefused, (exchange_estimated rfl rfl hrefused (answering rows)).trans ?_⟩
  change ([_], (estimateOf rows).elim _ _) = _
  rw [hestimate]
  rfl

end DocumentRequest
end DocSql
