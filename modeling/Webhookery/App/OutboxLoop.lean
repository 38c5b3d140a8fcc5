import Webhookery.App.Worker

/-!
# The loop over claimed outbox items

A worker is given a store and a processor. It offers the items it claimed to the processor one after the
other and completes those that were processed. A deferred item is left to a later claim, and any other
error ends the loop, so that the items behind it are not offered: the batch is done with exactly when no
item but the last one fails.
-/

namespace Webhookery.App

open Go Store Concurrency

/-- `Worker`, as far as the outbox goes: what its store and its processor do. -/
structure Worker (ι σ ε : Type) where
  claimOutbox : Program ι σ ε (List OutboxItem)
  processor : Option (OutboxItem → Program ι σ ε Unit)
  completeOutbox : String → Program ι σ ε Unit
  isDeferred : ε → Bool

namespace Worker

variable {ι σ ε : Type}

/-- The body of the loop. -/
def handle (w : Worker ι σ ε) (item : OutboxItem) : Program ι σ ε Unit :=
  match w.processor with
  | none => w.completeOutbox item.id
  | some process => (process item).attempt.bind fun
    | .ok _ => w.completeOutbox item.id
    | .error e => if w.isDeferred e then .done (.ok ()) else .fail e

/-- `Worker.runOutbox`. -/
def runOutbox (w : Worker ι σ ε) : Program ι σ ε Unit := w.claimOutbox.bind (.forEach w.handle)

end Worker

/-- The worker over the tables, with the services as its processor. -/
def storeWorker (codec : PayloadCodec) (registry : ReconcileRegistry) (workerID : String) (limit : Int) :
    Worker Env DB StoreError where
  claimOutbox := transaction (Store.claimOutbox workerID (if limit ≤ 0 then 10 else limit.toNat))
  processor := some (processOutbox codec registry)
  completeOutbox id := transaction fun _ ↦ Store.completeOutbox id
  isDeferred e := e == .deferred

theorem runOutbox_eq_storeWorker (codec : PayloadCodec) (registry : ReconcileRegistry) (workerID : String)
    (limit : Int) : runOutbox codec registry workerID limit =
      (storeWorker codec registry workerID limit).runOutbox := by
  have hhandle : handleItem codec registry = (storeWorker codec registry workerID limit).handle := by
    funext item
    unfold handleItem Worker.handle storeWorker
    apply congrArg (fun f ↦ (processOutbox codec registry item).attempt.bind f)
    funext result
    cases result with
    | ok => rfl
    | error e => cases e <;> rfl
  rw [runOutbox, hhandle]
  rfl

/-! ## A worker that is watched -/

/-- What a worker asked for: the items it offered and the identifiers it completed, in order. -/
structure Calls where
  offered : List OutboxItem
  completed : List String
  deriving DecidableEq

/-- A worker that claims the items, with a processor that answers as the pattern says and a store that
completes every item. -/
def watchedWorker (items : List OutboxItem) (pattern : OutboxItem → Except StoreError Unit) :
    Worker Unit Calls StoreError where
  claimOutbox := .done (.ok items)
  processor := some fun item ↦
    .step (fun _ calls ↦ (pattern item, { calls with offered := calls.offered ++ [item] })) .done
  completeOutbox id :=
    .step (fun _ calls ↦ (.ok (), { calls with completed := calls.completed ++ [id] })) .done
  isDeferred e := e == .deferred

/-- The answer ends the loop. -/
def stops : Except StoreError Unit → Bool
  | .ok _ => false
  | .error e => e != .deferred

/-- The items up to the first whose answer ends the loop. -/
def offeredItems (pattern : OutboxItem → Except StoreError Unit) : List OutboxItem → List OutboxItem
  | [] => []
  | item :: rest => if stops (pattern item) then [item] else item :: offeredItems pattern rest

/-- The identifiers of the items that were processed. -/
def processedIDs (pattern : OutboxItem → Except StoreError Unit) (items : List OutboxItem) : List String :=
  (items.filter fun item ↦ (pattern item).isOk).map OutboxItem.id

variable (items : List OutboxItem) (pattern : OutboxItem → Except StoreError Unit)

section Loop

variable {pattern} (claimed rest : List OutboxItem) {item : OutboxItem} (inputs : Nat → Unit) (calls : Calls)

/-- The loop over some of the items of a watched worker. -/
def watchedLoop (claimed : List OutboxItem) (pattern : OutboxItem → Except StoreError Unit)
    (items : List OutboxItem) : Program Unit Calls StoreError Unit :=
  .forEach (watchedWorker claimed pattern).handle items

theorem run_watchedLoop_cons :
    (watchedLoop claimed pattern (item :: rest)).run inputs calls = match pattern item with
      | .ok _ => (watchedLoop claimed pattern rest).run (fun n ↦ inputs (n + 1 + 1))
          ⟨calls.offered ++ [item], calls.completed ++ [item.id]⟩
      | .error e =>
        if e == .deferred then
          (watchedLoop claimed pattern rest).run (fun n ↦ inputs (n + 1)) ⟨calls.offered ++ [item], calls.completed⟩
        else (.error e, ⟨calls.offered ++ [item], calls.completed⟩) := by
  simp only [watchedLoop, Program.forEach, Worker.handle, watchedWorker, Program.attempt, Program.bind, Program.run]
  cases pattern item with
  | ok => rfl
  | error e => cases e <;> rfl

end Loop

theorem calls_of_watchedLoop (claimed : List OutboxItem) (inputs : Nat → Unit) (calls : Calls) :
    ((watchedLoop claimed pattern items).run inputs calls).2 =
      ⟨calls.offered ++ offeredItems pattern items,
        calls.completed ++ processedIDs pattern (offeredItems pattern items)⟩ := by
  induction items generalizing inputs calls with
  | nil => simp [watchedLoop, Program.forEach, Program.run, offeredItems, processedIDs]
  | cons item _ ih =>
    rw [run_watchedLoop_cons]
    cases hanswer : pattern item with
    | ok => simp [ih, offeredItems, processedIDs, stops, hanswer, Except.isOk, Except.toBool]
    | error e =>
      by_cases he : e = .deferred
      all_goals simp [ih, offeredItems, processedIDs, stops, hanswer, Except.isOk, Except.toBool, he]

/-- The items of a list are all offered exactly when no item but the last one ends the loop. -/
theorem offeredItems_eq_self :
    offeredItems pattern items = items ↔ ∀ item ∈ items.dropLast, stops (pattern item) = false := by
  induction items with
  | nil => simp [offeredItems]
  | cons _ rest ih =>
    cases rest with
    | nil => simp [offeredItems]
    | cons =>
      rw [offeredItems, List.dropLast_cons_cons, List.forall_mem_cons, ← ih]
      split
      case isTrue hstops => simp [hstops]
      case isFalse hgoes => simp [hgoes]

/-- The items of a batch are all offered, once and in order, and exactly those are completed that were
processed, if and only if no item but the last one fails with an error other than a deferral. -/
theorem batch_handled_iff (inputs : Nat → Unit) :
    ((watchedWorker items pattern).runOutbox.run inputs ⟨[], []⟩).2 = ⟨items, processedIDs pattern items⟩ ↔
      ∀ item ∈ items.dropLast, stops (pattern item) = false := by
  have hrun : ((watchedWorker items pattern).runOutbox.run inputs ⟨[], []⟩).2 =
      ⟨offeredItems pattern items, processedIDs pattern (offeredItems pattern items)⟩ :=
    calls_of_watchedLoop items pattern items inputs ⟨[], []⟩
  rw [hrun, ← offeredItems_eq_self]
  constructor
  · intro h
    exact congrArg Calls.offered h
  · intro h
    rw [h]

/-- An item whose event is gone, and one of another tenant claimed with it. -/
def goneItem : OutboxItem := ⟨"out_1", "t_1", .routeEvent, "evt_gone"⟩

def nextItem : OutboxItem := ⟨"out_2", "t_2", .routeEvent, "evt_2"⟩

/-- Only the item whose event is gone fails. -/
def failsGone (item : OutboxItem) : Except StoreError Unit :=
  if item = goneItem then .error .notFound else .ok ()

/-- The second item could be processed and is neither offered nor completed. -/
theorem failing_item_stops_batch :
    ((watchedWorker [goneItem, nextItem] failsGone).runOutbox.run (fun _ ↦ ()) ⟨[], []⟩).2 =
        ⟨[goneItem], []⟩ ∧
      processedIDs failsGone [goneItem, nextItem] = ["out_2"] := by
  decide

end Webhookery.App
