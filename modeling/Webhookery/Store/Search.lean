import Webhookery.Store.Database
import Mathlib.Data.List.Sort

/-!
# Searching events

The events of a tenant that meet every condition of a search, the newest first.
-/

namespace Webhookery.Store

open Go

structure EventSearchRequest where
  limit : Int
  (provider externalID deliveryID status verification : String)
  receivedAfter : Option Time
  routeID : String

/-- A delivery of the event that meets a condition. -/
def Event.hasDelivery (db : DB) (p : Delivery → Bool) (e : Event) : Bool :=
  db.deliveries.rows.any fun d ↦ d.tenantID == e.tenantID && d.eventID == e.id && p d

/-- The event has an open dead-letter entry. -/
def Event.hasOpenDeadLetter (db : DB) (e : Event) : Bool :=
  db.deadLetters.rows.any fun entry ↦
    entry.tenantID == e.tenantID && entry.eventID == e.id && !entry.released

def EventSearchRequest.matchesStatus (req : EventSearchRequest) (db : DB) (e : Event) : Bool :=
  if req.status = "dlq" ∨ req.status = "dead_lettered" then e.hasOpenDeadLetter db else true

def EventSearchRequest.matchesVerification (req : EventSearchRequest) (e : Event) : Bool :=
  if req.verification = "valid" then e.verified
  else if req.verification = "invalid" then !e.verified
  else true

/-- The conditions of `eventSearchQuery`. -/
def EventSearchRequest.matches (tenantID : String) (req : EventSearchRequest) (db : DB) (e : Event) : Bool :=
  e.tenantID == tenantID &&
    (req.provider == "" || e.provider == req.provider) &&
    (req.externalID == "" || e.providerID == req.externalID) &&
    (req.deliveryID == "" || e.hasDelivery db (·.id == req.deliveryID)) &&
    req.matchesStatus db e && req.matchesVerification e &&
    req.receivedAfter.all (fun after ↦ decide (after ≤ e.receivedAt)) &&
    (req.routeID == "" || e.hasDelivery db (·.routeID == req.routeID))

def listEvents (tenantID : String) (req : EventSearchRequest) (db : DB) : List Event :=
  ((db.events.rows.filter (req.matches tenantID db)).insertionSort fun e e' ↦
    e'.receivedAt ≤ e.receivedAt).take (if req.limit ≤ 0 then 50 else req.limit.toNat)

/-- A search for dead letters finds events with an open entry. -/
theorem exists_entry_of_listEvents
    (hstatus : req.status = "dlq" ∨ req.status = "dead_lettered") (he : e ∈ listEvents tenantID req db) :
    e.tenantID = tenantID ∧ ∃ entry ∈ db.deadLetters, entry.tenantID = tenantID ∧ entry.eventID = e.id ∧
      entry.released = false := by
  have hmatch := (List.mem_filter.mp ((List.mem_insertionSort _).mp (List.mem_of_mem_take he))).2
  simp only [EventSearchRequest.matches, EventSearchRequest.matchesStatus, if_pos hstatus,
    Bool.and_eq_true, beq_iff_eq] at hmatch
  obtain ⟨entry, hentry, hof⟩ := List.any_eq_true.mp hmatch.1.1.1.2
  simp only [Bool.and_eq_true, beq_iff_eq, Bool.not_eq_true'] at hof
  have htenant : e.tenantID = tenantID := hmatch.1.1.1.1.1.1.1
  exact ⟨htenant, entry, hentry, hof.1.1.trans htenant, hof.1.2, hof.2⟩

end Webhookery.Store
