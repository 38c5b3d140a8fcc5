import Webhookery.Concurrency.Threads
import Webhookery.Retention.Tables

/-!
# Calls to the database and to the object store

Operations that use both the database and the object store are programs over what both hold. The statements of an
open transaction write nothing that others see; what it wrote is there when it commits. An object is there, or
gone, from the call on, whatever becomes of the transaction. Any call may fail, and a call that is reported to
have failed may have taken effect.
-/

namespace Webhookery.Objects

open Go Relational Store Retention Concurrency

/-- The objects by bucket and key. -/
abbrev ObjectMap := Finmap fun _ : String × String ↦ Bytes

/-- What is committed, and the objects. -/
structure World where
  db : RetentionDB
  objects : ObjectMap

inductive CallOutcome where
  | succeeds
  | fails
  | unacknowledged
  deriving DecidableEq, Repr

/-- What the environment decides about a call. -/
structure Call where
  env : Env
  scan : Scan Item
  outcome : CallOutcome

variable {ε α : Type}

/-- The clock and the identifiers that an operation generates. -/
def environment : Program Call World ε Env := .step (fun c w ↦ (c.env, w)) fun env ↦ .done (.ok env)

/-- A statement that may fail, and what it returns for the tables that are committed. -/
def query (err : ε) (result : Call → RetentionDB → Option α) : Program Call World ε α :=
  .call err fun c w ↦ (if c.outcome = .succeeds then result c w.db else none, w)

/-- A statement of which nothing is returned. -/
def statement (err : ε) : Program Call World ε Unit := query err fun _ _ ↦ some ()

/-- What a commit does to the tables, and what is reported about it. -/
def commitAction (tx : RetentionDB → Option (α × RetentionDB)) (c : Call) (w : World) : Option α × World :=
  match c.outcome, tx w.db with
  | .succeeds, some (a, db) => (some a, { w with db })
  | .unacknowledged, some (_, db) => (none, { w with db })
  | _, _ => (none, w)

/-- The end of a transaction: what it wrote goes into the tables that are committed by then. -/
def commit (err : ε) (tx : RetentionDB → Option (α × RetentionDB)) : Program Call World ε α :=
  .call err (commitAction tx)

/-- A change of the objects that is reported as the outcome says. -/
def objectAction (change : ObjectMap → ObjectMap) (c : Call) (w : World) : Option Unit × World :=
  match c.outcome with
  | .succeeds => (some (), { w with objects := change w.objects })
  | .unacknowledged => (none, { w with objects := change w.objects })
  | .fails => (none, w)

/-- `Put`. -/
def putObject (err : ε) (bucket key : String) (body : Bytes) : Program Call World ε Unit :=
  .call err (objectAction fun objects ↦ objects.insert (bucket, key) body)

/-- `Delete`; an object that is not there counts as deleted. -/
def deleteObject (err : ε) (bucket key : String) : Program Call World ε Unit :=
  .call err (objectAction fun objects ↦ objects.erase (bucket, key))

/-! ## What every call ensures -/

theorem toOption_eq_some {x : Except ε α} {a : α} : x.toOption = some a ↔ x = .ok a := by
  cases x <;> simp [Except.toOption]

section Rules

variable {err : ε} {w : World} {result : Call → RetentionDB → Option α} {R : Except ε α → World → Prop}

/-- A query changes nothing. -/
theorem ensures_query : Program.Ensures (query err result) w fun r w' ↦
    w' = w ∧ ∀ a, r = .ok a → ∃ c, result c w.db = some a := by
  refine .call fun c ↦ ⟨rfl, fun a ha ↦ ⟨c, ?_⟩⟩
  dsimp only at ha
  split_ifs at ha
  · cases hresult : result c w.db with
    | none => cases hresult ▸ ha
    | some => exact congrArg some (Except.ok.inj (hresult ▸ ha))
  · cases ha

/-- What follows a statement begins in the same state, unless the statement fails. -/
theorem ensures_statement {f : Unit → Program Call World ε α} (hok : Program.Ensures (f ()) w R)
    (herror : ∀ e, R (.error e) w) : Program.Ensures ((statement err).bind f) w R :=
  ensures_query.bind (fun _ _ h ↦ h.1 ▸ hok) fun e _ h ↦ h.1 ▸ herror e

/-- A commit writes all or nothing, whatever is reported. -/
theorem ensures_commit {tx : RetentionDB → Option (α × RetentionDB)} : Program.Ensures (commit err tx) w fun _ w' ↦
    w' = w ∨ ∃ a db, tx w.db = some (a, db) ∧ w' = { w with db } := by
  refine .call fun c ↦ ?_
  unfold commitAction
  split
  case h_1 a db _ htx | h_2 a db _ htx => exact .inr ⟨a, db, htx, rfl⟩
  case h_3 => exact .inl rfl

theorem ensures_objectAction {change : ObjectMap → ObjectMap} :
    Program.Ensures (.call err (objectAction change)) w fun _ w' ↦
      w' = w ∨ w' = { w with objects := change w.objects } := by
  refine .call fun c ↦ ?_
  unfold objectAction
  split
  · exact .inr rfl
  · exact .inr rfl
  · exact .inl rfl

end Rules

end Webhookery.Objects
