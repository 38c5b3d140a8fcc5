import Mathlib.Data.List.Basic

/-!
# Interleaved transactions

A database with open transactions, of which any may execute its next statement. A statement reads what has
been committed and what its own transaction wrote, and may wait for another transaction; what a transaction
wrote becomes visible to the others when it commits, and is gone when it is rolled back.

An invariant of the database, of each open transaction and of each two of them holds in every run when
beginning, executing a statement and committing preserve it.
-/

namespace Webhookery.Concurrency

variable {σ τ ι : Type}

/-- What the next statement of a transaction does. -/
inductive Outcome (τ : Type) where
  | waits
  | fails
  | goes (t : τ)
  | commits

/-- The outcome for a transaction that is part of a larger type. -/
def Outcome.map {α β : Type} (f : α → β) : Outcome α → Outcome β
  | .waits => .waits
  | .fails => .fails
  | .goes t => .goes (f t)
  | .commits => .commits

theorem Outcome.map_eq_goes {α β : Type} {f : α → β} {o : Outcome α} {b : β} :
    o.map f = .goes b ↔ ∃ a, o = .goes a ∧ f a = b := by
  cases o <;> simp [Outcome.map]

/-- Transactions over a database: how they begin, what the next statement does, given the other open
transactions, and the database as a transaction sees it, which is what it commits. -/
structure Isolation (σ τ ι : Type) where
  begins : τ → Bool
  statement : ι → σ → List τ → τ → Outcome τ
  view : τ → σ → σ

/-- What is committed, and the open transactions. -/
structure Sessions (σ τ : Type) where
  committed : σ
  txs : List τ

inductive Move (τ ι : Type) where
  | start (t : τ)
  | advance (i : Nat) (input : ι)
  | rollback (i : Nat)

namespace Isolation

variable (S : Isolation σ τ ι)

/-- The sessions after a move; there is no result while the statement waits. -/
def move (w : Sessions σ τ) : Move τ ι → Option (Sessions σ τ)
  | .start t => if S.begins t then some ⟨w.committed, w.txs ++ [t]⟩ else none
  | .advance i input =>
    match w.txs[i]? with
    | none => none
    | some t =>
      match S.statement input w.committed (w.txs.eraseIdx i) t with
      | .waits => none
      | .fails => some ⟨w.committed, w.txs.eraseIdx i⟩
      | .goes t' => some ⟨w.committed, w.txs.set i t'⟩
      | .commits => some ⟨S.view t w.committed, w.txs.eraseIdx i⟩
  | .rollback i => some ⟨w.committed, w.txs.eraseIdx i⟩

/-- The sessions that allowed moves lead to. -/
inductive Run (Allowed : Sessions σ τ → Move τ ι → Prop) (start : σ) : Sessions σ τ → Prop
  | start : Run Allowed start ⟨start, []⟩
  | move {w w' : Sessions σ τ} {m : Move τ ι} (h : Run Allowed start w) (hallowed : Allowed w m)
    (hmove : S.move w m = some w') : Run Allowed start w'

/-- What holds of the database, of an open transaction, and of two of them. -/
structure Rely (I : σ → Prop) (P : σ → τ → Prop) (Q : τ → τ → Prop) (w : Sessions σ τ) : Prop where
  committed : I w.committed
  open_ : ∀ t ∈ w.txs, P w.committed t
  apart : ∀ t ∈ w.txs, ∀ u ∈ w.txs, Q t u

/-- What a beginning transaction, a statement and a commit have to establish. -/
structure Stable (Allowed : Sessions σ τ → Move τ ι → Prop) (I : σ → Prop) (P : σ → τ → Prop)
    (Q : τ → τ → Prop) : Prop where
  begins : ∀ {w : Sessions σ τ} {t : τ}, Rely I P Q w → S.begins t = true →
    P w.committed t ∧ Q t t ∧ ∀ u ∈ w.txs, Q t u ∧ Q u t
  goes : ∀ {w : Sessions σ τ} {i : Nat} {input : ι} {t t' : τ}, Rely I P Q w → Allowed w (.advance i input) →
    w.txs[i]? = some t → S.statement input w.committed (w.txs.eraseIdx i) t = .goes t' →
    P w.committed t' ∧ Q t' t' ∧ ∀ u ∈ w.txs, Q t' u ∧ Q u t'
  commits : ∀ {w : Sessions σ τ} {i : Nat} {input : ι} {t : τ}, Rely I P Q w → Allowed w (.advance i input) →
    w.txs[i]? = some t → S.statement input w.committed (w.txs.eraseIdx i) t = .commits →
    I (S.view t w.committed) ∧ ∀ u ∈ w.txs, P (S.view t w.committed) u

variable {S} {Allowed : Sessions σ τ → Move τ ι → Prop} {I : σ → Prop} {P : σ → τ → Prop} {Q : τ → τ → Prop}
  {w w' : Sessions σ τ} {m : Move τ ι}

/-- Fewer transactions are in the same relation. -/
theorem Rely.erase (h : Rely I P Q w) (i : Nat) : Rely I P Q ⟨w.committed, w.txs.eraseIdx i⟩ where
  committed := h.committed
  open_ t ht := h.open_ t (List.mem_of_mem_eraseIdx ht)
  apart t ht u hu := h.apart t (List.mem_of_mem_eraseIdx ht) u (List.mem_of_mem_eraseIdx hu)

/-- One more transaction, or one in the place of another. -/
theorem Rely.add {t : τ} {txs : List τ} (h : Rely I P Q w)
    (ht : P w.committed t ∧ Q t t ∧ ∀ u ∈ w.txs, Q t u ∧ Q u t) (htxs : ∀ u ∈ txs, u ∈ w.txs ∨ u = t) :
    Rely I P Q ⟨w.committed, txs⟩ where
  committed := h.committed
  open_ u hu := by
    rcases htxs u hu with hu | rfl
    · exact h.open_ u hu
    · exact ht.1
  apart u hu v hv := by
    rcases htxs u hu with hu | rfl
    · rcases htxs v hv with hv | rfl
      · exact h.apart u hu v hv
      · exact (ht.2.2 u hu).2
    · rcases htxs v hv with hv | rfl
      · exact (ht.2.2 v hv).1
      · exact ht.2.1

theorem Stable.move (hstable : S.Stable Allowed I P Q) (h : Rely I P Q w) (hallowed : Allowed w m)
    (hmove : S.move w m = some w') : Rely I P Q w' := by
  cases m with
  | start =>
    simp only [Isolation.move] at hmove
    split at hmove
    case isTrue hbegins =>
      cases hmove
      apply h.add (hstable.begins h hbegins)
      intro u hu
      exact (List.mem_append.mp hu).imp_right List.mem_singleton.mp
    case isFalse => cases hmove
  | rollback i =>
    cases hmove
    exact h.erase i
  | advance i =>
    simp only [Isolation.move] at hmove
    split at hmove
    case h_1 => cases hmove
    case h_2 t ht =>
      split at hmove
      case h_1 => cases hmove
      case h_2 =>
        cases hmove
        exact h.erase i
      case h_3 hgoes =>
        cases hmove
        apply h.add (hstable.goes h hallowed ht hgoes)
        intro u hu
        exact List.mem_or_eq_of_mem_set hu
      case h_4 hcommits =>
        cases hmove
        obtain ⟨hcommitted, hopen⟩ := hstable.commits h hallowed ht hcommits
        exact {
          committed := hcommitted
          open_ := fun u hu ↦ hopen u (List.mem_of_mem_eraseIdx hu)
          apart := (h.erase i).apart }

/-- The rule for runs. -/
theorem Stable.run {start : σ} (hstable : S.Stable Allowed I P Q) (hstart : I start)
    (h : S.Run Allowed start w) : Rely I P Q w := by
  induction h with
  | start =>
    exact ⟨hstart, nofun, nofun⟩
  | move _ hallowed hmove ih => exact hstable.move ih hallowed hmove

/-! ## Executing moves -/

variable (S) in
/-- The sessions after a list of moves, as long as each of them passes a check. -/
def execute (check : Sessions σ τ → Move τ ι → Bool) : List (Move τ ι) → Sessions σ τ → Option (Sessions σ τ)
  | [], w => some w
  | m :: rest, w => if check w m then (S.move w m).bind (execute check rest) else none

/-- An execution whose check allows its moves is a run. -/
theorem Run.execute {start : σ} {check : Sessions σ τ → Move τ ι → Bool} {ms : List (Move τ ι)}
    (hcheck : ∀ w m, check w m = true → Allowed w m) (h : S.Run Allowed start w)
    (hexecute : S.execute check ms w = some w') : S.Run Allowed start w' := by
  induction ms generalizing w with
  | nil =>
    cases hexecute
    exact h
  | cons m _ ih =>
    simp only [Isolation.execute] at hexecute
    split at hexecute
    case isTrue hallowed =>
      obtain ⟨_, hmove, hrest⟩ := Option.bind_eq_some_iff.mp hexecute
      exact ih (h.move (hcheck w m hallowed) hmove) hrest
    case isFalse => cases hexecute

end Isolation

end Webhookery.Concurrency
