import Mathlib.Logic.Relation

/-!
# Programs over atomic actions

A program is a tree of atomic actions on a shared state. Every action receives an input that the
environment chooses, such as the clock or a fresh identifier, and every program ends with a result
or an error. Here programs run alone, to the end or until they are interrupted.
-/

namespace Webhookery.Concurrency

variable {ι σ ε α β γ : Type}

theorem forall_mem_snoc {α : Type*} {P : α → Prop} {l : List α} {a : α} :
    (∀ x ∈ l ++ [a], P x) ↔ (∀ x ∈ l, P x) ∧ P a := by
  rw [List.forall_mem_append, List.forall_mem_singleton]

theorem forall_mem_middle {α : Type*} {P : α → Prop} {l l' : List α} {a : α} :
    (∀ x ∈ l ++ a :: l', P x) ↔ P a ∧ ∀ x ∈ l ++ l', P x := by
  simp only [List.perm_middle.mem_iff, List.forall_mem_cons]

/-- A program on a state `σ` with inputs from `ι`, results in `α` and errors in `ε`. -/
inductive Program (ι σ ε α : Type) : Type 1 where
  | done (result : Except ε α)
  | step {β : Type} (action : ι → σ → β × σ) (next : β → Program ι σ ε α)

namespace Program

/-- The first program, and then the second one unless the first failed. -/
def bind (f : α → Program ι σ ε β) : Program ι σ ε α → Program ι σ ε β
  | .done (.ok a) => f a
  | .done (.error e) => .done (.error e)
  | .step action next => .step action fun b ↦ (next b).bind f

instance : Monad (Program ι σ ε) where
  pure a := .done (.ok a)
  bind p f := p.bind f

/-- The program that fails. -/
def fail (e : ε) : Program ι σ ε α := .done (.error e)

/-- A transaction: it commits with a result, or leaves the state alone. -/
def commit (transaction : ι → σ → Except ε (α × σ)) (i : ι) (s : σ) : Except ε α × σ :=
  match transaction i s with
  | .ok (a, s') => (.ok a, s')
  | .error e => (.error e, s)

/-- A program of one transaction. -/
def atomic (transaction : ι → σ → Except ε (α × σ)) : Program ι σ ε α :=
  .step (commit transaction) .done

/-- A program of one call, which may have changed the state also when it failed. -/
def call (err : ε) (action : ι → σ → Option α × σ) : Program ι σ ε α :=
  .step action fun
    | some a => .done (.ok a)
    | none => .done (.error err)

/-- The program whose result says whether another one failed. -/
def attempt : Program ι σ ε α → Program ι σ ε (Except ε α)
  | .done result => .done (.ok result)
  | .step action next => .step action fun b ↦ (next b).attempt

/-- The program without its result. -/
def discard (p : Program ι σ ε α) : Program ι σ ε Unit := p.bind fun _ ↦ .done (.ok ())

/-- One program for each element of a list, until one fails. -/
def forEach (body : γ → Program ι σ ε Unit) : List γ → Program ι σ ε Unit
  | [] => .done (.ok ())
  | x :: rest => (body x).bind fun _ ↦ forEach body rest

/-! ## Running alone -/

/-- A run without interruption, in some environment. -/
inductive Runs : Program ι σ ε α → σ → Except ε α → σ → Prop
  | done (r : Except ε α) (s : σ) : Runs (.done r) s r s
  | step {β : Type} (action : ι → σ → β × σ) (next : β → Program ι σ ε α) (i : ι) (s s' : σ)
      (r : Except ε α) (rest : Runs (next (action i s).1) (action i s).2 r s') :
      Runs (.step action next) s r s'

/-- The run whose environment gives its inputs in order. -/
def run : Program ι σ ε α → (Nat → ι) → σ → Except ε α × σ
  | .done r, _, s => (r, s)
  | .step action next, inputs, s =>
    (next (action (inputs 0) s).1).run (fun n ↦ inputs (n + 1)) (action (inputs 0) s).2

theorem runs_run (p : Program ι σ ε α) (inputs : Nat → ι) (s : σ) : Runs p s (p.run inputs s).1 (p.run inputs s).2 := by
  induction p generalizing inputs s with
  | done r => exact .done r s
  | step action next ih => exact .step action next (inputs 0) s _ _ (ih _ _ _)

/-- The run of a program that ends without a failure. -/
theorem runs_of_isOk {p : Program ι σ ε Unit} {inputs : Nat → ι} {s : σ}
    (h : (p.run inputs s).1.isOk = true) : Runs p s (.ok ()) (p.run inputs s).2 := by
  have hrun := runs_run p inputs s
  generalize p.run inputs s = outcome at h hrun ⊢
  match outcome, h with
  | (.ok (), _), _ => exact hrun

variable {s s' : σ} {a : α} {b : β} {transaction : ι → σ → Except ε (α × σ)} {f : α → Program ι σ ε β}
  {p : Program ι σ ε α} {r : Except ε α} {action : ι → σ → Option α × σ}

theorem Runs.of_done {r r' : Except ε α} (h : Runs (.done r : Program ι σ ε α) s r' s') : r' = r ∧ s' = s := by
  cases h
  exact ⟨rfl, rfl⟩

/-- A sequence fails in its first part, or runs its second one. -/
theorem Runs.bind_cases {r : Except ε β} (h : Runs (p.bind f) s r s') :
    (∃ e, r = .error e ∧ Runs p s (.error e) s') ∨ ∃ a t, Runs p s (.ok a) t ∧ Runs (f a) t r s' := by
  induction p generalizing s with
  | done result =>
    cases result with
    | ok a => exact .inr ⟨a, s, .done _ _, h⟩
    | error e =>
      obtain ⟨rfl, rfl⟩ := h.of_done
      exact .inl ⟨e, rfl, .done _ _⟩
  | step action next ih =>
    cases h with
    | step _ _ i _ _ _ rest =>
      rcases ih _ rest with ⟨e, hr, hrun⟩ | ⟨a, t, hrun, hf⟩
      · exact .inl ⟨e, hr, .step action next i s s' _ hrun⟩
      · exact .inr ⟨a, t, .step action next i s t _ hrun, hf⟩

theorem Runs.of_bind (h : Runs (p.bind f) s (.ok b) s') : ∃ a t, Runs p s (.ok a) t ∧ Runs (f a) t (.ok b) s' := by
  rcases h.bind_cases with ⟨_, hfailed, -⟩ | h
  · cases hfailed
  · exact h

theorem Runs.of_atomic (h : Runs (atomic transaction) s (.ok a) s') : ∃ i, transaction i s = .ok (a, s') := by
  cases h with
  | step _ _ i _ _ _ rest =>
    refine ⟨i, ?_⟩
    obtain ⟨hresult, hstate⟩ := rest.of_done
    unfold commit at hresult hstate
    split at hresult
    case h_1 t htransaction =>
      rw [htransaction] at hstate
      cases hresult
      cases hstate
      exact htransaction
    case h_2 => cases hresult

theorem Runs.bind {r : Except ε β} {t : σ}
    (hp : Runs p s (.ok a) t) (hf : Runs (f a) t r s') : Runs (p.bind f) s r s' := by
  generalize hr : (.ok a : Except ε α) = result at hp
  induction hp with
  | done =>
    subst hr
    exact hf
  | step action _ i s _ _ _ ih => exact .step action _ i s s' _ (ih hf hr)

theorem Runs.atomic {i : ι} (h : transaction i s = .ok (a, s')) : Runs (atomic transaction) s (.ok a) s' := by
  have hcommit : commit transaction i s = (.ok a, s') := by
    unfold commit
    rw [h]
  apply Runs.step _ _ i
  rw [hcommit]
  exact .done _ _

/-- Every run of the program from a state ends as `Q` says. -/
def Ensures (p : Program ι σ ε α) (s : σ) (Q : Except ε α → σ → Prop) : Prop :=
  ∀ r s', Runs p s r s' → Q r s'

section Ensures

variable {Q Q' : Except ε α → σ → Prop} {R : Except ε β → σ → Prop} {p : Program ι σ ε α}

theorem Ensures.mono (h : Ensures p s Q) (hQ : ∀ r s', Q r s' → Q' r s') : Ensures p s Q' :=
  fun r s' hrun ↦ hQ r s' (h r s' hrun)

theorem ensures_done (h : Q r s) : Ensures (.done r : Program ι σ ε α) s Q := by
  intro r' s' hrun
  obtain ⟨rfl, rfl⟩ := hrun.of_done
  exact h

theorem Ensures.bind (hp : Ensures p s Q)
    (hok : ∀ a t, Q (.ok a) t → Ensures (f a) t R) (herror : ∀ e t, Q (.error e) t → R (.error e) t) :
    Ensures (p.bind f) s R := by
  induction p generalizing s with
  | done r =>
    have hr := hp r s (.done r s)
    cases r with
    | ok a => exact hok a s hr
    | error e => exact ensures_done (herror e s hr)
  | step action next ih =>
    intro r s' hrun
    cases hrun with
    | step _ _ i _ _ _ rest =>
      refine ih _ (fun r' t hnext ↦ ?_) r s' rest
      exact hp r' t (.step action next i s t r' hnext)

theorem Ensures.atomic
    (hok : ∀ i a t, transaction i s = .ok (a, t) → Q (.ok a) t) (herror : ∀ e, Q (.error e) s) :
    Ensures (Program.atomic transaction) s Q := by
  intro r s' hrun
  cases hrun with
  | step _ _ i _ _ _ rest =>
    obtain ⟨hresult, hstate⟩ := rest.of_done
    unfold commit at hresult hstate
    split at hresult
    case h_1 a t hcommit =>
      rw [hcommit] at hstate
      rw [hresult, hstate]
      exact hok i a t hcommit
    case h_2 e hcommit =>
      rw [hcommit] at hstate
      rw [hresult, hstate]
      exact herror e

theorem Ensures.call {err : ε} (h : ∀ i, Q ((action i s).1.elim (.error err) .ok) (action i s).2) :
    Ensures (call err action) s Q := by
  intro r s' hrun
  cases hrun with
  | step _ _ i _ _ _ rest =>
    have hresult := h i
    cases haction : (action i s).1 with
    | none | some =>
      rw [haction] at rest hresult
      obtain ⟨rfl, rfl⟩ := rest.of_done
      exact hresult

/-- What each program of a list keeps is kept wherever the list ends. -/
theorem Ensures.forEach {I : σ → Prop} {body : γ → Program ι σ ε Unit} {l : List γ}
    (h : ∀ x ∈ l, ∀ t, I t → Ensures (body x) t fun _ t' ↦ I t') (hI : I s) :
    Ensures (forEach body l) s fun _ t ↦ I t := by
  induction l generalizing s with
  | nil => exact ensures_done hI
  | cons x _ ih =>
    refine (h x List.mem_cons_self s hI).bind (fun _ t ht ↦ ?_) fun _ _ ht ↦ ht
    exact ih (fun y hy ↦ h y (List.mem_cons_of_mem x hy)) ht

end Ensures

theorem Runs.of_attempt {r : Except ε (Except ε α)} {s s' : σ}
    (h : Runs p.attempt s r s') : ∃ result, r = .ok result ∧ Runs p s result s' := by
  induction p generalizing s with
  | done result =>
    obtain ⟨rfl, rfl⟩ := h.of_done
    exact ⟨result, rfl, .done _ _⟩
  | step action next ih =>
    cases h with
    | step _ _ i _ _ _ rest =>
      obtain ⟨result, rfl, hrun⟩ := ih _ rest
      exact ⟨result, rfl, .step action next i s s' result hrun⟩

/-! ## Errors that do not occur -/

/-- The program never ends with the error. -/
def Avoids (bad : ε) : Program ι σ ε α → Prop
  | .done r => r ≠ .error bad
  | .step action next => ∀ i s, Avoids bad (next (action i s).1)

section Avoids

variable {bad : ε} {p : Program ι σ ε α}

theorem avoids_pure (a : α) : Avoids bad (.done (.ok a) : Program ι σ ε α) := nofun

theorem Avoids.bind (hp : Avoids bad p) (hf : ∀ a, Avoids bad (f a)) : Avoids bad (p.bind f) := by
  induction p with
  | done r =>
    cases r with
    | ok a => exact hf a
    | error => exact fun h ↦ hp (congrArg _ (Except.error.inj h))
  | step _ _ ih => exact fun i s ↦ ih _ (hp i s)

theorem Avoids.atomic (h : ∀ i s, transaction i s ≠ .error bad) : Avoids bad (Program.atomic transaction) := by
  intro i s
  unfold commit
  split
  case h_1 => exact nofun
  case h_2 e herror => exact fun hbad ↦ h i s (herror.trans (congrArg _ (Except.error.inj hbad)))

theorem Avoids.ite {c : Prop} [Decidable c] {p' : Program ι σ ε α} (hp : Avoids bad p)
    (hp' : Avoids bad p') : Avoids bad (if c then p else p') := by
  split
  · exact hp
  · exact hp'

theorem avoids_attempt : Avoids bad p.attempt := by
  induction p with
  | done => exact nofun
  | step _ _ ih => exact fun i s ↦ ih _

theorem Avoids.runs {s s' : σ} (hp : Avoids bad p) (hrun : Runs p s r s') : r ≠ .error bad := by
  induction hrun with
  | done => exact hp
  | step _ _ i s _ _ _ ih => exact ih (hp i s)

theorem Avoids.eq_ok {s s' : σ} {a : α} (hp : Avoids bad p) (hrun : Runs p s r s')
    (hr : r = .ok a ∨ r = .error bad) : r = .ok a :=
  hr.resolve_right (hp.runs hrun)

end Avoids

/-! ## Interrupted runs -/

/-- A state in which a run may stop: before, between or after the actions of the program. -/
inductive Interrupted : Program ι σ ε α → σ → σ → Prop
  | here (p : Program ι σ ε α) (s : σ) : Interrupted p s s
  | step {β : Type} (action : ι → σ → β × σ) (next : β → Program ι σ ε α) (i : ι) (s s' : σ)
      (rest : Interrupted (next (action i s).1) (action i s).2 s') : Interrupted (.step action next) s s'

section Interrupted

variable {p : Program ι σ ε α} {s s' : σ}

/-- A run may stop at its end. -/
theorem Runs.interrupted (h : Runs p s r s') : Interrupted p s s' := by
  induction h with
  | done _ s => exact .here _ s
  | step action next i s _ _ _ ih => exact .step action next i s _ ih

theorem Interrupted.of_done (h : Interrupted (.done r : Program ι σ ε α) s s') : s' = s := by
  cases h
  rfl

/-- A sequence stops in its first part, or after it in the second one. -/
theorem Interrupted.of_bind (h : Interrupted (p.bind f) s s') :
    Interrupted p s s' ∨ ∃ a t, Runs p s (.ok a) t ∧ Interrupted (f a) t s' := by
  induction p generalizing s with
  | done r =>
    cases r with
    | ok a => exact .inr ⟨a, s, .done _ _, h⟩
    | error =>
      obtain rfl := Interrupted.of_done h
      exact .inl (.here _ _)
  | step action next ih =>
    cases h with
    | here => exact .inl (.here _ _)
    | step _ _ i _ _ rest =>
      rcases ih _ rest with hfirst | ⟨a, t, hrun, hsecond⟩
      · exact .inl (.step action next i s s' hfirst)
      · exact .inr ⟨a, t, .step action next i s t _ hrun, hsecond⟩

theorem Interrupted.of_atomic (h : Interrupted (Program.atomic transaction) s s') :
    s' = s ∨ ∃ i a, transaction i s = .ok (a, s') := by
  cases h with
  | here => exact .inl rfl
  | step _ _ i _ _ rest =>
    have hstate := rest.of_done
    unfold commit at hstate
    split at hstate
    case h_1 a t hcommit =>
      obtain rfl : s' = t := hstate
      exact .inr ⟨i, a, hcommit⟩
    case h_2 => exact .inl hstate

end Interrupted

/-! ## Programs that only read -/

/-- Run alone, the program computes a function of the state and changes nothing. -/
def Reads (p : Program ι σ ε α) (f : σ → Except ε α) : Prop :=
  ∀ s a s', Runs p s (.ok a) s' ↔ f s = .ok a ∧ s' = s

theorem Reads.congr {f g : σ → Except ε α} (h : Reads p f) (hfg : ∀ s, f s = g s) : Reads p g := by
  intro s a s'
  rw [← hfg s]
  exact h s a s'

theorem reads_pure (a : α) : Reads (pure a : Program ι σ ε α) fun _ ↦ .ok a := by
  intro s b s'
  constructor
  · intro h
    obtain ⟨hr, hs⟩ := h.of_done
    exact ⟨hr.symm, hs⟩
  · rintro ⟨hb, rfl⟩
    cases hb
    exact .done _ _

theorem Reads.bind {f : σ → Except ε α} {q : α → Program ι σ ε β}
    {g : α → σ → Except ε β} (hp : Reads p f) (hq : ∀ a, Reads (q a) (g a)) :
    Reads (p >>= q) fun s ↦ (f s).bind fun a ↦ g a s := by
  intro s b s'
  dsimp only
  constructor
  · intro h
    obtain ⟨a, t, hrunp, hrunq⟩ := h.of_bind
    obtain ⟨hf, rfl⟩ := (hp s a t).mp hrunp
    obtain ⟨hg, hs⟩ := (hq a _ b s').mp hrunq
    rw [hf]
    exact ⟨hg, hs⟩
  · rintro ⟨h, rfl⟩
    cases hf : f s' with
    | error =>
      rw [hf] at h
      cases h
    | ok a =>
      rw [hf] at h
      exact ((hp s' a s').mpr ⟨hf, rfl⟩).bind ((hq a s' b s').mpr ⟨h, rfl⟩)

theorem Reads.ite {c : Prop} [Decidable c] {p q : Program ι σ ε α} {f g : σ → Except ε α}
    (hp : Reads p f) (hq : Reads q g) : Reads (if c then p else q) fun s ↦ if c then f s else g s := by
  intro s a s'
  by_cases hc : c
  · simpa only [if_pos hc] using hp s a s'
  · simpa only [if_neg hc] using hq s a s'

end Program

end Webhookery.Concurrency
