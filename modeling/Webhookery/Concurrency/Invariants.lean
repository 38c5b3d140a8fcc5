import Webhookery.Concurrency.Threads
import Mathlib.Algebra.BigOperators.Group.List.Basic
import Mathlib.Algebra.Ring.Nat

/-!
# Invariants of threads

Two rules for systems of threads. The first is about conditions that do not relate threads to each
other: one on the shared state and one on each thread, which the moves of any thread keep. The second
bounds a quantity that threads spend: what the state counts and what the threads still hold together
never grow.
-/

namespace Webhookery.Concurrency

universe u

variable {τ ι σ : Type} {κ : Type u}

namespace System

/-- A condition on the state and one on each thread. New threads meet theirs, and an allowed move keeps
both conditions, for the thread that moves and for all others. -/
structure Modular (S : System τ ι σ κ) (Allowed : Transition τ ι σ → Prop) (I : σ → Prop)
    (P : σ → τ → κ → Prop) : Prop where
  enter : ∀ s l k, I s → S.enter l k → P s l k
  move : ∀ l k i s k' s', I s → P s l k → Allowed ⟨l, .act i, s, s'⟩ → S.move l k i s k' s' →
    I s' ∧ P s' l k'
  keep : ∀ l k i s k' s', I s → P s l k → Allowed ⟨l, .act i, s, s'⟩ → S.move l k i s k' s' →
    ∀ l₁ k₁, P s l₁ k₁ → P s' l₁ k₁

/-- Both conditions hold. -/
structure Meets (I : σ → Prop) (P : σ → τ → κ → Prop) (c : Threads τ σ κ) : Prop where
  state : I c.state
  threads : ∀ t ∈ c.threads, P c.state t.1 t.2

variable {S : System τ ι σ κ} {Allowed : Transition τ ι σ → Prop} {Init : σ → Prop} {I : σ → Prop}
  {P : σ → τ → κ → Prop} {c c' : Threads τ σ κ} {e : Transition τ ι σ}
  {events : List (Transition τ ι σ)}

theorem Meets.init {s : σ} (h : I s) : Meets I P (⟨s, []⟩ : Threads τ σ κ) :=
  ⟨h, nofun⟩

/-- Conditions that all moves keep are kept by fewer. -/
theorem Modular.weaken {Allowed' : Transition τ ι σ → Prop} (h : Modular S Allowed I P)
    (hallowed : ∀ e, Allowed' e → Allowed e) : Modular S Allowed' I P where
  enter := h.enter
  move l k i s k' s' hI hP he := h.move l k i s k' s' hI hP (hallowed _ he)
  keep l k i s k' s' hI hP he := h.keep l k i s k' s' hI hP (hallowed _ he)

theorem Modular.step (h : Modular S Allowed I P) (hc : Meets I P c) (he : Allowed e)
    (hstep : S.Step c e c') : Meets I P c' := by
  cases hstep with
  | start s _ l k enters =>
    exact ⟨hc.state, forall_mem_snoc.mpr ⟨hc.threads, h.enter s l k hc.state enters⟩⟩
  | act s s' _ _ l k k' i moves =>
    obtain ⟨hk, hothers⟩ := forall_mem_middle.mp hc.threads
    obtain ⟨hstate, hmoved⟩ := h.move l k i s k' s' hc.state hk he moves
    refine ⟨hstate, forall_mem_middle.mpr ⟨hmoved, fun t ht ↦ ?_⟩⟩
    exact h.keep l k i s k' s' hc.state hk he moves t.1 t.2 (hothers t ht)
  | crash => exact ⟨hc.state, (forall_mem_middle.mp hc.threads).2⟩

theorem Modular.path (h : Modular S Allowed I P) (hpath : S.Path c events c')
    (hallowed : ∀ e ∈ events, Allowed e) (hc : Meets I P c) : Meets I P c' :=
  hpath.invariant (Meets I P) (fun _ _ _ hc he hstep ↦ h.step hc he hstep) hallowed hc

theorem Modular.run (h : Modular S Allowed I P) (hinit : ∀ s, Init s → I s)
    (hrun : S.Run Init events c) (hallowed : ∀ e ∈ events, Allowed e) : Meets I P c :=
  hrun.invariant (Meets I P) (fun _ hs ↦ .init (hinit _ hs)) (fun _ _ _ hc he hstep ↦ h.step hc he hstep)
    hallowed

/-- A step that establishes new conditions: on the state, for new threads, for the one that moves and for
all others. -/
theorem Meets.establish {I' : σ → Prop} {P' : σ → τ → κ → Prop} (hc : Meets I P c)
    (hstep : S.Step c e c') (hstate : I' c'.state) (henter : ∀ l k, S.enter l k → P' c'.state l k)
    (hmove : ∀ l k i k', P c.state l k → S.move l k i c.state k' c'.state → P' c'.state l k')
    (hothers : ∀ l k, P c.state l k → P' c'.state l k) : Meets I' P' c' := by
  cases hstep with
  | start _ _ l k enters =>
    refine ⟨hstate, forall_mem_snoc.mpr ⟨fun t ht ↦ ?_, henter l k enters⟩⟩
    exact hothers t.1 t.2 (hc.threads t ht)
  | act _ _ _ _ l k k' i moves =>
    obtain ⟨hk, hrest⟩ := forall_mem_middle.mp hc.threads
    refine ⟨hstate, forall_mem_middle.mpr ⟨hmove l k i k' hk moves, fun t ht ↦ ?_⟩⟩
    exact hothers t.1 t.2 (hrest t ht)
  | crash => exact ⟨hstate, fun t ht ↦ hothers t.1 t.2 ((forall_mem_middle.mp hc.threads).2 t ht)⟩

/-- A move pays for what it adds to the state with what its thread holds. -/
structure Budget (S : System τ ι σ κ) (Allowed : Transition τ ι σ → Prop) (I : σ → Prop)
    (P : σ → τ → κ → Prop) (spent : σ → Nat) (held : τ → κ → Nat) : Prop where
  enter : ∀ l k, S.enter l k → held l k = 0
  move : ∀ l k i s k' s', I s → P s l k → Allowed ⟨l, .act i, s, s'⟩ → S.move l k i s k' s' →
    spent s' + held l k' ≤ spent s + held l k

/-- What was spent and what the threads hold. -/
def total (spent : σ → Nat) (held : τ → κ → Nat) (c : Threads τ σ κ) : Nat :=
  spent c.state + (c.threads.map fun t ↦ held t.1 t.2).sum

variable {spent : σ → Nat} {held : τ → κ → Nat}

theorem Budget.step (h : Budget S Allowed I P spent held) (hc : Meets I P c) (he : Allowed e)
    (hstep : S.Step c e c') : total spent held c' ≤ total spent held c := by
  cases hstep with
  | start _ _ l k enters => simp [total, h.enter l k enters]
  | act s s' _ _ l k k' i moves =>
    have hmove := h.move l k i s k' s' hc.state (hc.threads (l, k) (by simp)) he moves
    simp only [total, List.map_append, List.map_cons, List.sum_append, List.sum_cons]
    omega
  | crash =>
    simp only [total, List.map_append, List.map_cons, List.sum_append, List.sum_cons]
    omega

/-- The total never grows along a run. -/
theorem Budget.run (h : Budget S Allowed I P spent held) (hmodular : Modular S Allowed I P) {n : Nat}
    (hinit : ∀ s, Init s → I s ∧ spent s ≤ n) (hrun : S.Run Init events c)
    (hallowed : ∀ e ∈ events, Allowed e) : total spent held c ≤ n := by
  have hboth : Meets I P c ∧ total spent held c ≤ n := by
    apply hrun.invariant (fun c ↦ Meets I P c ∧ total spent held c ≤ n) _ _ hallowed
    · exact fun s hs ↦ ⟨.init (hinit s hs).1, by simpa [total] using (hinit s hs).2⟩
    · intro c e c' hc he hstep
      exact ⟨hmodular.step hc.1 he hstep, Nat.le_trans (h.step hc.1 he hstep) hc.2⟩
  exact hboth.2

theorem spent_le_total (spent : σ → Nat) (held : τ → κ → Nat) (c : Threads τ σ κ) : spent c.state ≤ total spent held c :=
  Nat.le_add_right _ _

end System

end Webhookery.Concurrency
