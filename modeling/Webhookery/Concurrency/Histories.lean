import Webhookery.Concurrency.Invariants

/-!
# Histories

A run records what happened to the shared state. A history also records who did it: a deed has the control
state of the thread that took the step, and the other threads at that time. Every run has a history, so
that what is proved of histories holds of runs.
-/

namespace Webhookery.Concurrency

universe u

variable {τ ι σ : Type} {κ : Type u}

/-- One step of a history: what a transition says, with the thread that took it and the others. -/
structure Deed (τ ι σ : Type) (κ : Type u) where
  label : τ
  kind : TransitionKind ι
  control : κ
  others : List (τ × κ)
  before : σ
  after : σ

def Deed.transition (d : Deed τ ι σ κ) : Transition τ ι σ := ⟨d.label, d.kind, d.before, d.after⟩

namespace System

inductive Does (S : System τ ι σ κ) : Threads τ σ κ → Deed τ ι σ κ → Threads τ σ κ → Prop
  | start (s : σ) (ts : List (τ × κ)) (l : τ) (k : κ) (enters : S.enter l k) :
      Does S ⟨s, ts⟩ ⟨l, .start, k, ts, s, s⟩ ⟨s, ts ++ [(l, k)]⟩
  | act (s s' : σ) (before after : List (τ × κ)) (l : τ) (k k' : κ) (i : ι)
      (moves : S.move l k i s k' s') :
      Does S ⟨s, before ++ (l, k) :: after⟩ ⟨l, .act i, k, before ++ after, s, s'⟩
        ⟨s', before ++ (l, k') :: after⟩
  | crash (s : σ) (before after : List (τ × κ)) (l : τ) (k : κ) :
      Does S ⟨s, before ++ (l, k) :: after⟩ ⟨l, .crash, k, before ++ after, s, s⟩ ⟨s, before ++ after⟩

/-- The deeds of a run from an initial state without threads. -/
inductive History (S : System τ ι σ κ) (Init : σ → Prop) : List (Deed τ ι σ κ) → Threads τ σ κ → Prop
  | nil (s : σ) (init : Init s) : History S Init [] ⟨s, []⟩
  | snoc {deeds : List (Deed τ ι σ κ)} {c c' : Threads τ σ κ} {d : Deed τ ι σ κ}
      (history : History S Init deeds c) (does : Does S c d c') : History S Init (deeds ++ [d]) c'

variable {S : System τ ι σ κ} {Init : σ → Prop} {c c' : Threads τ σ κ} {d : Deed τ ι σ κ}
  {deeds : List (Deed τ ι σ κ)}

theorem Does.step (h : S.Does c d c') : S.Step c d.transition c' := by
  cases h with
  | start s ts l k enters => exact .start s ts l k enters
  | act s s' before after l k k' i moves => exact .act s s' before after l k k' i moves
  | crash s before after l k => exact .crash s before after l k

theorem Step.exists_deed (h : S.Step c e c') : ∃ d, d.transition = e ∧ S.Does c d c' := by
  cases h with
  | start s ts l k enters => exact ⟨_, rfl, .start s ts l k enters⟩
  | act s s' before after l k k' i moves => exact ⟨_, rfl, .act s s' before after l k k' i moves⟩
  | crash s before after l k => exact ⟨_, rfl, .crash s before after l k⟩

theorem Does.before_eq (h : S.Does c d c') : d.before = c.state := h.step.before_eq

theorem Does.after_eq (h : S.Does c d c') : d.after = c'.state := h.step.after_eq

/-- What a deed does, up to the order of the threads. -/
inductive Done (S : System τ ι σ κ) (c : Threads τ σ κ) (d : Deed τ ι σ κ) (c' : Threads τ σ κ) : Prop
  | start (enters : S.enter d.label d.control) (kind : d.kind = .start)
      (threads : c'.threads.Perm ((d.label, d.control) :: c.threads)) (state : c'.state = c.state) :
      Done S c d c'
  | act (i : ι) (k' : κ) (kind : d.kind = .act i)
      (moves : S.move d.label d.control i c.state k' c'.state)
      (before : c.threads.Perm ((d.label, d.control) :: d.others))
      (after : c'.threads.Perm ((d.label, k') :: d.others)) : Done S c d c'
  | crash (kind : d.kind = .crash) (before : c.threads.Perm ((d.label, d.control) :: d.others))
      (after : c'.threads = d.others) (state : c'.state = c.state) : Done S c d c'

theorem Does.done (h : S.Does c d c') : S.Done c d c' := by
  cases h with
  | start s ts l k enters => exact .start enters rfl (List.perm_append_singleton _ ts) rfl
  | act _ _ _ _ _ _ k' i moves =>
    exact .act i k' rfl moves List.perm_middle List.perm_middle
  | crash => exact .crash rfl List.perm_middle rfl rfl

theorem History.run (h : S.History Init deeds c) : S.Run Init (deeds.map Deed.transition) c := by
  induction h with
  | nil s init => exact .nil s init
  | snoc _ does ih =>
    rw [List.map_append]
    exact .snoc ih does.step

/-- Every run has a history. -/
theorem Run.exists_history (h : S.Run Init events c) :
    ∃ deeds, deeds.map Deed.transition = events ∧ S.History Init deeds c := by
  induction h with
  | nil s init => exact ⟨[], rfl, .nil s init⟩
  | snoc _ step ih =>
    obtain ⟨deeds, rfl, hhistory⟩ := ih
    obtain ⟨d, rfl, hdoes⟩ := step.exists_deed
    exact ⟨deeds ++ [d], List.map_append, .snoc hhistory hdoes⟩

/-- An invariant that allowed deeds keep. -/
theorem History.invariant {Allowed : Deed τ ι σ κ → Prop} (I : Threads τ σ κ → Prop)
    (hinit : ∀ s, Init s → I ⟨s, []⟩)
    (hstep : ∀ c d c', I c → Allowed d → S.Does c d c' → I c')
    (h : S.History Init deeds c) (hallowed : ∀ d ∈ deeds, Allowed d) : I c := by
  induction h with
  | nil s init => exact hinit s init
  | snoc _ does ih =>
    apply hstep _ _ _ _ (hallowed _ (by simp)) does
    exact ih fun d hd ↦ hallowed d (List.mem_append_left _ hd)

/-- A condition on the state and one on each thread, which allowed deeds keep for the thread that acts and
for all others. -/
structure Preserved (S : System τ ι σ κ) (Allowed : Deed τ ι σ κ → Prop) (I : σ → Prop)
    (P : σ → τ → κ → Prop) : Prop where
  enter : ∀ s l k, I s → S.enter l k → P s l k
  move : ∀ (d : Deed τ ι σ κ) (i : ι) (k' : κ), Allowed d → d.kind = .act i → I d.before →
    P d.before d.label d.control → S.move d.label d.control i d.before k' d.after →
    I d.after ∧ P d.after d.label k' ∧ ∀ l₁ k₁, P d.before l₁ k₁ → P d.after l₁ k₁

variable {Allowed : Deed τ ι σ κ → Prop} {I : σ → Prop} {P : σ → τ → κ → Prop}

theorem Preserved.does (h : Preserved S Allowed I P) (hc : Meets I P c) (hallowed : Allowed d)
    (hdoes : S.Does c d c') : Meets I P c' := by
  cases hdoes.done with
  | start enters _ threads state =>
    refine ⟨state ▸ hc.state, ?_⟩
    simp only [state, threads.mem_iff]
    exact List.forall_mem_cons.mpr ⟨h.enter _ _ _ hc.state enters, hc.threads⟩
  | act i k' kind moves before after =>
    rw [← hdoes.before_eq, ← hdoes.after_eq] at moves
    have hthreads := hc.threads
    simp only [before.mem_iff, List.forall_mem_cons, ← hdoes.before_eq] at hthreads
    obtain ⟨hactor, hothers⟩ := hthreads
    obtain ⟨hstate, hmoved, hkept⟩ := h.move d i k' hallowed kind (hdoes.before_eq ▸ hc.state) hactor moves
    rw [hdoes.after_eq] at hstate hmoved hkept
    refine ⟨hstate, ?_⟩
    simp only [after.mem_iff]
    exact List.forall_mem_cons.mpr ⟨hmoved, fun t ht ↦ hkept _ _ (hothers t ht)⟩
  | crash _ before after state =>
    refine ⟨state ▸ hc.state, fun t ht ↦ ?_⟩
    rw [state]
    exact hc.threads t (before.mem_iff.mpr (List.mem_cons_of_mem _ (after ▸ ht)))

theorem Preserved.history (h : Preserved S Allowed I P) (hinit : ∀ s, Init s → I s)
    (hhistory : S.History Init deeds c) (hallowed : ∀ d ∈ deeds, Allowed d) : Meets I P c :=
  hhistory.invariant (Meets I P) (fun _ hs ↦ .init (hinit _ hs))
    (fun _ _ _ hc hd hdoes ↦ h.does hc hd hdoes) hallowed

/-- A history splits at each of its deeds. -/
theorem History.split {before after : List (Deed τ ι σ κ)} (h : S.History Init (before ++ d :: after) c) :
    ∃ c₁ c₂, S.History Init before c₁ ∧ S.Does c₁ d c₂ := by
  generalize hall : before ++ d :: after = all at h
  induction h generalizing after with
  | nil => simp at hall
  | @snoc deeds c₁ c₂ d' history does ih =>
    rcases List.eq_nil_or_concat after with rfl | ⟨front, last, rfl⟩
    · obtain ⟨rfl, hlast⟩ := List.append_inj' hall rfl
      obtain rfl : d = d' := by simpa using hlast
      exact ⟨c₁, c₂, history, does⟩
    · have hconcat : (before ++ d :: front) ++ [last] = deeds ++ [d'] := by simpa using hall
      exact ih (List.append_inj' hconcat rfl).1

/-- Where a deed of the history moves a thread, the conditions hold before it. -/
theorem Preserved.actor (h : Preserved S Allowed I P) (hinit : ∀ s, Init s → I s)
    (hhistory : S.History Init deeds c) (hallowed : ∀ d ∈ deeds, Allowed d) (hd : d ∈ deeds) {i : ι}
    (hkind : d.kind = .act i) : I d.before ∧ P d.before d.label d.control := by
  obtain ⟨before, _, rfl⟩ := List.append_of_mem hd
  obtain ⟨_, _, hbefore, hdoes⟩ := hhistory.split
  have hmeets := h.history hinit hbefore fun d hd ↦ hallowed d (List.mem_append_left _ hd)
  rw [hdoes.before_eq]
  refine ⟨hmeets.state, ?_⟩
  cases hdoes.done with
  | start _ kind | crash kind => cases hkind.symm.trans kind
  | act _ _ _ _ before =>
    exact hmeets.threads _ (before.mem_iff.mpr List.mem_cons_self)

end System

end Webhookery.Concurrency
