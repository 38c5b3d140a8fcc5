import Webhookery.Concurrency.Program
import Mathlib.Data.List.Forall2

/-!
# Threads

A system of threads shares a state. A thread has the label of the operation it runs and a control
state of its own; it starts, takes actions with inputs from the environment, and may vanish at any
point. A run is recorded as the list of its transitions.

The control states of the code are programs. A machine has smaller ones, which say what a thread may
still do to the shared state. Programs that follow a machine are simulated by it, so that an
invariant of the runs of the machine is one of the runs of the programs.
-/

namespace Webhookery.Concurrency

universe u v

variable {τ ι σ ε α β γ : Type} {κ : Type u} {ρ : Type v}

/-! ## Runs -/

inductive TransitionKind (ι : Type) where
  | start
  | act (input : ι)
  | crash

/-- One step of a run: which operation took it, and the state around it. -/
structure Transition (τ ι σ : Type) where
  label : τ
  kind : TransitionKind ι
  before : σ
  after : σ

/-- The shared state and the threads with their labels and control states. -/
structure Threads (τ σ : Type) (κ : Type u) where
  state : σ
  threads : List (τ × κ)

/-- How threads begin and how they move. -/
structure System (τ ι σ : Type) (κ : Type u) where
  enter : τ → κ → Prop
  move : τ → κ → ι → σ → κ → σ → Prop

namespace System

inductive Step (S : System τ ι σ κ) : Threads τ σ κ → Transition τ ι σ → Threads τ σ κ → Prop
  | start (s : σ) (ts : List (τ × κ)) (l : τ) (k : κ) (enters : S.enter l k) :
      Step S ⟨s, ts⟩ ⟨l, .start, s, s⟩ ⟨s, ts ++ [(l, k)]⟩
  | act (s s' : σ) (before after : List (τ × κ)) (l : τ) (k k' : κ) (i : ι)
      (moves : S.move l k i s k' s') :
      Step S ⟨s, before ++ (l, k) :: after⟩ ⟨l, .act i, s, s'⟩ ⟨s', before ++ (l, k') :: after⟩
  | crash (s : σ) (before after : List (τ × κ)) (l : τ) (k : κ) :
      Step S ⟨s, before ++ (l, k) :: after⟩ ⟨l, .crash, s, s⟩ ⟨s, before ++ after⟩

/-- The transitions of a run from an initial state without threads. -/
inductive Run (S : System τ ι σ κ) (Init : σ → Prop) : List (Transition τ ι σ) → Threads τ σ κ → Prop
  | nil (s : σ) (init : Init s) : Run S Init [] ⟨s, []⟩
  | snoc {events : List (Transition τ ι σ)} {c c' : Threads τ σ κ} {e : Transition τ ι σ}
      (run : Run S Init events c) (step : Step S c e c') : Run S Init (events ++ [e]) c'

variable {S : System τ ι σ κ} {Init : σ → Prop} {c c' : Threads τ σ κ} {e : Transition τ ι σ}
  {events : List (Transition τ ι σ)} {ts : List (τ × ρ)} {before after : List (Transition τ ι σ)}
  {Allowed : Transition τ ι σ → Prop}

theorem Step.before_eq (h : S.Step c e c') : e.before = c.state := by
  cases h <;> rfl

theorem Step.after_eq (h : S.Step c e c') : e.after = c'.state := by
  cases h <;> rfl

/-- The transitions between two points of a run. -/
inductive Path (S : System τ ι σ κ) : Threads τ σ κ → List (Transition τ ι σ) → Threads τ σ κ → Prop
  | nil (c : Threads τ σ κ) : Path S c [] c
  | snoc {c c' c'' : Threads τ σ κ} {events : List (Transition τ ι σ)} {e : Transition τ ι σ}
      (path : Path S c events c') (step : Step S c' e c'') : Path S c (events ++ [e]) c''

theorem Path.invariant (I : Threads τ σ κ → Prop) (hstep : ∀ c e c', I c → Allowed e → S.Step c e c' → I c')
    (h : S.Path c events c') (hallowed : ∀ e ∈ events, Allowed e) (hI : I c) : I c' := by
  induction h with
  | nil => exact hI
  | snoc _ step ih =>
    obtain ⟨hbefore, hlast⟩ := forall_mem_snoc.mp hallowed
    exact hstep _ _ _ (ih hbefore) hlast step

theorem Run.path {events' : List (Transition τ ι σ)} (h : S.Run Init events c)
    (hpath : S.Path c events' c') : S.Run Init (events ++ events') c' := by
  induction hpath with
  | nil => rwa [List.append_nil]
  | snoc _ step ih =>
    rw [← List.append_assoc]
    exact .snoc ih step

theorem Path.single (h : S.Step c e c') : S.Path c [e] c' := .snoc (.nil c) h

theorem Path.append {c'' : Threads τ σ κ} {events' : List (Transition τ ι σ)} (h : S.Path c events c')
    (h' : S.Path c' events' c'') : S.Path c (events ++ events') c'' := by
  induction h' with
  | nil => rwa [List.append_nil]
  | snoc _ step ih =>
    rw [← List.append_assoc]
    exact .snoc ih step

/-- A path splits at each of its transitions. -/
theorem Path.split (h : S.Path c (before ++ e :: after) c') :
    ∃ c₁ c₂, S.Path c before c₁ ∧ S.Step c₁ e c₂ ∧ S.Path c₂ after c' := by
  generalize hall : before ++ e :: after = all at h
  induction h generalizing after with
  | nil => simp at hall
  | @snoc c₁ c₂ events e' path step ih =>
    rcases List.eq_nil_or_concat after with rfl | ⟨front, last, rfl⟩
    · obtain ⟨rfl, hlast⟩ := List.append_inj' hall rfl
      obtain rfl : e = e' := by simpa using hlast
      exact ⟨c₁, c₂, path, step, .nil c₂⟩
    · have hconcat : (before ++ e :: front) ++ [last] = events ++ [e'] := by simpa using hall
      obtain ⟨hfront, hlast⟩ := List.append_inj' hconcat rfl
      obtain rfl : last = e' := by simpa using hlast
      obtain ⟨d₁, d₂, hbefore, hstep, hafter⟩ := ih hfront
      refine ⟨d₁, d₂, hbefore, hstep, ?_⟩
      rw [List.concat_eq_append]
      exact .snoc hafter step

/-- A run is a path from an initial state without threads. -/
theorem Run.exists_path (h : S.Run Init events c) : ∃ s, Init s ∧ S.Path ⟨s, []⟩ events c := by
  induction h with
  | nil s init => exact ⟨s, init, .nil _⟩
  | snoc _ step ih =>
    obtain ⟨s, hinit, hpath⟩ := ih
    exact ⟨s, hinit, .snoc hpath step⟩

/-- An invariant of the shared state and the threads holds after every run whose transitions
are allowed. -/
theorem Run.invariant (I : Threads τ σ κ → Prop) (hinit : ∀ s, Init s → I ⟨s, []⟩)
    (hstep : ∀ c e c', I c → Allowed e → S.Step c e c' → I c')
    (h : S.Run Init events c) (hallowed : ∀ e ∈ events, Allowed e) : I c := by
  obtain ⟨s, init, hpath⟩ := h.exists_path
  exact hpath.invariant I hstep hallowed (hinit s init)

/-- A run splits at each of its transitions. -/
theorem Run.split (h : S.Run Init (before ++ e :: after) c) :
    ∃ c₁ c₂, S.Run Init before c₁ ∧ S.Step c₁ e c₂ ∧ S.Path c₂ after c := by
  obtain ⟨s, hinit, hpath⟩ := h.exists_path
  obtain ⟨c₁, c₂, hbefore, hstep, hafter⟩ := hpath.split
  exact ⟨c₁, c₂, (Run.nil s hinit).path hbefore, hstep, hafter⟩

/-! ## Simulation -/

/-- Each move of a thread of `S` is one of a related control state of `M`. -/
structure Simulation (S : System τ ι σ κ) (M : System τ ι σ ρ) (R : τ → κ → ρ → Prop) : Prop where
  enter : ∀ l k, S.enter l k → ∃ q, M.enter l q ∧ R l k q
  move : ∀ l k i s k' s' q, R l k q → S.move l k i s k' s' → ∃ q', M.move l q i s q' s' ∧ R l k' q'

/-- The same labels, with related control states. -/
def Related (R : τ → κ → ρ → Prop) : List (τ × κ) → List (τ × ρ) → Prop :=
  List.Forall₂ fun t t' ↦ t.1 = t'.1 ∧ R t.1 t.2 t'.2

theorem Related.middle {R : τ → κ → ρ → Prop} {before after : List (τ × κ)} {l : τ} {k : κ}
    (h : Related R (before ++ (l, k) :: after) ts) :
    ∃ before' q after', ts = before' ++ (l, q) :: after' ∧ Related R before before' ∧ R l k q ∧
      Related R after after' := by
  induction before generalizing ts with
  | nil =>
    obtain ⟨⟨l', q⟩, ts, ⟨hl, hq⟩, hrest, rfl⟩ := List.forall₂_cons_left_iff.mp h
    obtain rfl : l = l' := hl
    exact ⟨[], q, ts, rfl, .nil, hq, hrest⟩
  | cons _ _ ih =>
    obtain ⟨t', _, ht, hrest, rfl⟩ := List.forall₂_cons_left_iff.mp h
    obtain ⟨before', q, after', rfl, hbefore, hq, hafter⟩ := ih hrest
    exact ⟨t' :: before', q, after', rfl, .cons ht hbefore, hq, hafter⟩

theorem Related.append {R : τ → κ → ρ → Prop} {ts₁ ts₂ : List (τ × κ)} {us₁ us₂ : List (τ × ρ)}
    (h₁ : Related R ts₁ us₁) (h₂ : Related R ts₂ us₂) : Related R (ts₁ ++ ts₂) (us₁ ++ us₂) :=
  List.rel_append h₁ h₂

variable {M : System τ ι σ ρ} {R : τ → κ → ρ → Prop}

theorem Simulation.step (h : Simulation S M R) (hrelated : Related R c.threads ts) (hstep : S.Step c e c') :
    ∃ ts', M.Step ⟨c.state, ts⟩ e ⟨c'.state, ts'⟩ ∧ Related R c'.threads ts' := by
  cases hstep with
  | start s _ l k enters =>
    obtain ⟨q, henter, hq⟩ := h.enter l k enters
    exact ⟨ts ++ [(l, q)], .start s ts l q henter, hrelated.append (.cons ⟨rfl, hq⟩ .nil)⟩
  | act s s' _ _ l k k' i moves =>
    obtain ⟨before', q, after', rfl, hbefore, hq, hafter⟩ := hrelated.middle
    obtain ⟨q', hmove, hq'⟩ := h.move l k i s k' s' q hq moves
    exact ⟨_, .act s s' before' after' l q q' i hmove, hbefore.append (.cons ⟨rfl, hq'⟩ hafter)⟩
  | crash s _ _ l =>
    obtain ⟨before', q, after', rfl, hbefore, -, hafter⟩ := hrelated.middle
    exact ⟨_, .crash s before' after' l q, hbefore.append hafter⟩

/-- Every run of `S` is a run of `M` with the same transitions. -/
theorem Simulation.run (h : Simulation S M R) (hrun : S.Run Init events c) :
    ∃ ts, M.Run Init events ⟨c.state, ts⟩ ∧ Related R c.threads ts := by
  induction hrun with
  | nil s init => exact ⟨[], .nil s init, .nil⟩
  | snoc _ step ih =>
    obtain ⟨_, hts, hrelated⟩ := ih
    obtain ⟨ts', hstep, hrelated'⟩ := h.step hrelated step
    exact ⟨ts', .snoc hts hstep, hrelated'⟩

end System

/-! ## Programs as threads -/

namespace Program

/-- One action of a program. -/
inductive Moves : Program ι σ ε α → ι → σ → Program ι σ ε α → σ → Prop
  | step {β : Type} (action : ι → σ → β × σ) (next : β → Program ι σ ε α) (i : ι) (s : σ) :
      Moves (.step action next) i s (next (action i s).1) (action i s).2

/-- The threads of the operations that the labels name. -/
def system (program : τ → Program ι σ ε Unit) : System τ ι σ (Program ι σ ε Unit) where
  enter l p := p = program l
  move _ p i s p' s' := Moves p i s p' s'

section Follows

variable (move : ρ → ι → σ → ρ → σ → Prop)

/-- Whatever the state is before an action of the program, the action is a move of the control state.
At the end the control state satisfies `Q` with the result, or `E` after an error. -/
def Follows (Q : α → ρ → Prop) (E : ρ → Prop) : Program ι σ ε α → ρ → Prop
  | .done (.ok a), q => Q a q
  | .done (.error _), q => E q
  | .step action next, q => ∀ i s, ∃ q', move q i s q' (action i s).2 ∧
      Follows Q E (next (action i s).1) q'

end Follows

variable {move : ρ → ι → σ → ρ → σ → Prop} {Q Q' : α → ρ → Prop} {R : β → ρ → Prop} {E E' : ρ → Prop}
  {p : Program ι σ ε α} {q : ρ} {transaction : ι → σ → Except ε (α × σ)} {body : γ → Program ι σ ε Unit}

theorem Follows.mono (h : Follows move Q E p q) (hQ : ∀ a q', Q a q' → Q' a q')
    (hE : ∀ q', E q' → E' q') : Follows move Q' E' p q := by
  induction p generalizing q with
  | done r =>
    cases r with
    | ok a => exact hQ a q h
    | error => exact hE q h
  | step _ _ ih =>
    intro i s
    obtain ⟨q', hmove, hnext⟩ := h i s
    exact ⟨q', hmove, ih _ hnext⟩

theorem Follows.bind {f : α → Program ι σ ε β} (hp : Follows move Q E p q)
    (hf : ∀ a q', Q a q' → Follows move R E (f a) q') : Follows move R E (p.bind f) q := by
  induction p generalizing q with
  | done r =>
    cases r with
    | ok a => exact hf a q hp
    | error => exact hp
  | step _ _ ih =>
    intro i s
    obtain ⟨q', hmove, hnext⟩ := hp i s
    exact ⟨q', hmove, ih _ hnext⟩

theorem Follows.atomic (hok : ∀ i s a s', transaction i s = .ok (a, s') → ∃ q', move q i s q' s' ∧ Q a q')
    (herror : ∀ i s, move q i s q s) (hE : E q) :
    Follows move Q E (Program.atomic transaction) q := by
  intro i s
  unfold commit
  split
  case h_1 a s' hcommit => exact hok i s a s' hcommit
  case h_2 e _ => exact ⟨q, herror i s, hE⟩

theorem Follows.attempt (hp : Follows move Q E p q) :
    Follows move (fun r q' ↦ match r with | .ok a => Q a q' | .error _ => E q') E p.attempt q := by
  induction p generalizing q with
  | done r => cases r <;> exact hp
  | step _ _ ih =>
    intro i s
    obtain ⟨q', hmove, hnext⟩ := hp i s
    exact ⟨q', hmove, ih _ hnext⟩

theorem Follows.ite {c : Prop} [Decidable c] {p' : Program ι σ ε α} (hp : Follows move Q E p q)
    (hp' : Follows move Q E p' q) : Follows move Q E (if c then p else p') q := by
  split
  · exact hp
  · exact hp'

/-- A loop, with a condition on the control state for every rest of the list. -/
theorem Follows.forEach (at' : List γ → ρ → Prop)
    (h : ∀ x rest q, at' (x :: rest) q → Follows move (fun _ ↦ at' rest) E (body x) q) (l : List γ)
    (hq : at' l q) : Follows move (fun _ ↦ at' []) E (Program.forEach body l) q := by
  induction l generalizing q with
  | nil => exact hq
  | cons x rest ih => exact (h x rest q hq).bind fun _ _ hq' ↦ ih hq'

/-- Every action of the program changes the state by `change`, if at all. -/
def Changes (change : σ → σ → Prop) : Program ι σ ε α → Prop
  | .done _ => True
  | .step action next => ∀ i s, change s (action i s).2 ∧ Changes change (next (action i s).1)

section Changes

variable {change : σ → σ → Prop} {f : α → Program ι σ ε β}

theorem Changes.bind (hp : Changes change p) (hf : ∀ a, Changes change (f a)) : Changes change (p.bind f) := by
  induction p with
  | done r =>
    cases r with
    | ok a => exact hf a
    | error => trivial
  | step _ _ ih => exact fun i s ↦ ⟨(hp i s).1, ih _ (hp i s).2⟩

theorem Changes.atomic (hrefl : ∀ s, change s s)
    (h : ∀ i s a s', transaction i s = .ok (a, s') → change s s') :
    Changes change (Program.atomic transaction) := by
  intro i s
  unfold commit
  split
  case h_1 a s' hcommit => exact ⟨h i s a s' hcommit, trivial⟩
  case h_2 => exact ⟨hrefl s, trivial⟩

theorem Changes.attempt (hp : Changes change p) : Changes change p.attempt := by
  induction p with
  | done => trivial
  | step _ _ ih => exact fun i s ↦ ⟨(hp i s).1, ih _ (hp i s).2⟩

theorem Changes.ite {c : Prop} [Decidable c] {p' : Program ι σ ε α} (hp : Changes change p)
    (hp' : Changes change p') : Changes change (if c then p else p') := by
  split
  · exact hp
  · exact hp'

theorem Changes.forEach (h : ∀ x, Changes change (body x)) (l : List γ) : Changes change (Program.forEach body l) := by
  induction l with
  | nil => trivial
  | cons x _ ih => exact (h x).bind fun _ ↦ ih

theorem Changes.mono {change' : σ → σ → Prop} (hp : Changes change p)
    (h : ∀ s s', change s s' → change' s s') : Changes change' p := by
  induction p with
  | done => trivial
  | step _ _ ih => exact fun i s ↦ ⟨h _ _ (hp i s).1, ih _ (hp i s).2⟩

/-- A run changes the state as its actions do. -/
theorem Changes.interrupted {s s' : σ} (hp : Changes change p) (hrefl : ∀ s, change s s)
    (htrans : ∀ s₁ s₂ s₃, change s₁ s₂ → change s₂ s₃ → change s₁ s₃) (h : Interrupted p s s') :
    change s s' := by
  induction h with
  | here p s => exact hrefl s
  | step _ _ i s _ _ ih => exact htrans _ _ _ (hp i s).1 (ih (hp i s).2)

/-- A program whose changes leave the control state alone. -/
theorem Changes.follows (hp : Changes change p) (hmove : ∀ i s s', change s s' → move q i s q s') :
    Follows move (fun _ q' ↦ q' = q) (fun q' ↦ q' = q) p q := by
  induction p with
  | done r => cases r <;> rfl
  | step _ _ ih => exact fun i s ↦ ⟨q, hmove i s _ (hp i s).1, ih _ (hp i s).2⟩

end Changes

/-- Operations that follow a machine are simulated by it. -/
theorem simulation_system {program : τ → Program ι σ ε Unit} {M : System τ ι σ ρ}
    (h : ∀ l, ∃ q, M.enter l q ∧ Follows (M.move l) (fun _ _ ↦ True) (fun _ ↦ True) (program l) q) :
    System.Simulation (system program) M
      (fun l p q ↦ Follows (M.move l) (fun _ _ ↦ True) (fun _ ↦ True) p q) where
  enter := by
    rintro l k rfl
    exact h l
  move := by
    rintro l k i s _ _ q hfollows ⟨_, _⟩
    exact hfollows i s

end Program

end Webhookery.Concurrency
