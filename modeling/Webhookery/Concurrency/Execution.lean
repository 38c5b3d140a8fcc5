import Webhookery.Concurrency.Histories

/-!
# Executing threads

An automaton computes the moves of its threads. A script says which thread takes how many steps, on which
inputs, and which thread starts or crashes. Executing it computes the deeds and the final state, and every
execution is a history. The threads of programs are an automaton, so that their executions are runs.
-/

namespace Webhookery.Concurrency

universe u

variable {τ ι σ ε : Type} {κ : Type u}

/-- One line of a script; threads are counted from the oldest. -/
inductive Command (τ ι : Type) where
  | start (l : τ)
  | go (thread steps : Nat) (tape : Nat → ι)
  | crash (thread : Nat)

theorem eq_take_append_drop {α : Type u} {l : List α} {n : Nat} {x : α} (h : l[n]? = some x) :
    l = l.take n ++ x :: l.drop (n + 1) := by
  obtain ⟨_, rfl⟩ := List.getElem?_eq_some_iff.mp h
  simp

/-- Threads whose moves are computed. -/
structure Automaton (τ ι σ : Type) (κ : Type u) where
  start : τ → κ
  next : τ → κ → ι → σ → Option (κ × σ)

namespace Automaton

variable (A : Automaton τ ι σ κ)

def system : System τ ι σ κ where
  enter l k := k = A.start l
  move l k i s k' s' := A.next l k i s = some (k', s')

/-- Some steps of a thread on the inputs of a tape. -/
def advance (l : τ) (others : List (τ × κ)) : Nat → (Nat → ι) → κ → σ → List (Deed τ ι σ κ) × κ × σ
  | 0, _, k, s => ([], k, s)
  | n + 1, tape, k, s =>
    match A.next l k (tape 0) s with
    | none => ([], k, s)
    | some (k', s') =>
      let rest := advance l others n (fun m ↦ tape (m + 1)) k' s'
      (⟨l, .act (tape 0), k, others, s, s'⟩ :: rest.1, rest.2)

def perform (command : Command τ ι) (c : Threads τ σ κ) : List (Deed τ ι σ κ) × Threads τ σ κ :=
  match command with
  | .start l =>
    ([⟨l, .start, A.start l, c.threads, c.state, c.state⟩], ⟨c.state, c.threads ++ [(l, A.start l)]⟩)
  | .go thread steps tape =>
    match c.threads[thread]? with
    | none => ([], c)
    | some (l, k) =>
      let others := c.threads.take thread ++ c.threads.drop (thread + 1)
      let r := A.advance l others steps tape k c.state
      (r.1, ⟨r.2.2, c.threads.take thread ++ (l, r.2.1) :: c.threads.drop (thread + 1)⟩)
  | .crash thread =>
    match c.threads[thread]? with
    | none => ([], c)
    | some (l, k) =>
      let others := c.threads.take thread ++ c.threads.drop (thread + 1)
      ([⟨l, .crash, k, others, c.state, c.state⟩], ⟨c.state, others⟩)

def execute : List (Command τ ι) → Threads τ σ κ → List (Deed τ ι σ κ) × Threads τ σ κ
  | [], c => ([], c)
  | command :: script, c =>
    let first := A.perform command c
    let rest := execute script first.2
    (first.1 ++ rest.1, rest.2)

variable {A} {Init : σ → Prop} {deeds : List (Deed τ ι σ κ)}

theorem history_advance {l : τ} {before after : List (τ × κ)} {k : κ} {s : σ}
    (h : A.system.History Init deeds ⟨s, before ++ (l, k) :: after⟩) (n : Nat) (tape : Nat → ι) :
    A.system.History Init (deeds ++ (A.advance l (before ++ after) n tape k s).1)
      ⟨(A.advance l (before ++ after) n tape k s).2.2,
        before ++ (l, (A.advance l (before ++ after) n tape k s).2.1) :: after⟩ := by
  induction n generalizing deeds tape k s with
  | zero => rwa [advance, List.append_nil]
  | succ n ih =>
    rw [advance]
    split
    · rwa [List.append_nil]
    case h_2 k' s' hnext =>
      have hfirst := System.History.snoc h (.act s s' before after l k k' (tape 0) hnext)
      have hrest := ih hfirst fun m ↦ tape (m + 1)
      rwa [List.append_assoc, List.singleton_append] at hrest

theorem history_perform {c : Threads τ σ κ} (h : A.system.History Init deeds c)
    (command : Command τ ι) :
    A.system.History Init (deeds ++ (A.perform command c).1) (A.perform command c).2 := by
  obtain ⟨s, ts⟩ := c
  unfold perform
  cases command with
  | start l => exact h.snoc (.start s ts l _ rfl)
  | go _ steps tape =>
    dsimp only
    split
    · rwa [List.append_nil]
    case h_2 l k hthread =>
      rw [eq_take_append_drop hthread] at h
      exact history_advance h steps tape
  | crash =>
    dsimp only
    split
    · rwa [List.append_nil]
    case h_2 l k hthread =>
      rw [eq_take_append_drop hthread] at h
      exact h.snoc (.crash s _ _ l k)

theorem history_append {c : Threads τ σ κ} (h : A.system.History Init deeds c)
    (script : List (Command τ ι)) :
    A.system.History Init (deeds ++ (A.execute script c).1) (A.execute script c).2 := by
  induction script generalizing deeds c with
  | nil => rwa [execute, List.append_nil]
  | cons command _ ih =>
    have hrest := ih (history_perform h command)
    rwa [List.append_assoc] at hrest

/-- Every execution is a history. -/
theorem history_execute {s : σ} (hinit : Init s) (script : List (Command τ ι)) :
    A.system.History Init (A.execute script ⟨s, []⟩).1 (A.execute script ⟨s, []⟩).2 :=
  history_append (.nil s hinit) script

/-! ## Labels -/

theorem label_of_advance {l : τ} {others : List (τ × κ)} {n : Nat} {tape : Nat → ι} {k : κ} {s : σ}
    {d : Deed τ ι σ κ} (hd : d ∈ (A.advance l others n tape k s).1) : d.label = l := by
  induction n generalizing tape k s with
  | zero => cases hd
  | succ n ih =>
    rw [advance] at hd
    split at hd
    · cases hd
    · rcases List.mem_cons.mp hd with rfl | hd
      · rfl
      · exact ih hd

/-- Labels come from the threads or are started. -/
theorem label_of_perform (A : Automaton τ ι σ κ) {c : Threads τ σ κ} {command : Command τ ι} {P : τ → Prop}
    (hthreads : ∀ t ∈ c.threads, P t.1) (hstart : ∀ l, command = .start l → P l) :
    (∀ d ∈ (A.perform command c).1, P d.label) ∧ ∀ t ∈ (A.perform command c).2.threads, P t.1 := by
  unfold perform
  cases command with
  | start l =>
    exact ⟨List.forall_mem_singleton.mpr (hstart l rfl), forall_mem_snoc.mpr ⟨hthreads, hstart l rfl⟩⟩
  | go =>
    dsimp only
    split
    · exact ⟨nofun, hthreads⟩
    case h_2 l k hthread =>
      rw [eq_take_append_drop hthread, List.forall_mem_append, List.forall_mem_cons] at hthreads
      refine ⟨fun d hd ↦ ?_, List.forall_mem_append.mpr ⟨hthreads.1, List.forall_mem_cons.mpr hthreads.2⟩⟩
      rw [label_of_advance hd]
      exact hthreads.2.1
  | crash =>
    dsimp only
    split
    · exact ⟨nofun, hthreads⟩
    case h_2 l k hthread =>
      rw [eq_take_append_drop hthread, List.forall_mem_append, List.forall_mem_cons] at hthreads
      exact ⟨List.forall_mem_singleton.mpr hthreads.2.1,
        List.forall_mem_append.mpr ⟨hthreads.1, hthreads.2.2⟩⟩

theorem label_of_execute {c : Threads τ σ κ} {script : List (Command τ ι)} {P : τ → Prop}
    (hthreads : ∀ t ∈ c.threads, P t.1) (hstart : ∀ l, .start l ∈ script → P l) :
    ∀ d ∈ (A.execute script c).1, P d.label := by
  induction script generalizing c with
  | nil => exact nofun
  | cons _ _ ih =>
    obtain ⟨hdeeds, hthreads'⟩ := A.label_of_perform hthreads fun l hl ↦ hstart l (hl ▸ List.mem_cons_self)
    refine List.forall_mem_append.mpr ⟨hdeeds, ?_⟩
    exact ih hthreads' fun l hl ↦ hstart l (List.mem_cons_of_mem _ hl)

end Automaton

/-! ## Programs -/

namespace Program

variable (program : τ → Program ι σ ε Unit)

/-- The threads of the operations that the labels name, step by step. -/
def automaton : Automaton τ ι σ (Program ι σ ε Unit) where
  start := program
  next
    | _, .done _, _, _ => none
    | _, .step action next, i, s => some (next (action i s).1, (action i s).2)

theorem system_automaton : (automaton program).system = system program := by
  have hmoves (l : τ) (p : Program ι σ ε Unit) (i : ι) (s : σ) (p' : Program ι σ ε Unit) (s' : σ) :
      (automaton program).next l p i s = some (p', s') ↔ Moves p i s p' s' := by
    constructor
    · intro h
      cases p with
      | done => cases h
      | step action next =>
        cases h
        exact .step action next i s
    · intro h
      cases h
      rfl
  simp only [Automaton.system, hmoves]
  rfl

def execute (script : List (Command τ ι)) (c : Threads τ σ (Program ι σ ε Unit)) :
    List (Transition τ ι σ) × Threads τ σ (Program ι σ ε Unit) :=
  let r := (automaton program).execute script c
  (r.1.map Deed.transition, r.2)

variable {program}

/-- Every execution is a run. -/
theorem run_execute {Init : σ → Prop} {s : σ} (hinit : Init s) (script : List (Command τ ι)) :
    (system program).Run Init (execute program script ⟨s, []⟩).1 (execute program script ⟨s, []⟩).2 := by
  rw [← system_automaton]
  exact (Automaton.history_execute hinit script).run

theorem label_of_execute {s : σ} {script : List (Command τ ι)} {P : τ → Prop}
    (hstart : ∀ l, .start l ∈ script → P l) : ∀ e ∈ (execute program script ⟨s, []⟩).1, P e.label :=
  List.forall_mem_map.mpr (Automaton.label_of_execute nofun hstart)

end Program

end Webhookery.Concurrency
