import Webhookery.Delivery.DeadLetters

/-!
# Releasing dead letters

A release reads an open entry, creates a replay job in transactions of its own and marks the entry only
then, without looking at it again. Two calls that both read the entry before one of them marks it create
two jobs, and a call that stops between its job and its mark leaves the entry open. A release whose job
is created while the entry is open and whose mark comes before the next job is the only one.
-/

namespace Webhookery.Replay

open Go Store App Relational Concurrency Machine Webhookery.Delivery

variable {events : List (Transition Op Env DB)} {e : Transition Op Env DB} {l : Op} {q q' : Phase}
  {env : Env} {db db' : DB} {tenantID entryID : String}

/-- The entry that an operation releases. -/
def releasedEntry : Op → Option (String × String)
  | .releaseDeadLetter tenantID entryID _ _ _ => some (tenantID, entryID)
  | _ => none

/-- The step creates a replay job for the entry. -/
def createsFor (tenantID entryID : String) (e : Transition Op Env DB) : Bool :=
  releasedEntry e.label == some (tenantID, entryID) &&
    decide (e.before.replayJobs.rows.length < e.after.replayJobs.rows.length)

/-- The entry exists and is released, or is not. -/
def entryIs (released : Bool) (tenantID entryID : String) (db : DB) : Bool :=
  db.deadLetters.rows.any fun entry ↦
    entry.tenantID == tenantID && entry.id == entryID && entry.released == released

/-- The entry is released before another job is created for it. -/
def marked (tenantID entryID : String) : List (Transition Op Env DB) → Bool
  | [] => false
  | e :: rest => !createsFor tenantID entryID e &&
      (entryIs true tenantID entryID e.after || marked tenantID entryID rest)

/-- A job for the entry is created only while the entry is open, and the entry is marked before another
job is created for it. -/
def orderly (tenantID entryID : String) : List (Transition Op Env DB) → Bool
  | [] => true
  | e :: rest => (!createsFor tenantID entryID e ||
      entryIs false tenantID entryID e.before && marked tenantID entryID rest) &&
        orderly tenantID entryID rest

theorem entryIs_iff : entryIs released tenantID entryID db = true ↔
    ∃ entry ∈ db.deadLetters, entry.tenantID = tenantID ∧ entry.id = entryID ∧
      entry.released = released := by
  simp only [entryIs, List.any_eq_true, Bool.and_eq_true, beq_iff_eq, and_assoc, Table.mem_def]

theorem exists_of_marked (h : marked tenantID entryID events = true) :
    ∃ mid mark rest, events = mid ++ mark :: rest ∧ entryIs true tenantID entryID mark.after = true ∧
      ∀ e ∈ mid ++ [mark], createsFor tenantID entryID e = false := by
  induction events with
  | nil => cases h
  | cons e rest ih =>
    simp only [marked, Bool.and_eq_true, Bool.not_eq_true', Bool.or_eq_true] at h
    rcases h.2 with hreleased | hlater
    · refine ⟨[], e, rest, rfl, hreleased, fun e' he' ↦ ?_⟩
      rw [List.mem_singleton.mp he']
      exact h.1
    · obtain ⟨mid, mark, rest', rfl, hreleased, hnone⟩ := ih hlater
      exact ⟨e :: mid, mark, rest', rfl, hreleased, List.forall_mem_cons.mpr ⟨h.1, hnone⟩⟩

theorem of_orderly (h : orderly tenantID entryID (before ++ e :: after) = true)
    (hcreates : createsFor tenantID entryID e = true) :
    entryIs false tenantID entryID e.before = true ∧ marked tenantID entryID after = true := by
  induction before with
  | nil => simpa [orderly, hcreates] using (Bool.and_eq_true_iff.mp h).1
  | cons _ _ ih => exact ih (Bool.and_eq_true_iff.mp h).2

/-! ## Entries along a run -/

/-- A released entry stays released. -/
theorem released_of_act (h : entryIs true tenantID entryID db = true) (hact : Act l q env db q' db') :
    entryIs true tenantID entryID db' = true := by
  obtain ⟨entry, hentry, htenant, hid, hreleased⟩ := entryIs_iff.mp h
  have hsame (hkept : entry ∈ db'.deadLetters) : entryIs true tenantID entryID db' = true :=
    entryIs_iff.mpr ⟨entry, hkept, htenant, hid, hreleased⟩
  rcases rowsStep_of_act hact with hstep | ⟨_, _, _, _, -, -, hcommit⟩
  · cases hstep with
    | retried _ _ _ commits =>
      apply hsame
      rw [(updateDelivery_eq_ok commits).1]
      exact hentry
    | created _ _ _ _ _ _ _ entries => exact hsame (entries ▸ hentry)
    | carried _ carries =>
      obtain ⟨f, hrows, hreleased⟩ := carries.entries
      have hmem : f entry ∈ db'.deadLetters := (Table.mem_map hrows).mpr ⟨_, hentry, rfl⟩
      rcases hreleased entry with heq | heq <;> rw [heq] at hmem
      · exact hsame hmem
      · exact entryIs_iff.mpr ⟨_, hmem, htenant, hid, rfl⟩
  · obtain ⟨_, _, _, -, hrows, rfl⟩ := recordDeliveryAttempt_eq_ok hcommit
    exact hsame ((Table.mem_append hrows).mpr (.inl hentry))

theorem released_of_path (hpath : machine.Path c events c')
    (h : entryIs true tenantID entryID c.state = true) : entryIs true tenantID entryID c'.state = true := by
  induction hpath with
  | nil => exact h
  | snoc _ step ih =>
    rcases exists_act_of_step step with heq | ⟨l, _, q, _, _, -, -, -, hact⟩
    · rwa [heq]
    · exact released_of_act ih hact

theorem released_not_open (h : entryIs true tenantID entryID db = true) :
    entryIs false tenantID entryID db = false := by
  rw [← Bool.not_eq_true]
  intro hopen
  obtain ⟨entry, hentry, -, hid, hreleased⟩ := entryIs_iff.mp h
  obtain ⟨entry', hentry', -, hid', hopen'⟩ := entryIs_iff.mp hopen
  obtain rfl : entry' = entry := Table.eq_of_key_eq hentry' hentry (hid'.trans hid.symm)
  rw [hreleased] at hopen'
  cases hopen'

/-! ## Entries without a job -/

/-- The entry may exist, but it was not released. -/
def Unreleased (tenantID entryID : String) (db : DB) : Prop :=
  ∀ entry ∈ db.deadLetters, entry.tenantID = tenantID → entry.id = entryID → entry.released = false

/-- An entry that a move released was marked. -/
theorem unreleased_of_act (hI : Unreleased tenantID entryID db) (hq : q ≠ .marking tenantID entryID)
    (hact : Act l q env db q' db') : Unreleased tenantID entryID db' := by
  cases deliveryMove_of_act hact with
  | dispatch dispatch =>
    cases dispatch
    case record commits =>
      obtain ⟨outcome, _, _, -, hrows, rfl⟩ := recordDeliveryAttempt_eq_ok commits
      intro entry hentry htenant hid
      rcases (Table.mem_append hrows).mp hentry with hold | hnew
      · exact hI entry hold htenant hid
      · cases outcome with
        | succeeded | retry => cases hnew
        | deadLettered =>
          rw [List.mem_singleton.mp hnew]
          rfl
    case release tenantID' entryID' _ _ _ commits =>
      cases commits
      intro entry hentry htenant hid
      obtain ⟨entry₀, hentry₀, rfl⟩ := List.mem_map.mp hentry
      by_cases hmatch : entry₀.tenantID = tenantID' ∧ entry₀.id = entryID'
      case pos =>
        rw [if_pos hmatch] at htenant hid
        exact absurd (by rw [← hmatch.1, ← hmatch.2, ← htenant, ← hid]) hq
      case neg =>
        rw [if_neg hmatch] at htenant hid ⊢
        exact hI entry₀ hentry₀ htenant hid
    case' claim commits =>
      obtain ⟨_, -, h⟩ := bind_eq_ok.mp commits
      cases h
    case' retain commits => cases commits
    case' retry commits | cancel commits => rw [(updateDelivery_eq_ok commits).1]
    all_goals exact hI
  | snapshot taken =>
    rw [taken.frame]
    exact hI
  | other same =>
    rw [Unreleased, same.deadLetters]
    exact hI

/-- Only the creation of a job leads to a mark. -/
theorem not_marking_of_act (hq : q ≠ .marking tenantID entryID) (hact : Act l q env db q' db')
    (hnone : createsFor tenantID entryID ⟨l, .act env, db, db'⟩ = false) :
    q' ≠ .marking tenantID entryID := by
  cases hact with
  | outside => exact hq
  | dispatch dispatch => cases dispatch <;> nofun
  | create _ _ _ _ job next commits =>
    cases next with
    | job => nofun
    | entry =>
      rintro ⟨⟩
      obtain ⟨-, _, _, hrows, -, rfl⟩ := insertReplayJob_eq_ok commits
      simp [createsFor, releasedEntry, hrows] at hnone
  | _ => nofun

theorem modular_unreleased : System.Modular machine
    (fun e ↦ createsFor tenantID entryID e = false) (Unreleased tenantID entryID)
    (fun _ _ q ↦ q ≠ .marking tenantID entryID) :=
  modular_machine (fun _ _ _ ↦ nofun) (fun _ _ _ _ hsilent _ ↦ by cases hsilent <;> nofun)
    (fun _ _ _ _ _ _ hI hq hnone hact ↦
      ⟨unreleased_of_act hI hq hact, not_marking_of_act hq hact hnone⟩)
    (fun _ _ _ _ _ _ _ _ _ _ _ _ hq ↦ hq)

/-! ## Runs -/

/-- A list splits at the first element with a property. -/
theorem exists_first {α : Type} {p : α → Bool} {xs : List α} (h : ∃ x ∈ xs, p x = true) :
    ∃ before x after, xs = before ++ x :: after ∧ p x = true ∧ ∀ y ∈ before, p y = false := by
  obtain ⟨x, hx, hpx⟩ := h
  obtain ⟨y, hy⟩ := Option.isSome_iff_exists.mp (List.find?_isSome.mpr ⟨x, hx, hpx⟩)
  obtain ⟨hpy, before, after, hsplit, hbefore⟩ := List.find?_eq_some_iff_append.mp hy
  exact ⟨before, y, after, hsplit, hpy, fun z hz ↦ by simpa using hbefore z hz⟩

/-- In a run in which jobs for the entry are created only while it is open, and in which the entry is
marked before another job is created for it: at most one job is created for the entry, and the entry is
released exactly when one was created. -/
theorem released_once {c : Threads Op DB (Work Unit)}
    (hrun : App.system.Run (Unreleased tenantID entryID) events c)
    (horderly : orderly tenantID entryID events = true) :
    events.countP (createsFor tenantID entryID) ≤ 1 ∧
      (entryIs true tenantID entryID c.state = true ↔
        ∃ e ∈ events, createsFor tenantID entryID e = true) := by
  obtain ⟨_, hmachine, -⟩ := Machine.simulation.run hrun
  have hcount (es : List (Transition Op Env DB)) (h : ∀ e ∈ es, createsFor tenantID entryID e = false) :
      es.countP (createsFor tenantID entryID) = 0 := by
    rw [List.countP_eq_zero]
    exact fun e he ↦ by simp [h e he]
  by_cases hcreated : ∃ e ∈ events, createsFor tenantID entryID e = true
  case neg =>
    have hnone : ∀ e ∈ events, createsFor tenantID entryID e = false := by simpa using hcreated
    have hunreleased := (modular_unreleased.run (fun _ h ↦ h) hmachine hnone).state
    refine ⟨by simp [hcount events hnone], fun hreleased ↦ ?_, fun h ↦ absurd h hcreated⟩
    obtain ⟨entry, hentry, htenant, hid, hmark⟩ := entryIs_iff.mp hreleased
    rw [hunreleased entry hentry htenant hid] at hmark
    cases hmark
  case pos =>
    obtain ⟨before, e, _, rfl, hcreates, hbefore⟩ := exists_first hcreated
    obtain ⟨mid, mark, rest, rfl, hreleased, hmid⟩ := exists_of_marked (of_orderly horderly hcreates).2
    obtain ⟨_, _, -, _, hpath⟩ := hmachine.split
    obtain ⟨_, _, -, hstepMark, hpathRest⟩ := hpath.split
    rw [hstepMark.after_eq] at hreleased
    -- once the entry is marked it is not open any more
    have hrest : ∀ e' ∈ rest, createsFor tenantID entryID e' = false := by
      intro e' he'
      by_contra hcreates'
      obtain ⟨rest₁, rest₂, rfl⟩ := List.append_of_mem he'
      obtain ⟨_, _, hpath₅, hstep₅, -⟩ := hpathRest.split
      have hsplit : before ++ e :: (mid ++ mark :: (rest₁ ++ e' :: rest₂)) =
          (before ++ e :: (mid ++ mark :: rest₁)) ++ e' :: rest₂ := by simp
      rw [hsplit] at horderly
      have hopen := (of_orderly horderly (by simpa using hcreates')).1
      rw [hstep₅.before_eq, released_not_open (released_of_path hpath₅ hreleased)] at hopen
      cases hopen
    have hmark : createsFor tenantID entryID mark = false := hmid mark (by simp)
    refine ⟨?_, fun _ ↦ hcreated, fun _ ↦ released_of_path hpathRest hreleased⟩
    simp [List.countP_append, hcount before hbefore,
      hcount mid fun e' he' ↦ hmid e' (List.mem_append_left _ he'), hcount rest hrest, hcreates, hmark]

/-! ### The dead letter of the shop -/

/-- A call that releases the entry of the refused delivery. -/
def releaseEntry (actorID : String) : Op := .releaseDeadLetter "t" "dlq_32" actorID "" ""

/-- After the delivery was refused, Alice releases its entry. -/
def releasedRun : AppRun :=
  runScript
    (refusedScript ++ [.start (releaseEntry "alice"), .go 2 40 (shopFrom 100)])
    shopSigning

theorem unreleased_shopSigning : Unreleased "t" "dlq_32" shopSigning :=
  fun _ hentry ↦ absurd hentry (Table.not_mem_of_rows_eq_nil noDeadLetters_shopSigning)

/-- The release creates one job, and the entry is released. -/
theorem refused_delivery_released :
    orderly "t" "dlq_32" releasedRun.1 = true ∧
      releasedRun.1.countP (createsFor "t" "dlq_32") ≤ 1 ∧
      entryIs true "t" "dlq_32" releasedRun.2.state = true := by
  have hrun : App.system.Run (Unreleased "t" "dlq_32") releasedRun.1 releasedRun.2 :=
    run_runScript unreleased_shopSigning
  have horderly : orderly "t" "dlq_32" releasedRun.1 = true := by decide +kernel
  have hcreated : releasedRun.1.any (createsFor "t" "dlq_32") = true := by decide +kernel
  obtain ⟨honce, hreleased⟩ := released_once hrun horderly
  exact ⟨horderly, honce, hreleased.mpr (List.any_eq_true.mp hcreated)⟩

/-! ### Calls that overlap or stop -/

/-- Alice and Bob release the entry at the same time. -/
def overlappingRun : AppRun :=
  runScript
    (refusedScript ++ [.start (releaseEntry "alice"), .start (releaseEntry "bob"),
      .go 2 1 (fun _ ↦ shopEnv 100), .go 3 1 (fun _ ↦ shopEnv 101),
      .go 2 40 (shopFrom 110), .go 3 40 (shopFrom 130)])
    shopSigning

/-- Alice's call stops after it created its job. -/
def stoppedRun : AppRun :=
  runScript
    (refusedScript ++ [.start (releaseEntry "alice"), .go 2 7 (shopFrom 100), .crash 2])
    shopSigning

/-- Two calls that overlap create two jobs for one entry, and a call that stops leaves an open entry with
a job. -/
theorem overlapping_releases_repeat :
    App.system.Run (Unreleased "t" "dlq_32") overlappingRun.1 overlappingRun.2 ∧
      overlappingRun.1.countP (createsFor "t" "dlq_32") = 2 ∧
      overlappingRun.2.state.replayJobs.rows.map (·.request.deliveryID) = ["del_15", "del_15"] ∧
      App.system.Run (Unreleased "t" "dlq_32") stoppedRun.1 stoppedRun.2 ∧
      stoppedRun.1.countP (createsFor "t" "dlq_32") = 1 ∧
      entryIs true "t" "dlq_32" stoppedRun.2.state = false :=
  ⟨run_runScript unreleased_shopSigning, by decide +kernel, by decide +kernel,
    run_runScript unreleased_shopSigning, by decide +kernel, by decide +kernel⟩

end Webhookery.Replay
