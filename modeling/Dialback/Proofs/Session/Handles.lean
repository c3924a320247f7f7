import Dialback.Proofs.Session.Inbound

/-!
Who keeps the outbox open. While servicing, the loop and the dispatcher hold one handle each and
every job that has not ended holds another, so the writer finds its lanes closed only when servicing
is over and no job is left.
-/
namespace Dialback.Session

variable {α γ θ ρ : Type}

/-- The outbox has been given up by those who keep it open while servicing. -/
def Phase.isClosed : Phase γ → Bool
  | flushing _ | ended _ _ => true
  | _ => false

@[simp] theorem servingPhase_isClosed (now : Nat) (terms : Terms θ) :
    (servingPhase now terms : Phase γ).isClosed = false := by
  rcases servingPhase_cases (γ := γ) now terms with ⟨limit, phase⟩ | phase <;>
    simp [phase, Phase.isClosed]

@[simp] theorem leavingPhase_isClosed (now : Nat) (terms : Terms θ) (cause : Cause) :
    (leavingPhase now terms cause : Phase γ).isClosed = false := by
  rcases leavingPhase_cases (γ := γ) now terms cause with ⟨_, limit, phase⟩ | ⟨_, phase⟩ <;>
    simp [phase, Phase.isClosed]

theorem Phase.isClosed_of_isEnded {phase : Phase γ} (ended : phase.isEnded = true) :
    phase.isClosed = true := by
  cases phase <;> simp [isEnded, isClosed] at *

/-- Jobs that have not ended. -/
def live (s : Session α γ θ ρ) : Nat :=
  s.jobs.countP fun t => !t.hasEnded

structure Tended (s : Session α γ θ ρ) : Prop where
  held : s.phase.isClosed = false →
    s.outbox.pongsOpen = true ∧ s.outbox.handles = ownHandles + s.live
  settled : s.phase.isClosed = true → s.live = 0
  shutting : s.outbox.writer.isShutting = true → s.phase.isClosed = true
  joined : ∀ t ∈ s.jobs, t.joined = true → t.hasEnded = true
  ended : s.phase.isEnded = true → s.outbox.writer.hasEnded = true

variable {l : Log γ θ ρ} {s s' : Session α γ θ ρ} {terms : Terms θ} {a : Action γ θ ρ}

/-! Jobs come and go. -/

theorem live_pos {i : Nat} {t : Job θ} (job : s.jobs[i]? = some t) (lasts : t.hasEnded = false) :
    0 < s.live :=
  List.countP_pos_iff.mpr ⟨t, List.mem_of_getElem? job, by simp [lasts]⟩

theorem live_eq_zero : s.live = 0 ↔ ∀ t ∈ s.jobs, t.hasEnded = true := by
  simp [live, List.countP_eq_zero]

theorem live_same (same : s'.jobs.map Job.hasEnded = s.jobs.map Job.hasEnded) :
    s'.live = s.live := by
  have counts := congrArg (List.countP (!·)) same
  rwa [List.countP_map, List.countP_map] at counts

/-- One of the jobs that have not ended does. -/
theorem live_end {i : Nat} {t t' : Job θ} (job : s.jobs[i]? = some t)
    (jobs : s'.jobs = s.jobs.set i t') (lasts : t.hasEnded = false) (ends : t'.hasEnded = true) :
    s'.live + 1 = s.live := by
  have positive := live_pos job lasts
  obtain ⟨inside, here⟩ := List.getElem?_eq_some_iff.mp job
  unfold live at positive ⊢
  rw [jobs, List.countP_set inside, here]
  simp only [lasts, ends, Bool.not_false, Bool.not_true, if_true, Bool.false_eq_true, if_false]
  omega

private theorem joined_set {i : Nat} {t' : Job θ} (tended : Tended s)
    (own : t'.joined = true → t'.hasEnded = true) :
    ∀ u ∈ s.jobs.set i t', u.joined = true → u.hasEnded = true := by
  intro u member met
  rcases List.mem_or_eq_of_mem_set member with known | rfl
  · exact tended.joined u known met
  · exact own met

theorem Heard.no_jobs (heard : Heard l s) (early : s.phase.isEarly = true) : s.jobs = [] := by
  have none := heard.requests
  rw [Log.requests, Log.served, heard.early early] at none
  exact List.map_eq_nil_iff.mp none

theorem Tended.live_of_joined (tended : Tended s) (joined : s.allJoined = true) : s.live = 0 := by
  rw [live_eq_zero]
  intro t member
  exact tended.joined t member (List.all_eq_true.mp joined t member)

/-- A job that has not ended keeps the outbox open. -/
theorem Tended.open_of_live (tended : Tended s) {i : Nat} {t : Job θ} (job : s.jobs[i]? = some t)
    (lasts : t.hasEnded = false) : s.phase.isClosed = false := by
  by_contra closed
  have settled := tended.settled (by simpa using closed)
  have positive := live_pos job lasts
  omega

theorem Reading.isOpen {x : Inbound γ θ} {rest : List (Inbound γ θ)} (reading : Reading s x rest) :
    s.phase.isClosed = false := by
  obtain ⟨limit, phase⟩ := reading.serving
  rw [phase]
  rfl

/-- While the outbox is kept open, only a writer that has ended refuses a pong. -/
theorem Tended.refused (tended : Tended s) (isOpen : s.phase.isClosed = false)
    {m : ClientMessage α ρ} (refused : s.outbox.step (.pong m) = none) :
    s.outbox.writer.hasEnded = true := by
  have held := (tended.held isOpen).1
  rcases Outbox.step_pong_refused refused with shut | ended
  · rw [held] at shut
    cases shut
  · exact ended

/-! The writer. -/

theorem Outbox.Work.frame {μ : Type} {o o' : Outbox μ} {b : Outbox.Action μ} (work : o.Work b o') :
    o'.pongsOpen = o.pongsOpen ∧ o'.handles = o.handles ∧ o'.offers = o.offers := by
  cases work <;> exact ⟨rfl, rfl, rfl⟩

theorem Outbox.Work.unended {μ : Type} {o o' : Outbox μ} {b : Outbox.Action μ}
    (work : o.Work b o') : o.writer.hasEnded = false := by
  cases work <;> simp [Writer.hasEnded, Writer.ending?, *]

/-- The writer shuts down only when nobody keeps it. -/
theorem Outbox.Work.shutting {μ : Type} {o o' : Outbox μ} {b : Outbox.Action μ}
    (work : o.Work b o') (shutting : o'.writer.isShutting = true) :
    o.writer.isShutting = true ∨ o.pongsOpen = false := by
  cases work with
  | pickPong | pickMessage | wrote => simp [Writer.isShutting] at shutting
  | shut time idle pongs queue closed => exact Or.inr closed
  | broke a how m since writing broken =>
    cases broken <;> simp [Outbox.finish, Writer.isShutting] at shutting
  | closed a how closing => exact Or.inl (by simp [closing, Writer.isShutting])

/-! Steps. -/

theorem Tended.opened (settings : CallSettings) (openedAt : Nat) (arguments : ConnectArguments α) :
    Tended (Session.opened settings openedAt arguments : Session α γ θ ρ) where
  held _ := ⟨rfl, rfl⟩
  settled closed := by simp [Session.opened, Phase.isClosed] at closed
  shutting closing := by simp [Session.opened, Writer.isShutting] at closing
  joined t member := by simp [Session.opened] at member
  ended finished := by simp [Session.opened, Phase.isEnded] at finished

/-- Steps that leave handles and writer alone, and end no job. -/
private theorem Tended.keep (tended : Tended s)
    (outbox : s'.outbox.pongsOpen = s.outbox.pongsOpen ∧ s'.outbox.handles = s.outbox.handles ∧
      s'.outbox.writer = s.outbox.writer)
    (stages : s'.jobs.map Job.hasEnded = s.jobs.map Job.hasEnded)
    (joined : ∀ t ∈ s'.jobs, t.joined = true → t.hasEnded = true)
    (phase : s'.phase.isClosed = s.phase.isClosed)
    (ended : s'.phase.isEnded = true → s.phase.isEnded = true) : Tended s' where
  held isOpen := by
    rw [outbox.1, outbox.2.1, live_same stages]
    exact tended.held (by rw [← phase, isOpen])
  settled isClosed := by
    rw [live_same stages]
    exact tended.settled (by rw [← phase, isClosed])
  shutting closing := by
    rw [phase]
    exact tended.shutting (by rwa [outbox.2.2] at closing)
  joined := joined
  ended finished := by
    rw [outbox.2.2]
    exact tended.ended (ended finished)

/-- A job takes a step that does not end it. -/
private theorem Tended.progress (tended : Tended s) {i : Nat} {t t' : Job θ}
    (job : s.jobs[i]? = some t) (jobs : s'.jobs = s.jobs.set i t')
    (own : t'.hasEnded = t.hasEnded) (noticed : t'.joined = t.joined)
    (outbox : s'.outbox.pongsOpen = s.outbox.pongsOpen ∧ s'.outbox.handles = s.outbox.handles ∧
      s'.outbox.writer = s.outbox.writer)
    (phase : s'.phase = s.phase) : Tended s' := by
  refine tended.keep outbox ?_ ?_ (by rw [phase]) fun finished => by rwa [phase] at finished
  · rw [jobs]
    exact map_set_same Job.hasEnded job own
  · rw [jobs]
    refine joined_set tended fun met => ?_
    rw [own]
    exact tended.joined t (List.mem_of_getElem? job) (noticed.symm.trans met)

/-- The session is over, and its outbox with it. -/
private theorem Tended.finish (tended : Tended s) (idle : s.live = 0) (inbox : List (Inbound γ θ))
    (outcome : Outcome) :
    Tended { s with inbox, phase := .ended outcome s.now, outbox := s.outbox.dropped } where
  held isOpen := by simp [Phase.isClosed] at isOpen
  settled _ := idle
  shutting _ := rfl
  joined := tended.joined
  ended _ := Outbox.dropped_hasEnded

private theorem Ends.idle {outcome : Outcome} (heard : Heard l s) (tended : Tended s)
    (ends : Ends s a outcome) : s.live = 0 := by
  cases ends with
  | introductionFailed fault phase =>
    simp [live, heard.no_jobs (by simp [phase, Phase.isEarly])]
  | cancelConnect limit phase => simp [live, heard.no_jobs (by simp [phase, Phase.isEarly])]
  | giveUpConnecting limit phase => simp [live, heard.no_jobs (by simp [phase, Phase.isEarly])]
  | aborted fault phase joined => exact tended.live_of_joined joined
  | settle cause how phase => exact tended.settled (by rw [phase]; rfl)

/-- A job ends and gives its handle back. -/
private theorem Tended.leave (tended : Tended s) {i : Nat} {t : Job θ} {how : JobEnd}
    {before outbox : Outbox (ClientMessage α ρ)} (job : s.jobs[i]? = some t)
    (lasts : t.hasEnded = false) (left : before.run [.withdraw i, .release] = some outbox)
    (same : before.pongsOpen = s.outbox.pongsOpen ∧ before.handles = s.outbox.handles ∧
      before.writer = s.outbox.writer) (permits : Permits) :
    Tended { s with jobs := s.jobs.set i (t.withStage (.ended how)), outbox, permits } := by
  have isOpen := tended.open_of_live job lasts
  obtain ⟨pongs, held⟩ := tended.held isOpen
  obtain ⟨_, rfl⟩ := Outbox.run_sender_leaves.mp left
  have fewer : live { s with jobs := s.jobs.set i (t.withStage (.ended how)) } + 1 = s.live :=
    live_end job rfl lasts rfl
  refine ⟨?_, ?_, ?_, ?_, ?_⟩
  · intro _
    refine ⟨same.1.trans pongs, ?_⟩
    change before.handles - 1 = ownHandles + live { s with jobs := _ }
    omega
  · intro closed
    exact absurd closed (by simp [isOpen])
  · intro closing
    exact tended.shutting (by rwa [← same.2.2])
  · exact joined_set tended fun _ => rfl
  · intro finished
    exact (congrArg Writer.hasEnded same.2.2).trans (tended.ended finished)

private theorem Tended.control (tended : Tended s) (control : Control terms s a s') :
    Tended s' := by
  cases control with
  | stop | cancel | elapse => exact tended.keep ⟨rfl, rfl, rfl⟩ rfl tended.joined rfl fun h => h
  | introduced phase =>
    exact tended.keep ⟨rfl, rfl, rfl⟩ rfl tended.joined (by rw [phase]; rfl)
      (fun finished => by simp [Phase.isEnded] at finished)
  | serve payload phase =>
    exact tended.keep ⟨rfl, rfl, rfl⟩ rfl tended.joined (by rw [phase, servingPhase_isClosed]; rfl)
      (fun finished => by simpa using Phase.isClosed_of_isEnded finished)
  | heedStop limit phase | heedWriter limit phase | giveUpServicing limit d phase =>
    exact tended.keep ⟨rfl, rfl, rfl⟩ rfl tended.joined (by rw [phase, leavingPhase_isClosed]; rfl)
      (fun finished => by simpa using Phase.isClosed_of_isEnded finished)
  | overrun limit x rest phase | drainOver cause limit phase =>
    exact tended.keep ⟨rfl, rfl, rfl⟩ rfl tended.joined (by rw [phase]; rfl)
      (fun finished => by simp [Phase.isEnded] at finished)

/-- The loop goes on, or leaves, with its outbox still open. -/
private theorem Tended.read (tended : Tended s) {x : Inbound γ θ} {rest : List (Inbound γ θ)}
    (reading : Reading s x rest) (outbox : s'.outbox.pongsOpen = s.outbox.pongsOpen)
    (handles : s'.outbox.handles + s.live = s.outbox.handles + s'.live)
    (writer : s'.outbox.writer = s.outbox.writer)
    (joined : ∀ t ∈ s'.jobs, t.joined = true → t.hasEnded = true)
    (phase : s'.phase.isClosed = false) : Tended s' := by
  obtain ⟨limit, serving⟩ := reading.serving
  have isOpen : s.phase.isClosed = false := by rw [serving]; rfl
  obtain ⟨pongs, held⟩ := tended.held isOpen
  refine ⟨?_, ?_, ?_, joined, ?_⟩
  · intro _
    exact ⟨outbox.trans pongs, by omega⟩
  · intro closed
    exact absurd closed (by simp [phase])
  · intro closing
    exact absurd (tended.shutting (by rwa [← writer])) (by simp [isOpen])
  · intro finished
    exact absurd (Phase.isClosed_of_isEnded finished) (by simp [phase])

theorem Tended.step (heard : Heard l s) (tended : Tended s) (effect : Effect terms s a s') :
    Tended s' := by
  cases effect with
  | control control => exact tended.control control
  | finish outcome ends => exact tended.finish (ends.idle heard tended) s.inbox outcome
  | arrive x => exact tended.keep ⟨rfl, rfl, rfl⟩ rfl tended.joined rfl fun h => h
  | accept limit payload rest phase inbox =>
    exact tended.keep ⟨rfl, rfl, rfl⟩ rfl tended.joined (by rw [phase]; rfl)
      (fun finished => by simp [Phase.isEnded] at finished)
  | dismiss limit x rest outcome phase inbox =>
    have idle : s.live = 0 := by
      simp [live, heard.no_jobs (by simp [phase, Phase.isEarly])]
    exact tended.finish idle rest outcome
  | ignore x rest reading =>
    exact tended.read reading rfl rfl rfl tended.joined (servingPhase_isClosed ..)
  | hangUp x rest cause reading =>
    exact tended.read reading rfl rfl rfl tended.joined (leavingPhase_isClosed ..)
  | ping rest outbox reading taken =>
    obtain ⟨_, rfl⟩ := Outbox.step_pong.mp taken
    exact tended.read reading rfl rfl rfl tended.joined (servingPhase_isClosed ..)
  | pingRefused rest reading =>
    exact tended.read reading rfl rfl rfl tended.joined
      (leavingPhase_isClosed s.now terms .writerEnded)
  | dispatch request rest outbox reading retained =>
    obtain ⟨_, rfl⟩ := Outbox.step_retain.mp retained
    refine tended.read reading rfl ?_ rfl ?_ (servingPhase_isClosed ..)
    · simp only [live, List.countP_append, List.countP_singleton]
      simp only [Job.hasEnded, Stage.isEnded, Bool.not_false, if_true]
      omega
    · intro t member met
      rcases List.mem_append.mp member with known | new
      · exact tended.joined t known met
      · rw [List.mem_singleton.mp new] at met
        cases met
  | join i t job unnoticed =>
    simp only [Job.unnoticed, Bool.and_eq_true] at unnoticed
    exact tended.keep ⟨rfl, rfl, rfl⟩ (map_set_same Job.hasEnded job rfl)
      (joined_set tended fun _ => unnoticed.1) rfl fun h => h
  | joinPanicked i t limit job unnoticed phase =>
    simp only [Job.unnoticed, Bool.and_eq_true] at unnoticed
    exact tended.keep ⟨rfl, rfl, rfl⟩ (map_set_same Job.hasEnded job rfl)
      (joined_set tended fun _ => unnoticed.1) (by rw [phase, leavingPhase_isClosed]; rfl)
      (fun finished => by simpa using Phase.isClosed_of_isEnded finished)
  | flush cause outbox flushes left =>
    have idle : s.live = 0 := by
      cases flushes with
      | drained cause limit phase joined => exact tended.live_of_joined joined
      | aborted cause phase reported joined => exact tended.live_of_joined joined
    obtain ⟨_, rfl⟩ := Outbox.run_owners_leave.mp left
    refine ⟨?_, fun _ => idle, fun _ => rfl, tended.joined, ?_⟩
    · intro isOpen
      simp [Phase.isClosed] at isOpen
    · intro finished
      simp [Phase.isEnded] at finished
  | ask i t job waiting =>
    refine tended.progress job rfl ?_ rfl ⟨rfl, rfl, rfl⟩ rfl
    simp [Job.withStage, Job.hasEnded, Stage.isEnded, waiting]
  | start i t permits job inLine =>
    refine tended.progress job rfl ?_ rfl ⟨rfl, rfl, rfl⟩ rfl
    simp [Job.hasEnded, Stage.isEnded, inLine]
  | answer i t response outbox job running offered =>
    rw [← Outbox.step_offer offered]
    refine tended.progress job rfl ?_ rfl ⟨rfl, rfl, rfl⟩ rfl
    simp [Job.hasEnded, Stage.isEnded, running]
  | place i t placed outbox job offering room left =>
    obtain ⟨_, m, _, rfl⟩ := Outbox.step_place.mp room
    have lasts : t.hasEnded = false := Job.hasEnded_of_stage offering
    exact tended.leave job lasts left ⟨rfl, rfl, rfl⟩ _
  | endJob i t how outbox job ends left =>
    exact tended.leave job ends.lasts left ⟨rfl, rfl, rfl⟩ _
  | sink b outbox sunk work =>
    obtain ⟨pongs, handles, _⟩ := work.frame
    refine ⟨?_, tended.settled, ?_, tended.joined, ?_⟩
    · intro isOpen
      rw [pongs, handles]
      exact tended.held isOpen
    · intro closing
      rcases work.shutting closing with before | shut
      · exact tended.shutting before
      · by_contra isOpen
        have held := tended.held (by simpa using isOpen)
        rw [shut] at held
        cases held.1
    · intro finished
      have gone := tended.ended finished
      rw [work.unended] at gone
      cases gone

end Dialback.Session
