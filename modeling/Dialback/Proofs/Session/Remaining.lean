import Dialback.Proofs.Session.Handles

/-!
How much is left to do. Whatever a session does by itself, whatever its handlers and its sink do,
brings it nearer to its end: only what is read makes new work. Arrivals, signals and the passing of
time leave the work as it is.
-/
namespace Dialback.Session

variable {α γ θ ρ : Type}

/-- The steps that are left to a job and to the writer on its behalf, at most. -/
def Job.remaining (t : Job θ) : Nat :=
  match t.stage with
  | .waiting => 7
  | .inLine => 6
  | .running => 5
  | .offering => 4
  | .ended _ => if t.joined then 0 else 1

def Phase.remaining : Phase γ → Nat
  | introducing => 7
  | connecting _ => 6
  | accepted _ => 5
  | servicing _ => 4
  | draining _ _ => 3
  | aborting _ => 2
  | flushing _ => 1
  | ended _ _ | unserviceable => 0

def Writer.remaining {μ : Type} : Writer μ → Nat
  | writing _ _ => 3
  | idle => 2
  | closing => 1
  | ended _ => 0

/-- Every message that is queued is picked and written. -/
def Outbox.remaining {μ : Type} (o : Outbox μ) : Nat :=
  2 * (o.pongs.length + o.queue.length) + o.writer.remaining

/-- All jobs together. -/
def workOf : List (Job θ) → Nat
  | [] => 0
  | t :: rest => t.remaining + workOf rest

def remaining (s : Session α γ θ ρ) : Nat :=
  s.phase.remaining + workOf s.jobs + s.outbox.remaining

/-- What comes from outside and makes no work: arrivals, signals and the passing of time. -/
def Action.isIdle : Action γ θ ρ → Bool
  | .event (.arrive _) | .event .stop | .event .cancel | .event (.elapse _) => true
  | _ => false

variable {s s' : Session α γ θ ρ} {terms : Terms θ} {a : Action γ θ ρ}

/-! Jobs. -/

theorem workOf_set {i : Nat} {t : Job θ} {jobs : List (Job θ)} (job : jobs[i]? = some t)
    (t' : Job θ) : workOf (jobs.set i t') + t.remaining = workOf jobs + t'.remaining := by
  induction jobs generalizing i with
  | nil => simp at job
  | cons u rest ih =>
    cases i with
    | zero =>
      have same : u = t := by simpa using job
      subst same
      simp only [List.set_cons_zero, workOf]
      omega
    | succ i =>
      have sums := ih (i := i) (by simpa using job)
      simp only [List.set_cons_succ, workOf]
      omega

theorem Job.remaining_ended {t : Job θ} (lasts : t.hasEnded = false) (how : JobEnd) :
    (t.withStage (.ended how)).remaining + 3 ≤ t.remaining := by
  have after : (t.withStage (.ended how)).remaining ≤ 1 := by
    unfold remaining withStage
    cases t.joined <;> simp
  have before : 4 ≤ t.remaining := by
    unfold remaining
    cases stage : t.stage <;> simp_all [hasEnded, Stage.isEnded]
  omega

theorem Job.remaining_joined {t : Job θ} (unmet : t.unnoticed = true) :
    ({ t with joined := true } : Job θ).remaining < t.remaining := by
  simp only [unnoticed, Bool.and_eq_true, Bool.not_eq_true'] at unmet
  cases stage : t.stage with
  | ended how => simp [remaining, stage, unmet.2]
  | waiting | inLine | running | offering => simp [hasEnded, Stage.isEnded, stage] at unmet

/-! The outbox. -/

theorem Outbox.remaining_dropped {μ : Type} (o : Outbox μ) : o.dropped.remaining ≤ o.remaining := by
  unfold dropped
  split
  · exact Nat.le_refl _
  · simp [finish, remaining, Writer.remaining]

theorem Outbox.Work.remaining_lt {μ : Type} {o o' : Outbox μ} {b : Outbox.Action μ}
    (work : o.Work b o') : o'.remaining < o.remaining := by
  cases work with
  | pickPong time m rest idle pongs =>
    simp only [Outbox.remaining, idle, pongs, Writer.remaining, List.length_cons]
    omega
  | pickMessage time m rest idle pongs queue =>
    simp only [Outbox.remaining, idle, pongs, queue, Writer.remaining, List.length_cons]
    omega
  | shut time idle pongs queue =>
    simp only [Outbox.remaining, idle, Writer.remaining]
    omega
  | wrote time m since writing =>
    simp only [Outbox.remaining, writing, Writer.remaining]
    omega
  | broke b how m since writing =>
    simp only [Outbox.remaining, Outbox.finish, writing, Writer.remaining, List.length_nil]
    omega
  | closed b how closing =>
    simp only [Outbox.remaining, Outbox.finish, closing, Writer.remaining, List.length_nil]
    omega

/-! Phases. -/

theorem servingPhase_remaining (now : Nat) (terms : Terms θ) :
    (servingPhase now terms : Phase γ).remaining ≤ 4 := by
  rcases servingPhase_cases (γ := γ) now terms with ⟨limit, phase⟩ | phase <;>
    simp [phase, Phase.remaining]

theorem leavingPhase_remaining (now : Nat) (terms : Terms θ) (cause : Cause) :
    (leavingPhase now terms cause : Phase γ).remaining ≤ 3 := by
  rcases leavingPhase_cases (γ := γ) now terms cause with ⟨_, limit, phase⟩ | ⟨_, phase⟩ <;>
    simp [phase, Phase.remaining]

/-- The session moves on to a later phase, with no more work for jobs and writer. -/
private theorem remaining_later (later : s'.phase.remaining < s.phase.remaining)
    (jobs : workOf s'.jobs ≤ workOf s.jobs)
    (outbox : s'.outbox.remaining ≤ s.outbox.remaining) : s'.remaining < s.remaining := by
  unfold remaining
  omega

/-- A job takes a step, and leaves the writer so much more to do. -/
private theorem remaining_update {i : Nat} {t t' : Job θ} (job : s.jobs[i]? = some t)
    (jobs : s'.jobs = s.jobs.set i t') (phase : s'.phase.remaining ≤ s.phase.remaining)
    (less : s'.outbox.remaining + t'.remaining < s.outbox.remaining + t.remaining) :
    s'.remaining < s.remaining := by
  have sums := workOf_set job t'
  unfold remaining
  rw [jobs]
  omega

private theorem Control.remaining_lt (busy : a.isIdle = false) (control : Control terms s a s') :
    s'.remaining < s.remaining := by
  have leaving := leavingPhase_remaining (γ := γ) s.now terms
  cases control with
  | stop | cancel | elapse => cases busy
  | introduced phase =>
    exact remaining_later (by simp [phase, Phase.remaining]) (Nat.le_refl _) (Nat.le_refl _)
  | serve payload phase =>
    have serving := servingPhase_remaining (γ := γ) s.now terms
    refine remaining_later ?_ (Nat.le_refl _) (Nat.le_refl _)
    simp only [phase, Phase.remaining] at serving ⊢
    omega
  | heedStop limit phase =>
    have bound := leaving .stopped
    refine remaining_later ?_ (Nat.le_refl _) (Nat.le_refl _)
    simp only [phase, Phase.remaining] at bound ⊢
    omega
  | heedWriter limit phase =>
    have bound := leaving .writerEnded
    refine remaining_later ?_ (Nat.le_refl _) (Nat.le_refl _)
    simp only [phase, Phase.remaining] at bound ⊢
    omega
  | giveUpServicing limit d phase =>
    have bound := leaving (.fault (.silent d))
    refine remaining_later ?_ (Nat.le_refl _) (Nat.le_refl _)
    simp only [phase, Phase.remaining] at bound ⊢
    omega
  | overrun limit x rest phase | drainOver cause limit phase =>
    exact remaining_later (by simp [phase, Phase.remaining]) (Nat.le_refl _) (Nat.le_refl _)

/-- Whatever is neither idle nor reads leaves less to do. -/
theorem Effect.remaining_lt (busy : a.isIdle = false) (unread : a ≠ .move .read)
    (effect : Effect terms s a s') : s'.remaining < s.remaining := by
  cases effect with
  | control control => exact control.remaining_lt busy
  | finish outcome ends =>
    refine remaining_later ?_ (Nat.le_refl _) s.outbox.remaining_dropped
    cases ends <;> simp [Phase.remaining, *]
  | arrive => cases busy
  | accept limit payload rest phase =>
    exact remaining_later (by simp [phase, Phase.remaining]) (Nat.le_refl _) (Nat.le_refl _)
  | dismiss limit x rest outcome phase =>
    refine remaining_later ?_ (Nat.le_refl _) s.outbox.remaining_dropped
    simp [phase, Phase.remaining]
  | ignore | hangUp | ping | pingRefused | dispatch => exact absurd rfl unread
  | join i t job unnoticed =>
    have less := Job.remaining_joined unnoticed
    exact remaining_update job rfl (Nat.le_refl _) (Nat.add_lt_add_left less _)
  | joinPanicked i t limit job unnoticed phase =>
    have less := Job.remaining_joined unnoticed
    have leaving := leavingPhase_remaining (γ := γ) s.now terms (.fault .handlerPanicked)
    refine remaining_update job rfl ?_ (Nat.add_lt_add_left less _)
    simp only [phase, Phase.remaining] at leaving ⊢
    omega
  | flush cause outbox flushes left =>
    obtain ⟨_, rfl⟩ := Outbox.run_owners_leave.mp left
    refine remaining_later ?_ (Nat.le_refl _) (Nat.le_refl _)
    cases flushes with
    | drained cause limit phase => simp [phase, Phase.remaining]
    | aborted cause phase => simp [phase, Phase.remaining]
  | ask i t job waiting =>
    refine remaining_update job rfl (Nat.le_refl _) (Nat.add_lt_add_left ?_ _)
    simp [Job.remaining, Job.withStage, waiting]
  | start i t permits job inLine =>
    refine remaining_update job rfl (Nat.le_refl _) (Nat.add_lt_add_left ?_ _)
    simp [Job.remaining, inLine]
  | answer i t response outbox job running offered =>
    rw [← Outbox.step_offer offered]
    refine remaining_update job rfl (Nat.le_refl _) (Nat.add_lt_add_left ?_ _)
    simp [Job.remaining, running]
  | place i t placed outbox job offering room left =>
    obtain ⟨_, m, _, rfl⟩ := Outbox.step_place.mp room
    obtain ⟨_, rfl⟩ := Outbox.run_sender_leaves.mp left
    have lasts : t.hasEnded = false := Job.hasEnded_of_stage offering
    have ended := Job.remaining_ended lasts .queued
    refine remaining_update job rfl (Nat.le_refl _) ?_
    simp only [Outbox.remaining, Outbox.withdraw, List.length_append, List.length_singleton]
    omega
  | endJob i t how outbox job ends left =>
    obtain ⟨_, rfl⟩ := Outbox.run_sender_leaves.mp left
    have lasts := ends.lasts
    have ended := Job.remaining_ended lasts how
    refine remaining_update job rfl (Nat.le_refl _) (Nat.add_lt_add_left ?_ _)
    omega
  | sink b outbox sunk work =>
    exact Nat.add_lt_add_left work.remaining_lt _

theorem Effect.remaining_idle (idle : a.isIdle = true) (effect : Effect terms s a s') :
    s'.remaining = s.remaining := by
  cases effect with
  | control control =>
    cases control with
    | stop | cancel | elapse => rfl
    | introduced | serve | heedStop | heedWriter | giveUpServicing | overrun | drainOver =>
      cases idle
  | arrive => rfl
  | finish outcome ends => cases ends <;> cases idle
  | flush cause outbox flushes => cases flushes <;> cases idle
  | endJob i t how outbox job ends => cases ends <;> cases idle
  | sink b outbox sunk => cases sunk <;> cases idle
  | _ => cases idle

/-- A run in which nothing is read takes no more steps than are left. -/
theorem run_remaining {actions : List (Action γ θ ρ)} (ran : s.run terms actions = some s')
    (unread : ∀ a ∈ actions, a ≠ .move .read) :
    actions.countP (fun a => !a.isIdle) + s'.remaining ≤ s.remaining := by
  refine Runs.countP_le remaining (fun a => !a.isIdle) (· ≠ .move .read) ?_ unread ran
  intro s a s' unread acted
  have effect := Effect.of_act acted
  cases idle : a.isIdle with
  | true => simp [effect.remaining_idle idle]
  | false =>
    have less := effect.remaining_lt idle unread
    simp only [Bool.not_false, Bool.toNat_true]
    omega

end Dialback.Session
