import Dialback.Proofs.Session.Inbound

/-!
How often the handler of each job has been invoked, has returned, and its response been queued. The
stage of a job determines all three counts, the end by an abort apart; none of them exceeds one.
-/
namespace Dialback.Session

variable {α γ θ ρ : Type}

structure Tally where
  invoked : Nat
  answered : Nat
  placed : Nat

def Log.tally (l : Log γ θ ρ) (job : Nat) : Tally where
  invoked := l.invoked.count job
  answered := (l.answered.map Prod.fst).count job
  placed := l.placed.count job

inductive Stage.Allows : Stage → Tally → Prop
  | waiting : Allows .waiting ⟨0, 0, 0⟩
  | inLine : Allows .inLine ⟨0, 0, 0⟩
  | running : Allows .running ⟨1, 0, 0⟩
  | offering : Allows .offering ⟨1, 1, 0⟩
  | queued : Allows (.ended .queued) ⟨1, 1, 1⟩
  | refused : Allows (.ended .refused) ⟨1, 1, 0⟩
  | panicked : Allows (.ended .panicked) ⟨1, 0, 0⟩
  | aborted (invoked answered : Nat) (once : invoked ≤ 1) (ordered : answered ≤ invoked) :
      Allows (.ended .aborted) ⟨invoked, answered, 0⟩

theorem Stage.Allows.placed_le {stage : Stage} {tally : Tally} (allowed : stage.Allows tally) :
    tally.placed ≤ 1 := by
  cases allowed <;> simp

/-! Each step of a job takes its counts along. -/

theorem Stage.Allows.ask {tally : Tally} (allowed : Stage.waiting.Allows tally) :
    Stage.inLine.Allows tally := by
  cases allowed
  exact .inLine

theorem Stage.Allows.start {tally : Tally} (allowed : Stage.inLine.Allows tally) :
    Stage.running.Allows { tally with invoked := tally.invoked + 1 } := by
  cases allowed
  exact .running

theorem Stage.Allows.answer {tally : Tally} (allowed : Stage.running.Allows tally) :
    Stage.offering.Allows { tally with answered := tally.answered + 1 } := by
  cases allowed
  exact .offering

theorem Stage.Allows.place {tally : Tally} (allowed : Stage.offering.Allows tally) :
    (Stage.ended .queued).Allows { tally with placed := tally.placed + 1 } := by
  cases allowed
  exact .queued

theorem Stage.Allows.refuse {tally : Tally} (allowed : Stage.offering.Allows tally) :
    (Stage.ended .refused).Allows tally := by
  cases allowed
  exact .refused

theorem Stage.Allows.panic {tally : Tally} (allowed : Stage.running.Allows tally) :
    (Stage.ended .panicked).Allows tally := by
  cases allowed
  exact .panicked

theorem Stage.Allows.abort {stage : Stage} {tally : Tally} (allowed : stage.Allows tally)
    (live : stage.isEnded = false) : (Stage.ended .aborted).Allows tally := by
  cases allowed with
  | waiting | inLine => exact .aborted 0 0 (by omega) (by omega)
  | running => exact .aborted 1 0 (by omega) (by omega)
  | offering => exact .aborted 1 1 (by omega) (by omega)
  | queued | refused | panicked | aborted => cases live

/-! What the counts tell of the stage. -/

theorem Stage.Allows.stage_of_placed {stage : Stage} {tally : Tally} (allowed : stage.Allows tally)
    (placed : 0 < tally.placed) : stage = .ended .queued := by
  cases allowed with
  | queued => rfl
  | waiting | inLine | running | offering | refused | panicked | aborted =>
    exact absurd placed (Nat.lt_irrefl 0)

theorem Stage.Allows.stage_of_invoked {stage : Stage} {tally : Tally}
    (allowed : stage.Allows tally) (live : stage.isEnded = false) (invoked : 0 < tally.invoked)
    (unanswered : tally.answered = 0) : stage = .running := by
  cases allowed with
  | running => rfl
  | waiting | inLine => exact absurd invoked (Nat.lt_irrefl 0)
  | offering => exact absurd unanswered Nat.one_ne_zero
  | queued | refused | panicked | aborted => cases live

theorem Stage.Allows.running_counts {tally : Tally} (allowed : Stage.running.Allows tally) :
    tally.invoked = 1 ∧ tally.answered = 0 := by
  cases allowed
  exact ⟨rfl, rfl⟩

theorem Stage.Allows.counts_of_queued {tally : Tally}
    (allowed : (Stage.ended .queued).Allows tally) : tally = ⟨1, 1, 1⟩ := by
  cases allowed
  rfl

structure Tallied (l : Log γ θ ρ) (s : Session α γ θ ρ) : Prop where
  jobs : ∀ (i : Nat) (t : Job θ), s.jobs[i]? = some t → t.stage.Allows (l.tally i)
  /-- Nothing happens to a job that does not exist yet. -/
  others : ∀ i, s.jobs.length ≤ i → l.tally i = ⟨0, 0, 0⟩

variable {l l' : Log γ θ ρ} {s s' : Session α γ θ ρ} {terms : Terms θ} {a : Action γ θ ρ}

theorem Tallied.opened (settings : CallSettings) (openedAt : Nat)
    (arguments : ConnectArguments α) :
    Tallied {} (Session.opened settings openedAt arguments : Session α γ θ ρ) where
  jobs i t job := by simp [Session.opened] at job
  others _ _ := rfl

/-- Every job that exists afterwards existed before, at the same stage. -/
theorem stage_of_map_stage {before after : List (Job θ)} {i : Nat} {t : Job θ}
    (stages : after.map Job.stage = before.map Job.stage) (job : after[i]? = some t) :
    ∃ u, before[i]? = some u ∧ u.stage = t.stage := by
  have here : (before.map Job.stage)[i]? = some t.stage := by
    rw [← stages, List.getElem?_map, job]
    rfl
  rwa [List.getElem?_map, Option.map_eq_some_iff] at here

private theorem Tallied.keep (tallied : Tallied l s)
    (stages : s'.jobs.map Job.stage = s.jobs.map Job.stage) (tallies : l'.tally = l.tally) :
    Tallied l' s' := by
  constructor
  · intro i t job
    obtain ⟨u, known, same⟩ := stage_of_map_stage stages job
    rw [tallies, ← same]
    exact tallied.jobs i u known
  · intro i beyond
    have lengths := congrArg List.length stages
    simp only [List.length_map] at lengths
    rw [tallies]
    exact tallied.others i (by omega)

private theorem Tallied.update (tallied : Tallied l s) {i : Nat} {t t' : Job θ}
    (job : s.jobs[i]? = some t) (jobs : s'.jobs = s.jobs.set i t')
    (others : ∀ j, j ≠ i → l'.tally j = l.tally j) (own : t'.stage.Allows (l'.tally i)) :
    Tallied l' s' := by
  obtain ⟨inside, _⟩ := List.getElem?_eq_some_iff.mp job
  constructor
  · intro j u known
    rw [jobs, List.getElem?_set] at known
    by_cases same : i = j
    · subst same
      simp only [if_true, inside] at known
      cases known
      exact own
    · rw [if_neg same] at known
      rw [others j (Ne.symm same)]
      exact tallied.jobs j u known
  · intro j beyond
    rw [jobs, List.length_set] at beyond
    rw [others j (by omega)]
    exact tallied.others j beyond

private theorem tally_invoke (l : Log γ θ ρ) (i j : Nat) :
    ({ l with invoked := l.invoked ++ [i] } : Log γ θ ρ).tally j =
      { l.tally j with invoked := (l.tally j).invoked + if i = j then 1 else 0 } := by
  by_cases same : i = j <;> simp [Log.tally, same]

private theorem tally_answer (l : Log γ θ ρ) (i j : Nat) (response : Response ρ) :
    ({ l with answered := l.answered ++ [(i, response)] } : Log γ θ ρ).tally j =
      { l.tally j with answered := (l.tally j).answered + if i = j then 1 else 0 } := by
  by_cases same : i = j <;> simp [Log.tally, same]

private theorem tally_place (l : Log γ θ ρ) (i j : Nat) :
    ({ l with placed := l.placed ++ [i] } : Log γ θ ρ).tally j =
      { l.tally j with placed := (l.tally j).placed + if i = j then 1 else 0 } := by
  by_cases same : i = j <;> simp [Log.tally, same]

theorem Tallied.step (tallied : Tallied l s) (effect : Effect terms s a s') :
    Tallied (l.note s a) s' := by
  cases effect with
  | control control =>
    rw [control.note]
    cases control <;> exact tallied.keep rfl rfl
  | finish outcome ends =>
    rw [ends.note]
    exact tallied.keep rfl rfl
  | arrive | accept | dismiss | ignore | hangUp | ping | pingRefused => exact tallied.keep rfl rfl
  | dispatch request rest outbox =>
    constructor
    · intro i t job
      rcases job_of_append job with known | ⟨rfl, rfl⟩
      · exact tallied.jobs i t known
      · change Stage.waiting.Allows (l.tally s.jobs.length)
        rw [tallied.others s.jobs.length (Nat.le_refl _)]
        exact .waiting
    · intro i beyond
      simp only [List.length_append, List.length_singleton] at beyond
      exact tallied.others i (by omega)
  | join i t job => exact tallied.keep (map_set_same Job.stage job rfl) rfl
  | joinPanicked i t limit job => exact tallied.keep (map_set_same Job.stage job rfl) rfl
  | flush cause outbox flushes =>
    rw [flushes.note]
    exact tallied.keep rfl rfl
  | ask i t job waiting =>
    have before := tallied.jobs i t job
    rw [waiting] at before
    exact tallied.update job rfl (fun _ _ => rfl) before.ask
  | start i t permits job inLine =>
    have before := tallied.jobs i t job
    rw [inLine] at before
    refine tallied.update job rfl (fun j other => ?_) ?_
    · simp [Log.note, tally_invoke, Ne.symm other]
    · simp only [Log.note, tally_invoke, if_true]
      exact before.start
  | answer i t response outbox job running =>
    have before := tallied.jobs i t job
    rw [running] at before
    refine tallied.update job rfl (fun j other => ?_) ?_
    · simp [Log.note, tally_answer, Ne.symm other]
    · simp only [Log.note, tally_answer, if_true]
      exact before.answer
  | place i t placed outbox job offering =>
    have before := tallied.jobs i t job
    rw [offering] at before
    refine tallied.update job rfl (fun j other => ?_) ?_
    · simp [Log.note, tally_place, Ne.symm other]
    · simp only [Log.note, tally_place, if_true]
      exact before.place
  | endJob i t how outbox job ends =>
    rw [ends.note]
    have before := tallied.jobs i t job
    refine tallied.update job rfl (fun _ _ => rfl) ?_
    cases ends with
    | refuse offering =>
      rw [offering] at before
      exact before.refuse
    | panic running =>
      rw [running] at before
      exact before.panic
    | abort aborting live => exact before.abort live
  | sink b outbox sunk =>
    rw [sunk.note]
    exact tallied.keep rfl rfl

/-- Only requests that were read have jobs whose responses are queued. -/
theorem Tallied.placed_inside (tallied : Tallied l s) (heard : Heard l s) {i : Nat}
    (placed : i ∈ l.placed) : i < l.requests.length := by
  rw [← heard.requests, List.length_map]
  by_contra beyond
  have none := tallied.others i (by omega)
  have some := List.count_pos_iff.mpr placed
  simp only [Log.tally, Tally.mk.injEq] at none
  omega

/-- A job whose response was queued has ended so. -/
theorem Tallied.stage_of_placed (tallied : Tallied l s) {i : Nat} {t : Job θ}
    (job : s.jobs[i]? = some t) (placed : i ∈ l.placed) : t.stage = .ended .queued :=
  (tallied.jobs i t job).stage_of_placed (List.count_pos_iff.mpr placed)

end Dialback.Session
