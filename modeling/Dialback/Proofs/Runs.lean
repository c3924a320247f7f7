import Mathlib.Data.List.Basic

/-!
Runs of a transition function: one action after another, as long as they are enabled. Along a run
notes are taken of whatever later statements speak about. A relation between notes and state holds
at the end of every run if it holds at the start and every action preserves it.
-/
namespace Dialback.Runs

variable {σ A η : Type} {act : σ → A → Option σ}

theorem foldlM_append {s s' : σ} {before after : List A} :
    (before ++ after).foldlM act s = some s' ↔
      ∃ m, before.foldlM act s = some m ∧ after.foldlM act m = some s' := by
  rw [List.foldlM_append]
  cases before.foldlM act s <;> simp

theorem foldlM_cons {s s' : σ} {a : A} {rest : List A} :
    (a :: rest).foldlM act s = some s' ↔ ∃ m, act s a = some m ∧ rest.foldlM act m = some s' := by
  rw [List.foldlM_cons]
  exact Option.bind_eq_some_iff

/-- The notes of a run; `note` sees an action and the state in which it is taken. -/
def noted (act : σ → A → Option σ) (note : η → σ → A → η) : η → σ → List A → η
  | notes, _, [] => notes
  | notes, s, a :: rest =>
    match act s a with
    | some s' => noted act note (note notes s a) s' rest
    | none => notes

/-- Induction along a run of actions that are all of one kind. -/
theorem noted_induction {note : η → σ → A → η} {invariant : η → σ → Prop} (kind : A → Prop)
    (step : ∀ notes s a s', kind a → invariant notes s → act s a = some s' →
      invariant (note notes s a) s')
    {notes : η} {s s' : σ} {actions : List A} (initial : invariant notes s)
    (kinds : ∀ a ∈ actions, kind a) (ran : actions.foldlM act s = some s') :
    invariant (noted act note notes s actions) s' := by
  induction actions generalizing notes s with
  | nil =>
    cases ran
    exact initial
  | cons a rest ih =>
    obtain ⟨next, acted, ran⟩ := foldlM_cons.mp ran
    simp only [noted, acted]
    have kept := step notes s a next (kinds a List.mem_cons_self) initial acted
    exact ih kept (fun b member => kinds b (List.mem_cons_of_mem a member)) ran

/-- The same without notes. -/
theorem preserved {invariant : σ → Prop} (kind : A → Prop)
    (step : ∀ s a s', kind a → invariant s → act s a = some s' → invariant s') {s s' : σ}
    {actions : List A} (initial : invariant s) (kinds : ∀ a ∈ actions, kind a)
    (ran : actions.foldlM act s = some s') : invariant s' :=
  @noted_induction σ A Unit act (fun notes _ _ => notes) (fun _ => invariant) kind
    (fun _ => step) () s s' actions initial kinds ran

/-! A function that allows less takes the same steps where it takes any. -/

theorem run_of_narrower {narrower : σ → A → Option σ}
    (allowed : ∀ s a s', narrower s a = some s' → act s a = some s') {s s' : σ} {actions : List A}
    (ran : actions.foldlM narrower s = some s') : actions.foldlM act s = some s' := by
  induction actions generalizing s with
  | nil => exact ran
  | cons a rest ih =>
    obtain ⟨next, acted, ran⟩ := foldlM_cons.mp ran
    exact foldlM_cons.mpr ⟨next, allowed s a next acted, ih ran⟩

/-- Induction along a run of the narrower function, with the notes of the other. -/
theorem narrower_induction {note : η → σ → A → η} {invariant : η → σ → Prop}
    {narrower : σ → A → Option σ}
    (allowed : ∀ s a s', narrower s a = some s' → act s a = some s')
    (step : ∀ notes s a s', invariant notes s → narrower s a = some s' →
      invariant (note notes s a) s')
    {notes : η} {s s' : σ} {actions : List A} (initial : invariant notes s)
    (ran : actions.foldlM narrower s = some s') :
    invariant (noted act note notes s actions) s' := by
  induction actions generalizing notes s with
  | nil =>
    cases ran
    exact initial
  | cons a rest ih =>
    obtain ⟨next, acted, ran⟩ := foldlM_cons.mp ran
    simp only [noted, allowed s a next acted]
    exact ih (step notes s a next initial acted) ran

/-- Notes of a run go on where those of its beginning end. -/
theorem noted_append {note : η → σ → A → η} {notes : η} {s m : σ} {before after : List A}
    (ran : before.foldlM act s = some m) :
    noted act note notes s (before ++ after) =
      noted act note (noted act note notes s before) m after := by
  induction before generalizing notes s with
  | nil =>
    cases ran
    rfl
  | cons a rest ih =>
    obtain ⟨next, acted, ran⟩ := foldlM_cons.mp ran
    simp only [List.cons_append, noted, acted]
    exact ih ran

theorem noted_concat {note : η → σ → A → η} {notes : η} {s m m' : σ} {before : List A} {a : A}
    (ran : before.foldlM act s = some m) (acted : act m a = some m') :
    noted act note notes s (before ++ [a]) = note (noted act note notes s before) m a := by
  rw [noted_append ran]
  simp only [noted, acted]

/-- Two functions that take the same steps, as far as can be seen, have the same runs. -/
theorem foldlM_seen {τ : Type*} {act' : σ → A → Option σ} {seen : σ → τ} {good : σ → Prop}
    (step : ∀ s u a, good s → good u → seen s = seen u →
      (act s a).map seen = (act' u a).map seen)
    (kept : ∀ s a s', good s → act s a = some s' → good s')
    (kept' : ∀ s a s', good s → act' s a = some s' → good s') {s u : σ} (known : good s)
    (known' : good u) (same : seen s = seen u) (actions : List A) :
    (actions.foldlM act s).map seen = (actions.foldlM act' u).map seen := by
  induction actions generalizing s u with
  | nil => exact congrArg some same
  | cons a rest ih =>
    have next := step s u a known known' same
    rw [List.foldlM_cons, List.foldlM_cons]
    cases acted : act s a with
    | none =>
      rw [acted] at next
      rw [Option.map_eq_none_iff.mp next.symm]
      rfl
    | some s' =>
      rw [acted] at next
      obtain ⟨u', acted', equal⟩ := Option.map_eq_some_iff.mp next.symm
      rw [acted']
      exact ih (kept s a s' known acted) (kept' u a u' known' acted') equal.symm

/-- If busy actions leave less to do and the others no more, a run has no more busy actions than
there was to do. -/
theorem countP_le (measure : σ → Nat) (busy : A → Bool) (kind : A → Prop)
    (step : ∀ s a s', kind a → act s a = some s' → (busy a).toNat + measure s' ≤ measure s)
    {s s' : σ} {actions : List A} (kinds : ∀ a ∈ actions, kind a)
    (ran : actions.foldlM act s = some s') : actions.countP busy + measure s' ≤ measure s := by
  induction actions generalizing s with
  | nil =>
    cases ran
    simp
  | cons a rest ih =>
    obtain ⟨next, acted, ran⟩ := foldlM_cons.mp ran
    obtain ⟨known, kinds⟩ := List.forall_mem_cons.mp kinds
    have first := step s a next known acted
    have later := ih kinds ran
    rw [List.countP_cons]
    cases whether : busy a <;> simp only [whether, Bool.toNat_false, Bool.toNat_true] at first <;>
      simp <;> omega

/-- Whoever can always come nearer to the end can get there. The induction is on how far it is. -/
theorem reaches {good final : σ → Prop} (measure : σ → Nat) (kind : A → Prop)
    (kept : ∀ s (actions : List A) s', good s → (∀ a ∈ actions, kind a) →
      actions.foldlM act s = some s' → good s')
    (goesOn : ∀ s, good s → final s ∨ ∃ (actions : List A) (s' : σ), (∀ a ∈ actions, kind a) ∧
      actions.foldlM act s = some s' ∧ measure s' < measure s) {s : σ} (known : good s) :
    ∃ (rest : List A) (s' : σ), (∀ a ∈ rest, kind a) ∧ rest.foldlM act s = some s' ∧ final s' := by
  induction far : measure s using Nat.strongRecOn generalizing s with
  | ind n ih =>
    rcases goesOn s known with finished | ⟨actions, next, kinds, ran, less⟩
    · exact ⟨[], s, by simp, rfl, finished⟩
    · obtain ⟨rest, s', kinds', ran', finished⟩ :=
        ih (measure next) (by omega) (kept s actions next known kinds ran) rfl
      exact ⟨actions ++ rest, s', List.forall_mem_append.mpr ⟨kinds, kinds'⟩,
        foldlM_append.mpr ⟨next, ran, ran'⟩, finished⟩

end Dialback.Runs
