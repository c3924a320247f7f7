import Dialback.Proofs.Retry.History
import Dialback.Retry.Policy

/-!
The retry budget. A budget of `n` allows for `n` retries, whatever was connected in between, and
what follows is given up for good. The count of failures stays at its limit, so the largest budget
is never used up: it allows for any number of retries.
-/
namespace Dialback.Retry

/-- What a policy says to each failure, when it is asked right behind it. -/
def answers (policy : Policy) (h : History) : List Report → List (Option Duration)
  | [] => []
  | .failed fault :: rest => policy (h.record fault) :: answers policy (h.record fault) rest
  | .connected :: rest => answers policy h.markConnected rest

/-- There were more failures than the budget allows for, and a count can show it. -/
def Spent (budget : UInt32) (failures : Nat) : Prop :=
  budget.toNat < failures ∧ budget.toNat < countLimit

/-- What a budget makes of a policy. -/
structure Budgeted (policy : Policy) (budget : UInt32) : Prop where
  /-- It gives up when the budget is spent, and only then. -/
  spent : ∀ capacity reports,
    policy (.of capacity reports) = none ↔ Spent budget (failures reports).length
  /-- It gives up for good. -/
  final : ∀ capacity reports later,
    policy (.of capacity reports) = none → policy (.of capacity (reports ++ later)) = none
  /-- As many failures as the budget says are answered by retries, and none behind them. -/
  retries : budget.toNat < countLimit → ∀ capacity reports,
    (answers policy (.withCapacity capacity) reports).map Option.isSome =
      List.replicate (min budget.toNat (failures reports).length) true ++
        List.replicate ((failures reports).length - budget.toNat) false
  /-- The largest budget is no limit. -/
  unlimited : budget.toNat = countLimit → ∀ capacity reports,
    (answers policy (.withCapacity capacity) reports).map Option.isSome =
      List.replicate (failures reports).length true

variable {policy : Policy} {budget : UInt32} {capacity n : Nat} {reports : List Report}

/-! Many equal reports. -/

namespace History

theorem failures_append (reports later : List Report) :
    failures (reports ++ later) = failures reports ++ failures later :=
  List.filterMap_append

theorem failures_replicate (n : Nat) (fault : AttemptFault) :
    failures (List.replicate n (.failed fault)) = List.replicate n fault :=
  List.filterMap_replicate_of_some rfl

theorem sinceLast_replicate (n : Nat) (fault : AttemptFault) (reports : List Report) :
    sinceLast (reports ++ List.replicate n (.failed fault)) =
      sinceLast reports ++ List.replicate n (.failed fault) := by
  induction n with
  | zero => simp
  | succ n ih => rw [List.replicate_succ', ← List.append_assoc, sinceLast_failed, ih,
      List.append_assoc]

/-- Only as many of the newest matter as there is room for. -/
theorem rtake_replicate {α : Type} (all : List α) (x : α) (n c : Nat) :
    (all.rtake c ++ List.replicate (min n c) x).rtake c = (all ++ List.replicate n x).rtake c := by
  have shown : (all.rtake c).length = min c all.length := length_rtake all c
  simp only [List.rtake, List.length_append, List.length_replicate, List.drop_append,
    List.drop_drop, List.drop_replicate, List.length_drop] at shown ⊢
  have newest : min n c - (all.length - (all.length - c) + min n c - c -
      (all.length - (all.length - c))) = n - (all.length + n - c - all.length) := by omega
  rw [newest]
  congr 1
  rcases Nat.lt_or_ge n c with few | many
  · congr 1
    omega
  · rw [List.drop_eq_nil_of_le (by omega), List.drop_eq_nil_of_le (by omega)]

/-- What one report at a time would say. -/
theorem recordTimes_of (capacity : Nat) (reports : List Report) (fault : AttemptFault) (n : Nat) :
    (of capacity reports).recordTimes fault n =
      of capacity (reports ++ List.replicate n (.failed fault)) := by
  have before := abridges_of capacity reports
  have after := abridges_of capacity (reports ++ List.replicate n (.failed fault))
  rw [recordTimes, History.mk.injEq]
  refine ⟨?_, ?_, ?_, ?_⟩
  · rw [after.total, before.total, failures_append, failures_replicate, List.length_append,
      List.length_replicate]
    omega
  · rw [after.since, before.since, sinceLast_replicate, failures_append, failures_replicate,
      List.length_append, List.length_replicate]
    omega
  · have kept := rtake_replicate (failures reports) fault n (max capacity 1)
    rw [after.recent, failures_append, failures_replicate, ← kept, before.recent, before.room]
    rfl
  · rw [after.room, before.room]

end History

/-! The count against the budget. -/

theorem exhausted_of (budget : UInt32) (capacity : Nat) (reports : List Report) :
    exhausted (some budget) (.of capacity reports) = true ↔
      Spent budget (failures reports).length := by
  have counted := (History.abridges_of capacity reports).total
  simp only [exhausted, Option.any_some, decide_eq_true_eq, counted, Spent]
  omega

theorem Spent.later (spent : Spent budget (failures reports).length)
    (later : List Report) : Spent budget (failures (reports ++ later)).length := by
  rw [History.failures_append, List.length_append]
  exact ⟨by have := spent.1; omega, spent.2⟩

/-- A failure is answered by what the history says with that failure in it. -/
theorem answers_concat (policy : Policy) (capacity : Nat) (reports : List Report)
    (report : Report) : answers policy (.withCapacity capacity) (reports ++ [report]) =
      answers policy (.withCapacity capacity) reports ++
        (report.fault?.map fun _ => policy (.of capacity (reports ++ [report]))).toList := by
  rw [History.of]
  generalize History.withCapacity capacity = h
  induction reports generalizing h with
  | nil => cases report <;> rfl
  | cons first rest ih =>
    cases first with
    | failed fault =>
      simp only [List.cons_append, answers, List.foldl_cons, History.hear, ih]
    | connected =>
      simp only [List.cons_append, answers, List.foldl_cons, History.hear, ih]

theorem isSome_answer (asked : policy (.of capacity reports) = none ↔ Spent budget n)
    (countable : budget.toNat < countLimit) :
    (policy (.of capacity reports)).isSome = decide (n ≤ budget.toNat) := by
  rw [Bool.eq_iff_iff, Option.isSome_iff_ne_none, ne_eq, asked, decide_eq_true_eq, Spent]
  omega

section Gate

variable (gate : ∀ h, policy h = none ↔ exhausted (some budget) h = true)
include gate

theorem gives_up_iff (capacity : Nat) (reports : List Report) :
    policy (.of capacity reports) = none ↔ Spent budget (failures reports).length := by
  rw [gate, exhausted_of]

theorem answers_retries (countable : budget.toNat < countLimit) (capacity : Nat)
    (reports : List Report) :
    (answers policy (.withCapacity capacity) reports).map Option.isSome =
      List.replicate (min budget.toNat (failures reports).length) true ++
        List.replicate ((failures reports).length - budget.toNat) false := by
  induction reports using List.reverseRecOn with
  | nil => simp [answers, failures]
  | append_singleton reports report ih =>
    rw [answers_concat, List.map_append, ih]
    cases report with
    | connected => simp [Report.fault?, History.failures_connected]
    | failed fault =>
      have answer := isSome_answer (gives_up_iff gate capacity (reports ++ [.failed fault])) countable
      rw [History.failures_failed, List.length_append, List.length_singleton] at answer ⊢
      simp only [Report.fault?, Option.map_some, Option.toList_some, List.map_singleton, answer]
      rcases Nat.lt_or_ge (failures reports).length budget.toNat with within | beyond
      · have none_refused : (failures reports).length - budget.toNat = 0 := by omega
        have still_none : (failures reports).length + 1 - budget.toNat = 0 := by omega
        have one_more : (failures reports).length + 1 ≤ budget.toNat := within
        rw [none_refused, still_none, Nat.min_eq_right within.le, Nat.min_eq_right one_more,
          List.replicate_succ', decide_eq_true one_more, List.replicate_zero, List.append_nil,
          List.append_nil]
      · have one_more : (failures reports).length + 1 - budget.toNat =
          (failures reports).length - budget.toNat + 1 := by omega
        rw [one_more, Nat.min_eq_left beyond, Nat.min_eq_left (by omega), List.replicate_succ',
          List.append_assoc, decide_eq_false (by omega)]

theorem answers_unlimited (largest : budget.toNat = countLimit) (capacity : Nat)
    (reports : List Report) :
    (answers policy (.withCapacity capacity) reports).map Option.isSome =
      List.replicate (failures reports).length true := by
  induction reports using List.reverseRecOn with
  | nil => rfl
  | append_singleton reports report ih =>
    rw [answers_concat, List.map_append, ih]
    cases report with
    | connected => simp [Report.fault?, History.failures_connected]
    | failed fault =>
      have goes_on : policy (.of capacity (reports ++ [.failed fault])) ≠ none := by
        rw [ne_eq, gives_up_iff gate, Spent]
        omega
      rw [History.failures_failed, List.length_append, List.length_singleton, List.replicate_succ']
      simp [Report.fault?, Option.isSome_iff_ne_none.mpr goes_on]

theorem budgeted_of_gate : Budgeted policy budget where
  spent := gives_up_iff gate
  final capacity reports later gave_up := by
    rw [gives_up_iff gate] at gave_up ⊢
    exact gave_up.later later
  retries := answers_retries gate
  unlimited := answers_unlimited gate

end Gate

/-! The policies with a budget. -/

theorem fixed_eq_none (delay : Duration) (budget : UInt32) (h : History) :
    fixed delay (some budget) h = none ↔ exhausted (some budget) h = true := by
  simp [fixed]

theorem Backoff.policy_eq_none (b : Backoff) (h : History) :
    b.policy h = none ↔ exhausted b.maxRetries h = true := by
  simp [Backoff.policy]

theorem budget_respected (b : Backoff) (delay : Duration) (budget : UInt32) :
    Budgeted (fixed delay (some budget)) budget ∧
      Budgeted { b with maxRetries := some budget }.policy budget :=
  ⟨budgeted_of_gate (fixed_eq_none delay budget),
    budgeted_of_gate (Backoff.policy_eq_none { b with maxRetries := some budget })⟩

/-- More failures than the largest budget says, and still both policies retry. -/
theorem budget_uncounted :
    let reports : List Report := List.replicate 4_294_967_296 (.failed (.opening .closed))
    (4_294_967_295 : UInt32).toNat < (failures reports).length ∧
      fixed .zero (some 4_294_967_295) (.of 1 reports) ≠ none ∧
      { Backoff.standard with maxRetries := some 4_294_967_295 }.policy (.of 1 reports) ≠ none := by
  intro reports
  have count : (failures reports).length = 4_294_967_296 := by
    rw [History.failures_replicate, List.length_replicate]
  have unspent (n : Nat) : ¬ Spent 4_294_967_295 n := fun spent => absurd spent.2 (by decide)
  refine ⟨?_, ?_, ?_⟩
  · rw [count]
    decide
  · rw [ne_eq, gives_up_iff (fixed_eq_none _ _)]
    exact unspent _
  · rw [ne_eq, gives_up_iff (Backoff.policy_eq_none _)]
    exact unspent _

end Dialback.Retry
