import Dialback.Retry.History
import Mathlib.Data.List.DropRight
import Mathlib.Data.List.Induction

/-!
A history against the list of everything it was told. The newest failures are kept, as many as it
has room for; both counters agree with the list up to their limit.
-/
namespace Dialback.Retry

/-- What a history is told. -/
inductive Report where
  | failed (fault : AttemptFault)
  | connected

namespace Report

def fault? : Report → Option AttemptFault
  | failed fault => some fault
  | connected => none

def isConnected : Report → Bool
  | failed _ => false
  | connected => true

end Report

/-- All failures, oldest first. -/
def failures (reports : List Report) : List AttemptFault :=
  reports.filterMap Report.fault?

/-- What was told behind the last accepted connect; everything if there was none. -/
def sinceLast (reports : List Report) : List Report :=
  reports.rtakeWhile fun report => !report.isConnected

namespace History

def hear (h : History) : Report → History
  | .failed fault => h.record fault
  | .connected => h.markConnected

/-- The history that was told these reports, oldest first. -/
def of (capacity : Nat) (reports : List Report) : History :=
  reports.foldl hear (withCapacity capacity)

/-- The fields of a history, out of the list. -/
structure Abridges (capacity : Nat) (reports : List Report) (h : History) : Prop where
  room : h.capacity = max capacity 1
  recent : h.recent = (failures reports).rtake (max capacity 1)
  total : h.total = min (failures reports).length countLimit
  since : h.sinceConnected = min (failures (sinceLast reports)).length countLimit

variable {capacity : Nat} {reports : List Report} {h : History} {fault : AttemptFault}

theorem of_concat (capacity : Nat) (reports : List Report) (report : Report) :
    of capacity (reports ++ [report]) = (of capacity reports).hear report := by
  simp [of]

/-! The list, one report longer. -/

theorem failures_failed : failures (reports ++ [.failed fault]) = failures reports ++ [fault] := by
  simp [failures, Report.fault?]

theorem failures_connected : failures (reports ++ [.connected]) = failures reports := by
  simp [failures, Report.fault?]

theorem sinceLast_failed :
    sinceLast (reports ++ [.failed fault]) = sinceLast reports ++ [.failed fault] :=
  List.rtakeWhile_concat_pos _ _ _ rfl

theorem sinceLast_connected : sinceLast (reports ++ [.connected]) = [] :=
  List.rtakeWhile_concat_neg _ _ _ (by simp [Report.isConnected])

theorem failures_sinceLast_le (reports : List Report) :
    (failures (sinceLast reports)).length ≤ (failures reports).length := by
  obtain ⟨earlier, whole⟩ := List.rtakeWhile_suffix (fun report => !report.isConnected) reports
  have counted := congrArg (fun all => (failures all).length) whole
  simp only [failures, List.filterMap_append, List.length_append] at counted
  unfold failures sinceLast
  omega

theorem length_rtake {α : Type} (all : List α) (n : Nat) :
    (all.rtake n).length = min n all.length := by
  rw [List.rtake, List.length_drop]
  omega

/-- Room for one more is made at the front. -/
theorem rtake_push {α : Type} (all : List α) (x : α) (n : Nat) :
    (if (all.rtake (n + 1)).length = n + 1 then (all.rtake (n + 1)).tail else all.rtake (n + 1)) ++
      [x] = (all ++ [x]).rtake (n + 1) := by
  rw [List.rtake_concat_succ, length_rtake]
  by_cases full : min (n + 1) all.length = n + 1
  · have place : all.length - (n + 1) + 1 = all.length - n := by omega
    rw [if_pos full, List.rtake, List.rtake, List.tail_drop, place]
  · have unfilled : all.length - (n + 1) = all.length - n := by omega
    rw [if_neg full, List.rtake, List.rtake, unfilled]

/-- There is room for one failure at least. -/
theorem exists_room (capacity : Nat) : ∃ n, max capacity 1 = n + 1 :=
  ⟨max capacity 1 - 1, by omega⟩

theorem bump_min (n : Nat) : bump (min n countLimit) = min (n + 1) countLimit := by
  unfold bump
  omega

/-! The history, one report longer. -/

theorem Abridges.opened (capacity : Nat) : Abridges capacity [] (withCapacity capacity) where
  room := rfl
  recent := by simp [withCapacity, failures]
  total := by simp [withCapacity, failures]
  since := by simp [withCapacity, failures, sinceLast]

theorem Abridges.record (abridges : Abridges capacity reports h) (fault : AttemptFault) :
    Abridges capacity (reports ++ [.failed fault]) (h.record fault) := by
  obtain ⟨n, room⟩ := exists_room capacity
  constructor
  · exact abridges.room
  · rw [failures_failed, room, ← rtake_push, ← room, ← abridges.recent, ← abridges.room]
    rfl
  · rw [failures_failed, List.length_append, List.length_singleton, ← bump_min, ← abridges.total]
    rfl
  · rw [sinceLast_failed, failures_failed, List.length_append, List.length_singleton, ← bump_min,
      ← abridges.since]
    rfl

theorem Abridges.markConnected (abridges : Abridges capacity reports h) :
    Abridges capacity (reports ++ [.connected]) h.markConnected := by
  constructor
  · exact abridges.room
  · rw [failures_connected]
    exact abridges.recent
  · rw [failures_connected]
    exact abridges.total
  · rw [sinceLast_connected]
    rfl

theorem abridges_of (capacity : Nat) (reports : List Report) :
    Abridges capacity reports (of capacity reports) := by
  induction reports using List.reverseRecOn with
  | nil => exact .opened capacity
  | append_singleton reports report ih =>
    rw [of_concat]
    cases report with
    | failed fault => exact ih.record fault
    | connected => exact ih.markConnected

/-! What the history shows. -/

/-- What is asked of a history is answered as the list of all reports would. -/
structure Answers (capacity : Nat) (reports : List Report) (h : History) : Prop where
  /-- The newest failures, as many as there is room for, oldest first. -/
  kept : h.recent <:+ failures reports
  count : h.recent.length = min (max capacity 1) (failures reports).length
  last : h.last? = (failures reports).getLast?
  unfailed : h.last? = none ↔ (failures reports).length = 0
  total : h.total = min (failures reports).length 4_294_967_295
  since : h.sinceConnected = min (failures (sinceLast reports)).length 4_294_967_295
  since_le : h.sinceConnected ≤ h.total
  empty : h.isEmpty = true ↔ (failures reports).length = 0
  /-- An accepted connect restarts one counter and leaves everything else as it is. -/
  connected : h.markConnected = { h with sinceConnected := 0 }

theorem Abridges.last (abridges : Abridges capacity reports h) :
    h.last? = (failures reports).getLast? := by
  obtain ⟨n, room⟩ := exists_room capacity
  rw [last?, abridges.recent, room]
  generalize failures reports = all
  induction all using List.reverseRecOn with
  | nil => simp
  | append_singleton all fault =>
    rw [List.rtake_concat_succ, List.getLast?_concat, List.getLast?_concat]

theorem answers_of_reports (capacity : Nat) (reports : List Report) :
    Answers capacity reports (of capacity reports) := by
  have abridges := abridges_of capacity reports
  constructor
  case kept =>
    rw [abridges.recent, List.rtake]
    exact List.drop_suffix _ _
  case count => rw [abridges.recent, length_rtake]
  case last => exact abridges.last
  case unfailed => rw [abridges.last, List.getLast?_eq_none_iff, List.length_eq_zero_iff]
  case total => exact abridges.total
  case since => exact abridges.since
  case since_le =>
    rw [abridges.since, abridges.total]
    have fewer := failures_sinceLast_le reports
    omega
  case empty =>
    rw [isEmpty, abridges.total, beq_iff_eq, countLimit]
    omega
  case connected => rfl

/-- No room counts as room for one. -/
example : (of 0 [.failed (.opening .closed), .connected, .failed (.call .handlerPanicked)]).recent =
    [.call .handlerPanicked] := by
  decide

end History
end Dialback.Retry
