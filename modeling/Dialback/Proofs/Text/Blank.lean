import Dialback.Proofs.Text.Numeral
import Dialback.Text.Blank
import Mathlib.Data.List.Basic
import Mathlib.Data.List.TakeWhile

/-!
Trimming takes the blanks off both ends of a text: what is left has none there, and no other part of
the text is left when its blanks are taken off. Numerals have no blanks.
-/
namespace Dialback.Text

def startsBlank (cs : List Char) : Bool :=
  cs.head?.any isBlank

def endsBlank (cs : List Char) : Bool :=
  cs.getLast?.any isBlank

/-- `middle` is `cs` without the blanks at its ends. -/
structure Trims (cs middle : List Char) : Prop where
  around : ∃ before after, cs = before ++ middle ++ after ∧
    (∀ c ∈ before, isBlank c = true) ∧ ∀ c ∈ after, isBlank c = true
  start : startsBlank middle = false
  finish : endsBlank middle = false

variable {before after middle cs ds : List Char}

theorem startsBlank_reverse (cs : List Char) : startsBlank cs.reverse = endsBlank cs := by
  rw [startsBlank, endsBlank, List.head?_reverse]

theorem startsBlank_append (nonempty : cs ≠ []) : startsBlank (cs ++ ds) = startsBlank cs := by
  rw [startsBlank, startsBlank, List.head?_append_of_ne_nil _ nonempty]

theorem endsBlank_append (nonempty : ds ≠ []) : endsBlank (cs ++ ds) = endsBlank ds := by
  rw [endsBlank, endsBlank, List.getLast?_append_of_ne_nil _ nonempty]

theorem startsBlank_of_plain (plain : ∀ c ∈ cs, isBlank c = false) : startsBlank cs = false := by
  cases cs with
  | nil => rfl
  | cons c cs => exact plain c List.mem_cons_self

theorem endsBlank_of_plain (plain : ∀ c ∈ cs, isBlank c = false) : endsBlank cs = false := by
  rw [← startsBlank_reverse]
  apply startsBlank_of_plain
  intro c member
  exact plain c (List.mem_reverse.mp member)

/-! One end. -/

theorem startsBlank_trimStart (cs : List Char) : startsBlank (trimStart cs) = false := by
  induction cs with
  | nil => rfl
  | cons c cs ih =>
    by_cases blank : isBlank c = true
    · rw [trimStart, List.dropWhile_cons_of_pos blank]
      exact ih
    · rw [trimStart, List.dropWhile_cons_of_neg blank]
      simpa [startsBlank] using blank

theorem trimStart_append (blank : ∀ c ∈ before, isBlank c = true)
    (start : startsBlank cs = false) : trimStart (before ++ cs) = cs := by
  rw [trimStart, List.dropWhile_append_of_pos blank]
  cases cs with
  | nil => rfl
  | cons c cs => exact List.dropWhile_cons_of_neg (by simpa [startsBlank] using start)

theorem trimStart_around (cs : List Char) :
    ∃ before, cs = before ++ trimStart cs ∧ ∀ c ∈ before, isBlank c = true := by
  refine ⟨cs.takeWhile isBlank, List.takeWhile_append_dropWhile.symm, ?_⟩
  intro c member
  exact List.mem_takeWhile_imp member

/-! The other end, by reversal. -/

theorem trimEnd_eq (cs : List Char) : trimEnd cs = (trimStart cs.reverse).reverse := rfl

theorem endsBlank_trimEnd (cs : List Char) : endsBlank (trimEnd cs) = false := by
  rw [← startsBlank_reverse, trimEnd_eq, List.reverse_reverse]
  exact startsBlank_trimStart cs.reverse

theorem trimEnd_append (blank : ∀ c ∈ after, isBlank c = true) (finish : endsBlank cs = false) :
    trimEnd (cs ++ after) = cs := by
  rw [trimEnd_eq, List.reverse_append, trimStart_append, List.reverse_reverse]
  · intro c member
    exact blank c (List.mem_reverse.mp member)
  · rwa [startsBlank_reverse]

theorem trimEnd_eq_self (finish : endsBlank cs = false) : trimEnd cs = cs := by
  have same := trimEnd_append (by simp : ∀ c ∈ [], isBlank c = true) finish
  rwa [List.append_nil] at same

theorem trimEnd_around (cs : List Char) :
    ∃ after, cs = trimEnd cs ++ after ∧ ∀ c ∈ after, isBlank c = true := by
  obtain ⟨before, whole, blank⟩ := trimStart_around cs.reverse
  refine ⟨before.reverse, ?_, ?_⟩
  · rw [trimEnd_eq, ← List.reverse_append, ← whole, List.reverse_reverse]
  · intro c member
    exact blank c (List.mem_reverse.mp member)

theorem startsBlank_trimEnd (start : startsBlank cs = false) :
    startsBlank (trimEnd cs) = false := by
  obtain ⟨after, whole, _⟩ := trimEnd_around cs
  by_cases nothing : trimEnd cs = []
  · rw [nothing]
    rfl
  · rwa [whole, startsBlank_append nothing] at start

theorem length_trimEnd_le (cs : List Char) : (trimEnd cs).length ≤ cs.length := by
  obtain ⟨after, whole, _⟩ := trimEnd_around cs
  have longer := congrArg List.length whole
  rw [List.length_append] at longer
  omega

/-! Both ends. -/

theorem trims_trim (cs : List Char) : Trims cs (trim cs) := by
  obtain ⟨before, whole, blankBefore⟩ := trimStart_around cs
  obtain ⟨after, rest, blankAfter⟩ := trimEnd_around (trimStart cs)
  constructor
  · refine ⟨before, after, ?_, blankBefore, blankAfter⟩
    rw [trim, List.append_assoc, ← rest, ← whole]
  · exact startsBlank_trimEnd (startsBlank_trimStart cs)
  · exact endsBlank_trimEnd (trimStart cs)

theorem Trims.trim_eq (trims : Trims cs middle) : trim cs = middle := by
  obtain ⟨before, after, rfl, blankBefore, blankAfter⟩ := trims.around
  by_cases nothing : middle = []
  · -- All is blank, and nothing tells which end a blank belongs to.
    subst nothing
    have blank : ∀ c ∈ before ++ [] ++ after, isBlank c = true := by
      intro c member
      rw [List.append_nil] at member
      exact (List.mem_append.mp member).elim (blankBefore c) (blankAfter c)
    rw [trim, trimStart, List.dropWhile_eq_nil_iff.mpr blank]
    rfl
  · have start : startsBlank (middle ++ after) = false := by
      rw [startsBlank_append nothing]
      exact trims.start
    rw [trim, List.append_assoc, trimStart_append blankBefore start]
    exact trimEnd_append blankAfter trims.finish

theorem trim_eq_self (start : startsBlank cs = false) (finish : endsBlank cs = false) :
    trim cs = cs := by
  apply Trims.trim_eq
  constructor
  · exact ⟨[], [], by simp, by simp, by simp⟩
  · exact start
  · exact finish

/-! Numerals. -/

theorem isBlank_of_digit {c : Char} (digit : c.isDigit = true) : isBlank c = false := by
  have bounds : 48 ≤ c.toNat ∧ c.toNat ≤ 57 := by
    simpa [Char.isDigit, UInt32.le_iff_toNat_le] using digit
  simp only [isBlank, Bool.or_eq_false_iff, Bool.and_eq_false_iff, decide_eq_false_iff_not,
    beq_eq_false_iff_ne]
  omega

theorem Numeral.plain {n : UInt32} (numeral : Numeral cs n) : ∀ c ∈ cs, isBlank c = false := by
  intro c member
  rcases numeral.chars c member with rfl | digit
  · decide
  · exact isBlank_of_digit digit

end Dialback.Text
