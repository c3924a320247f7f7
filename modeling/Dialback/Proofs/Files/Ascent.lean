import Dialback.Files.Path

/-!
What stands above a path. Every step up takes one component away, so there are as many paths above
one as it has components, and they are told apart by their lengths.
-/
namespace Dialback.Files.Path

/-- A path, or what is left of it when components are taken from its end. -/
inductive Above : Path → Path → Prop
  | self (p : Path) : Above p p
  | up {upper p parent : Path} (goes : p.parent? = some parent) (above : Above upper parent) :
      Above upper p

variable {p upper dir parent : Path} {name : String}

/-! Pieces that leave no trace. -/

private theorem filter_dropWhile_idle (pieces : List String) :
    (pieces.dropWhile isIdle).filter (!isIdle ·) = pieces.filter (!isIdle ·) := by
  induction pieces with
  | nil => rfl
  | cons piece rest ih =>
    cases idle : isIdle piece with
    | true => simp [idle, ih]
    | false => simp [idle]

theorem filter_trimEnd (pieces : List String) :
    (trimEnd pieces).filter (!isIdle ·) = pieces.filter (!isIdle ·) := by
  rw [trimEnd, List.filter_reverse, filter_dropWhile_idle, List.filter_reverse,
    List.reverse_reverse]

/-- What is kept ends in a component that counts. -/
theorem trimEnd_cases (pieces : List String) : trimEnd pieces = [] ∨
    ∃ kept last, trimEnd pieces = kept ++ [last] ∧ isIdle last = false := by
  unfold trimEnd
  cases reversed : pieces.reverse.dropWhile isIdle with
  | nil => exact Or.inl rfl
  | cons last rest =>
    refine Or.inr ⟨rest.reverse, last, List.reverse_cons, ?_⟩
    have first := List.head?_dropWhile_not isIdle pieces.reverse
    simpa [reversed] using first

/-! Going up. -/

theorem parent_eq_none : p.parent? = none ↔ p.parts = [] := by
  have same := filter_trimEnd p.pieces
  unfold parent? parts
  rcases trimEnd_cases p.pieces with none | ⟨kept, last, some, counts⟩
  · rw [none] at same ⊢
    by_cases dotted : p.start = .here <;> simp [dotted, ← same]
  · rw [some] at same ⊢
    simp [← same, counts]

/-- Going up takes the last component away. -/
theorem parent_parts (goes : p.parent? = some parent) : parent.parts = p.parts.dropLast ∧
    (parent.start = .root ↔ p.start = .root) := by
  have same := filter_trimEnd p.pieces
  unfold parent? at goes
  rcases trimEnd_cases p.pieces with none | ⟨kept, last, some, counts⟩
  · rw [none] at same goes
    by_cases dotted : p.start = .here
    · simp only [dotted, List.isEmpty_nil, if_true, Option.some.injEq] at goes
      subst goes
      simp [parts, dotted, ← same]
    · simp [dotted] at goes
  · rw [some] at same goes
    have some : (kept ++ [last]).isEmpty = false := by simp
    simp only [some, Bool.false_eq_true, if_false, List.dropLast_concat, Option.some.injEq] at goes
    subst goes
    have end_ : [last].filter (!isIdle ·) = [last] := by simp [counts]
    rw [parts, parts, filter_trimEnd, ← same, List.filter_append, end_, ← List.append_assoc,
      List.dropLast_concat]
    exact ⟨rfl, Iff.rfl⟩

theorem parent_length (goes : p.parent? = some parent) :
    parent.parts.length + 1 = p.parts.length := by
  have some : p.parts ≠ [] := by
    intro none
    rw [parent_eq_none.mpr none] at goes
    cases goes
  have positive := List.length_pos_iff.mpr some
  rw [(parent_parts goes).1, List.length_dropLast]
  omega

/-- The components of what is above stand in front. -/
theorem Above.parts (above : upper.Above p) : upper.parts <+: p.parts := by
  induction above with
  | self => exact List.prefix_rfl
  | up goes above ih =>
    rw [(parent_parts goes).1] at ih
    exact ih.trans (List.dropLast_prefix _)

/-- Paths above the same one are told apart by their lengths. -/
theorem Above.eq_of_length (above : upper.Above p) (above' : dir.Above p)
    (same : upper.parts.length = dir.parts.length) : upper = dir := by
  induction above with
  | self =>
    cases above' with
    | self => rfl
    | up goes above' =>
      have shorter := parent_length goes
      have short := above'.parts.length_le
      omega
  | up goes above ih =>
    have shorter := parent_length goes
    have short := above.parts.length_le
    cases above' with
    | self => omega
    | up goes' above' =>
      cases goes.symm.trans goes'
      exact ih above'

/-- A slash at the end is written only once. -/
theorem names_join (dir : Path) (name : String) : (dir.join name).names = dir.names ++ [name] ∨
    ∃ opening, dir.names = opening ++ [""] ∧ (dir.join name).names = opening ++ [name] := by
  unfold join
  split
  case isTrue slash =>
    obtain ⟨opening, pieces⟩ := List.getLast?_eq_some_iff.mp slash
    refine Or.inr ?_
    cases start : dir.start with
    | here => exact ⟨"." :: opening, by simp [names, start, pieces]⟩
    | root | bare => exact ⟨opening, by simp [names, start, pieces]⟩
  case isFalse => cases start : dir.start <;> simp [names, start]

end Dialback.Files.Path
