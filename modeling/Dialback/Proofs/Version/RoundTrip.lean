import Dialback.Proofs.Version.Grammar
import Mathlib.Data.UInt

/-!
Which versions are read back from the text that is shown for them. A build number is shown only
behind a label and only when it is not zero; what is shown without it can lose blanks at its end or
be taken for a label with a build number.
-/
namespace Dialback.Version

open Text

/-- The numbers as they are shown. -/
def shownNumbers (v : Version) : List Char :=
  decimal v.major.toNat ++ '.' :: decimal v.minor.toNat ++ '.' :: decimal v.patch.toNat

variable {v : Version} {s : String} {numbers before behind tail name : List Char} {build : UInt32}

/-! What is shown. -/

theorem numbers_shown (v : Version) : Numbers v v.shownNumbers :=
  .mk (numeral_decimal v.major) (numeral_decimal v.minor) (numeral_decimal v.patch)

theorem render_release (unlabelled : v.prerelease = "") : v.render.toList = v.shownNumbers := by
  simp [render, shownNumbers, isPrerelease, unlabelled]

theorem render_built (labelled : v.prerelease ≠ "") (built : v.build ≠ 0) : v.render.toList =
    v.shownNumbers ++ '-' :: (v.prerelease.toList ++ '.' :: decimal v.build.toNat) := by
  simp [render, shownNumbers, isPrerelease, labelled, built]

theorem render_unbuilt (labelled : v.prerelease ≠ "") (unbuilt : v.build = 0) :
    v.render.toList = v.shownNumbers ++ '-' :: v.prerelease.toList := by
  simp [render, shownNumbers, isPrerelease, labelled, unbuilt]

/-! What trimming leaves of it. -/

theorem Numbers.ne_nil (told : Numbers v numbers) : numbers ≠ [] := by
  cases told with
  | mk => simp

theorem Numbers.plain (told : Numbers v numbers) : ∀ c ∈ numbers, isBlank c = false := by
  intro c member
  cases told with
  | mk first second third =>
    simp only [List.mem_append, List.mem_cons] at member
    rcases member with (member | rfl | member) | rfl | member
    · exact first.plain c member
    · decide
    · exact second.plain c member
    · decide
    · exact third.plain c member

theorem Numbers.trim_eq (told : Numbers v numbers) : trim numbers = numbers :=
  trim_eq_self (startsBlank_of_plain told.plain) (endsBlank_of_plain told.plain)

/-- Numbers and hyphen stay whatever stands behind them. -/
theorem Numbers.trim_hyphened (told : Numbers v numbers) :
    trim (numbers ++ '-' :: tail) = numbers ++ '-' :: trimEnd tail := by
  obtain ⟨after, whole, blank⟩ := trimEnd_around tail
  apply Trims.trim_eq
  constructor
  · refine ⟨[], after, ?_, by simp, blank⟩
    rw [List.nil_append, List.append_assoc, List.cons_append, ← whole]
  · rw [startsBlank_append told.ne_nil]
    exact startsBlank_of_plain told.plain
  · rw [endsBlank_append (List.cons_ne_nil _ _)]
    by_cases nothing : trimEnd tail = []
    · rw [nothing]
      decide
    · rw [← List.singleton_append, endsBlank_append nothing]
      exact endsBlank_trimEnd tail

theorem trimEnd_numbered (numeral : Numeral behind build) :
    trimEnd (name ++ '.' :: behind) = name ++ '.' :: behind := by
  apply trimEnd_eq_self
  rw [← List.singleton_append, ← List.append_assoc, endsBlank_append numeral.ne_nil]
  exact endsBlank_of_plain numeral.plain

/-! What is read back. -/

/-- A label that is all there is has no build number. -/
theorem Labelled.shorter_or_whole (labelled : Labelled tail name build) :
    name.length < tail.length ∨
      (name = tail ∧ tail ≠ [] ∧ build = 0 ∧ ¬ EndsNumbered tail) := by
  cases labelled with
  | numbered =>
    left
    rw [List.length_append, List.length_cons]
    omega
  | whole nonempty unnumbered => exact Or.inr ⟨rfl, nonempty, rfl, unnumbered⟩

theorem labelled_trimEnd : Labelled (trimEnd name) name 0 ↔
    name ≠ [] ∧ endsBlank name = false ∧ ¬ EndsNumbered name := by
  constructor
  · intro labelled
    have short := length_trimEnd_le name
    have plain := endsBlank_trimEnd name
    rcases labelled.shorter_or_whole with shorter | ⟨same, nonempty, _, unnumbered⟩
    · omega
    · rw [← same] at nonempty plain unnumbered
      exact ⟨nonempty, plain, unnumbered⟩
  · rintro ⟨nonempty, plain, unnumbered⟩
    rw [trimEnd_eq_self plain]
    exact .whole nonempty unnumbered

theorem written_release (unlabelled : v.prerelease = "") :
    Written v (trim v.render.toList) ↔ v.build = 0 := by
  have told := numbers_shown v
  rw [render_release unlabelled, told.trim_eq, written_of_no_hyphen told.no_hyphen]
  simp [told, unlabelled]

theorem written_built (labelled : v.prerelease ≠ "") (built : v.build ≠ 0) :
    Written v (trim v.render.toList) := by
  have told := numbers_shown v
  have numeral := numeral_decimal v.build
  rw [render_built labelled built, told.trim_hyphened, trimEnd_numbered numeral]
  exact .prerelease told (.numbered numeral)

theorem written_unbuilt (labelled : v.prerelease ≠ "") (unbuilt : v.build = 0) :
    Written v (trim v.render.toList) ↔
      endsBlank v.prerelease.toList = false ∧ ¬ EndsNumbered v.prerelease.toList := by
  have told := numbers_shown v
  have nonempty : v.prerelease.toList ≠ [] := by simpa using labelled
  rw [render_unbuilt labelled unbuilt, told.trim_hyphened, written_of_hyphen told.no_hyphen,
    unbuilt, labelled_trimEnd]
  simp [told, nonempty]

/-- What is shown for the label and the build number tells other ones, or none: a number behind an
empty label is not shown, and without a number behind it the label loses blanks at its end and gives
up a numeral there. -/
def Drifts (name : List Char) (build : UInt32) : Prop :=
  (name = [] ∧ build ≠ 0) ∨
    (name ≠ [] ∧ build = 0 ∧ (endsBlank name = true ∨ EndsNumbered name))

theorem written_render (v : Version) :
    Written v (trim v.render.toList) ↔ ¬ Drifts v.prerelease.toList v.build := by
  unfold Drifts
  by_cases unlabelled : v.prerelease = ""
  · rw [written_release unlabelled]
    simp [unlabelled]
  · have labelled : v.prerelease.toList ≠ [] := by simpa using unlabelled
    by_cases unbuilt : v.build = 0
    · rw [written_unbuilt unlabelled unbuilt]
      simp [labelled, unbuilt]
    · have written := written_built unlabelled unbuilt
      simp [labelled, unbuilt, written]

/-- A version is read back as itself if it is a release, if it has a build number behind its label,
or if the label alone ends neither with a blank nor with what reads as a build number. -/
theorem parse_render_iff (v : Version) : parse v.render = .ok v ↔
    (v.prerelease = "" ∧ v.build = 0) ∨
    (v.prerelease ≠ "" ∧ 0 < v.build) ∨
    (v.prerelease ≠ "" ∧ v.build = 0 ∧ endsBlank v.prerelease.toList = false ∧
      ¬ EndsNumbered v.prerelease.toList) := by
  have nothing : v.prerelease.toList = [] ↔ v.prerelease = "" := String.toList_eq_nil_iff
  rw [parse_eq_ok, written_render, Drifts, nothing, UInt32.pos_iff_ne_zero, ← Bool.not_eq_true]
  tauto

/-- A numeral is no build number without a dot before it. -/
example : parse (render ⟨1, 2, 3, 0, "5"⟩) = .ok ⟨1, 2, 3, 0, "5"⟩ := by decide

/-! Texts that are read, shown and read again. -/

/-- Behind the hyphen of the text stand a label and a build number that drift. -/
def Loses (text : List Char) : Prop :=
  ∃ numbers name behind build, text = numbers ++ '-' :: (name ++ '.' :: behind) ∧
    '-' ∉ numbers ∧ Numeral behind build ∧ Drifts name build

theorem Loses.hyphen {text : List Char} (loses : Loses text) : '-' ∈ text := by
  obtain ⟨numbers, name, behind, build, rfl, _⟩ := loses
  simp

/-- There is one place for the label and one for the build number. -/
theorem loses_numbered (absent : '-' ∉ numbers) (numeral : Numeral behind build) :
    Loses (numbers ++ '-' :: (name ++ '.' :: behind)) ↔ Drifts name build := by
  constructor
  · rintro ⟨numbers', name', behind', build', same, absent', numeral', drifts⟩
    obtain ⟨_, tails⟩ := append_inj_first absent absent' same
    have told := congrArg label tails
    rw [label_numbered numeral, label_numbered numeral', Prod.mk.injEq] at told
    rwa [told.1, told.2]
  · intro drifts
    exact ⟨numbers, name, behind, build, rfl, absent, numeral, drifts⟩

theorem not_loses_unnumbered (absent : '-' ∉ numbers) (unnumbered : ¬ EndsNumbered tail) :
    ¬ Loses (numbers ++ '-' :: tail) := by
  rintro ⟨numbers', name, behind, build, same, absent', numeral, _⟩
  obtain ⟨_, tails⟩ := append_inj_first absent absent' same
  exact unnumbered ⟨name, behind, build, tails, numeral⟩

/-- A version that was read from a text is shown as one that reads the same, unless the text has a
build number that is lost. -/
theorem reread_iff (accepted : parse s = .ok v) :
    parse v.render = .ok v ↔ ¬ Loses (trim s.toList) := by
  have finish : endsBlank (trim s.toList) = false := (trims_trim s.toList).finish
  rw [parse_eq_ok] at accepted ⊢
  rw [written_render]
  generalize trim s.toList = text at accepted finish
  cases accepted with
  | release told unlabelled unbuilt =>
    have lossless : ¬ Loses text := fun loses => told.no_hyphen loses.hyphen
    simp [lossless, Drifts, unlabelled, unbuilt]
  | @prerelease numbers tail told labelled =>
    generalize v.prerelease.toList = name at labelled ⊢
    generalize v.build = build at labelled ⊢
    cases labelled with
    | numbered numeral => rw [loses_numbered told.no_hyphen numeral]
    | whole nonempty unnumbered =>
      have plain : endsBlank tail = false := by
        rwa [← List.singleton_append, ← List.append_assoc, endsBlank_append nonempty] at finish
      have lossless := not_loses_unnumbered told.no_hyphen unnumbered
      simp [lossless, Drifts, nonempty, plain, unnumbered]

theorem reread_iff_candidate : parse " 2.0.0-rc.1.7\n" = .ok ⟨2, 0, 0, 7, "rc.1"⟩ ∧
    (parse (render ⟨2, 0, 0, 7, "rc.1"⟩) = .ok ⟨2, 0, 0, 7, "rc.1"⟩ ↔
      ¬ Loses (trim " 2.0.0-rc.1.7\n".toList)) := by
  have accepted : parse " 2.0.0-rc.1.7\n" = .ok ⟨2, 0, 0, 7, "rc.1"⟩ := by decide
  exact ⟨accepted, reread_iff accepted⟩

/-- A number behind an empty label is not shown; a label in front of zero is shown alone and then
reads as a label with a number, or not at all. -/
theorem reread_drifts :
    (parse "1.2.3-.5" = .ok ⟨1, 2, 3, 5, ""⟩ ∧
      parse (render ⟨1, 2, 3, 5, ""⟩) = .ok ⟨1, 2, 3, 0, ""⟩) ∧
    (parse "1.2.3-a.1.0" = .ok ⟨1, 2, 3, 0, "a.1"⟩ ∧
      parse (render ⟨1, 2, 3, 0, "a.1"⟩) = .ok ⟨1, 2, 3, 1, "a"⟩) ∧
    (parse "1.2.3- .0" = .ok ⟨1, 2, 3, 0, " "⟩ ∧
      parse (render ⟨1, 2, 3, 0, " "⟩) = .error ⟨"1.2.3- "⟩) := by
  decide

end Dialback.Version
