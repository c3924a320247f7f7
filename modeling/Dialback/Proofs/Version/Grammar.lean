import Dialback.Proofs.Text.Blank
import Dialback.Proofs.Text.Numeral
import Dialback.Version

/-!
The texts that are versions. Between the blanks at its ends such a text has three word numerals with
dots between them and, behind the first hyphen, a label. A word numeral behind the last dot of the
label is the build number. Reading accepts these texts and gives back any other as it came.
-/
namespace Dialback.Version

open Text

/-- Three numerals with dots between them. -/
inductive Numbers (v : Version) : List Char → Prop
  | mk {major minor patch : List Char} (first : Numeral major v.major)
      (second : Numeral minor v.minor) (third : Numeral patch v.patch) :
      Numbers v (major ++ '.' :: minor ++ '.' :: patch)

/-- A dot and a numeral stand at the end. The numeral has no dot, so the dot is the last one. -/
def EndsNumbered (cs : List Char) : Prop :=
  ∃ before behind n, cs = before ++ '.' :: behind ∧ Numeral behind n

/-- Label and build number of what stands behind the hyphen. -/
inductive Labelled : List Char → List Char → UInt32 → Prop
  | numbered {before behind : List Char} {build : UInt32} (numeral : Numeral behind build) :
      Labelled (before ++ '.' :: behind) before build
  | whole {tail : List Char} (nonempty : tail ≠ []) (unnumbered : ¬ EndsNumbered tail) :
      Labelled tail tail 0

/-- The text, without blanks around it, is one of the version. -/
inductive Written (v : Version) : List Char → Prop
  | release {numbers : List Char} (told : Numbers v numbers) (unlabelled : v.prerelease = "")
      (unbuilt : v.build = 0) : Written v numbers
  | prerelease {numbers tail : List Char} (told : Numbers v numbers)
      (labelled : Labelled tail v.prerelease.toList v.build) :
      Written v (numbers ++ '-' :: tail)

variable {v : Version} {s : String} {sep : Char} {cs before behind tail text : List Char}
  {build : UInt32}

/-! Splitting at the first and at the last separator. -/

theorem others_of_not_mem (absent : sep ∉ cs) : ∀ c ∈ cs, (c != sep) = true := by
  intro c member
  apply bne_iff_ne.mpr
  rintro rfl
  exact absent member

theorem dropWhile_of_not_mem (absent : sep ∉ cs) : cs.dropWhile (· != sep) = [] :=
  List.dropWhile_eq_nil_iff.mpr (others_of_not_mem absent)

theorem dropWhile_until (absent : sep ∉ before) :
    (before ++ sep :: behind).dropWhile (· != sep) = sep :: behind := by
  rw [List.dropWhile_append_of_pos (others_of_not_mem absent),
    List.dropWhile_cons_of_neg (by simp)]

theorem takeWhile_until (absent : sep ∉ before) :
    (before ++ sep :: behind).takeWhile (· != sep) = before := by
  rw [List.takeWhile_append_of_pos (others_of_not_mem absent),
    List.takeWhile_cons_of_neg (by simp), List.append_nil]

theorem splitFirst_of_not_mem (absent : sep ∉ cs) : splitFirst sep cs = (cs, none) := by
  rw [splitFirst, dropWhile_of_not_mem absent]

theorem splitFirst_append (absent : sep ∉ before) :
    splitFirst sep (before ++ sep :: behind) = (before, some behind) := by
  rw [splitFirst, dropWhile_until absent, takeWhile_until absent]

theorem splitLast?_of_not_mem (absent : sep ∉ cs) : splitLast? sep cs = none := by
  rw [splitLast?, dropWhile_of_not_mem (by rwa [List.mem_reverse])]

theorem splitLast?_append (absent : sep ∉ behind) :
    splitLast? sep (before ++ sep :: behind) = some (before, behind) := by
  have free : sep ∉ behind.reverse := by rwa [List.mem_reverse]
  have reversed : (before ++ sep :: behind).reverse = behind.reverse ++ sep :: before.reverse := by
    simp
  rw [splitLast?, reversed, dropWhile_until free, takeWhile_until free]
  simp only [List.reverse_reverse]

theorem first_cases (sep : Char) (cs : List Char) : sep ∉ cs ∨
    ∃ before behind, cs = before ++ sep :: behind ∧ sep ∉ before := by
  by_cases member : sep ∈ cs
  · exact Or.inr (List.eq_append_cons_of_mem member)
  · exact Or.inl member

theorem last_cases (sep : Char) (cs : List Char) : sep ∉ cs ∨
    ∃ before behind, cs = before ++ sep :: behind ∧ sep ∉ behind := by
  rcases first_cases sep cs.reverse with absent | ⟨before, behind, reversed, absent⟩
  · exact Or.inl fun member => absent (List.mem_reverse.mpr member)
  · refine Or.inr ⟨behind.reverse, before.reverse, ?_, by rwa [List.mem_reverse]⟩
    rw [← List.reverse_reverse cs, reversed]
    simp

/-- The first separator is in one place only. -/
theorem append_inj_first {before' behind' : List Char} (absent : sep ∉ before)
    (absent' : sep ∉ before') (same : before ++ sep :: behind = before' ++ sep :: behind') :
    before = before' ∧ behind = behind' := by
  have cut := congrArg (splitFirst sep) same
  rw [splitFirst_append absent, splitFirst_append absent', Prod.mk.injEq, Option.some.injEq] at cut
  exact cut

/-! The numbers. -/

theorem Numbers.no_hyphen (told : Numbers v cs) : '-' ∉ cs := by
  cases told with
  | mk first second third =>
    have free {part : List Char} {n : UInt32} (numeral : Numeral part n) : '-' ∉ part :=
      numeral.not_mem (by decide) (by decide)
    simp only [List.mem_append, List.mem_cons, not_or]
    exact ⟨⟨free first, by decide, free second⟩, by decide, free third⟩

theorem core?_eq_some : core? cs = some (v.major, v.minor, v.patch) ↔ Numbers v cs := by
  constructor
  · intro read
    unfold core? at read
    split at read
    case h_2 => cases read
    case h_1 major minor patch parts =>
      have joined : ['.'].intercalate (cs.splitOn '.') = cs := List.intercalate_splitOn '.'
      have whole : cs = major ++ '.' :: minor ++ '.' :: patch := by
        rw [← joined, parts]
        simp [List.intercalate]
      split at read
      case h_2 => cases read
      case h_1 first second third =>
        cases read
        rw [uint32?_eq_some] at first second third
        rw [whole]
        exact .mk first second third
  · rintro ⟨first, second, third⟩
    rename_i major minor patch
    have dotless : ∀ part ∈ [major, minor, patch], '.' ∉ part := by
      simp only [List.mem_cons, List.not_mem_nil, or_false, forall_eq_or_imp, forall_eq]
      exact ⟨first.no_dot, second.no_dot, third.no_dot⟩
    have parts := List.splitOn_intercalate '.' dotless (List.cons_ne_nil _ _)
    have whole : ['.'].intercalate [major, minor, patch] =
        major ++ '.' :: minor ++ '.' :: patch := by
      simp [List.intercalate]
    rw [whole] at parts
    rw [← uint32?_eq_some] at first second third
    simp only [core?, parts, first, second, third]

/-! Label and build number. -/

theorem label_numbered (numeral : Numeral behind build) :
    label (before ++ '.' :: behind) = (before, build) := by
  have dotless := numeral.no_dot
  rw [← uint32?_eq_some] at numeral
  simp only [label, splitLast?_append dotless, numeral]

theorem label_whole (unnumbered : ¬ EndsNumbered cs) : label cs = (cs, 0) := by
  rcases last_cases '.' cs with absent | ⟨before, behind, rfl, dotless⟩
  · simp only [label, splitLast?_of_not_mem absent]
  · have unread : uint32? behind = none := by
      rw [Option.eq_none_iff_forall_ne_some]
      intro n read
      exact unnumbered ⟨before, behind, n, rfl, uint32?_eq_some.mp read⟩
    simp only [label, splitLast?_append dotless, unread]

theorem labelled_iff {name : List Char} :
    Labelled tail name build ↔ tail ≠ [] ∧ label tail = (name, build) := by
  constructor
  · intro labelled
    cases labelled with
    | numbered numeral => exact ⟨by simp, label_numbered numeral⟩
    | whole nonempty unnumbered => exact ⟨nonempty, label_whole unnumbered⟩
  · rintro ⟨nonempty, told⟩
    by_cases numbered : EndsNumbered tail
    · obtain ⟨before, behind, n, rfl, numeral⟩ := numbered
      rw [label_numbered numeral] at told
      cases told
      exact .numbered numeral
    · rw [label_whole numbered] at told
      cases told
      exact .whole nonempty numbered

/-! The text. -/

theorem written_of_no_hyphen (absent : '-' ∉ text) :
    Written v text ↔ Numbers v text ∧ v.prerelease = "" ∧ v.build = 0 := by
  constructor
  · intro written
    cases written with
    | release told unlabelled unbuilt => exact ⟨told, unlabelled, unbuilt⟩
    | prerelease => exact absurd (List.mem_append_right _ List.mem_cons_self) absent
  · rintro ⟨told, unlabelled, unbuilt⟩
    exact .release told unlabelled unbuilt

theorem written_of_hyphen (absent : '-' ∉ before) : Written v (before ++ '-' :: tail) ↔
    Numbers v before ∧ Labelled tail v.prerelease.toList v.build := by
  constructor
  · generalize whole : before ++ '-' :: tail = text
    intro written
    cases written with
    | release told =>
      rw [← whole] at told
      exact absurd (List.mem_append_right _ List.mem_cons_self) told.no_hyphen
    | prerelease told labelled =>
      obtain ⟨rfl, rfl⟩ := append_inj_first absent told.no_hyphen whole
      exact ⟨told, labelled⟩
  · rintro ⟨told, labelled⟩
    exact .prerelease told labelled

theorem parse?_release (absent : '-' ∉ trim s.toList) : parse? s = some v ↔
    core? (trim s.toList) = some (v.major, v.minor, v.patch) ∧ v.prerelease = "" ∧ v.build = 0 := by
  unfold parse?
  rw [splitFirst_of_not_mem absent]
  dsimp only
  cases core? (trim s.toList) with
  | none => simp
  | some numbers =>
    obtain ⟨major, minor, patch⟩ := numbers
    obtain ⟨major', minor', patch', build', prerelease'⟩ := v
    simp only [release, Option.some.injEq, mk.injEq, Prod.mk.injEq]
    constructor
    · rintro ⟨rfl, rfl, rfl, rfl, rfl⟩
      exact ⟨⟨rfl, rfl, rfl⟩, rfl, rfl⟩
    · rintro ⟨⟨rfl, rfl, rfl⟩, rfl, rfl⟩
      exact ⟨rfl, rfl, rfl, rfl, rfl⟩

theorem parse?_prerelease (whole : trim s.toList = before ++ '-' :: tail) (absent : '-' ∉ before) :
    parse? s = some v ↔ core? before = some (v.major, v.minor, v.patch) ∧ tail ≠ [] ∧
      label tail = (v.prerelease.toList, v.build) := by
  unfold parse?
  rw [whole, splitFirst_append absent]
  dsimp only
  cases core? before with
  | none => simp
  | some numbers =>
    obtain ⟨major, minor, patch⟩ := numbers
    obtain ⟨major', minor', patch', build', prerelease'⟩ := v
    by_cases nothing : tail = []
    · simp [nothing]
    · have name : String.ofList (label tail).1 = prerelease' ↔
          (label tail).1 = prerelease'.toList := by
        rw [← String.toList_inj, String.toList_ofList]
      simp only [List.isEmpty_iff, if_neg nothing, Option.some.injEq, mk.injEq, Prod.ext_iff, name]
      constructor
      · rintro ⟨rfl, rfl, rfl, number, named⟩
        exact ⟨⟨rfl, rfl, rfl⟩, nothing, named, number⟩
      · rintro ⟨⟨rfl, rfl, rfl⟩, _, named, number⟩
        exact ⟨rfl, rfl, rfl, number, named⟩

theorem parse?_eq_some : parse? s = some v ↔ Written v (trim s.toList) := by
  rcases first_cases '-' (trim s.toList) with absent | ⟨before, tail, whole, absent⟩
  · rw [parse?_release absent, written_of_no_hyphen absent, core?_eq_some]
  · rw [parse?_prerelease whole absent, whole, written_of_hyphen absent, core?_eq_some,
      labelled_iff]

theorem parse_eq_ok : parse s = .ok v ↔ Written v (trim s.toList) := by
  rw [← parse?_eq_some, parse]
  cases parse? s with
  | none => simp
  | some w => simp

/-- A text is refused only with itself. -/
theorem parse_eq_error {e : ParseError} :
    parse s = .error e ↔ e = ⟨s⟩ ∧ ∀ v, ¬ Written v (trim s.toList) := by
  constructor
  · intro refused
    constructor
    · unfold parse at refused
      split at refused
      · cases refused
      · exact (Except.error.inj refused).symm
    · intro v written
      rw [parse_eq_ok.mpr written] at refused
      cases refused
  · rintro ⟨rfl, unwritten⟩
    have unread : parse? s = none := by
      rw [Option.eq_none_iff_forall_ne_some]
      intro v read
      exact unwritten v (parse?_eq_some.mp read)
    rw [parse, unread]

/-- Reading accepts a text as the version that it is one of, once the blanks at its ends are off, and
gives back every other text with its blanks. -/
theorem parse_iff_written (s : String) :
    (∀ v, parse s = .ok v ↔ ∃ text, Trims s.toList text ∧ Written v text) ∧
    ∀ e, parse s = .error e ↔
      e.text = s ∧ ∀ text, Trims s.toList text → ∀ v, ¬ Written v text := by
  constructor
  · intro v
    rw [parse_eq_ok]
    constructor
    · intro written
      exact ⟨trim s.toList, trims_trim s.toList, written⟩
    · rintro ⟨text, trims, written⟩
      rwa [trims.trim_eq]
  · intro e
    rw [parse_eq_error]
    constructor
    · rintro ⟨rfl, unwritten⟩
      refine ⟨rfl, ?_⟩
      intro text trims v
      rw [← trims.trim_eq]
      exact unwritten v
    · rintro ⟨same, unwritten⟩
      refine ⟨?_, unwritten (trim s.toList) (trims_trim s.toList)⟩
      cases e
      exact congrArg ParseError.mk same

end Dialback.Version
