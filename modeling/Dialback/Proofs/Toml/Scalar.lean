import Dialback.Proofs.Binary64.Shortest
import Dialback.Toml.Scalar
import Dialback.Toml.Writer
import Mathlib.Data.List.TakeWhile

/-!
Numbers that are written without quotes are read back: a decimal integer up to the largest one, and
a float that is not below one, infinity included.
-/
namespace Dialback.Toml

open Text Binary64

variable {cs whole places : List Char} {x : Binary64}

/-! Digits. -/

theorem not_underscore {c : Char} (digit : isDigit c = true) : c ≠ '_' := by
  rintro rfl
  exact absurd digit (by decide)

theorem digits_of_all (nonempty : cs ≠ []) (digits : ∀ c ∈ cs, isDigit c = true) :
    digits? cs = some cs := by
  unfold digits?
  induction cs with
  | nil => exact absurd rfl nonempty
  | cons c cs ih =>
    have first : isDigit c = true := digits c List.mem_cons_self
    cases cs with
    | nil => simp [ungroup?, first]
    | cons d cs =>
      have second : d ≠ '_' := not_underscore (digits d (by simp))
      have rest := ih (List.cons_ne_nil _ _) fun e member =>
        digits e (List.mem_cons_of_mem _ member)
      rw [ungroup?, if_pos first, rest]
      · rfl
      · exact List.cons_ne_nil _ _
      · intro _ same
        exact second (List.cons.inj same).1

theorem ungroup_chars {ds : List Char} (found : ungroup? isDigit cs = some ds) :
    ∀ c ∈ cs, isDigit c = true ∨ c = '_' := by
  fun_induction ungroup? isDigit cs generalizing ds with
  | case1 => cases found
  | case2 c digit =>
    intro d member
    rw [List.mem_singleton.mp member]
    exact Or.inl digit
  | case3 => cases found
  | case4 c rest digit ih =>
    obtain ⟨tail, found, _⟩ := Option.map_eq_some_iff.mp found
    intro d member
    rcases List.mem_cons.mp member with rfl | member
    · exact Or.inl digit
    · rcases List.mem_cons.mp member with rfl | member
      · exact Or.inr rfl
      · exact ih found d member
  | case5 => cases found
  | case6 c rest _ _ digit ih =>
    obtain ⟨tail, found, _⟩ := Option.map_eq_some_iff.mp found
    intro d member
    rcases List.mem_cons.mp member with rfl | member
    · exact Or.inl digit
    · exact ih found d member
  | case7 => cases found

/-- Digits as they are written: no zero in front of others. -/
structure Canonical (cs : List Char) : Prop where
  digits : ∀ c ∈ cs, isDigit c = true
  leads : ∃ c rest, cs = c :: rest ∧ (c = '0' → rest = [])

theorem canonical_decimal (n : Nat) : Canonical (decimal n) := by
  refine ⟨fun c member => isDigit_of_mem_decimal member, ?_⟩
  by_cases zero : n = 0
  · rw [zero]
    exact ⟨'0', [], rfl, fun _ => rfl⟩
  · obtain ⟨c, rest, written, leads⟩ := decimal_leads (Nat.pos_of_ne_zero zero)
    exact ⟨c, rest, written, fun same => absurd same leads⟩

namespace Canonical

theorem ne_nil (canonical : Canonical cs) : cs ≠ [] := by
  obtain ⟨c, rest, rfl, _⟩ := canonical.leads
  exact List.cons_ne_nil c rest

theorem read (canonical : Canonical cs) : canonicalDigits? cs = some cs := by
  have found := digits_of_all canonical.ne_nil canonical.digits
  obtain ⟨c, rest, rfl, leads⟩ := canonical.leads
  unfold canonicalDigits?
  rw [found]
  split
  case h_1 second others same =>
    obtain ⟨rfl, rfl⟩ := List.cons.inj (Option.some.inj same)
    exact absurd (leads rfl) (List.cons_ne_nil _ _)
  case h_2 => rfl

end Canonical

/-! Words of digits and points. -/

section Plain

variable (plain : ∀ c ∈ cs, isDigit c = true ∨ c = '.')
include plain

theorem not_mem_of_plain {c : Char} (special : isDigit c = false) (other : c ≠ '.') : c ∉ cs := by
  intro member
  rcases plain c member with digit | point
  · exact absurd digit (by simp [special])
  · exact other point

theorem ne_cons_of_plain {c : Char} (special : isDigit c = false) (other : c ≠ '.')
    (rest : List Char) : cs ≠ c :: rest := by
  rintro rfl
  exact not_mem_of_plain plain special other List.mem_cons_self

theorem signOf_plain : signOf cs = (false, cs) := by
  unfold signOf
  split
  case h_1 rest => exact absurd rfl (ne_cons_of_plain plain (by decide) (by decide) rest)
  case h_2 rest => exact absurd rfl (ne_cons_of_plain plain (by decide) (by decide) rest)
  case h_3 => rfl

theorem isDate_plain (k : Nat) : isDate (cs.take k) = false := by
  have dashless : '-' ∉ cs.take k := fun member =>
    not_mem_of_plain plain (by decide) (by decide) (List.mem_of_mem_take member)
  unfold isDate
  split
  case h_1 same =>
    rw [same] at dashless
    simp at dashless
  case h_2 => rfl

theorem isTime_plain : isTime false cs = false := by
  have colonless : ':' ∉ cs := not_mem_of_plain plain (by decide) (by decide)
  unfold isTime
  split
  case h_1 => simp at colonless
  case h_2 => rfl

theorem isMoment_plain : isMoment cs = false := by
  have whole := isDate_plain plain cs.length
  rw [List.take_length] at whole
  rw [isMoment, whole, isTime_plain plain, isDate_plain plain]
  rfl

/-- No base is announced, and no sign. -/
theorem integer_plain : integer? cs =
    ((canonicalDigits? cs).map fun ds => (decimalValue ds : Int)).filter inInt64 := by
  have base (c d : Char) (rest : List Char) (same : cs = c :: d :: rest) :
      isDigit d = true ∨ d = '.' := plain d (by simp [same])
  unfold integer?
  split
  case h_1 rest => exact absurd (base '0' 'x' rest rfl) (by decide)
  case h_2 rest => exact absurd (base '0' 'o' rest rfl) (by decide)
  case h_3 rest => exact absurd (base '0' 'b' rest rfl) (by decide)
  case h_4 =>
    rw [signOf_plain plain]
    rfl

theorem isScalarChar_plain {c : Char} (member : c ∈ cs) : isScalarChar c = true := by
  rcases plain c member with digit | rfl
  · rw [isDigit_eq] at digit
    simp [isScalarChar, Char.isAlphanum, digit]
  · decide

/-- A number is none of the words. -/
theorem scalar_plain :
    scalar? cs = ((integer? cs).map .integer).or ((float? cs).map .float) := by
  have notTrue := ne_cons_of_plain plain (c := 't') (by decide) (by decide) ['r', 'u', 'e']
  have notFalse := ne_cons_of_plain plain (c := 'f') (by decide) (by decide) ['a', 'l', 's', 'e']
  rw [scalar?, if_neg notTrue, if_neg notFalse, isMoment_plain plain, if_neg (by decide)]
  cases integer? cs with
  | none => rfl
  | some n => rfl

theorem wordFloat_plain (minus : Bool) : wordFloat? minus cs = none := by
  have infinite := ne_cons_of_plain plain (c := 'i') (by decide) (by decide) ['n', 'f']
  have number := ne_cons_of_plain plain (c := 'n') (by decide) (by decide) ['a', 'n']
  rw [wordFloat?, if_neg infinite, if_neg number]

theorem mantissa_plain : cs.takeWhile (!isExponentMark ·) = cs ∧
    cs.dropWhile (!isExponentMark ·) = [] := by
  have marked (c : Char) (member : c ∈ cs) : (!isExponentMark c) = true := by
    rcases plain c member with digit | rfl
    · have small : c ≠ 'e' := by
        rintro rfl
        exact absurd digit (by decide)
      have capital : c ≠ 'E' := by
        rintro rfl
        exact absurd digit (by decide)
      simp [isExponentMark, small, capital]
    · decide
  exact ⟨List.takeWhile_eq_self_iff.mpr marked, List.dropWhile_eq_nil_iff.mpr marked⟩

end Plain

/-! Values. -/

theorem scalar_decimal {n : Nat} (small : n ≤ maxInteger) :
    scalar? (decimal n) = some (.integer n) := by
  have canonical := canonical_decimal n
  have range : inInt64 n = true := by
    simp only [inInt64, Bool.and_eq_true, decide_eq_true_eq, maxInteger] at small ⊢
    omega
  have plain : ∀ c ∈ decimal n, isDigit c = true ∨ c = '.' :=
    fun c member => Or.inl (canonical.digits c member)
  have read : integer? (decimal n) = some (n : Int) := by
    rw [integer_plain plain, canonical.read, Option.map_some, decimalValue_decimal,
      Option.filter_some, if_pos range]
  rw [scalar_plain plain, read]
  rfl

theorem plain_shown (digits : ∀ c ∈ whole ++ places, isDigit c = true) :
    ∀ c ∈ whole ++ '.' :: places, isDigit c = true ∨ c = '.' := by
  intro c member
  rcases List.mem_append.mp member with front | behind
  · exact Or.inl (digits c (List.mem_append_left _ front))
  · rcases List.mem_cons.mp behind with rfl | behind
    · exact Or.inr rfl
    · exact Or.inl (digits c (List.mem_append_right _ behind))

theorem integer_shown (digits : ∀ c ∈ whole ++ places, isDigit c = true) :
    integer? (whole ++ '.' :: places) = none := by
  have point : digits? (whole ++ '.' :: places) = none := by
    cases found : digits? (whole ++ '.' :: places) with
    | none => rfl
    | some ds => exact absurd (ungroup_chars found '.' (by simp)) (by decide)
  rw [integer_plain (plain_shown digits), canonicalDigits?, point]
  rfl

theorem canonical_shown {d : Decimal} (shows : d.Shows whole places) : Canonical whole := by
  refine ⟨fun c member => shows.digits c (List.mem_append_left _ member), ?_⟩
  obtain ⟨c, rest, written, leads⟩ := shows.leads
  exact ⟨c, rest, written, fun same => absurd same leads⟩

theorem float_shown {d : Decimal} (shows : d.Shows whole places)
    (value : ofDecimal false (decimalValue (whole ++ places)) (-(places.length : Int)) = x)
    (finite : x ≠ infinity false) : float? (whole ++ '.' :: places) = some x := by
  have plain := plain_shown shows.digits
  have pointless (c : Char) (member : c ∈ whole) : (c != '.') = true := by
    have digit := shows.digits c (List.mem_append_left _ member)
    refine bne_iff_ne.mpr ?_
    rintro rfl
    exact absurd digit (by decide)
  have behind : digits? places = some places :=
    digits_of_all shows.behind fun c member => shows.digits c (List.mem_append_right _ member)
  have front : (whole ++ '.' :: places).takeWhile (· != '.') = whole := by
    rw [List.takeWhile_append_of_pos pointless, List.takeWhile_cons_of_neg (by decide),
      List.append_nil]
  have point : (whole ++ '.' :: places).dropWhile (· != '.') = '.' :: places := by
    rw [List.dropWhile_append_of_pos pointless, List.dropWhile_cons_of_neg (by decide)]
  rw [float?, signOf_plain plain]
  simp [wordFloat_plain plain, mantissa_plain plain, front, point, (canonical_shown shows).read,
    behind, value, finite]

/-- A number that is not below one is read from its text; the text is one word. -/
theorem scalar_render (large : x.atLeastOne = true) :
    scalar? x.render = some (.float x) ∧ ∀ c ∈ x.render, isScalarChar c = true := by
  rcases atLeastOne_cases large with rfl | ⟨unsigned, finite, size⟩
  · have written : (infinity false).render = ['i', 'n', 'f'] := by decide +kernel
    have chars : ['i', 'n', 'f'].all isScalarChar = true := by decide
    rw [written]
    exact ⟨rfl, List.all_eq_true.mp chars⟩
  · obtain ⟨whole, places, written, shows⟩ := render_shows unsigned finite size
    have plain := plain_shown shows.digits
    have bounded : x ≠ infinity false := by
      rintro rfl
      exact absurd finite (by decide +kernel)
    have value := ofDecimal_shown unsigned finite (shortest_reads (roundQuanta_quanta x)) shows
    rw [written]
    refine ⟨?_, fun c member => isScalarChar_plain plain member⟩
    rw [scalar_plain plain, integer_shown shows.digits, float_shown shows value bounded]
    rfl

theorem isScalarChar_decimal {n : Nat} {c : Char} (member : c ∈ decimal n) :
    isScalarChar c = true :=
  isScalarChar_plain (fun _ digit => Or.inl (isDigit_of_mem_decimal digit)) member

/-- A word ends with its line. -/
theorem scalarWord_append (chars : ∀ c ∈ cs, isScalarChar c = true) (rest : List Char) :
    scalarWord (cs ++ '\n' :: rest) = (scalar? cs).map (·, '\n' :: rest) := by
  have word : (cs ++ '\n' :: rest).takeWhile isScalarChar = cs := by
    rw [List.takeWhile_append_of_pos chars, List.takeWhile_cons_of_neg (by decide),
      List.append_nil]
  have behind : (cs ++ '\n' :: rest).dropWhile isScalarChar = '\n' :: rest := by
    rw [List.dropWhile_append_of_pos chars, List.dropWhile_cons_of_neg (by decide)]
  simp only [scalarWord, word, behind]
  split
  case h_1 _ same => exact absurd (List.cons.inj same).1 (by decide)
  case h_2 => rfl

end Dialback.Toml
