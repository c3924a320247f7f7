import Dialback.Text.Numeral
import Mathlib.Data.List.Basic

/-!
Decimal numerals come back from their digits, and their first digit is not zero unless the number
is. Behind a numeral, digits count ten times less each. What reads as a word numeral is one, by a
description of its own.
-/
namespace Dialback.Text

theorem decimalValue_eq (cs : List Char) : decimalValue cs = Nat.ofDigitChars 10 cs 0 := by
  simp only [decimalValue, Nat.ofDigitChars, digitValue, Nat.mul_comm]

@[simp] theorem decimalValue_decimal (n : Nat) : decimalValue (decimal n) = n := by
  rw [decimalValue_eq]
  exact Nat.ofDigitChars_ten_toDigits

theorem decimalValue_append (whole places : List Char) : decimalValue (whole ++ places) =
    decimalValue whole * Nat.pow 10 places.length + decimalValue places := by
  simp only [decimalValue_eq]
  rw [Nat.ofDigitChars_append, Nat.ofDigitChars_eq_ofDigitChars_zero, Nat.mul_comm]
  rfl

theorem decimalValue_zeros (k : Nat) : decimalValue (List.replicate k '0') = 0 := by
  simp [decimalValue_eq]

theorem isDigit_eq (c : Char) : isDigit c = c.isDigit := rfl

theorem isDigit_of_mem_decimal {n : Nat} {c : Char} (member : c ∈ decimal n) :
    isDigit c = true := by
  rw [isDigit_eq]
  exact Nat.isDigit_of_mem_toDigits (by decide) (by decide) member

theorem decimal_ne_nil (n : Nat) : decimal n ≠ [] :=
  Nat.toDigits_ne_nil

/-- Leading digits are those of the leading part. -/
theorem decimal_of_ten_le {n : Nat} (large : 10 ≤ n) :
    decimal n = decimal (n / 10) ++ [(n % 10).digitChar] :=
  Nat.toDigits_of_base_le (by decide) large

theorem decimal_head (n : Nat) (positive : 0 < n) : (decimal n).head? ≠ some '0' := by
  induction n using Nat.strongRecOn with
  | ind n ih =>
    by_cases small : n < 10
    · rw [decimal, Nat.toDigits_of_lt_base small]
      simp only [List.head?_cons, ne_eq, Option.some.injEq, Nat.digitChar_eq_zero]
      omega
    · rw [decimal_of_ten_le (by omega), List.head?_append_of_ne_nil _ (decimal_ne_nil _)]
      exact ih (n / 10) (by omega) (by omega)

theorem lt_length_decimal {n k : Nat} (large : Nat.pow 10 k ≤ n) : k < (decimal n).length := by
  cases k with
  | zero => exact Nat.length_toDigits_pos
  | succ k =>
    by_contra short
    have bound := (Nat.length_toDigits_le_iff (by decide) (Nat.succ_pos k)).mp
      (Nat.le_of_not_lt short)
    exact absurd bound (Nat.not_lt.mpr large)

/-! Word numerals. -/

/-- At least one digit, and together they tell `n`. -/
structure Digits (cs : List Char) (n : Nat) : Prop where
  nonempty : cs ≠ []
  digits : ∀ c ∈ cs, c.isDigit = true
  value : Nat.ofDigitChars 10 cs 0 = n

/-- Digits that tell a word, behind a plus sign or not. -/
inductive Numeral : List Char → UInt32 → Prop
  | bare {cs : List Char} {n : UInt32} (digits : Digits cs n.toNat) : Numeral cs n
  | signed {cs : List Char} {n : UInt32} (digits : Digits cs n.toNat) : Numeral ('+' :: cs) n

section Numeral

variable {cs : List Char} {n : UInt32}

theorem natNumeral?_eq_some {k : Nat} : natNumeral? cs = some k ↔ Digits cs k := by
  unfold natNumeral?
  constructor
  · intro told
    split at told
    case isTrue => cases told
    case isFalse numeral =>
      simp only [Bool.or_eq_true, List.isEmpty_iff, Bool.not_eq_true', not_or,
        Bool.not_eq_false, List.all_eq_true] at numeral
      rw [decimalValue_eq] at told
      exact ⟨numeral.1, numeral.2, Option.some.inj told⟩
  · rintro ⟨nonempty, digits, value⟩
    have numeral : ¬ (cs.isEmpty || !cs.all isDigit) = true := by
      simp only [Bool.or_eq_true, List.isEmpty_iff, Bool.not_eq_true', not_or,
        Bool.not_eq_false, List.all_eq_true]
      exact ⟨nonempty, digits⟩
    rw [if_neg numeral, decimalValue_eq, value]

/-- No digit is a plus sign, so the sign is told from the digits. -/
theorem digits_unsigned : Digits (unsigned cs) n.toNat ↔ Numeral cs n := by
  constructor
  · intro digits
    unfold unsigned at digits
    split at digits
    · exact .signed digits
    · exact .bare digits
  · intro numeral
    cases numeral with
    | signed digits => exact digits
    | bare digits =>
      unfold unsigned
      split
      · exact absurd (digits.digits '+' List.mem_cons_self) (by decide)
      · exact digits

theorem uint32?_eq_some : uint32? cs = some n ↔ Numeral cs n := by
  rw [← digits_unsigned, ← natNumeral?_eq_some, uint32?, numeralBelow?]
  constructor
  · intro told
    obtain ⟨k, filtered, same⟩ := Option.map_eq_some_iff.mp told
    obtain ⟨read, small⟩ := Option.filter_eq_some_iff.mp filtered
    rw [read, ← same, UInt32.toNat_ofNat_of_lt' (of_decide_eq_true small)]
  · intro read
    rw [read, Option.filter_some, if_pos (decide_eq_true n.toNat_lt), Option.map_some,
      UInt32.ofNat_toNat]

theorem Numeral.ne_nil (numeral : Numeral cs n) : cs ≠ [] := by
  cases numeral with
  | bare digits => exact digits.nonempty
  | signed => exact List.cons_ne_nil _ _

theorem Numeral.chars (numeral : Numeral cs n) : ∀ c ∈ cs, c = '+' ∨ c.isDigit = true := by
  intro c member
  cases numeral with
  | bare digits => exact Or.inr (digits.digits c member)
  | signed digits =>
    rcases List.mem_cons.mp member with sign | member
    · exact Or.inl sign
    · exact Or.inr (digits.digits c member)

theorem Numeral.not_mem {c : Char} (numeral : Numeral cs n) (unsigned : c ≠ '+')
    (undigit : c.isDigit = false) : c ∉ cs := by
  intro member
  rcases numeral.chars c member with sign | digit
  · exact unsigned sign
  · rw [undigit] at digit
    cases digit

theorem Numeral.no_dot (numeral : Numeral cs n) : '.' ∉ cs :=
  numeral.not_mem (by decide) (by decide)

theorem digits_decimal (k : Nat) : Digits (decimal k) k := by
  constructor
  · exact decimal_ne_nil k
  · intro c member
    exact isDigit_of_mem_decimal member
  · rw [← decimalValue_eq, decimalValue_decimal]

theorem numeral_decimal (n : UInt32) : Numeral (decimal n.toNat) n :=
  .bare (digits_decimal n.toNat)

end Numeral

/-! Hexadecimal digits. -/

theorem hexDigitValue_upper : ∀ d < 16, hexDigitValue? (hexDigit d).toUpper = some d := by
  decide

@[simp] theorem length_hexPadded (width n : Nat) : (hexPadded width n).length = width := by
  simp [hexPadded]

/-- Four digits tell a number of sixteen bits, in capitals too. -/
theorem hexValue_hexPadded {n : Nat} (small : n < 65536) :
    hexValue? ((hexPadded 4 n).map Char.toUpper) = some n := by
  have digit (k : Nat) : hexDigitValue? (hexDigit (k % 16)).toUpper = some (k % 16) :=
    hexDigitValue_upper _ (Nat.mod_lt _ (by decide))
  have digits : (hexPadded 4 n).map Char.toUpper = [(hexDigit (n / 4096 % 16)).toUpper,
      (hexDigit (n / 256 % 16)).toUpper, (hexDigit (n / 16 % 16)).toUpper,
      (hexDigit (n % 16)).toUpper] := by
    simp [hexPadded, List.range_succ]
  rw [digits]
  simp only [hexValue?, List.foldlM_cons, List.foldlM_nil, digit, Option.map_some,
    Option.bind_eq_bind, Option.bind_some, Option.pure_def, Option.some.injEq]
  omega

theorem hexDigitValue_hexDigit : ∀ d < 16, hexDigitValue? (hexDigit d) = some d := by
  decide

private theorem foldlM_hexPadded (width n before : Nat) :
    (hexPadded width n).foldlM (fun m c => (hexDigitValue? c).map (m * 16 + ·)) before =
      some (before * Nat.pow 16 width + n % Nat.pow 16 width) := by
  induction width generalizing before with
  | zero => simp [hexPadded, Nat.mod_one]
  | succ width ih =>
    have digit := hexDigitValue_hexDigit (n / Nat.pow 16 width % 16) (Nat.mod_lt _ (by decide))
    have first : hexPadded (width + 1) n =
        hexDigit (n / Nat.pow 16 width % 16) :: hexPadded width n := by
      simp [hexPadded, List.range_succ]
    have power : Nat.pow 16 (width + 1) = Nat.pow 16 width * 16 := rfl
    rw [first, List.foldlM_cons, digit, Option.map_some]
    refine (ih _).trans (congrArg some ?_)
    rw [power, Nat.mod_mul, Nat.add_mul, Nat.mul_assoc, Nat.mul_comm 16 (Nat.pow 16 width)]
    rw [Nat.mul_comm (n / Nat.pow 16 width % 16)]
    omega

/-- So many digits tell what is left of the number in as many places. -/
theorem hexValue_hexPadded_mod (width n : Nat) :
    hexValue? (hexPadded width n) = some (n % Nat.pow 16 width) := by
  rw [hexValue?, foldlM_hexPadded, Nat.zero_mul, Nat.zero_add]

theorem exists_hexDigit {width n : Nat} {c : Char} (member : c ∈ hexPadded width n) :
    ∃ d < 16, hexDigit d = c := by
  obtain ⟨i, _, same⟩ := List.mem_map.mp member
  exact ⟨n / Nat.pow 16 i % 16, Nat.mod_lt _ (by decide), same⟩

end Dialback.Text
