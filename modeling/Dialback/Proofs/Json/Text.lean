import Dialback.Json.Reader
import Dialback.Proofs.Text.Numeral

/-!
Texts and numerals of JSON are read back as they were written. Every character of a text has its own
spelling, which reading takes for one piece; a numeral ends where no digit, point or exponent mark
follows.
-/
namespace Dialback.Json

variable {c : Char} {n : Nat} {cs rest : List Char}

/-! Texts. -/

/-- The spelling of a character is read as this piece, whatever follows, and the piece as the
character, whatever piece follows. -/
structure Spells (c : Char) (piece : Piece) : Prop where
  pieces : ∀ rest, pieces? (escapeChar c ++ rest) =
    (pieces? rest).map fun (ps, rest) => (piece :: ps, rest)
  assembled : ∀ ps, assemble? (piece :: ps) = (assemble? ps).map (c :: ·)

theorem assemble_char (c : Char) (ps : List Piece) :
    assemble? (.char c :: ps) = (assemble? ps).map (c :: ·) := by
  rw [assemble?]

/-- A code unit that is half of no pair stands alone. -/
theorem assemble_unit (small : n < 0xd800) (ps : List Piece) :
    assemble? (.unit n :: ps) = (assemble? ps).map (Char.ofNat n :: ·) := by
  have leading : isLeading n = false := by
    simp only [isLeading, Bool.and_eq_false_iff, decide_eq_false_iff_not]
    omega
  have trailing : isTrailing n = false := by
    simp only [isTrailing, Bool.and_eq_false_iff, decide_eq_false_iff_not]
    omega
  cases ps with
  | nil => simp [assemble?, leading, trailing]
  | cons piece rest =>
    cases piece <;> simp [assemble?, leading, trailing]

/-- A character that is written as it is. -/
theorem spells_plain (mark : c ≠ '"') (escape : c ≠ '\\') (large : ¬ c.toNat < 0x20)
    (plain : escapeChar c = [c]) : Spells c (.char c) := by
  refine ⟨fun rest => ?_, assemble_char c⟩
  have admitted : ¬ (decide (c.toNat < 0x20) || c == '\\') = true := by simp [large, escape]
  rw [plain, List.singleton_append]
  conv_lhs => unfold pieces?
  split
  case h_1 same => exact absurd (List.cons.inj same).1 mark
  case h_2 same => exact absurd (List.cons.inj same).1 escape
  case h_3 same => exact absurd (List.cons.inj same).1 escape
  case h_4 same =>
    cases same
    rw [if_neg admitted]
  case h_5 same => cases same

/-- A character that is written by its number. -/
theorem spells_coded (small : c.toNat < 0x20)
    (coded : escapeChar c = ['\\', 'u'] ++ Text.hexPadded 4 c.toNat) :
    Spells c (.unit c.toNat) := by
  have number : Text.hexValue? (Text.hexPadded 4 c.toNat) = some c.toNat := by
    have few : c.toNat < Nat.pow 16 4 := Nat.lt_trans small (by decide)
    rw [Text.hexValue_hexPadded_mod, Nat.mod_eq_of_lt few]
  constructor
  · intro rest
    obtain ⟨first, second, third, fourth, digits⟩ :
        ∃ first second third fourth, Text.hexPadded 4 c.toNat = [first, second, third, fourth] :=
      ⟨_, _, _, _, rfl⟩
    rw [digits] at coded number
    rw [coded]
    simp only [List.cons_append, List.nil_append, pieces?, number]
    cases pieces? rest <;> rfl
  · intro ps
    rw [assemble_unit (by omega), Char.ofNat_toNat]

theorem exists_spells (c : Char) : ∃ piece, Spells c piece := by
  by_cases short : c ∈ ['"', '\\', '\n', '\r', '\t', '\x08', '\x0c']
  · refine ⟨.char c, fun rest => ?_, assemble_char c⟩
    simp only [List.mem_cons, List.not_mem_nil, or_false] at short
    rcases short with rfl | rfl | rfl | rfl | rfl | rfl | rfl <;>
      simp only [escapeChar, List.cons_append, List.nil_append, pieces?] <;>
      cases pieces? rest <;> rfl
  · have written : escapeChar c =
        if c.toNat < 0x20 then ['\\', 'u'] ++ Text.hexPadded 4 c.toNat else [c] := by
      unfold escapeChar
      split <;> simp_all
    by_cases small : c.toNat < 0x20
    · rw [if_pos small] at written
      exact ⟨_, spells_coded small written⟩
    · rw [if_neg small] at written
      refine ⟨_, spells_plain ?_ ?_ small written⟩ <;> rintro rfl <;> simp at short

/-- Up to the closing mark, a text is the spellings of its characters. -/
theorem pieces_spelled (cs rest : List Char) : ∃ ps,
    pieces? (cs.flatMap escapeChar ++ '"' :: rest) = some (ps, rest) ∧
      assemble? ps = some cs := by
  induction cs with
  | nil => exact ⟨[], by simp [pieces?], rfl⟩
  | cons c cs ih =>
    obtain ⟨ps, read, assembled⟩ := ih
    obtain ⟨piece, spells⟩ := exists_spells c
    refine ⟨piece :: ps, ?_, ?_⟩
    · rw [List.flatMap_cons, List.append_assoc, spells.pieces, read]
      rfl
    · rw [spells.assembled, assembled]
      rfl

theorem text_renderText (s : String) (rest : List Char) :
    ∃ inner, renderText s ++ rest = '"' :: inner ∧ text? inner = some (some s, rest) := by
  obtain ⟨ps, read, assembled⟩ := pieces_spelled s.toList rest
  refine ⟨s.toList.flatMap escapeChar ++ '"' :: rest, by simp [renderText], ?_⟩
  simp [text?, read, assembled]

/-! Numerals. -/

/-- A numeral ends where these characters follow. -/
def EndsNumeral (rest : List Char) : Prop :=
  ∀ c ∈ rest.head?, Text.isDigit c = false ∧ c ≠ '.' ∧ c ≠ 'e' ∧ c ≠ 'E'

theorem digits_append (digits : ∀ c ∈ cs, Text.isDigit c = true) (ends : EndsNumeral rest) :
    Json.digits (cs ++ rest) = (cs, rest) := by
  unfold Json.digits
  rw [List.takeWhile_append_of_pos digits, List.dropWhile_append_of_pos digits]
  cases rest with
  | nil => simp
  | cons c more =>
    have other := (ends c rfl).1
    simp [other]

theorem integerPart_decimal (n : Nat) (ends : EndsNumeral rest) :
    integerPart? (Text.decimal n ++ rest) = some (Text.decimal n, rest) := by
  rcases Nat.eq_zero_or_pos n with rfl | positive
  · rfl
  · have digits := digits_append (fun c => Text.isDigit_of_mem_decimal (n := n)) ends
    have head := Text.decimal_head n positive
    have some := Text.decimal_ne_nil n
    unfold integerPart?
    split
    case h_1 more same =>
      cases written : Text.decimal n with
      | nil => exact absurd written some
      | cons c cs =>
        rw [written] at same head
        cases same
        exact absurd rfl head
    case h_2 => simp [digits, some]

theorem fractionPart_of_ends (ends : EndsNumeral rest) : fractionPart? rest = some ([], rest) := by
  unfold fractionPart?
  split
  case h_1 => exact absurd rfl (ends '.' rfl).2.1
  case h_2 => rfl

theorem exponentPart_of_ends (ends : EndsNumeral rest) : exponentPart? rest = some ([], rest) := by
  cases rest with
  | nil => rfl
  | cons c more =>
    obtain ⟨_, _, small, capital⟩ := ends c rfl
    simp [exponentPart?, small, capital]

theorem exists_digit (n : Nat) (rest : List Char) :
    ∃ c more, Text.decimal n ++ rest = c :: more ∧ Text.isDigit c = true := by
  cases written : Text.decimal n with
  | nil => exact absurd written (Text.decimal_ne_nil n)
  | cons c cs =>
    refine ⟨c, cs ++ rest, rfl, Text.isDigit_of_mem_decimal (n := n) ?_⟩
    rw [written]
    exact List.mem_cons_self

theorem number_decimal (n : Nat) (ends : EndsNumeral rest) :
    number? (Text.decimal n ++ rest) = some (Text.decimal n, rest) := by
  -- the reader looks for a minus sign first, and this settles it for `simp`
  have unsigned : ∀ more, Text.decimal n ++ rest = '-' :: more → False := by
    intro more minus
    obtain ⟨c, others, same, digit⟩ := exists_digit n rest
    cases same.symm.trans minus
    cases digit
  simp [number?, integerPart_decimal n ends, fractionPart_of_ends ends,
    exponentPart_of_ends ends]

end Dialback.Json
