import Dialback.Binary64.Shortest
import Dialback.Proofs.Binary64.Rounding
import Dialback.Proofs.Text.Numeral

/-!
The decimal that is chosen for a double reads back as that double, and its text shows it: digits
without a superfluous zero, a point and at least one place.
-/
namespace Dialback.Binary64

open Text

variable {d : Decimal} {n : Nat} {x : Binary64}

/-! The choice. -/

theorem mem_of_nearer {ds : List Decimal} (chosen : nearer? n ds = some d) : d ∈ ds := by
  unfold nearer? at chosen
  split at chosen
  case h_1 => cases chosen
  case h_2 only =>
    cases chosen
    exact List.mem_cons_self
  case h_3 below above rest =>
    split at chosen <;> cases chosen
    · exact List.mem_cons_self
    · exact List.mem_cons_of_mem _ List.mem_cons_self

/-- The decimal of a size is next to the number on its grid, and reads back. -/
theorem ofSize_cases {size : Nat} (chosen : ofSize? n size = some d) :
    d.readsAs n = true ∧ ∃ exponent, d = ⟨gridFloor n exponent, exponent⟩ ∨
      d = ⟨gridFloor n exponent + 1, exponent⟩ := by
  obtain ⟨near, reads⟩ := List.mem_filter.mp (mem_of_nearer chosen)
  exact ⟨reads, _, by simpa using near⟩

theorem ratio_of_places (digits : Nat) {places : Nat} (some : 0 < places) :
    Decimal.ratio ⟨digits, -(places : Int)⟩ = (digits, Nat.pow 10 places) := by
  have negative : ¬ (0 : Int) ≤ -(places : Int) := by omega
  rw [Decimal.ratio, if_neg negative, Int.neg_neg, Int.toNat_natCast]

/-- A power of ten has the quanta of a unit as a factor. -/
theorem exactDecimal_reads (rounded : roundQuanta n 1 = n) : (exactDecimal n).readsAs n = true := by
  obtain ⟨places, some, exact, tens⟩ : ∃ places, 0 < places ∧
      exactDecimal n = ⟨n * Nat.pow 5 places, -(places : Int)⟩ ∧
      Nat.pow 5 places * quantaPerUnit = Nat.pow 10 places :=
    ⟨1074, by decide, rfl, by decide +kernel⟩
  have positive : 0 < Nat.pow 10 places := Nat.pow_pos (by decide)
  have same : roundQuanta (n * Nat.pow 10 places) (Nat.pow 10 places) = n := by
    rw [roundQuanta_congr positive Nat.one_pos (Nat.mul_one _), rounded]
  rw [Decimal.readsAs, exact, ratio_of_places _ some]
  simp only [Nat.mul_assoc, tens, same, BEq.rfl]

theorem shortest_cases (n : Nat) : shortest n = exactDecimal n ∨
    ∃ size, ofSize? n size = some (shortest n) := by
  unfold shortest
  cases chosen : (List.range 17).findSome? fun i => ofSize? n (i + 1) with
  | none => exact Or.inl rfl
  | some d =>
    obtain ⟨i, _, found⟩ := List.exists_of_findSome?_eq_some chosen
    exact Or.inr ⟨i + 1, found⟩

theorem shortest_reads (rounded : roundQuanta n 1 = n) : (shortest n).readsAs n = true := by
  rcases shortest_cases n with exact | ⟨size, chosen⟩
  · rw [exact]
    exact exactDecimal_reads rounded
  · exact (ofSize_cases chosen).1

/-- The part in front of the point is not zero. -/
def Decimal.AtLeastOne (d : Decimal) : Prop :=
  d.exponent < 0 → Nat.pow 10 (-d.exponent).toNat ≤ d.digits

theorem le_gridFloor (large : quantaPerUnit ≤ n) {exponent : Int} (negative : exponent < 0) :
    Nat.pow 10 (-exponent).toNat ≤ gridFloor n exponent := by
  have unit : 0 < quantaPerUnit := by decide +kernel
  rw [gridFloor, if_neg (by omega), Nat.le_div_iff_mul_le unit, Nat.mul_comm]
  exact Nat.mul_le_mul_right _ large

theorem shortest_atLeastOne (large : quantaPerUnit ≤ n) : (shortest n).AtLeastOne := by
  intro negative
  rcases shortest_cases n with exact | ⟨size, chosen⟩
  · rw [exact]
    obtain ⟨places, same, tens⟩ : ∃ places,
        exactDecimal n = ⟨n * Nat.pow 5 places, -(places : Int)⟩ ∧
        quantaPerUnit * Nat.pow 5 places = Nat.pow 10 places := ⟨1074, rfl, by decide +kernel⟩
    rw [same]
    change Nat.pow 10 (-(-(places : Int))).toNat ≤ n * Nat.pow 5 places
    rw [Int.neg_neg, Int.toNat_natCast, ← tens]
    exact Nat.mul_le_mul_right _ large
  · obtain ⟨_, exponent, same | same⟩ := ofSize_cases chosen
    · rw [same] at negative ⊢
      exact le_gridFloor large negative
    · rw [same] at negative ⊢
      exact Nat.le_succ_of_le (le_gridFloor large negative)

/-! The text. -/

/-- What a positional text shows. -/
structure Decimal.Shows (d : Decimal) (whole places : List Char) : Prop where
  digits : ∀ c ∈ whole ++ places, isDigit c = true
  leads : ∃ c rest, whole = c :: rest ∧ c ≠ '0'
  behind : places ≠ []
  value : decimalValue (whole ++ places) * d.ratio.2 = d.ratio.1 * Nat.pow 10 places.length

theorem trimZeros_append (cs : List Char) :
    ∃ k, cs = Duration.trimZeros cs ++ List.replicate k '0' := by
  refine ⟨(cs.reverse.takeWhile (· == '0')).length, ?_⟩
  have zeros : cs.reverse.takeWhile (· == '0') =
      List.replicate (cs.reverse.takeWhile (· == '0')).length '0' := by
    refine List.eq_replicate_of_mem fun c member => ?_
    simpa using List.all_eq_true.mp List.all_takeWhile c member
  have whole := congrArg List.reverse
    (List.takeWhile_append_dropWhile (p := (· == '0')) (l := cs.reverse))
  rw [List.reverse_append, List.reverse_reverse, zeros, List.reverse_replicate] at whole
  exact whole.symm

theorem decimal_leads {n : Nat} (positive : 0 < n) : ∃ c rest, decimal n = c :: rest ∧ c ≠ '0' := by
  obtain ⟨c, rest, written⟩ := List.exists_cons_of_ne_nil (decimal_ne_nil n)
  refine ⟨c, rest, written, ?_⟩
  rintro rfl
  exact decimal_head n positive (by rw [written]; rfl)

/-- A whole number has one zero behind its point. -/
theorem shows_whole (positive : 0 < d.digits) (whole : 0 ≤ d.exponent) :
    d.positional = (decimal d.digits ++ List.replicate d.exponent.toNat '0') ++ '.' :: ['0'] ∧
      d.Shows (decimal d.digits ++ List.replicate d.exponent.toNat '0') ['0'] := by
  constructor
  · rw [Decimal.positional, if_pos whole]
    rfl
  · refine ⟨?_, ?_, by simp, ?_⟩
    · intro c member
      simp only [List.mem_append, List.mem_singleton] at member
      rcases member with (digit | zero) | rfl
      · exact isDigit_of_mem_decimal digit
      · rw [List.eq_of_mem_replicate zero]
        rfl
      · rfl
    · obtain ⟨c, rest, written, leads⟩ := decimal_leads positive
      exact ⟨c, rest ++ List.replicate d.exponent.toNat '0', by rw [written]; rfl, leads⟩
    · rw [decimalValue_append, decimalValue_append, decimalValue_zeros, decimalValue_decimal,
        List.length_replicate, Decimal.ratio, if_pos whole]
      have last : decimalValue ['0'] = 0 := rfl
      rw [last, Nat.add_zero, Nat.add_zero, Nat.mul_one]

/-- The places that are left show the same number as all of them. -/
theorem trimPlaces_value (whole places : List Char) :
    decimalValue (whole ++ trimPlaces places) * Nat.pow 10 places.length =
      decimalValue (whole ++ places) * Nat.pow 10 (trimPlaces places).length := by
  obtain ⟨k, split⟩ := trimZeros_append places
  unfold trimPlaces
  cases kept : Duration.trimZeros places with
  | nil =>
    rw [kept, List.nil_append] at split
    rw [split, decimalValue_append, decimalValue_append, decimalValue_zeros, List.length_replicate]
    have last : decimalValue ['0'] = 0 := rfl
    rw [last]
    exact Nat.mul_right_comm _ _ _
  | cons c rest =>
    rw [kept] at split
    have width : places.length = (c :: rest).length + k := by
      rw [split, List.length_append, List.length_replicate]
    rw [width, split, ← List.append_assoc, decimalValue_append (whole ++ c :: rest),
      decimalValue_zeros, List.length_replicate, Nat.add_zero, Nat.add_comm,
      show Nat.pow 10 (k + (c :: rest).length) = Nat.pow 10 k * Nat.pow 10 (c :: rest).length from
        Nat.pow_add 10 k _, Nat.mul_assoc]

theorem mem_trimPlaces {places : List Char} {c : Char} (member : c ∈ trimPlaces places) :
    c = '0' ∨ c ∈ places := by
  obtain ⟨k, split⟩ := trimZeros_append places
  unfold trimPlaces at member
  split at member
  case h_1 => exact Or.inl (List.mem_singleton.mp member)
  case h_2 =>
    rw [split]
    exact Or.inr (List.mem_append_left _ member)

theorem trimPlaces_ne_nil (places : List Char) : trimPlaces places ≠ [] := by
  unfold trimPlaces
  split
  case h_1 => exact List.cons_ne_nil _ _
  case h_2 some => exact some

/-- The digits in front of the point are what is left of as many places. -/
theorem shows_fraction (large : d.AtLeastOne) (fraction : d.exponent < 0) :
    ∃ whole places, d.positional = whole ++ '.' :: places ∧ d.Shows whole places := by
  obtain ⟨p, some, exponent⟩ : ∃ p : Nat, 0 < p ∧ d.exponent = -(p : Int) :=
    ⟨(-d.exponent).toNat, by omega, by omega⟩
  have power : Nat.pow 10 p ≤ d.digits := by
    have known := large fraction
    rwa [exponent, Int.neg_neg, Int.toNat_natCast] at known
  have ratio : d.ratio = (d.digits, Nat.pow 10 p) := by
    have same := ratio_of_places d.digits some
    rwa [← exponent] at same
  obtain ⟨whole, places, cut, width, inside⟩ : ∃ whole places,
      decimal d.digits = whole ++ places ∧ places.length = p ∧ whole ≠ [] := by
    have longer := lt_length_decimal power
    refine ⟨_, _, (List.take_append_drop ((decimal d.digits).length - p) _).symm, ?_, ?_⟩
    · rw [List.length_drop]
      omega
    · apply List.ne_nil_of_length_pos
      rw [List.length_take]
      omega
  have positional : d.positional = whole ++ '.' :: trimPlaces places := by
    have long : (whole ++ places).length = whole.length + p := by rw [List.length_append, width]
    have front : 0 < whole.length := List.length_pos_of_ne_nil inside
    have unpadded : p + 1 - (whole.length + p) = 0 := by omega
    have digits : Nat.toDigits 10 d.digits = whole ++ places := cut
    rw [Decimal.positional, if_neg (by omega), exponent, Int.neg_neg, Int.toNat_natCast, digits]
    simp only [long, unpadded, List.replicate_zero, List.nil_append, Nat.add_sub_cancel,
      List.take_left, List.drop_left]
  refine ⟨whole, trimPlaces places, positional, ?_, ?_, trimPlaces_ne_nil places, ?_⟩
  · intro c member
    have digit (within : c ∈ whole ++ places) : isDigit c = true :=
      isDigit_of_mem_decimal (by rwa [cut])
    rcases List.mem_append.mp member with front | behind
    · exact digit (List.mem_append_left _ front)
    · rcases mem_trimPlaces behind with rfl | behind
      · rfl
      · exact digit (List.mem_append_right _ behind)
  · have positive : 0 < d.digits := Nat.lt_of_lt_of_le (Nat.pow_pos (by decide)) power
    obtain ⟨c, rest, written, leads⟩ := decimal_leads positive
    obtain ⟨first, others, rfl⟩ := List.exists_cons_of_ne_nil inside
    rw [cut, List.cons_append] at written
    obtain ⟨rfl, _⟩ := List.cons.inj written
    exact ⟨first, others, rfl, leads⟩
  · have shown := trimPlaces_value whole places
    rw [← cut, decimalValue_decimal, width] at shown
    rw [ratio]
    exact shown

/-- A decimal that is not below one is shown by its text. -/
theorem positional_shows (positive : 0 < d.digits) (large : d.AtLeastOne) :
    ∃ whole places, d.positional = whole ++ '.' :: places ∧ d.Shows whole places := by
  by_cases whole : 0 ≤ d.exponent
  · exact ⟨_, _, shows_whole positive whole⟩
  · exact shows_fraction large (by omega)

/-! Reading the text back. -/

theorem ratio_pos (d : Decimal) : 0 < d.ratio.2 := by
  unfold Decimal.ratio
  split
  · exact Nat.one_pos
  · exact Nat.pow_pos (by decide)

theorem digits_pos (reads : d.readsAs n = true) (positive : 0 < n) : 0 < d.digits := by
  by_contra zero
  have none : d.digits = 0 := by omega
  have nothing : d.ratio.1 = 0 := by
    unfold Decimal.ratio
    split <;> simp [none]
  have rounds : roundQuanta (d.ratio.1 * quantaPerUnit) d.ratio.2 = n := by
    simpa [Decimal.readsAs] using reads
  rw [nothing, Nat.zero_mul] at rounds
  have nil : roundQuanta 0 d.ratio.2 = 0 := by simp [roundQuanta, roundDiv]
  omega

theorem le_decimalValue {whole places : List Char} (digits : ∀ c ∈ whole, isDigit c = true)
    (leads : ∃ c rest, whole = c :: rest ∧ c ≠ '0') :
    Nat.pow 10 places.length ≤ decimalValue (whole ++ places) := by
  obtain ⟨c, rest, rfl, leads⟩ := leads
  have first : 0 < decimalValue [c] := by
    have value : decimalValue [c] = c.toNat - 48 := by simp [decimalValue, digitValue]
    have digit := digits c List.mem_cons_self
    simp only [isDigit, Bool.and_eq_true, decide_eq_true_eq] at digit
    have least : 48 ≤ c.toNat := digit.1
    have other : c.toNat ≠ 48 := fun same => leads (Char.toNat_inj.mp same)
    omega
  have front : 0 < decimalValue (c :: rest) := by
    have value := decimalValue_append [c] rest
    rw [List.singleton_append] at value
    rw [value]
    exact Nat.add_pos_left (Nat.mul_pos first (Nat.pow_pos (by decide))) _
  rw [decimalValue_append]
  exact Nat.le_trans (Nat.le_mul_of_pos_left _ front) (Nat.le_add_right _ _)

/-- The text of a decimal that rounds to a double is read as that double. -/
theorem ofDecimal_shown (unsigned : x.negative = false) (finite : x.isFinite = true)
    (reads : d.readsAs x.quanta = true) {whole places : List Char} (shows : d.Shows whole places) :
    ofDecimal false (decimalValue (whole ++ places)) (-(places.length : Int)) = x := by
  have some : 0 < places.length := List.length_pos_of_ne_nil shows.behind
  have large : Nat.pow 10 places.length ≤ decimalValue (whole ++ places) :=
    le_decimalValue (fun c member => shows.digits c (List.mem_append_left _ member)) shows.leads
  have power : 0 < Nat.pow 10 places.length := Nat.pow_pos (by decide)
  have long : places.length < (Nat.toDigits 10 (decimalValue (whole ++ places))).length :=
    lt_length_decimal large
  have rounds : roundQuanta (decimalValue (whole ++ places) * quantaPerUnit)
      (Nat.pow 10 places.length) = x.quanta := by
    have exact : roundQuanta (d.ratio.1 * quantaPerUnit) d.ratio.2 = x.quanta := by
      simpa [Decimal.readsAs] using reads
    rw [← exact]
    apply roundQuanta_congr power (ratio_pos d)
    rw [Nat.mul_right_comm, shows.value, Nat.mul_right_comm]
  rw [ofDecimal, if_neg (by omega), if_neg (by omega), if_neg (by omega), Int.neg_neg,
    Int.toNat_natCast]
  exact ofQuanta_eq unsigned finite rounds

theorem atLeastOne_cases (large : x.atLeastOne = true) : x = infinity false ∨
    x.negative = false ∧ x.isFinite = true ∧ quantaPerUnit ≤ x.quanta := by
  have unit : one.quanta = quantaPerUnit := by decide +kernel
  simp only [atLeastOne, atLeastNonneg, Bool.and_eq_true, Bool.or_eq_true, Bool.not_eq_true',
    decide_eq_true_eq, unit] at large
  obtain ⟨unsigned, ⟨number, _⟩, size⟩ := large
  by_cases finite : x.isFinite = true
  · refine Or.inr ⟨unsigned, finite, ?_⟩
    rcases size with infinite | ⟨_, size⟩
    · simp only [isInfinite, isFinite, Bool.and_eq_true, beq_iff_eq, bne_iff_ne] at infinite finite
      exact absurd infinite.1 finite
    · exact size
  · refine Or.inl ?_
    have top : x.biasedExponent = 2047 := by simpa [isFinite] using finite
    have plain : x.fraction = 0 := by simpa [isNan, top] using number
    have magnitude := ofParts_magnitude unsigned
    rw [top, plain] at magnitude
    exact magnitude.symm

/-- What is written for a finite number that is not below one. -/
theorem render_shows (unsigned : x.negative = false) (finite : x.isFinite = true)
    (large : quantaPerUnit ≤ x.quanta) : ∃ whole places, x.render = whole ++ '.' :: places ∧
      (shortest x.quanta).Shows whole places := by
  have unit : 0 < quantaPerUnit := by decide +kernel
  have reads : (shortest x.quanta).readsAs x.quanta = true :=
    shortest_reads (roundQuanta_quanta x)
  have exponent : x.biasedExponent ≠ 2047 := by simpa [isFinite] using finite
  have number : x.isNan = false := by simp [isNan, exponent]
  have bounded : x.isInfinite = false := by simp [isInfinite, exponent]
  have written : x.render = (shortest x.quanta).positional := by
    have nonzero : x.quanta ≠ 0 := by omega
    simp [render, number, bounded, unsigned, nonzero, signed]
  rw [written]
  exact positional_shows (digits_pos reads (by omega)) (shortest_atLeastOne large)

end Dialback.Binary64
