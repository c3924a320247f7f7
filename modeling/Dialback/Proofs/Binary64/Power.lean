import Dialback.Proofs.Binary64.Order

/-!
Products and powers of numbers that are not below one. They grow with their factors, infinity is
never left again, and the powers of two stay exact until they are infinite.
-/
namespace Dialback.Binary64

variable {x y x' y' acc acc' : Binary64} {m n i j : Nat}

/-! Products. -/

theorem mul_of_finite (sized : x.HasSize m) (sized' : y.HasSize n) (finite : x.isFinite = true)
    (finite' : y.isFinite = true) : x.mul y = ofQuanta false (m * n) quantaPerUnit := by
  have bounded : x.isInfinite = false := by rw [sized.isInfinite_eq, finite]; rfl
  have bounded' : y.isInfinite = false := by rw [sized'.isInfinite_eq, finite']; rfl
  simp only [mul, sized.number, sized'.number, bounded, bounded', sized.unsigned, sized'.unsigned,
    sized.quanta_eq finite, sized'.quanta_eq finite', bne_self_eq_false, Bool.or_self,
    Bool.false_eq_true, if_false]

theorem mul_of_infinite (sized : x.HasSize m) (sized' : y.HasSize n) (some : 0 < m)
    (some' : 0 < n) (infinite : x.isFinite = false ∨ y.isFinite = false) :
    x.mul y = infinity false := by
  have nonzero : (x.isFinite && x.quanta = 0) = false := by
    cases finite : x.isFinite with
    | false => rfl
    | true => simpa [sized.quanta_eq finite] using some.ne'
  have nonzero' : (y.isFinite && y.quanta = 0) = false := by
    cases finite : y.isFinite with
    | false => rfl
    | true => simpa [sized'.quanta_eq finite] using some'.ne'
  have unbounded : (x.isInfinite || y.isInfinite) = true := by
    rw [sized.isInfinite_eq, sized'.isInfinite_eq]
    rcases infinite with left | right
    · simp [left]
    · simp [right]
  simp only [mul, sized.number, sized'.number, unbounded, nonzero, nonzero', sized.unsigned,
    sized'.unsigned, bne_self_eq_false, Bool.or_self, Bool.false_eq_true, if_false, if_true]

/-- Infinity is never left again. -/
theorem isFinite_mul (sized : x.HasSize m) (sized' : y.HasSize n)
    (finite : (x.mul y).isFinite = true) : x.isFinite = true ∧ y.isFinite = true := by
  by_contra factors
  have infinite : (x.isInfinite || y.isInfinite) = true := by
    rw [sized.isInfinite_eq, sized'.isInfinite_eq, ← Bool.not_and, Bool.not_eq_true',
      ← Bool.not_eq_true, Bool.and_eq_true]
    exact factors
  simp only [mul, sized.number, sized'.number, infinite, sized.unsigned, sized'.unsigned,
    bne_self_eq_false, Bool.or_self, Bool.false_eq_true, if_false, if_true] at finite
  split at finite
  case isTrue => exact absurd finite (by decide)
  case isFalse => exact absurd finite (by decide)

theorem hasSize_mul_of_finite (sized : x.HasSize m) (sized' : y.HasSize n)
    (finite : (x.mul y).isFinite = true) : (x.mul y).HasSize (x.mul y).quanta := by
  refine hasSize_of_finite ?_ finite
  obtain ⟨left, right⟩ := isFinite_mul sized sized' finite
  rw [mul_of_finite sized sized' left right]
  exact (hasSize_ofQuanta _ quantaPerUnit_pos).unsigned

/-! Zero as a factor. -/

theorem hasSize_zero_mul (sized : x.HasSize 0) (sized' : y.HasSize n)
    (finite : y.isFinite = true) : (x.mul y).HasSize 0 := by
  have nothing : roundQuanta 0 quantaPerUnit = 0 :=
    Nat.le_zero.mp (roundQuanta_le quantaPerUnit_pos (Nat.dvd_zero _) (Nat.zero_le _))
  have product := hasSize_ofQuanta 0 quantaPerUnit_pos
  rw [mul_of_finite sized sized' sized.isFinite_zero finite, Nat.zero_mul]
  rwa [nothing, Nat.zero_min] at product

theorem zero_mul_of_infinite (sized : x.HasSize 0) (sized' : y.HasSize n)
    (infinite : y.isFinite = false) : x.mul y = nan := by
  have finite := sized.isFinite_zero
  have unbounded : y.isInfinite = true := by rw [sized'.isInfinite_eq, infinite]; rfl
  simp only [mul, sized.number, sized'.number, unbounded, sized.quanta_eq finite, finite,
    Bool.or_self, Bool.or_true, Bool.false_eq_true, if_false, if_true, decide_true, Bool.and_self,
    Bool.true_or]

/-! Factors that are not below one. -/

theorem hasSize_mul (sized : x.HasSize m) (sized' : y.HasSize n) (large : quantaPerUnit ≤ m)
    (large' : quantaPerUnit ≤ n) :
    (x.mul y).HasSize (min (roundQuanta (m * n) quantaPerUnit) overflowAt) := by
  have some : 0 < m := Nat.lt_of_lt_of_le quantaPerUnit_pos large
  have some' : 0 < n := Nat.lt_of_lt_of_le quantaPerUnit_pos large'
  by_cases finite : x.isFinite = true ∧ y.isFinite = true
  · rw [mul_of_finite sized sized' finite.1 finite.2]
    exact hasSize_ofQuanta _ quantaPerUnit_pos
  · have infinite : x.isFinite = false ∨ y.isFinite = false := by
      simpa [Classical.or_iff_not_imp_left] using finite
    have beyond : overflowAt * quantaPerUnit ≤ m * n := by
      rcases infinite with left | right
      · rw [sized.eq_overflowAt left]
        exact Nat.mul_le_mul_left _ large'
      · rw [sized'.eq_overflowAt right, Nat.mul_comm m]
        exact Nat.mul_le_mul_left _ large
    rw [mul_of_infinite sized sized' some some' infinite,
      Nat.min_eq_right (le_roundQuanta quantaPerUnit_pos representable_overflowAt beyond)]
    exact hasSize_infinity

/-- `1 ≤ x ≤ y`. -/
def OneLeLe (x y : Binary64) : Prop :=
  ∃ m n, x.HasSize m ∧ y.HasSize n ∧ quantaPerUnit ≤ m ∧ m ≤ n

theorem OneLeLe.mul (le : OneLeLe x y) (le' : OneLeLe x' y') : OneLeLe (x.mul x') (y.mul y') := by
  obtain ⟨m, n, sized, larger, large, grows⟩ := le
  obtain ⟨m', n', sized', larger', large', grows'⟩ := le'
  have product := hasSize_mul sized sized' large large'
  have product' := hasSize_mul larger larger' (large.trans grows) (large'.trans grows')
  refine ⟨_, _, product, product', ?_, ?_⟩
  · refine Nat.le_min.mpr ⟨?_, large.trans sized.le_overflowAt⟩
    exact le_roundQuanta quantaPerUnit_pos representable_unit (Nat.mul_le_mul large large')
  · have rounded := roundQuanta_mono quantaPerUnit_pos quantaPerUnit_pos
      (Nat.mul_le_mul_right quantaPerUnit (Nat.mul_le_mul grows grows'))
    omega

/-- The size of a power of two. -/
def powerSize (k : Nat) : Nat :=
  Nat.pow 2 (min k topPower) * quantaPerUnit

theorem unit_le_powerSize (k : Nat) : quantaPerUnit ≤ powerSize k :=
  Nat.le_mul_of_pos_left _ (Nat.two_pow_pos _)

theorem min_pow (a b u : Nat) :
    min (Nat.pow 2 a * u) (Nat.pow 2 b * u) = Nat.pow 2 (min a b) * u := by
  have grows {a b : Nat} (le : a ≤ b) : Nat.pow 2 a * u ≤ Nat.pow 2 b * u :=
    Nat.mul_le_mul_right u (Nat.pow_le_pow_right (by decide) le)
  rcases Nat.le_total a b with le | ge
  · rw [Nat.min_eq_left le, Nat.min_eq_left (grows le)]
  · rw [Nat.min_eq_right ge, Nat.min_eq_right (grows ge)]

theorem hasSize_mul_power (sized : x.HasSize (powerSize i)) (sized' : y.HasSize (powerSize j)) :
    (x.mul y).HasSize (powerSize (i + j)) := by
  have product := hasSize_mul sized sized' (unit_le_powerSize i) (unit_le_powerSize j)
  have exact : roundQuanta (powerSize i * powerSize j) quantaPerUnit =
      Nat.pow 2 (min i topPower + min j topPower) * quantaPerUnit := by
    rw [← roundQuanta_eq_self (representable_pow (min i topPower + min j topPower))]
    apply roundQuanta_congr quantaPerUnit_pos Nat.one_pos
    rw [Nat.mul_one, powerSize, powerSize, Nat.mul_mul_mul_comm, ← Nat.mul_assoc]
    congr 2
    exact (Nat.pow_add 2 _ _).symm
  have cut : min (Nat.pow 2 (min i topPower + min j topPower) * quantaPerUnit) overflowAt =
      powerSize (i + j) := by
    have exponent : min (i + j) topPower = min (min i topPower + min j topPower) topPower := by omega
    rw [overflowAt_eq, min_pow, powerSize, exponent]
  rwa [exact, cut] at product

/-! Powers. -/

theorem powAux_eq (acc x : Binary64) (n : Nat) : powAux acc x n =
    if n / 2 = 0 then if n % 2 = 1 then acc.mul x else acc
    else powAux (if n % 2 = 1 then acc.mul x else acc) (x.mul x) (n / 2) := by
  rw [powAux]
  rfl

theorem OneLeLe.powAux (le : OneLeLe acc acc') (le' : OneLeLe x x') :
    OneLeLe (powAux acc x n) (powAux acc' x' n) := by
  induction n using Nat.strongRecOn generalizing acc acc' x x' with
  | ind n ih =>
    have step : OneLeLe (if n % 2 = 1 then acc.mul x else acc)
        (if n % 2 = 1 then acc'.mul x' else acc') := by
      split
      case isTrue => exact le.mul le'
      case isFalse => exact le
    rw [powAux_eq acc, powAux_eq acc']
    by_cases last : n / 2 = 0
    · rwa [if_pos last, if_pos last]
    · rw [if_neg last, if_neg last]
      exact ih (n / 2) (by omega) step (le'.mul le')

theorem hasSize_powAux_power (sized : acc.HasSize (powerSize i)) (sized' : x.HasSize (powerSize j)) :
    (powAux acc x n).HasSize (powerSize (i + j * n)) := by
  induction n using Nat.strongRecOn generalizing acc x i j with
  | ind n ih =>
    have step : (if n % 2 = 1 then acc.mul x else acc).HasSize (powerSize (i + j * (n % 2))) := by
      rcases Nat.mod_two_eq_zero_or_one n with even | odd
      · simpa [even] using sized
      · simpa [odd] using hasSize_mul_power sized sized'
    have halves : n % 2 + 2 * (n / 2) = n := Nat.mod_add_div n 2
    rw [powAux_eq]
    by_cases last : n / 2 = 0
    · have whole : j * (n % 2) = j * n := congrArg (j * ·) (by omega)
      rw [if_pos last]
      rwa [whole] at step
    · have rest := ih (n / 2) (by omega) step (hasSize_mul_power sized' sized')
      have sum : i + j * (n % 2) + (j + j) * (n / 2) = i + j * n := by
        calc i + j * (n % 2) + (j + j) * (n / 2) = i + j * (n % 2 + 2 * (n / 2)) := by ring
          _ = i + j * n := by rw [halves]
      rw [if_neg last]
      rwa [sum] at rest

theorem hasSize_power (k : Nat) : (ofNat (Nat.pow 2 k)).HasSize (powerSize k) := by
  have rounded := hasSize_ofQuanta (Nat.pow 2 k * quantaPerUnit) Nat.one_pos
  rwa [roundQuanta_eq_self (representable_pow k), overflowAt_eq, min_pow] at rounded

theorem hasSize_one : one.HasSize (powerSize 0) :=
  hasSize_power 0

theorem OneLeLe.pow (le : OneLeLe x y) (n : Nat) : OneLeLe (x.pow n) (y.pow n) :=
  OneLeLe.powAux ⟨_, _, hasSize_one, hasSize_one, unit_le_powerSize 0, Nat.le_refl _⟩ le

theorem hasSize_pow_power (k n : Nat) :
    ((ofNat (Nat.pow 2 k)).pow n).HasSize (powerSize (k * n)) := by
  have power := hasSize_powAux_power (n := n) hasSize_one (hasSize_power k)
  rwa [Nat.zero_add] at power

/-! Comparisons. -/

theorem powerSize_zero : powerSize 0 = quantaPerUnit := by
  have one : Nat.pow 2 (min 0 topPower) = 1 := rfl
  rw [powerSize, one, Nat.one_mul]

theorem hasSize_of_atLeastOne (large : x.atLeastOne = true) :
    ∃ n, x.HasSize n ∧ quantaPerUnit ≤ n := by
  simp only [atLeastOne, Bool.and_eq_true, Bool.not_eq_true'] at large
  obtain ⟨unsigned, least⟩ := large
  have number : x.isNan = false := by
    simp only [atLeastNonneg, Bool.and_eq_true, Bool.not_eq_true'] at least
    exact least.1.1
  have sized : x.HasSize x.size := ⟨unsigned, number, rfl⟩
  rw [atLeastNonneg_iff sized hasSize_one, powerSize_zero] at least
  exact ⟨_, sized, least⟩

theorem atLeastOne_one : one.atLeastOne = true := by
  have unsigned : one.negative = false := hasSize_one.unsigned
  have equal : one.atLeastNonneg one = true :=
    (atLeastNonneg_iff hasSize_one hasSize_one).mpr (Nat.le_refl _)
  rw [atLeastOne, unsigned, equal]
  rfl

theorem exists_hasSize_pow (large : x.atLeastOne = true) (n : Nat) :
    ∃ m, (x.pow n).HasSize m ∧ quantaPerUnit ≤ m := by
  obtain ⟨m, sized, one⟩ := hasSize_of_atLeastOne large
  obtain ⟨p, _, power, _, least, _⟩ := OneLeLe.pow ⟨m, m, sized, sized, one, Nat.le_refl m⟩ n
  exact ⟨p, power, least⟩

theorem powerSize_lt_iff (k : Nat) : powerSize k < overflowAt ↔ k < topPower := by
  rw [powerSize, overflowAt_eq, Nat.mul_lt_mul_right quantaPerUnit_pos]
  generalize topPower = top
  constructor
  · intro less
    by_contra beyond
    rw [Nat.min_eq_right (by omega)] at less
    exact Nat.lt_irrefl _ less
  · intro within
    exact Nat.pow_lt_pow_right (by decide) (by omega)

/-- Nothing up to a power of two overflows before that power does. -/
theorem isFinite_pow {k : Nat} (large : x.atLeastOne = true)
    (small : (ofNat (Nat.pow 2 k)).atLeastNonneg x = true) (within : k * n < topPower) :
    (x.pow n).isFinite = true := by
  obtain ⟨m, sized, one⟩ := hasSize_of_atLeastOne large
  have most : m ≤ powerSize k := (atLeastNonneg_iff (hasSize_power k) sized).mp small
  obtain ⟨p, q, power, bound, _, le⟩ : OneLeLe (x.pow n) ((ofNat (Nat.pow 2 k)).pow n) :=
    OneLeLe.pow ⟨m, _, sized, hasSize_power k, one, most⟩ n
  rw [power.isFinite_iff]
  have same : q = powerSize (k * n) := bound.size.symm.trans (hasSize_pow_power k n).size
  have finite := (powerSize_lt_iff (k * n)).mpr within
  omega

/-- Everything from a power of two on overflows when that power does. -/
theorem isFinite_pow_eq_false {k : Nat} (large : x.atLeastOne = true)
    (least : x.atLeastNonneg (ofNat (Nat.pow 2 k)) = true) (beyond : topPower ≤ k * n) :
    (x.pow n).isFinite = false := by
  obtain ⟨m, sized, one⟩ := hasSize_of_atLeastOne large
  have most : powerSize k ≤ m := (atLeastNonneg_iff sized (hasSize_power k)).mp least
  obtain ⟨p, q, bound, power, _, le⟩ : OneLeLe ((ofNat (Nat.pow 2 k)).pow n) (x.pow n) :=
    OneLeLe.pow ⟨_, m, hasSize_power k, sized, unit_le_powerSize k, most⟩ n
  rw [← Bool.not_eq_true, power.isFinite_iff]
  have same : p = powerSize (k * n) := bound.size.symm.trans (hasSize_pow_power k n).size
  have infinite := mt (powerSize_lt_iff (k * n)).mp (Nat.not_lt_of_le beyond)
  omega

end Dialback.Binary64
