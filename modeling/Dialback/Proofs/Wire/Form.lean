import Dialback.Wire.Form
import Dialback.Proofs.Text.Utf8
import Mathlib.Tactic.Ring

/-!
What is read is what was written. Every form says itself where it ends, so a reader takes exactly the
bytes of one value and leaves what follows. Texts carry their length in at most eight bytes, so this
holds of values whose bytes can be counted in as many.
-/
namespace Dialback

open Wire

namespace Wire

/-- One more than eight bytes can count. -/
def countLimit : Nat := UInt64.size

/-- The reader takes these bytes for this value, and stops behind them. -/
def Recovers {α : Type} (read : Reader α) (bs : List UInt8) (a : α) : Prop :=
  bs.length < countLimit → ∀ rest, read (bs ++ rest) = .ok (a, rest)

end Wire

/-- A form that is read back. -/
class LawfulForm (α : Type) [WireForm α] : Prop where
  recovers (a : α) : Recovers WireForm.read (WireForm.write a) a

open LawfulForm (recovers)

namespace Wire

/-! Integers. -/

theorem length_littleEndian (width n : Nat) : (littleEndian width n).length = width := by
  induction width generalizing n with
  | zero => rfl
  | succ width ih => rw [littleEndian, List.length_cons, ih]

theorem ofLittleEndian_littleEndian {width n : Nat} (small : n < 256 ^ width) :
    ofLittleEndian (littleEndian width n) = n := by
  induction width generalizing n with
  | zero =>
    rw [Nat.pow_zero] at small
    simp only [littleEndian, ofLittleEndian]
    omega
  | succ width ih =>
    have byte : (n % 256).toUInt8.toNat = n % 256 := Text.Utf8.toNat_byte (Nat.mod_lt _ (by decide))
    have less : n / 256 < 256 ^ width := by
      rw [Nat.pow_succ] at small
      omega
    rw [littleEndian, ofLittleEndian, ih less, byte]
    omega

theorem takeBytes_append (bs rest : List UInt8) (otherwise : Fault) :
    takeBytes bs.length otherwise (bs ++ rest) = .ok (bs, rest) := by
  simp [takeBytes]

theorem readWidth_littleEndian {width n : Nat} (small : n < 256 ^ width) (rest : List UInt8) :
    readWidth width (littleEndian width n ++ rest) = .ok (n, rest) := by
  have taken := takeBytes_append (littleEndian width n) rest .missingBytes
  rw [length_littleEndian] at taken
  rw [readWidth, taken]
  simp only [ofLittleEndian_littleEndian small]

theorem readNat_writeNat {n : Nat} (small : n < countLimit) (rest : List UInt8) :
    readNat (writeNat n ++ rest) = .ok (n, rest) := by
  unfold writeNat
  by_cases one : n ≤ lastSmall
  · have byte : n.toUInt8.toNat = n := Text.Utf8.toNat_byte (by unfold lastSmall at one; omega)
    simp only [one, if_true, List.cons_append, List.nil_append, readNat, byte]
  rw [if_neg one]
  by_cases two : n < UInt16.size
  · rw [if_pos two]
    exact readWidth_littleEndian (show n < 256 ^ 2 from two) rest
  rw [if_neg two]
  by_cases four : n < UInt32.size
  · rw [if_pos four]
    exact readWidth_littleEndian (show n < 256 ^ 4 from four) rest
  · rw [if_neg four]
    exact readWidth_littleEndian (show n < 256 ^ 8 from small) rest

theorem recovers_nat {n : Nat} (small : n < countLimit) : Recovers readNat (writeNat n) n :=
  fun _ rest => readNat_writeNat small rest

theorem recovers_word (w : UInt32) : Recovers readWord (writeNat w.toNat) w := by
  intro _ rest
  have small : w.toNat < UInt32.size := w.toNat_lt
  rw [readWord, readNat_writeNat (Nat.lt_trans small (by decide))]
  simp [small]


/-! One thing after another. -/

namespace Recovers

variable {α β : Type} {first : Reader α} {next : α → Reader β} {bs bs' : List UInt8} {a : α} {b : β}

theorem give (a : α) : Recovers (WireForm.give a) [] a :=
  fun _ _ => rfl

theorem andThen (one : Recovers first bs a) (other : Recovers (next a) bs' b) :
    Recovers (WireForm.andThen first next) (bs ++ bs') b := by
  intro countable rest
  rw [List.length_append] at countable
  have taken := one (by omega) (bs' ++ rest)
  rw [List.append_assoc, WireForm.andThen, taken]
  exact other (by omega) rest

/-- Nothing but the result is left to be told. -/
theorem last (one : Recovers first bs a) (told : next a = WireForm.give b) :
    Recovers (WireForm.andThen first next) bs b := by
  have behind : Recovers (next a) [] b := told ▸ give b
  rw [← List.append_nil bs]
  exact one.andThen behind

end Recovers

theorem recovers_sized (bs : List UInt8) :
    Recovers WireForm.readSized (WireForm.writeSized bs) bs := by
  intro countable
  have small : bs.length < countLimit := by
    unfold WireForm.writeSized at countable
    rw [List.length_append] at countable
    omega
  refine Recovers.andThen (recovers_nat small) ?_ countable
  exact fun _ rest => takeBytes_append bs rest .missingContent

theorem recovers_alternative {k count : Nat} (known : k < count) (few : count < UInt32.size) :
    Recovers (WireForm.readAlternative count) (writeNat k) k := by
  have same : (UInt32.ofNat k).toNat = k := UInt32.toNat_ofNat_of_lt' (Nat.lt_trans known few)
  have number := recovers_word (UInt32.ofNat k)
  rw [same] at number
  refine number.last ?_
  simp only [same, known, if_true]

end Wire

/-! Identifiers and durations are made up of what is written of them. -/

namespace Uuid

theorem length_toBytes (u : Uuid) : u.toBytes.length = 16 := by
  simp [toBytes]

/-- Bytes are digits of base 256. -/
theorem foldl_bytes (n width acc : Nat) :
    (((List.range width).reverse.map fun i => (n / Nat.pow 256 i % 256).toUInt8).foldl
      (fun m b => m * 256 + b.toNat) acc) = acc * 256 ^ width + n % 256 ^ width := by
  induction width generalizing acc with
  | zero => simp [Nat.mod_one]
  | succ width ih =>
    have byte : (n / Nat.pow 256 width % 256).toUInt8.toNat = n / Nat.pow 256 width % 256 :=
      Text.Utf8.toNat_byte (Nat.mod_lt _ (by decide))
    rw [List.range_succ, List.reverse_append, List.reverse_singleton, List.singleton_append,
      List.map_cons, List.foldl_cons, ih, byte, Nat.mod_pow_succ, Nat.pow_succ]
    change (acc * 256 + n / 256 ^ width % 256) * 256 ^ width + n % 256 ^ width = _
    ring

theorem ofBytes_toBytes (u : Uuid) : ofBytes u.toBytes = u := by
  obtain ⟨n, bound⟩ := u
  have sixteen : n % 256 ^ 16 = n := Nat.mod_eq_of_lt bound
  have whole := foldl_bytes n 16 0
  rw [Nat.zero_mul, Nat.zero_add, sixteen] at whole
  simp only [ofBytes, toBytes, ofNat, whole, Nat.mod_eq_of_lt bound]

end Uuid

theorem Duration.seconds_lt (d : Duration) : d.seconds < UInt64.size := by
  have bound := d.bound
  simp only [seconds, nanosPerSecond, UInt64.size]
  omega

theorem Duration.subsecond_lt (d : Duration) : d.subsecond < UInt32.size := by
  simp only [subsecond, nanosPerSecond, UInt32.size]
  omega

theorem Duration.ofParts_seconds_subsecond (d : Duration) :
    ofParts? d.seconds d.subsecond = some d := by
  have whole : nanosPerSecond * d.seconds + d.subsecond = d.nanoseconds :=
    Nat.div_add_mod d.nanoseconds nanosPerSecond
  simp only [ofParts?, whole, ofNanos?, d.bound, dif_pos]

namespace LawfulForm

open WireForm (write read andThen give)

/-! Single values. -/

instance : LawfulForm Unit where
  recovers _ := Recovers.give ()

instance : LawfulForm UInt32 where
  recovers := recovers_word

instance : LawfulForm String where
  recovers s := by
    refine (recovers_sized (Text.Utf8.encode s.toList)).last ?_
    simp only [Text.Utf8.decode_encode, String.ofList_toList]

instance : LawfulForm Uuid where
  recovers u := by
    refine (recovers_sized u.toBytes).last ?_
    rw [if_pos u.length_toBytes, u.ofBytes_toBytes]

instance : LawfulForm Duration where
  recovers d := by
    have word := recovers_word (UInt32.ofNat d.subsecond)
    rw [UInt32.toNat_ofNat_of_lt' d.subsecond_lt] at word
    refine (recovers_nat d.seconds_lt).andThen (word.last ?_)
    simp only [UInt32.toNat_ofNat_of_lt' d.subsecond_lt, d.ofParts_seconds_subsecond]

variable {α : Type} [WireForm α] [LawfulForm α]

instance : LawfulForm (Option α) where
  recovers
    | none => fun _ _ => rfl
    | some a => by
      intro countable rest
      have content : (write a).length < countLimit := Nat.lt_of_succ_lt countable
      have behind : Recovers (andThen read fun a => give (some a)) (write a) (some a) :=
        (recovers a).last rfl
      exact behind content rest

/-! Fields in order. -/

instance : LawfulForm Version where
  recovers v := by
    change Recovers _
      (write v.major ++ write v.minor ++ write v.patch ++ write v.build ++ write v.prerelease) v
    simp only [List.append_assoc]
    exact (recovers v.major).andThen <| (recovers v.minor).andThen <|
      (recovers v.patch).andThen <| (recovers v.build).andThen <| (recovers v.prerelease).last rfl

instance : LawfulForm Failure where
  recovers f := (recovers f.id).andThen <| (recovers f.reason).last rfl

instance : LawfulForm ExecutionContext where
  recovers c := by
    change Recovers _ (write c.microservice ++ write c.tenant ++ write c.version ++
      write c.environment ++ write c.correlation ++ write c.culture) c
    simp only [List.append_assoc]
    exact (recovers c.microservice).andThen <| (recovers c.tenant).andThen <|
      (recovers c.version).andThen <| (recovers c.environment).andThen <|
        (recovers c.correlation).andThen <| (recovers c.culture).last rfl

instance : LawfulForm ArgumentsContext where
  recovers c := by
    change Recovers _ (write c.head ++ write c.pingInterval ++ write c.execution) c
    rw [List.append_assoc]
    exact (recovers c.head).andThen <| (recovers c.pingInterval).andThen <|
      (recovers c.execution).last rfl

instance : LawfulForm CallContext where
  recovers c := (recovers c.call).andThen <| (recovers c.execution).last rfl

variable {γ θ ρ : Type} [WireForm γ] [WireForm θ] [WireForm ρ] [LawfulForm γ] [LawfulForm θ]
  [LawfulForm ρ]

instance : LawfulForm (ConnectArguments α) where
  recovers a := (recovers a.context).andThen <| (recovers a.payload).last rfl

instance : LawfulForm (Request θ) where
  recovers q := (recovers q.context).andThen <| (recovers q.payload).last rfl

instance : LawfulForm (Response ρ) where
  recovers r := (recovers r.context).andThen <| (recovers r.payload).last rfl

/-! Alternatives. -/

instance : LawfulForm (ConnectResponse γ) where
  recovers
    | .accepted payload =>
      (recovers_alternative (by decide) (by decide)).andThen <| (recovers payload).last rfl
    | .refused failure =>
      (recovers_alternative (by decide) (by decide)).andThen <| (recovers failure).last rfl

instance : LawfulForm (ClientMessage α ρ) where
  recovers
    | .arguments a => (recovers_alternative (by decide) (by decide)).andThen <| (recovers a).last rfl
    | .pong => (recovers_alternative (by decide) (by decide)).last rfl
    | .response r => (recovers_alternative (by decide) (by decide)).andThen <| (recovers r).last rfl

instance : LawfulForm (ServerMessage γ θ) where
  recovers
    | .connectResponse r =>
      (recovers_alternative (by decide) (by decide)).andThen <| (recovers r).last rfl
    | .ping => (recovers_alternative (by decide) (by decide)).last rfl
    | .request q => (recovers_alternative (by decide) (by decide)).andThen <| (recovers q).last rfl

end LawfulForm
end Dialback
