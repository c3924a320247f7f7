import Dialback.Text.Utf8
import Mathlib.Tactic.IntervalCases

/-!
Texts come back from their bytes. The bytes of a character begin with one that tells their number
and the bounds of the second; the reader takes exactly them and leaves what follows.
-/
namespace Dialback.Text.Utf8

theorem encode_cons (c : Char) (cs : List Char) : encode (c :: cs) = encodeChar c ++ encode cs :=
  List.flatMap_cons

/-! First bytes. -/

theorem lead_two {k : Nat} (low : 2 ≤ k) (high : k ≤ 31) :
    lead? (0xc0 + k) = some ⟨k, 0x80, 0xbf, 0⟩ := by
  have bounds : 0xc2 ≤ 0xc0 + k ∧ 0xc0 + k ≤ 0xdf := by omega
  simp [lead?, bounds]

/-- Overlong forms and surrogates are kept out by the bounds of the second byte. -/
theorem lead_three {k : Nat} (high : k ≤ 15) :
    lead? (0xe0 + k) =
      some ⟨k, if k = 0 then 0xa0 else 0x80, if k = 13 then 0x9f else 0xbf, 1⟩ := by
  interval_cases k <;> rfl

/-- So are code points beyond the last one. -/
theorem lead_four {k : Nat} (high : k ≤ 4) :
    lead? (0xf0 + k) =
      some ⟨k, if k = 0 then 0x90 else 0x80, if k = 4 then 0x8f else 0xbf, 2⟩ := by
  interval_cases k <;> rfl

/-! Further bytes. -/

theorem finishChar_step {payload low high count seen : Nat} {b : UInt8} {rest : List UInt8}
    (above : low ≤ b.toNat) (below : b.toNat ≤ high) :
    finishChar payload low high (count + 1) seen (b :: rest) =
      finishChar (payload * 64 + (b.toNat - 0x80)) 0x80 0xbf count (seen + 1) rest := by
  simp [finishChar, above, below]

theorem toNat_byte {n : Nat} (small : n < 256) : n.toUInt8.toNat = n :=
  UInt8.toNat_ofNat_of_lt' small

/-- What a tail byte adds to the payload in front of it. -/
theorem finishChar_tail {payload low high count seen : Nat} (bits : Nat) {rest : List UInt8}
    (above : low ≤ 0x80 + bits % 64) (below : 0x80 + bits % 64 ≤ high) :
    finishChar payload low high (count + 1) seen ((0x80 + bits % 64).toUInt8 :: rest) =
      finishChar (payload * 64 + bits % 64) 0x80 0xbf count (seen + 1) rest := by
  have same := toNat_byte (show 0x80 + bits % 64 < 256 by omega)
  rw [finishChar_step (by rwa [same]) (by rwa [same]), same, Nat.add_sub_cancel_left]

/-- The bytes of a character are read as that character, whatever follows them. -/
def ReadsBack (c : Char) (bs : List UInt8) : Prop :=
  ∃ b tail, bs = b :: tail ∧ ∀ rest, decodeChar b (tail ++ rest) = .ok (c, tail.length + 1)

theorem readsBack_one {c : Char} (small : c.toNat < 0x80) : ReadsBack c [c.toNat.toUInt8] := by
  refine ⟨_, [], rfl, fun rest => ?_⟩
  rw [decodeChar, toNat_byte (by omega), if_pos small, Char.ofNat_toNat]
  rfl

/-- The first byte of several, with the payload that it carries. -/
theorem readsBack_lead {c : Char} {mark payload low high more : Nat} {tail : List UInt8}
    (lead : lead? (mark + payload) = some ⟨payload, low, high, more⟩)
    (byte : 0x80 ≤ mark + payload ∧ mark + payload < 256) (count : tail.length = more + 1)
    (finished : ∀ rest, finishChar payload low high (more + 1) 1 (tail ++ rest) = .ok c.toNat) :
    ReadsBack c ((mark + payload).toUInt8 :: tail) := by
  refine ⟨_, tail, rfl, fun rest => ?_⟩
  rw [decodeChar, toNat_byte byte.2, if_neg (Nat.not_lt.mpr byte.1), lead]
  simp only [finished, Except.map, Char.ofNat_toNat, count]

theorem readsBack_encodeChar (c : Char) : ReadsBack c (encodeChar c) := by
  have valid : c.toNat < 0xd800 ∨ 0xdfff < c.toNat ∧ c.toNat < 0x110000 := c.valid
  simp only [encodeChar, Nat.div_one]
  by_cases one : c.toNat < 0x80
  · rw [if_pos one]
    exact readsBack_one one
  rw [if_neg one]
  by_cases two : c.toNat < 0x800
  · rw [if_pos two]
    refine readsBack_lead (lead_two (by omega) (by omega)) (by omega) rfl fun rest => ?_
    rw [List.cons_append, finishChar_tail c.toNat (by omega) (by omega), finishChar]
    congr 1
    omega
  rw [if_neg two]
  by_cases three : c.toNat < 0x10000
  · rw [if_pos three]
    refine readsBack_lead (lead_three (by omega)) (by omega) rfl fun rest => ?_
    rw [List.cons_append, finishChar_tail (c.toNat / 64) (by split <;> omega) (by split <;> omega),
      List.cons_append, finishChar_tail c.toNat (by omega) (by omega), finishChar]
    congr 1
    omega
  · rw [if_neg three]
    refine readsBack_lead (lead_four (by omega)) (by omega) rfl fun rest => ?_
    rw [List.cons_append, finishChar_tail (c.toNat / 4096) (by split <;> omega) (by split <;> omega),
      List.cons_append, finishChar_tail (c.toNat / 64) (by omega) (by omega),
      List.cons_append, finishChar_tail c.toNat (by omega) (by omega), finishChar]
    congr 1
    omega

/-! Texts. -/

theorem decodeFrom_encode (cs : List Char) {budget : Nat} (index : Nat)
    (enough : (encode cs).length ≤ budget) : decodeFrom budget index (encode cs) = .ok cs := by
  induction cs generalizing budget index with
  | nil => simp [encode, decodeFrom]
  | cons c cs ih =>
    obtain ⟨b, tail, bytes, read⟩ := readsBack_encodeChar c
    rw [encode_cons, bytes, List.cons_append] at enough ⊢
    cases budget with
    | zero => simp at enough
    | succ budget =>
      have left : (encode cs).length ≤ budget := by
        simp only [List.length_cons, List.length_append] at enough
        omega
      rw [decodeFrom, read]
      simp [ih (index + (tail.length + 1)) left, Except.map]

theorem decode_encode (cs : List Char) : decode (encode cs) = .ok cs :=
  decodeFrom_encode cs 0 (Nat.le_refl _)

end Dialback.Text.Utf8
