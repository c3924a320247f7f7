/-!
Texts as bytes. Writing takes one to four bytes per character; reading refuses everything that
writing does not produce, and tells where and how long the first malformed piece is.
-/
namespace Dialback.Text.Utf8

def encodeChar (c : Char) : List UInt8 :=
  let n := c.toNat
  let tail (shift : Nat) : UInt8 := (0x80 + n / shift % 64).toUInt8
  if n < 0x80 then [n.toUInt8]
  else if n < 0x800 then [(0xc0 + n / 64).toUInt8, tail 1]
  else if n < 0x10000 then [(0xe0 + n / 4096).toUInt8, tail 64, tail 1]
  else [(0xf0 + n / 262144).toUInt8, tail 4096, tail 64, tail 1]

def encode (cs : List Char) : List UInt8 :=
  cs.flatMap encodeChar

/-- The first malformed piece: `length?` is absent if the text stops inside a character. -/
structure Malformed where
  index : Nat
  length? : Option Nat
  deriving DecidableEq, Repr

def Malformed.message (m : Malformed) : String :=
  match m.length? with
  | some n => s!"invalid utf-8 sequence of {n} bytes from index {m.index}"
  | none => s!"incomplete utf-8 byte sequence from index {m.index}"

/-- What the first byte of a character promises: its payload, the bounds of the second byte and the
number of bytes behind the second. -/
structure Lead where
  payload : Nat
  low : Nat
  high : Nat
  more : Nat

def lead? (b : Nat) : Option Lead :=
  if 0xc2 ≤ b && b ≤ 0xdf then some ⟨b - 0xc0, 0x80, 0xbf, 0⟩
  else if b = 0xe0 then some ⟨0, 0xa0, 0xbf, 1⟩
  else if b = 0xed then some ⟨0xd, 0x80, 0x9f, 1⟩
  else if 0xe1 ≤ b && b ≤ 0xef then some ⟨b - 0xe0, 0x80, 0xbf, 1⟩
  else if b = 0xf0 then some ⟨0, 0x90, 0xbf, 2⟩
  else if 0xf1 ≤ b && b ≤ 0xf3 then some ⟨b - 0xf0, 0x80, 0xbf, 2⟩
  else if b = 0xf4 then some ⟨4, 0x80, 0x8f, 2⟩
  else none

/-- The bytes behind the first one of a character, `count` of them with the first within the given
bounds: the code point, or the length of the malformed piece. -/
def finishChar (payload low high count seen : Nat) (bs : List UInt8) : Except (Option Nat) Nat :=
  match count with
  | 0 => .ok payload
  | count + 1 =>
    match bs with
    | [] => .error none
    | b :: rest =>
      let n := b.toNat
      if low ≤ n && n ≤ high then
        finishChar (payload * 64 + (n - 0x80)) 0x80 0xbf count (seen + 1) rest
      else .error (some seen)

/-- The character at the start of some bytes and the number of bytes it takes. -/
def decodeChar (b : UInt8) (rest : List UInt8) : Except (Option Nat) (Char × Nat) :=
  if b.toNat < 0x80 then .ok (Char.ofNat b.toNat, 1)
  else
    match lead? b.toNat with
    | none => .error (some 1)
    | some l =>
      (finishChar l.payload l.low l.high (l.more + 1) 1 rest).map fun n => (Char.ofNat n, l.more + 2)

/-- Characters one after the other; the budget is the number of bytes, since each takes one. -/
def decodeFrom : Nat → Nat → List UInt8 → Except Malformed (List Char)
  | _, _, [] => .ok []
  | 0, _, _ :: _ => .ok []
  | budget + 1, index, b :: rest =>
    match decodeChar b rest with
    | .error length? => .error ⟨index, length?⟩
    | .ok (c, size) =>
      (decodeFrom budget (index + size) (rest.drop (size - 1))).map (c :: ·)

def decode (bs : List UInt8) : Except Malformed (List Char) :=
  decodeFrom bs.length 0 bs

end Dialback.Text.Utf8
