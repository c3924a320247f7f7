import Dialback.Wire.Form

/-!
Frames on a byte stream: a length in four bytes, most significant first, and as many bytes of body.
The receiving side sees the stream in chunks, cut anywhere; it keeps what it cannot use yet. After
the first fault nothing more is read.
-/
namespace Dialback.Wire

def headerLength : Nat := 4

/-- Longer bodies are refused on both sides. -/
def maxBody : Nat := 8 * 1024 * 1024

def header (n : Nat) : List UInt8 :=
  (littleEndian headerLength n).reverse

def frame? (body : List UInt8) : Option (List UInt8) :=
  if body.length ≤ maxBody then some (header body.length ++ body) else none

/-- The bytes of one message. -/
def encode? {α : Type} [WireForm α] (a : α) : Option (List UInt8) :=
  frame? (WireForm.write a)

def encodeAll? {α : Type} [WireForm α] (as : List α) : Option (List UInt8) :=
  (as.mapM encode?).map List.flatten

/-- The message that makes up a whole body. -/
def decodeBody {α : Type} [WireForm α] (body : List UInt8) : Except Fault α :=
  match WireForm.read body with
  | .error fault => .error fault
  | .ok (a, []) => .ok a
  | .ok (_, _ :: _) => .error .surplusBytes

inductive Split where
  /-- More bytes are needed. -/
  | incomplete
  | tooLong
  | frame (body rest : List UInt8)
  deriving DecidableEq, Repr

/-- Cuts the first frame off. -/
def split (bs : List UInt8) : Split :=
  if bs.length < headerLength then .incomplete
  else
    let n := ofLittleEndian (bs.take headerLength).reverse
    let rest := bs.drop headerLength
    if maxBody < n then .tooLong
    else if n ≤ rest.length then .frame (rest.take n) (rest.drop n)
    else .incomplete

theorem split_rest_length {bs body rest : List UInt8} (h : split bs = .frame body rest) :
    rest.length < bs.length := by
  simp only [split] at h
  split at h
  · cases h
  · rename_i long
    split at h
    · cases h
    · split at h
      · cases h
        simp only [headerLength, List.length_drop] at *
        omega
      · cases h

/-- The receiving side of one stream. -/
structure Receiver (α : Type) where
  /-- Bytes of a frame that is not complete yet. -/
  pending : List UInt8 := []
  messages : List α := []
  fault : Option Fault := none
  deriving DecidableEq, Repr

namespace Receiver

variable {α : Type} [WireForm α]

/-- All messages whose frames are complete, up to the first fault. -/
def drain (bs : List UInt8) : Receiver α :=
  match _h : split bs with
  | .incomplete => { pending := bs }
  | .tooLong => { fault := some .frameSize }
  | .frame body rest =>
    match (decodeBody body : Except Fault α) with
    | .error fault => { fault := some fault }
    | .ok a =>
      let r : Receiver α := drain rest
      { r with messages := a :: r.messages }
termination_by bs.length
decreasing_by exact split_rest_length ‹_›

def feed (r : Receiver α) (chunk : List UInt8) : Receiver α :=
  if r.fault.isSome then r
  else
    let more : Receiver α := drain (r.pending ++ chunk)
    { more with messages := r.messages ++ more.messages }

/-- The stream ends. Right behind a header that is nothing special; in the middle of a header or of
a body it is a fault. -/
def finish (r : Receiver α) : Receiver α :=
  if r.fault.isSome || r.pending.isEmpty || r.pending.length = headerLength then r
  else { r with fault := some .frameCut }

/-- What a stream that arrives in these chunks yields. -/
def ofChunks (chunks : List (List UInt8)) : Receiver α :=
  (chunks.foldl feed {}).finish

end Receiver
end Dialback.Wire
