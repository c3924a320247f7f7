import Dialback.Fault
import Dialback.Text.Utf8

/-!
Why bytes are not the form of a message, or not a sequence of frames. Each is a failure of the
stream.
-/
namespace Dialback.Wire

inductive Fault where
  /-- Bytes of an integer or a tag are missing. -/
  | missingBytes
  /-- A text or an identifier is announced longer than what is left. -/
  | missingContent
  | surplusBytes
  | alternative (found count : Nat)
  | presence (found : Nat)
  | text (malformed : Text.Utf8.Malformed)
  | identifierLength (found : Nat)
  | word (found : Nat)
  | duration
  | wideInteger
  | reservedInteger
  | frameSize
  | frameCut
  deriving DecidableEq, Repr

def Fault.message : Fault → String
  | missingBytes => "io error: unexpected end of file"
  | missingContent => "io error: "
  | surplusBytes => "Slice had bytes remaining after deserialization"
  | alternative found count =>
    "invalid value: integer `" ++ toString found ++ "`, expected variant index 0 <= i < " ++
      toString count
  | presence found => s!"tag for enum is not valid, found {found}"
  | text malformed => "string is not valid utf8: " ++ malformed.message
  | identifierLength found =>
    s!"UUID parsing failed: invalid length: expected 16 bytes, found {found}"
  | word found => s!"Invalid u32 {found}: you may have a version disagreement?"
  | duration => "overflow deserializing Duration"
  | wideInteger =>
    "Invalid value (u128 range): you may have a version or configuration disagreement?"
  | reservedInteger =>
    "\nByte 255 is treated as an extension point; it should not be encoding anything.\n" ++
      "Do you have a mismatched bincode version or configuration?\n"
  | frameSize => "frame size too big"
  | frameCut => "bytes remaining on stream"

def Fault.toTransport (f : Fault) : TransportFault :=
  .io f.message

end Dialback.Wire
