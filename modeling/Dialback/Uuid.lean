import Dialback.Text.Numeral

/-!
Identifiers of 128 bits. Written in five groups of hexadecimal digits; read in four forms: bare
digits, groups, groups in braces and groups behind `urn:uuid:`. Which form was meant is taken from
the length in bytes, and a failure is diagnosed on the text that the chosen form left.
-/
namespace Dialback

structure Uuid where
  value : Nat
  bound : value < 0x100000000_00000000_00000000_00000000 := by decide
  deriving DecidableEq, Repr

namespace Uuid

def null : Uuid := ⟨0, by decide⟩

instance : Inhabited Uuid := ⟨null⟩

def ofNat (n : Nat) : Uuid :=
  ⟨n % 0x100000000_00000000_00000000_00000000, Nat.mod_lt _ (by decide)⟩

/-- The sixteen bytes, most significant first. -/
def toBytes (u : Uuid) : List UInt8 :=
  (List.range 16).reverse.map fun i => (u.value / Nat.pow 256 i % 256).toUInt8

def ofBytes (bs : List UInt8) : Uuid :=
  ofNat (bs.foldl (fun n b => n * 256 + b.toNat) 0)

def groupLengths : List Nat := [8, 4, 4, 4, 12]

def splitGroups : List Nat → List Char → List (List Char)
  | [], _ => []
  | n :: ns, cs => cs.take n :: splitGroups ns (cs.drop n)

def renderChars (u : Uuid) : List Char :=
  ['-'].intercalate (splitGroups groupLengths (Text.hexPadded 32 u.value))

def render (u : Uuid) : String :=
  String.ofList u.renderChars

inductive ParseError where
  | length (found : Nat)
  | character (c : Char) (index : Nat)
  | groupCount (found : Nat)
  | groupLength (group expected found : Nat)
  deriving DecidableEq, Repr

def ParseError.message : ParseError → String
  | length found => s!"invalid length: found {found}"
  | character c index =>
    "invalid character: found `" ++ c.toString ++ "` at " ++ toString index
  | groupCount found => s!"invalid group count: expected 5, found {found}"
  | groupLength group expected found =>
    s!"invalid group length in group {group}: expected {expected}, found {found}"

def byteLength (cs : List Char) : Nat :=
  (String.ofList cs).utf8ByteSize

def ofDigits? (cs : List Char) : Option Uuid :=
  (Text.hexValue? cs).map ofNat

def ofGroups? (cs : List Char) : Option Uuid :=
  let groups := cs.splitOn '-'
  if groups.map List.length = groupLengths then ofDigits? groups.flatten else none

def urnMark : List Char := "urn:uuid:".toList

def hasUrnMark (cs : List Char) : Bool :=
  (cs.take urnMark.length).map Char.toLower == urnMark

/-- The text between a pair of braces. -/
def inBraces? (cs : List Char) : Option (List Char) :=
  match cs with
  | '{' :: rest => if rest.getLast? = some '}' then some rest.dropLast else none
  | _ => none

/-- First character that is neither a hexadecimal digit nor a hyphen, with its position. -/
def strayChar? (start : Nat) (cs : List Char) : Option (Char × Nat) :=
  match cs with
  | [] => none
  | c :: rest =>
    if Text.isHexDigit c || c == '-' then strayChar? (start + 1) rest else some (c, start)

def hyphenPositions (cs : List Char) : List Nat :=
  (cs.zipIdx.filter (·.1 == '-')).map (·.2)

/-- The first group whose hyphen is out of place; positions pair up with group starts. -/
def misplacedGroup? (positions : List Nat) : Option ParseError :=
  let expected := [(0, 0, 8), (1, 9, 4), (2, 14, 4), (3, 19, 4)]
  (expected.zip positions).findSome? fun ((group, start, size), p) =>
    if p = start + size then none else some (.groupLength group size (p - start))

/-- Why `whole` is no identifier, when its groups, if any, begin behind `skipped` bytes and make up
`body`; `grouped` tells that the form calls for hyphens. -/
def diagnose (whole body : List Char) (skipped : Nat) (grouped : Bool) : ParseError :=
  match strayChar? skipped body with
  | some (c, index) => .character c index
  | none =>
    let positions := hyphenPositions body
    if !grouped && positions.isEmpty then .length (byteLength whole)
    else if positions.length ≠ 4 then .groupCount (positions.length + 1)
    else
      (misplacedGroup? positions).getD (.groupLength 4 12 (byteLength whole - 24))

def diagnoseAny (cs : List Char) : ParseError :=
  let size := byteLength cs
  if size = 0 || 45 < size then .length size
  else
    match inBraces? cs with
    | some inner => diagnose cs inner 1 true
    | none =>
      if hasUrnMark cs then
        diagnose cs (cs.drop urnMark.length) urnMark.length true
      else diagnose cs cs 0 false

def parseGroups (cs : List Char) : Except ParseError Uuid :=
  match ofGroups? cs with
  | some u => .ok u
  | none => .error (diagnose cs cs 0 true)

def parse (s : String) : Except ParseError Uuid :=
  let cs := s.toList
  let size := byteLength cs
  if size = 32 then
    match ofDigits? cs with
    | some u => .ok u
    | none => .error (diagnoseAny cs)
  else if size = 36 then parseGroups cs
  else if size = 45 && hasUrnMark cs then parseGroups (cs.drop urnMark.length)
  else
    match inBraces? cs with
    | some inner => if size = 38 then parseGroups inner else .error (diagnoseAny cs)
    | none => .error (diagnoseAny cs)

def parse? (s : String) : Option Uuid :=
  (parse s).toOption

end Uuid
end Dialback
