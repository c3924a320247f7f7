import Dialback.Text.Blank
import Dialback.Text.Numeral
import Dialback.Text.Quoted

/-!
Semantic versions: three numbers, an optional prerelease label and a build number that belongs to
the label. Reading accepts more texts than writing produces: blanks around the version, plus signs
and leading zeros.
-/
namespace Dialback

structure Version where
  major : UInt32
  minor : UInt32
  patch : UInt32
  build : UInt32
  prerelease : String
  deriving DecidableEq, Repr, Inhabited

namespace Version

def release (major minor patch : UInt32) : Version :=
  ⟨major, minor, patch, 0, ""⟩

def isPrerelease (v : Version) : Bool :=
  v.prerelease != ""

/-- The build number is shown only behind a prerelease label, and only when it is not zero. -/
def render (v : Version) : String :=
  String.ofList <|
    Text.decimal v.major.toNat ++ '.' :: Text.decimal v.minor.toNat ++
      '.' :: Text.decimal v.patch.toNat ++
      if v.isPrerelease then
        '-' :: v.prerelease.toList ++
          if v.build = 0 then [] else '.' :: Text.decimal v.build.toNat
      else []

/-- The text before the first `sep` and the text behind it, if there is one. -/
def splitFirst (sep : Char) (cs : List Char) : List Char × Option (List Char) :=
  match cs.dropWhile (· != sep) with
  | [] => (cs, none)
  | _ :: rest => (cs.takeWhile (· != sep), some rest)

/-- The text before the last `sep` and the text behind it. -/
def splitLast? (sep : Char) (cs : List Char) : Option (List Char × List Char) :=
  match cs.reverse.dropWhile (· != sep) with
  | [] => none
  | _ :: before => some (before.reverse, (cs.reverse.takeWhile (· != sep)).reverse)

/-- The three numbers of the core. -/
def core? (cs : List Char) : Option (UInt32 × UInt32 × UInt32) :=
  match cs.splitOn '.' with
  | [a, b, c] =>
    match Text.uint32? a, Text.uint32? b, Text.uint32? c with
    | some major, some minor, some patch => some (major, minor, patch)
    | _, _, _ => none
  | _ => none

/-- Label and build number of the text behind the hyphen. -/
def label (cs : List Char) : List Char × UInt32 :=
  match splitLast? '.' cs with
  | some (before, behind) =>
    match Text.uint32? behind with
    | some build => (before, build)
    | none => (cs, 0)
  | none => (cs, 0)

def parse? (s : String) : Option Version :=
  let (core, tail) := splitFirst '-' (Text.trim s.toList)
  match core? core, tail with
  | some (major, minor, patch), none => some (release major minor patch)
  | some (major, minor, patch), some tail =>
    if tail.isEmpty then none
    else
      let (pre, build) := label tail
      some ⟨major, minor, patch, build, String.ofList pre⟩
  | none, _ => none

/-- A text that is no version, as it was given. -/
structure ParseError where
  text : String
  deriving DecidableEq, Repr

def ParseError.message (e : ParseError) : String :=
  "invalid version string " ++ Text.shown e.text

def parse (s : String) : Except ParseError Version :=
  match parse? s with
  | some v => .ok v
  | none => .error ⟨s⟩

end Version
end Dialback
