/-!
Paths by their text. Going up is lexical: it takes the last component away, whatever it is, and
ends at the root or at the empty path. What else stands in the text stays, and counts for its length.
-/
namespace Dialback.Files

/-- What a text begins with. -/
inductive Start where
  | root
  /-- A lone dot. -/
  | here
  | bare
  deriving DecidableEq, Repr

structure Path where
  start : Start := .bare
  /-- What stands between the slashes that follow. -/
  pieces : List String
  deriving DecidableEq, Repr

namespace Path

def ofString (s : String) : Path :=
  match s.splitOn "/" with
  | "" :: piece :: rest => { start := .root, pieces := piece :: rest }
  | "." :: rest => { start := .here, pieces := rest }
  | pieces => { pieces }

/-- The components that the system looks up, one after another. -/
def names (p : Path) : List String :=
  match p.start with
  | .here => "." :: p.pieces
  | .root | .bare => p.pieces

def render (p : Path) : String :=
  (if p.start = .root then "/" else "") ++ "/".intercalate p.names

/-- Empty components and dots leave no trace, except a dot in front of a relative path. -/
def isIdle (piece : String) : Bool :=
  piece == "" || piece == "."

/-- The components that count when going up. -/
def parts (p : Path) : List String :=
  (if p.start = .here then ["."] else []) ++ p.pieces.filter (!isIdle ·)

def trimEnd (pieces : List String) : List String :=
  (pieces.reverse.dropWhile isIdle).reverse

/-- No slash is written behind another. -/
def join (p : Path) (name : String) : Path :=
  let opening := if p.pieces.getLast? = some "" then p.pieces.dropLast else p.pieces
  { p with pieces := opening ++ [name] }

/-- The path without its last component; `none` at the root and for the empty path. -/
def parent? (p : Path) : Option Path :=
  let kept := trimEnd p.pieces
  if kept.isEmpty then
    if p.start = .here then some { pieces := [] } else none
  else some { p with pieces := trimEnd kept.dropLast }

end Path
end Dialback.Files
