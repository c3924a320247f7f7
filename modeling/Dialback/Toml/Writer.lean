import Dialback.Binary64.Shortest
import Dialback.Text.Numeral

/-!
Writing TOML: keys with texts, integers and floats, and section headers. A text takes the first
quoted form that shows it without escapes, and a basic form with escapes if there is none.
-/
namespace Dialback.Toml

def isControl (c : Char) : Bool :=
  (c.toNat < 0x20 && c != '\t' && c != '\n') || c.toNat == 0x7f

/-- The length of the longest run of `c`. -/
def longestRun (c : Char) (cs : List Char) : Nat :=
  (cs.foldl (fun (best, run) d =>
    let run := if d == c then run + 1 else 0
    (max best run, run)) (0, 0)).1

def unicodeEscape (c : Char) : List Char :=
  ['\\', 'u'] ++ (Text.hexPadded 4 c.toNat).map Char.toUpper

def escapeControl (c : Char) : List Char :=
  match c with
  | '\x08' => ['\\', 'b']
  | '\t' => ['\\', 't']
  | '\x0c' => ['\\', 'f']
  | '\r' => ['\\', 'r']
  | '\\' => ['\\', '\\']
  | c => if isControl c then unicodeEscape c else [c]

/-- The inside of a basic text. With `lines` newlines stand as they are, and so do two quotes in a
row; `run` counts the quotes just written. -/
def basicInside (lines : Bool) (run : Nat) (cs : List Char) : List Char :=
  match cs with
  | [] => []
  | '"' :: rest =>
    if run < (if lines then 2 else 0) then '"' :: basicInside lines (run + 1) rest
    else '\\' :: '"' :: basicInside lines 0 rest
  | '\n' :: rest =>
    (if lines then ['\n'] else ['\\', 'n']) ++ basicInside lines 0 rest
  | c :: rest => escapeControl c ++ basicInside lines 0 rest

inductive Form where
  | basic
  | literal
  | basicLines
  | literalLines
  deriving DecidableEq, Repr

def formOf (cs : List Char) : Form :=
  let controls := cs.any isControl
  let newline := cs.contains '\n'
  let doubles := longestRun '"' cs
  let singles := longestRun '\'' cs
  let escapes := cs.contains '\\'
  if doubles = 0 && !escapes && !newline && !controls then .basic
  else if singles = 0 && !newline && !controls then .literal
  else if !controls && !escapes && doubles ≤ 2 then .basicLines
  else if !controls && singles ≤ 2 then .literalLines
  else if newline then .basicLines
  else .basic

/-- A form on several lines starts with a line end of its own if the text has any. -/
def opening (cs : List Char) : List Char :=
  if cs.contains '\n' then ['\n'] else []

def renderText (s : String) : List Char :=
  let cs := s.toList
  match formOf cs with
  | .basic => '"' :: basicInside false 0 cs ++ ['"']
  | .literal => '\'' :: cs ++ ['\'']
  | .basicLines =>
    ['"', '"', '"'] ++ opening cs ++ basicInside true 0 cs ++ ['"', '"', '"']
  | .literalLines => ['\'', '\'', '\''] ++ opening cs ++ cs ++ ['\'', '\'', '\'']

def maxInteger : Nat := 9_223_372_036_854_775_807

/-- Integers beyond 63 bits cannot be written. -/
def renderNat? (n : Nat) : Option (List Char) :=
  if n ≤ maxInteger then some (Text.decimal n) else none

/-- One line for a key with its written value. -/
def line (key : String) (value : List Char) : List Char :=
  key.toList ++ [' ', '=', ' '] ++ value ++ ['\n']

def block (name : String) (lines : List (List Char)) : List Char :=
  ['\n', '['] ++ name.toList ++ [']', '\n'] ++ lines.flatten

end Dialback.Toml
