import Dialback.Text.Numeral

/-!
The four quoted forms of a text: basic and literal, each on one line or on several. Basic texts have
escapes, literal ones stand as they are; only texts on several lines hold newlines.
-/
namespace Dialback.Toml

/-- Characters that may stand in a text on one line as they are. -/
def isPlain (c : Char) : Bool :=
  c == '\t' || (0x20 ≤ c.toNat && c.toNat != 0x7f)

def ofCode? (n : Nat) : Option Char :=
  if h : n.isValidChar then some (Char.ofNatAux n h) else none

/-- Reads one escape behind its backslash: the character and what follows. -/
def escape? : List Char → Option (Char × List Char)
  | 'b' :: rest => some ('\x08', rest)
  | 't' :: rest => some ('\t', rest)
  | 'n' :: rest => some ('\n', rest)
  | 'f' :: rest => some ('\x0c', rest)
  | 'r' :: rest => some ('\r', rest)
  | '"' :: rest => some ('"', rest)
  | '\\' :: rest => some ('\\', rest)
  | 'u' :: rest =>
    if rest.length < 4 then none
    else ((Text.hexValue? (rest.take 4)).bind ofCode?).map fun c => (c, rest.drop 4)
  | 'U' :: rest =>
    if rest.length < 8 then none
    else ((Text.hexValue? (rest.take 8)).bind ofCode?).map fun c => (c, rest.drop 8)
  | _ => none

/-- Where reading stands inside a basic text on several lines: in the text, behind a backslash that
must end its line, or in the blanks that such a line end swallows. -/
inductive Place where
  | inside
  | lineEnd
  | gap

/-- The rest of a basic text, up to its closing quote. The budget is the number of characters. -/
def basicBody? : Nat → List Char → Option (List Char × List Char)
  | 0, _ => none
  | n + 1, cs =>
    match cs with
    | [] => none
    | '"' :: rest => some ([], rest)
    | '\\' :: rest =>
      match escape? rest with
      | none => none
      | some (c, rest) => (basicBody? n rest).map fun (t, rest) => (c :: t, rest)
    | c :: rest =>
      if isPlain c then (basicBody? n rest).map fun (t, rest) => (c :: t, rest) else none

def literalBody? : List Char → Option (List Char × List Char)
  | [] => none
  | '\'' :: rest => some ([], rest)
  | c :: rest =>
    if isPlain c then (literalBody? rest).map fun (t, rest) => (c :: t, rest) else none

/-- A run of at least three quotes closes a text on several lines; up to two more belong to it. -/
def closing? (quote : Char) (cs : List Char) : Option (List Char × List Char) :=
  let run := (cs.takeWhile (· == quote)).length
  if run < 3 then none
  else
    let extra := min (run - 3) 2
    some (List.replicate extra quote, cs.drop (extra + 3))

def isGap (c : Char) : Bool :=
  c == ' ' || c == '\t'

/-- The rest of a basic text on several lines. A line end of two characters counts as one. -/
def basicLines? : Nat → Place → List Char → Option (List Char × List Char)
  | 0, _, _ => none
  | n + 1, place, cs =>
    let go (kept : List Char) (place : Place) (rest : List Char) :=
      (basicLines? n place rest).map fun (t, rest) => (kept ++ t, rest)
    match place, cs with
    | .gap, '\r' :: '\n' :: rest => go [] .gap rest
    | .gap, '\n' :: rest => go [] .gap rest
    | .gap, c :: rest => if isGap c then go [] .gap rest else go [] .inside (c :: rest)
    | .lineEnd, '\r' :: '\n' :: rest => go [] .gap rest
    | .lineEnd, '\n' :: rest => go [] .gap rest
    | .lineEnd, c :: rest => if isGap c then go [] .lineEnd rest else none
    | .inside, '\r' :: '\n' :: rest => go ['\n'] .inside rest
    | .inside, '\n' :: rest => go ['\n'] .inside rest
    | .inside, '"' :: rest =>
      match closing? '"' ('"' :: rest) with
      | some found => some found
      | none => go ['"'] .inside rest
    | .inside, '\\' :: rest =>
      match escape? rest with
      | some (c, rest) => go [c] .inside rest
      | none =>
        match rest with
        | c :: _ => if isGap c || c == '\n' || c == '\r' then go [] .lineEnd rest else none
        | [] => none
    | .inside, c :: rest => if isPlain c then go [c] .inside rest else none
    | _, [] => none

def literalLines? : List Char → Option (List Char × List Char)
  | [] => none
  | '\r' :: '\n' :: rest => (literalLines? rest).map fun (t, rest) => ('\n' :: t, rest)
  | '\n' :: rest => (literalLines? rest).map fun (t, rest) => ('\n' :: t, rest)
  | '\'' :: rest =>
    match closing? '\'' ('\'' :: rest) with
    | some found => some found
    | none => (literalLines? rest).map fun (t, rest) => ('\'' :: t, rest)
  | c :: rest =>
    if isPlain c then (literalLines? rest).map fun (t, rest) => (c :: t, rest) else none

/-- A line end right behind the opening quotes does not belong to the text. -/
def skipFirstLineEnd : List Char → List Char
  | '\r' :: '\n' :: rest => rest
  | '\n' :: rest => rest
  | cs => cs

/-- A quoted text on one line, as in keys. -/
def lineText? : List Char → Option (List Char × List Char)
  | '"' :: rest => basicBody? (rest.length + 1) rest
  | '\'' :: rest => literalBody? rest
  | _ => none

/-- A quoted text of any form. -/
def quotedText? : List Char → Option (List Char × List Char)
  | '"' :: '"' :: '"' :: rest =>
    let body := skipFirstLineEnd rest
    basicLines? (2 * body.length + 1) .inside body
  | '\'' :: '\'' :: '\'' :: rest => literalLines? (skipFirstLineEnd rest)
  | cs => lineText? cs

end Dialback.Toml
