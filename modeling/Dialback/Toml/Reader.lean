import Dialback.Toml.Quoted
import Dialback.Toml.Scalar

/-!
Reading TOML documents, line by line. Values nest at most `maxDepth` deep, and keys have fewer parts
than that.
-/
namespace Dialback.Toml

def maxDepth : Nat := 80

def skipGaps (cs : List Char) : List Char :=
  cs.dropWhile isGap

/-- What follows the end of this line, or `none` if something else than a comment comes first. -/
def endLine? (cs : List Char) : Option (List Char) :=
  let cs := skipGaps cs
  let cs :=
    match cs with
    | '#' :: rest => rest.dropWhile isPlain
    | _ => cs
  match cs with
  | [] => some []
  | '\n' :: rest => some rest
  | '\r' :: '\n' :: rest => some rest
  | _ => none

/-- Blanks, comments and line ends between the items of an array. -/
def skipLines : Nat → List Char → List Char
  | 0, cs => cs
  | n + 1, cs =>
    match cs with
    | [] => []
    | c :: rest =>
      if isGap c || c == '#' || c == '\n' || c == '\r' then
        match endLine? (c :: rest) with
        | some rest => skipLines n rest
        | none => skipGaps (c :: rest)
      else c :: rest

def isBareKeyChar (c : Char) : Bool :=
  c.isAlphanum || c == '_' || c == '-'

def keyPart? (cs : List Char) : Option (String × List Char) :=
  match cs with
  | '"' :: _ | '\'' :: _ => (lineText? cs).map fun (t, rest) => (String.ofList t, rest)
  | _ =>
    let key := cs.takeWhile isBareKeyChar
    if key.isEmpty then none else some (String.ofList key, cs.dropWhile isBareKeyChar)

def keyParts? : Nat → List Char → Option (List String × List Char)
  | 0, _ => none
  | n + 1, cs =>
    match keyPart? (skipGaps cs) with
    | none => none
    | some (part, rest) =>
      match skipGaps rest with
      | '.' :: rest => (keyParts? n rest).map fun (parts, rest) => (part :: parts, rest)
      | rest => some ([part], rest)

/-- A dotted key: the parts before the last, the last one, and what follows. -/
def key? (cs : List Char) : Option (List String × String × List Char) :=
  match keyParts? (maxDepth - 1) cs with
  | none => none
  | some (parts, rest) => parts.getLast?.map fun last => (parts.dropLast, last, rest)

mutual

/-- A value at the start of the text. `depth` counts what may still be opened. -/
def value? : Nat → Nat → List Char → Option (Value × List Char)
  | 0, _, _ => none
  | n + 1, depth, cs =>
    match cs with
    | '"' :: _ | '\'' :: _ =>
      (quotedText? cs).map fun (t, rest) => (.text (String.ofList t), rest)
    | '[' :: rest =>
      match depth with
      | 0 => none
      | depth + 1 => (items? n depth rest).map fun (vs, rest) => (.array vs, rest)
    | '{' :: rest =>
      match depth with
      | 0 => none
      | depth + 1 =>
        match skipGaps rest with
        | '}' :: rest => some (.table .inline [], rest)
        | rest => (pairs? n depth [] rest).map fun (es, rest) => (.table .inline es, rest)
    | _ => scalarWord cs

def items? : Nat → Nat → List Char → Option (List Value × List Char)
  | 0, _, _ => none
  | n + 1, depth, cs =>
    match skipLines cs.length cs with
    | ']' :: rest => some ([], rest)
    | cs =>
      match value? n depth cs with
      | none => none
      | some (v, rest) =>
        match skipLines rest.length rest with
        | ']' :: rest => some ([v], rest)
        | ',' :: rest => (items? n depth rest).map fun (vs, rest) => (v :: vs, rest)
        | _ => none

/-- The pairs of a table in one line, added to `entries`; it has no comma at its end. -/
def pairs? : Nat → Nat → Entries → List Char → Option (Entries × List Char)
  | 0, _, _, _ => none
  | n + 1, depth, entries, cs =>
    match key? cs with
    | some (path, last, '=' :: rest) =>
      match value? n depth (skipGaps rest) with
      | none => none
      | some (v, rest) =>
        match addInline entries path last v with
        | none => none
        | some entries =>
          match skipGaps rest with
          | '}' :: rest => some (entries, rest)
          | ',' :: rest => pairs? n depth entries rest
          | _ => none
    | _ => none

end

/-- A document under construction: everything so far and the header in force. -/
structure Draft where
  root : Entries := []
  current : List String := []

def Draft.add? (d : Draft) (path : List String) (key : String) (v : Value) : Option Draft :=
  (descend false .header d.root d.current fun o es => addValue o es path key v).map
    fun (_, root) => { d with root }

def Draft.header? (d : Draft) (cs : List Char) : Option (Draft × List Char) :=
  match cs with
  | '[' :: '[' :: rest =>
    match key? rest with
    | some (path, last, ']' :: ']' :: rest) =>
      (appendTable d.root path last).map fun root => (⟨root, path ++ [last]⟩, rest)
    | _ => none
  | '[' :: rest =>
    match key? rest with
    | some (path, last, ']' :: rest) =>
      (openTable d.root path last).map fun root => (⟨root, path ++ [last]⟩, rest)
    | _ => none
  | _ => none

def Draft.pair? (d : Draft) (cs : List Char) : Option (Draft × List Char) :=
  match key? cs with
  | some (path, last, '=' :: rest) =>
    match value? (2 * rest.length + 2) (maxDepth - 1) (skipGaps rest) with
    | some (v, rest) => (d.add? path last v).map (·, rest)
    | none => none
  | _ => none

/-- Reads line after line; a line ends before the next one starts, so their number is bounded by
the length of the text. -/
def Draft.lines? : Nat → Draft → List Char → Option Draft
  | 0, _, _ => none
  | n + 1, d, cs =>
    match skipGaps cs with
    | [] => some d
    | c :: rest =>
      let read? : Option (Draft × List Char) :=
        if c == '#' || c == '\n' || c == '\r' then some (d, c :: rest)
        else if c == '[' then d.header? (c :: rest)
        else d.pair? (c :: rest)
      match read? with
      | none => none
      | some (d, rest) =>
        match endLine? rest with
        | some rest => Draft.lines? n d rest
        | none => none

/-- A document; a byte order mark in front is left out. -/
def parse? (s : String) : Option Entries :=
  let cs :=
    match s.toList with
    | '\ufeff' :: rest => rest
    | cs => cs
  (Draft.lines? (cs.length + 1) {} cs).map (·.root)

end Dialback.Toml
