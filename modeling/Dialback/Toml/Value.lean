import Dialback.Binary64

/-!
TOML documents as trees. A table remembers how it came about, because that decides whether later
lines may add to it.
-/
namespace Dialback.Toml

/-- How a table came about: by its own header, by a longer header or a longer key below it, or
written in one line. -/
inductive Origin where
  | header
  | parent
  | dotted
  | inline
  deriving DecidableEq, Repr

inductive Value where
  | text (s : String)
  | integer (n : Int)
  | float (x : Binary64)
  | boolean (b : Bool)
  | moment
  | array (items : List Value)
  | table (origin : Origin) (entries : List (String × Value))
  /-- A table per header in double brackets. -/
  | tables (items : List (List (String × Value)))
  deriving Inhabited

abbrev Entries := List (String × Value)

namespace Entries

def find? (entries : Entries) (key : String) : Option Value :=
  List.lookup key entries

def set (entries : Entries) (key : String) (value : Value) : Entries :=
  if entries.any (·.1 == key) then
    entries.map fun e => if e.1 == key then (key, value) else e
  else entries ++ [(key, value)]

end Entries

/-- Changes the table at the end of a path, opening tables on the way. Behind an array of tables the
path goes on in its last table. A `dotted` path may not enter a table that has a header. -/
def descend (dotted : Bool) (origin : Origin) (entries : Entries) (path : List String)
    (change : Origin → Entries → Option (Origin × Entries)) : Option (Origin × Entries) :=
  match path with
  | [] => change origin entries
  | key :: rest =>
    let put (v : Value) : Origin × Entries := (origin, Entries.set entries key v)
    match Entries.find? entries key with
    | none =>
      let opened := if dotted then Origin.dotted else Origin.parent
      (descend dotted opened [] rest change).map fun (o, es) => put (.table o es)
    | some (.table o es) =>
      if o = .inline || (dotted && o = .header) then none
      else (descend dotted o es rest change).map fun (o, es) => put (.table o es)
    | some (.tables items) =>
      match items.getLast? with
      | none => none
      | some last =>
        (descend dotted .header last rest change).map fun (_, es) =>
          put (.tables (items.dropLast ++ [es]))
    | some _ => none

/-- Opens the table of a header. -/
def openTable (root : Entries) (path : List String) (key : String) : Option Entries :=
  (descend false .header root path fun o es =>
    match Entries.find? es key with
    | none => some (o, Entries.set es key (.table .header []))
    | some (.table .parent inner) => some (o, Entries.set es key (.table .header inner))
    | some _ => none).map (·.2)

/-- Opens the next table of an array of tables. -/
def appendTable (root : Entries) (path : List String) (key : String) : Option Entries :=
  (descend false .header root path fun o es =>
    match Entries.find? es key with
    | none => some (o, Entries.set es key (.tables [[]]))
    | some (.tables items) => some (o, Entries.set es key (.tables (items ++ [[]])))
    | some _ => none).map (·.2)

/-- Adds one value below a table. A key of several parts ends in a table that only such keys have
opened, a single key never does. -/
def addValue (origin : Origin) (entries : Entries) (path : List String) (key : String)
    (value : Value) : Option (Origin × Entries) :=
  descend true origin entries path fun o es =>
    if (o == .dotted) == path.isEmpty then none
    else if (Entries.find? es key).isSome then none
    else some (o, Entries.set es key value)

/-- Adds one pair to a table in one line. -/
def addInline (entries : Entries) (path : List String) (key : String) (value : Value) :
    Option Entries :=
  (addValue .inline entries path key value).map (·.2)

end Dialback.Toml
