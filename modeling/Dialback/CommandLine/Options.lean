import Dialback.Text.Numeral

/-!
Options on a command line. A long option is a name behind two hyphens, a short one a letter behind
one; letters without values may be written together. A value follows in the same word or in the
next one, which then must not look like an option. No option may be given twice. The list ends at the
first word that is no option. A pair of hyphens may close it, but no words are taken behind one.
-/
namespace Dialback.CommandLine

structure OptionSpec where
  name : String
  letter : Option Char := none
  takesValue : Bool := true
  /-- The option is answered at once, whatever follows. -/
  final : Bool := false
  deriving DecidableEq, Repr

inductive Options where
  /-- Options with their values, and the words behind them. -/
  | given (values : List (String × String)) (rest : List String)
  | final (name : String)
  | misused
  deriving DecidableEq, Repr

namespace Options

def looksLikeOption (word : String) : Bool :=
  match word.toList with
  | '-' :: _ :: _ => true
  | _ => false

/-- The option of a long word, with the value behind the first equals sign. -/
def ofLong? (specs : List OptionSpec) (cs : List Char) :
    Option (OptionSpec × Option String) := do
  let name := cs.takeWhile (· != '=')
  let spec ← specs.find? fun s => s.name.toList == name
  match cs.dropWhile (· != '=') with
  | [] => return (spec, none)
  | _ :: value => if spec.takesValue then return (spec, some (String.ofList value)) else none

/-- The options of a word of letters; the first one that takes a value takes what is left, and a final
one leaves it unread. -/
def ofLetters? (specs : List OptionSpec) : List Char → Option (List (OptionSpec × Option String))
  | [] => some []
  | c :: cs => do
    let spec ← specs.find? fun s => s.letter == some c
    if spec.final then return [(spec, none)]
    else if !spec.takesValue then
      return (spec, none) :: (← ofLetters? specs cs)
    else
      match cs with
      | [] => return [(spec, none)]
      | '=' :: value => return [(spec, some (String.ofList value))]
      | value => return [(spec, some (String.ofList value))]

def ofWord? (specs : List OptionSpec) (word : String) :
    Option (List (OptionSpec × Option String)) :=
  match word.toList with
  | '-' :: '-' :: cs => (ofLong? specs cs).map ([·])
  | '-' :: cs => ofLetters? specs cs
  | _ => none

/-- The option that still waits for its value, which is always the last one of its word. -/
def waiting? (found : List (OptionSpec × Option String)) : Option OptionSpec :=
  match found.getLast? with
  | some (spec, none) => if spec.takesValue then some spec else none
  | _ => none

def settled (found : List (OptionSpec × Option String)) : List (String × String) :=
  found.filterMap fun (spec, value) =>
    if spec.takesValue then value.map (spec.name, ·) else some (spec.name, "")

def parse (specs : List OptionSpec) (values : List (String × String)) : List String → Options
  | [] => .given values []
  | ["--"] => .given values []
  | "--" :: _ => .misused
  | word :: rest =>
    if !looksLikeOption word then .given values (word :: rest)
    else
      match ofWord? specs word with
      | none => .misused
      | some found =>
        match found.find? fun f => f.1.final with
        | some (spec, _) => .final spec.name
        | none =>
          let waits := waiting? found
          let values := values ++ settled found
          let names := values.map Prod.fst ++ (waits.map OptionSpec.name).toList
          if !decide names.Nodup then .misused
          else
            match waits, rest with
            | none, rest => parse specs values rest
            | some _, [] => .misused
            | some spec, value :: rest =>
              if looksLikeOption value then .misused
              else parse specs (values ++ [(spec.name, value)]) rest

end Options
end Dialback.CommandLine
