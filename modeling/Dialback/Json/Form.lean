import Dialback.Json.Reader

/-!
Types with a JSON form. A record is written as an object with its fields in order; it is read from
an object, in any order and with unknown fields left out, or from an array of exactly its fields. A
choice is an object with one field, named for the alternative.
-/
namespace Dialback

class JsonForm (α : Type) where
  write : α → Json
  read : Json → Option α

namespace JsonForm

open Json

/-- The text written for a value. -/
def print {α : Type} [JsonForm α] (a : α) : String :=
  String.ofList (render (write a))

/-- The value that a text is read as. -/
def parse {α : Type} [JsonForm α] (s : String) : Option α :=
  (Json.parse? s).bind read

def valuesOf (fields : List (Option String × Json)) (name : String) : List Json :=
  (fields.filter fun f => f.1 == some name).map (·.2)

/-- What an object holds under each name; two values under one name, or a name that is no text, are
refused. -/
def slots? (fields : List (Option String × Json)) (names : List String) :
    Option (List (Option Json)) :=
  if fields.any fun f => f.1.isNone then none
  else
    names.mapM fun name =>
      match valuesOf fields name with
      | [] => some none
      | [j] => some (some j)
      | _ => none

def fields? (names : List String) : Json → Option (List (Option Json))
  | object fields => slots? fields names
  | array items => if items.length = names.length then some (items.map some) else none
  | _ => none

/-- Like `fields?`, without room for unknown fields. -/
def closedFields? (names : List String) : Json → Option (List (Option Json))
  | object fields =>
    if fields.all fun f => names.any fun name => f.1 == some name then slots? fields names
    else none
  | j => fields? names j

def required {α : Type} [JsonForm α] (slot : Option Json) : Option α :=
  slot.bind read

def variant? : Json → Option (String × Json)
  | object [(some name, j)] => some (name, j)
  | _ => none

def variant (name : String) (j : Json) : Json :=
  record [(name, j)]

instance : JsonForm Unit where
  write _ := .null
  read
    | .null => some ()
    | _ => none

instance : JsonForm String where
  write s := .text (some s)
  read
    | .text t => t
    | _ => none

def readNat (bound : Nat) : Json → Option Nat
  | .number lexeme => (Text.natNumeral? lexeme).filter (· < bound)
  | _ => none

instance : JsonForm UInt32 where
  write n := .ofNat n.toNat
  read j := (readNat UInt32.size j).map UInt32.ofNat

instance : JsonForm UInt64 where
  write n := .ofNat n.toNat
  read j := (readNat UInt64.size j).map UInt64.ofNat

/-- Absence is null. -/
instance {α : Type} [JsonForm α] : JsonForm (Option α) where
  write
    | none => .null
    | some a => write a
  read
    | .null => some none
    | j => (read j).map some

/-- A slot that may be left out. -/
def omittable {α : Type} [JsonForm α] : Option Json → Option (Option α)
  | none => some none
  | some j => read j

end JsonForm
end Dialback
