import Dialback.Text.Numeral

/-!
JSON values and their compact text. Numbers keep their spelling; a text whose escapes spell no
characters (half of a surrogate pair) is kept as `none`, because such a text may stand where it is
never looked at.
-/
namespace Dialback

inductive Json where
  | null
  | bool (b : Bool)
  | number (lexeme : List Char)
  | text (t : Option String)
  | array (items : List Json)
  | object (fields : List (Option String × Json))
  deriving Inhabited

namespace Json

def ofNat (n : Nat) : Json :=
  number (Text.decimal n)

def ofString (s : String) : Json :=
  text (some s)

/-- An object with the given fields, in this order. -/
def record (fields : List (String × Json)) : Json :=
  object (fields.map fun f => (some f.1, f.2))

def escapeChar (c : Char) : List Char :=
  match c with
  | '"' => ['\\', '"']
  | '\\' => ['\\', '\\']
  | '\n' => ['\\', 'n']
  | '\r' => ['\\', 'r']
  | '\t' => ['\\', 't']
  | '\x08' => ['\\', 'b']
  | '\x0c' => ['\\', 'f']
  | c => if c.toNat < 0x20 then ['\\', 'u'] ++ Text.hexPadded 4 c.toNat else [c]

def renderText (s : String) : List Char :=
  '"' :: s.toList.flatMap escapeChar ++ ['"']

mutual

def render : Json → List Char
  | null => ['n', 'u', 'l', 'l']
  | bool true => ['t', 'r', 'u', 'e']
  | bool false => ['f', 'a', 'l', 's', 'e']
  | number lexeme => lexeme
  | text t => renderText (t.getD "")
  | array items => '[' :: renderItems items ++ [']']
  | object fields => '{' :: renderFields fields ++ ['}']

def renderItems : List Json → List Char
  | [] => []
  | [j] => render j
  | j :: k :: rest => render j ++ ',' :: renderItems (k :: rest)

def renderFields : List (Option String × Json) → List Char
  | [] => []
  | [(key, j)] => renderText (key.getD "") ++ ':' :: render j
  | (key, j) :: next :: rest =>
    renderText (key.getD "") ++ ':' :: render j ++ ',' :: renderFields (next :: rest)

end

end Json
end Dialback
