import CodeSearch.Decimal.Shortest
import CodeSearch.Json.Basic
import CodeSearch.Text.Digits

/-!
# Writing JSON

The compact text of a value, and the text with one field or item a line and an indent of two blanks.
-/

namespace CodeSearch.Json

open Text

/-- One character inside quotes: quotes, backslashes and controls are escaped, and nothing else. -/
def escapeChar (c : Char) : List Char :=
  match c with
  | '"' => ['\\', '"']
  | '\\' => ['\\', '\\']
  | '\x08' => ['\\', 'b']
  | '\x0c' => ['\\', 'f']
  | '\n' => ['\\', 'n']
  | '\r' => ['\\', 'r']
  | '\t' => ['\\', 't']
  | c =>
    if c.toNat < 0x20 then
      ['\\', 'u', '0', '0', lowerHexDigit (c.toNat / 16), lowerHexDigit (c.toNat % 16)]
    else [c]

def quote (s : String) : List Char := '"' :: s.toList.flatMap escapeChar ++ ['"']

def numberText : Number → List Char
  | .int n => (toString n).toList
  | .float d => d.text.toList

def joined (separator : List Char) : List (List Char) → List Char
  | [] => []
  | [text] => text
  | text :: texts => text ++ separator ++ joined separator texts

def compactChars : Json → List Char
  | .null => "null".toList
  | .bool true => "true".toList
  | .bool false => "false".toList
  | .number n => numberText n
  | .string s => quote s
  | .array items => '[' :: joined [','] (itemTexts items) ++ [']']
  | .object fields => '\x7b' :: joined [','] (fieldTexts fields) ++ ['\x7d']
where
  itemTexts : List Json → List (List Char)
  | [] => []
  | item :: items => compactChars item :: itemTexts items
  fieldTexts : List (String × Json) → List (List Char)
  | [] => []
  | (key, value) :: fields => (quote key ++ ':' :: compactChars value) :: fieldTexts fields

def compact (v : Json) : String := String.ofList (compactChars v)

def newLine (indent : Nat) : List Char := '\n' :: List.replicate (2 * indent) ' '

def block (left right : Char) (indent : Nat) (parts : List (List Char)) : List Char :=
  if parts.isEmpty then [left, right]
  else left :: newLine (indent + 1) ++ joined (',' :: newLine (indent + 1)) parts ++
    newLine indent ++ [right]

def prettyChars (indent : Nat) : Json → List Char
  | .array items => block '[' ']' indent (itemTexts (indent + 1) items)
  | .object fields => block '\x7b' '\x7d' indent (fieldTexts (indent + 1) fields)
  | v => compactChars v
where
  itemTexts (indent : Nat) : List Json → List (List Char)
  | [] => []
  | item :: items => prettyChars indent item :: itemTexts indent items
  fieldTexts (indent : Nat) : List (String × Json) → List (List Char)
  | [] => []
  | (key, value) :: fields =>
    (quote key ++ ':' :: ' ' :: prettyChars indent value) :: fieldTexts indent fields

def pretty (v : Json) : String := String.ofList (prettyChars 0 v)

end CodeSearch.Json
