import CodeSearch.Json.Basic

/-!
# Read but not yet kept

A document that has been read and of which only some parts will be kept. A part that is well formed but has
no value, such as a number out of range or text with half a surrogate pair, is held as `none`: it does no
harm unless it is asked for.
-/

namespace CodeSearch

inductive Node where
  | null
  | bool (b : Bool)
  | number (n : Option Number)
  /-- Infinity or not a number: a number where one is asked for, and null where it is kept. -/
  | nonFinite
  | text (s : Option String)
  | array (items : List Node)
  | object (fields : List (Option String × Node))
  deriving Repr, Inhabited

namespace Node

/-- The value of a node, if each of its parts has one and it is nested at most `depth` deep. -/
def keep (depth : Nat) : Node → Option Json
  | .null => some .null
  | .bool b => some (.bool b)
  | .number n => n.map .number
  | .nonFinite => some .null
  | .text s => s.map .string
  | .array items =>
    match depth with
    | 0 => none
    | depth + 1 => (keepAll depth items).map .array
  | .object fields =>
    match depth with
    | 0 => none
    | depth + 1 => (keepFields depth fields).map Json.ofFields
where
  keepAll (depth : Nat) : List Node → Option (List Json)
  | [] => some []
  | item :: items => do
    let v ← keep depth item
    let vs ← keepAll depth items
    return v :: vs
  keepFields (depth : Nat) : List (Option String × Node) → Option (List (String × Json))
  | [] => some []
  | (key, value) :: fields => do
    let k ← key
    let v ← keep depth value
    let vs ← keepFields depth fields
    return (k, v) :: vs

def ofJson : Json → Node
  | .null => .null
  | .bool b => .bool b
  | .number n => .number (some n)
  | .string s => .text (some s)
  | .array items => .array (ofItems items)
  | .object fields => .object (ofFields fields)
where
  ofItems : List Json → List Node
  | [] => []
  | item :: items => ofJson item :: ofItems items
  ofFields : List (String × Json) → List (Option String × Node)
  | [] => []
  | (key, value) :: fields => (some key, ofJson value) :: ofFields fields

end Node

end CodeSearch
