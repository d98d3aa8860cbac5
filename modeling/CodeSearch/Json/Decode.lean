import CodeSearch.Json.Node

/-!
# Decoding documents

From nodes to values of known shape. A record is given as an object, where unknown fields are passed over
and a known one may stand only once, or as an array of its fields in order, where missing last ones are
absent. There is no conversion between kinds of value.
-/

namespace CodeSearch

/-- What a decoder may count on: how deep the node may still be nested, and whether an array that is too
long for a record is accepted. -/
structure Decoding where
  depth : Nat
  extraItems : Bool

/-- A decoder answers nothing for a node of the wrong shape. -/
abbrev Decoder (α : Type) := Decoding → Node → Option α

namespace Decoder

variable {α : Type}

def enter (d : Decoding) : Option Decoding :=
  match d.depth with
  | 0 => none
  | depth + 1 => some { d with depth := depth }

def string : Decoder String
  | _, .text s => s
  | _, _ => none

def bool : Decoder Bool
  | _, .bool b => some b
  | _, _ => none

/-- A natural number below `2 ^ bits`. -/
def nat (bits : Nat) : Decoder Nat
  | _, .number (some (.int n)) => if 0 ≤ n && n.toNat < Nat.pow 2 bits then some n.toNat else none
  | _, _ => none

def option (decode : Decoder α) : Decoder (Option α)
  | _, .null => some none
  | d, node => (decode d node).map some

def all? {β : Type} (f : α → Option β) : List α → Option (List β)
  | [] => some []
  | a :: as => do
    let b ← f a
    let bs ← all? f as
    return b :: bs

def list (decode : Decoder α) : Decoder (List α)
  | d, .array items => (enter d).bind fun d => all? (decode d) items
  | _, _ => none

/-- An object with any names; of a repeated one the last value stays. -/
def nameMap (decode : Decoder α) : Decoder (NameMap α)
  | d, .object fields =>
    (enter d).bind fun d =>
      (all? (fun (f : Option String × Node) => do
        let key ← f.1
        let value ← decode d f.2
        return (key, value)) fields).map NameMap.ofList
  | _, _ => none

def object : Decoder (NameMap Json) := nameMap fun d node => node.keep d.depth

/-- The fields of a record in the order of `names`, each where it is given. -/
def fields (names : List String) : Decoder (List (Option Node))
  | d, .object given =>
    (enter d).bind fun _ =>
      if given.any (·.1.isNone) then none
      else
        all? (fun name =>
          match given.filter (·.1 == some name) with
          | [] => some none
          | [field] => some (some field.2)
          | _ => none) names
  | d, .array items =>
    (enter d).bind fun _ =>
      if !d.extraItems && names.length < items.length then none
      else some ((List.range names.length).map fun i => items[i]?)
  | _, _ => none

def absentAs (value : α) (decode : Decoder α) (d : Decoding) : Option Node → Option α
  | none => some value
  | some node => (enter d).bind fun d => decode d node

def present (decode : Decoder α) (d : Decoding) : Option Node → Option α
  | none => none
  | some node => (enter d).bind fun d => decode d node

end Decoder

/-- Documents in JSON nest at most 127 deep and fit their records. -/
def Decoding.json : Decoding := ⟨127, false⟩

/-- Documents in TOML bound their nesting when they are read. -/
def Decoding.toml : Decoding := ⟨1000000, true⟩

end CodeSearch
