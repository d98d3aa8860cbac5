import CodeSearch.Decimal.Double
import CodeSearch.Store.NameMap

/-!
# JSON values

Values with the fields of their objects in order: that of names, or that of a record's definition. Integers
are kept exact where 64 bits hold them, signed or unsigned; all other numbers are binary64.
-/

namespace CodeSearch

inductive Number where
  | int (n : Int)
  | float (d : Double)
  deriving DecidableEq, Repr

inductive Json where
  | null
  | bool (b : Bool)
  | number (n : Number)
  | string (s : String)
  | array (items : List Json)
  | object (fields : List (String × Json))
  deriving Repr, Inhabited

namespace Json

/-- An object from named values; of a repeated name the last value stays. -/
def ofFields (fields : List (String × Json)) : Json := .object (NameMap.ofList fields).entries

/-- A record with its fields in the order of its definition. The names are distinct. -/
def record (fields : List (String × Json)) : Json := .object fields

def ofNameMap (m : NameMap Json) : Json := .object m.entries

def nat (n : Nat) : Json := .number (.int n)

def strings (items : List String) : Json := .array (items.map .string)

def ofOption {α : Type} (f : α → Json) : Option α → Json
  | none => .null
  | some a => f a

end Json

end CodeSearch
