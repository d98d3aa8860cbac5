import CodeSearch.Url.Percent

/-!
# Form fields

The fields of a query string or form: pairs joined by ampersands, with a plus sign for a blank. Reading
never fails; bytes that are no text become replacement characters.
-/

namespace CodeSearch.Form

/-- Cuts at the first equals sign; without one there is no value. -/
def pairOf (field : Bytes) : Bytes × Bytes :=
  let name := field.takeWhile (· != 0x3D)
  (name, (field.drop name.length).drop 1)

def decodePart (bs : Bytes) : String :=
  Utf8.decodeLossy (Percent.decode (bs.map fun b => if b == 0x2B then 0x20 else b))

def decode (query : Bytes) : List (String × String) :=
  ((query.splitOnP (· == 0x26)).filter (!·.isEmpty)).map fun field =>
    let (name, value) := pairOf field
    (decodePart name, decodePart value)

def isPlain (b : UInt8) : Bool :=
  (0x30 ≤ b && b ≤ 0x39) || (0x41 ≤ b && b ≤ 0x5A) || (0x61 ≤ b && b ≤ 0x7A) || b == 0x2A ||
    b == 0x2D || b == 0x2E || b == 0x5F

def encodePart (s : String) : String :=
  Percent.asciiText ((Utf8.encode s).flatMap fun b =>
    if b == 0x20 then [0x2B] else if isPlain b then [b] else Percent.encodeByte b)

def encode (fields : List (String × String)) : String :=
  String.intercalate "&" (fields.map fun f => encodePart f.1 ++ "=" ++ encodePart f.2)

/-- The only value of a field, or nothing if it is absent; an error if it is repeated. -/
def single (fields : List (String × String)) (name : String) : Except Unit (Option String) :=
  match fields.filter (·.1 == name) with
  | [] => .ok none
  | [field] => .ok (some field.2)
  | _ => .error ()

end CodeSearch.Form
