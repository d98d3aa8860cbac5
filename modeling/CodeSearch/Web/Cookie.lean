import CodeSearch.Store.NameMap
import CodeSearch.Text.Blank
import CodeSearch.Url.Percent

/-!
# Cookies

Cookies that come with a request, and those that are set with a response. Names and values are
percent-encoded.
-/

namespace CodeSearch

abbrev Cookies := NameMap String

namespace Cookies

def decodePart (cs : List Char) : Option String :=
  Utf8.decode? (Percent.decode (Utf8.encodeChars (Text.trimChars cs)))

/-- A name and a value around an equals sign. What is not text when decoded is passed over. -/
def pair? (piece : List Char) : Option (String × String) :=
  let name := piece.takeWhile (· != '=')
  match piece.drop name.length with
  | [] => none
  | _ :: value =>
    if (Text.trimChars name).isEmpty then none
    else do
      let name ← decodePart name
      let value ← decodePart value
      return (name, value)

/-- Whether a header is plain text: printable ASCII, blanks and tabs. -/
def isPlain (header : Bytes) : Bool := header.all fun b => (0x20 ≤ b && b < 0x7F) || b == 0x09

/-- The names and values in a header. One that is not plain has none. -/
def pairs (header : Bytes) : List (String × String) :=
  if isPlain header then ((Utf8.lossyChars header).splitOnP (· == ';')).filterMap pair? else []

/-- The cookies in some headers; of a repeated name the last value stays. -/
def ofHeaders (headers : List Bytes) : Cookies := NameMap.ofList (headers.flatMap pairs)

end Cookies

structure SetCookie where
  name : String
  value : String
  httpOnly : Bool
  /-- In seconds; 0 removes the cookie. -/
  maxAge : Nat
  deriving DecidableEq, Repr

namespace SetCookie

def inSet (b : UInt8) : Bool :=
  b < 0x20 || b == 0x7F || b == 0x20 || b == 0x22 || b == 0x23 || b == 0x25 || b == 0x28 || b == 0x29 ||
    b == 0x2C || b == 0x2F || (0x3A ≤ b && b ≤ 0x40) || (0x5B ≤ b && b ≤ 0x5E) || b == 0x60 ||
    (0x7B ≤ b && b ≤ 0x7D)

/-- The text of the header; cookies are valid for all paths and are not sent along from other sites. -/
def text (c : SetCookie) : String :=
  Percent.encode inSet c.name ++ "=" ++ Percent.encode inSet c.value ++
    (if c.httpOnly then "; HttpOnly; SameSite=Lax" else "") ++ "; Path=/; Max-Age=" ++ toString c.maxAge

end SetCookie

end CodeSearch
