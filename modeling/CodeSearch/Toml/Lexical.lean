import CodeSearch.Json.Node
import CodeSearch.Text.Digits

/-!
# The words of TOML

Blanks, comments, strings, numbers and times. A reader takes the characters still to come and answers what
it read with the rest; `none` means that the text is malformed.
-/

namespace CodeSearch.Toml

open Text

def isWs (c : Char) : Bool := c == ' ' || c == '\t'

def skipWs (cs : List Char) : List Char := cs.dropWhile isWs

/-- Characters allowed in comments and, quotes and backslashes apart, in strings. -/
def isText (c : Char) : Bool := c == '\t' || (0x20 ≤ c.toNat && c.toNat != 0x7F)

def newline? : List Char → Option (List Char)
  | '\n' :: rest => some rest
  | '\r' :: '\n' :: rest => some rest
  | _ => none

def skipComment : List Char → List Char
  | '#' :: rest => rest.dropWhile isText
  | cs => cs

/-- Reads what may follow on a line: blanks, a comment and the line end or the end of the text. -/
def lineRest? (cs : List Char) : Option (List Char) :=
  match skipComment (skipWs cs) with
  | [] => some []
  | cs => newline? cs

def skipLines (fuel : Nat) (cs : List Char) : List Char :=
  match fuel with
  | 0 => cs
  | fuel + 1 =>
    let cs := skipWs cs
    match newline? (skipComment cs) with
    | some rest => skipLines fuel rest
    | none => cs

def isBareKeyChar (c : Char) : Bool := c.isAlphanum || c == '-' || c == '_'

def codePoint? (count : Nat) (cs : List Char) : Option (Char × List Char) :=
  let ds := cs.take count
  if ds.length = count && ds.all isHexDigit then
    let n := ds.foldl (fun n c => n * 16 + (hexValue? c).getD 0) 0
    if n.isValidChar then some (Char.ofNat n, cs.drop count) else none
  else none

def escape? : List Char → Option (Char × List Char)
  | 'b' :: rest => some ('\x08', rest)
  | 'f' :: rest => some ('\x0c', rest)
  | 'n' :: rest => some ('\n', rest)
  | 'r' :: rest => some ('\r', rest)
  | 't' :: rest => some ('\t', rest)
  | '\\' :: rest => some ('\\', rest)
  | '"' :: rest => some ('"', rest)
  | 'u' :: rest => codePoint? 4 rest
  | 'U' :: rest => codePoint? 8 rest
  | _ => none

def basic? (fuel : Nat) (acc : List Char) (cs : List Char) : Option (String × List Char) :=
  match fuel, cs with
  | _, '"' :: rest => some (String.ofList acc.reverse, rest)
  | fuel + 1, '\\' :: rest =>
    match escape? rest with
    | some (c, rest) => basic? fuel (c :: acc) rest
    | none => none
  | fuel + 1, c :: rest => if isText c then basic? fuel (c :: acc) rest else none
  | _, _ => none

def literal? (cs : List Char) : Option (String × List Char) :=
  let body := cs.takeWhile fun c => isText c && c != '\''
  match cs.drop body.length with
  | '\'' :: rest => some (String.ofList body, rest)
  | _ => none

def skipBlankLines (fuel : Nat) (cs : List Char) : List Char :=
  match fuel with
  | 0 => cs
  | fuel + 1 =>
    let cs := skipWs cs
    match newline? cs with
    | some rest => skipBlankLines fuel rest
    | none => cs

/-- Reads the body of a string between triple quotes: up to two quotes may stand before the closing ones.
In a basic string a backslash at the end of a line joins it to the next text. -/
def block? (quote : Char) (fuel : Nat) (acc : List Char) (cs : List Char) :
    Option (String × List Char) :=
  match fuel, cs with
  | fuel + 1, c :: rest =>
    if c == quote then
      let run := (cs.takeWhile (· == quote)).length
      if run < 3 then block? quote fuel (List.replicate run quote ++ acc) (cs.drop run)
      else
        let inner := min (run - 3) 2
        some (String.ofList (List.replicate inner quote ++ acc).reverse, cs.drop (inner + 3))
    else if c == '\\' && quote == '"' then
      match newline? (skipWs rest) with
      | some more => block? quote fuel acc (skipBlankLines more.length more)
      | none =>
        match escape? rest with
        | some (c, rest) => block? quote fuel (c :: acc) rest
        | none => none
    else
      match newline? cs with
      | some rest => block? quote fuel ('\n' :: acc) rest
      | none => if isText c then block? quote fuel (c :: acc) rest else none
  | _, _ => none

def dropFirstNewline (cs : List Char) : List Char := (newline? cs).getD cs

def string? : List Char → Option (String × List Char)
  | '"' :: '"' :: '"' :: rest =>
    block? '"' (rest.length + 1) [] (dropFirstNewline rest)
  | '"' :: rest => basic? rest.length [] rest
  | '\'' :: '\'' :: '\'' :: rest =>
    block? '\'' (rest.length + 1) [] (dropFirstNewline rest)
  | '\'' :: rest => literal? rest
  | _ => none

/-- One part of a key: bare or a string on one line. -/
def keyPart? : List Char → Option (String × List Char)
  | '"' :: rest => basic? rest.length [] rest
  | '\'' :: rest => literal? rest
  | cs =>
    let bare := cs.takeWhile isBareKeyChar
    if bare.isEmpty then none else some (String.ofList bare, cs.drop bare.length)

/-- The number of parts and of levels of nesting that are refused. -/
def nestingLimit : Nat := 80

def key? (fuel : Nat) (cs : List Char) : Option (List String × List Char) :=
  match fuel with
  | 0 => none
  | fuel + 1 =>
    match keyPart? (skipWs cs) with
    | none => none
    | some (part, rest) =>
      match skipWs rest with
      | '.' :: more =>
        match key? fuel more with
        | some (parts, rest) => some (part :: parts, rest)
        | none => none
      | rest => some ([part], rest)

/-- Reads further digits; between two digits an underscore may stand. -/
def moreDigits? (isOne : Char → Bool) : List Char → Option (List Char × List Char)
  | '_' :: c :: rest =>
    if isOne c then (moreDigits? isOne rest).map fun (ds, rest) => (c :: ds, rest) else none
  | c :: rest =>
    if c == '_' then none
    else if isOne c then (moreDigits? isOne rest).map fun (ds, rest) => (c :: ds, rest)
    else some ([], c :: rest)
  | [] => some ([], [])

def digitRun? (isOne : Char → Bool) : List Char → Option (List Char × List Char)
  | c :: rest =>
    if isOne c then (moreDigits? isOne rest).map fun (ds, rest) => (c :: ds, rest) else none
  | [] => none

def sign (cs : List Char) : Bool × List Char :=
  match cs with
  | '-' :: rest => (true, rest)
  | '+' :: rest => (false, rest)
  | _ => (false, cs)

/-- Reads a decimal integer part: a zero stands alone. -/
def decimalPart? (cs : List Char) : Option (List Char × List Char) :=
  match cs with
  | '0' :: rest => some (['0'], rest)
  | _ => digitRun? isDigit cs

def exponent? (cs : List Char) : Option (Option Int × List Char) :=
  match cs with
  | c :: rest =>
    if c == 'e' || c == 'E' then
      let (below, rest) := sign rest
      (digitRun? isDigit rest).map fun (ds, rest) =>
        let e : Int := natOfDigits ds
        (some (if below then -e else e), rest)
    else some (none, cs)
  | [] => some (none, [])

/-- A float from its digits: one that rounds to plus infinity is refused. -/
def floatNode? (negative : Bool) (whole fraction : List Char) (exponent : Int) : Option Node :=
  let bits := Double.ofDecimal (natOfDigits (whole ++ fraction)) (exponent - fraction.length)
  if bits < Double.infinityBits then some (.number (some (.float ⟨negative, bits⟩)))
  else if negative then some .nonFinite
  else none

/-- Integers have 64 bits, one of them for the sign. -/
def wordLimit : Int := 9223372036854775808

/-- An integer in another base, whose mark has been read. -/
def radix? (base : Nat) (cs : List Char) : Option (Node × List Char) :=
  let isOne (c : Char) : Bool := (hexValue? c).any (· < base)
  match digitRun? isOne cs with
  | some (ds, rest) =>
    let n := ds.foldl (fun n c => n * base + (hexValue? c).getD 0) 0
    if n < wordLimit then some (.number (some (.int n)), rest) else none
  | none => none

def number? (cs : List Char) : Option (Node × List Char) :=
  match cs with
  | '0' :: 'x' :: rest => radix? 16 rest
  | '0' :: 'o' :: rest => radix? 8 rest
  | '0' :: 'b' :: rest => radix? 2 rest
  | _ =>
    let (negative, rest) := sign cs
    match rest with
    | 'i' :: 'n' :: 'f' :: rest => some (.nonFinite, rest)
    | 'n' :: 'a' :: 'n' :: rest => some (.nonFinite, rest)
    | _ =>
      match decimalPart? rest with
      | none => none
      | some (whole, rest) =>
        match rest with
        | '.' :: more => do
          let (fraction, rest) ← digitRun? isDigit more
          let (e, rest) ← exponent? rest
          let node ← floatNode? negative whole fraction (e.getD 0)
          return (node, rest)
        | _ => do
          let (e, rest) ← exponent? rest
          match e with
          | some e =>
            let node ← floatNode? negative whole [] e
            return (node, rest)
          | none =>
            let n : Int := natOfDigits whole
            let n := if negative then -n else n
            if -wordLimit ≤ n && n < wordLimit then return (.number (some (.int n)), rest) else none

/-- Reads exactly `count` digits as a number between `low` and `high`. -/
def fixed? (count low high : Nat) (cs : List Char) : Option (Nat × List Char) :=
  let ds := cs.take count
  if ds.length = count && ds.all isDigit then
    let n := natOfDigits ds
    if low ≤ n && n ≤ high then some (n, cs.drop count) else none
  else none

def isLeapYear (year : Nat) : Bool := year % 4 = 0 && (year % 100 ≠ 0 || year % 400 = 0)

def daysInMonth (year month : Nat) : Nat :=
  if month = 2 then if isLeapYear year then 29 else 28
  else if [4, 6, 9, 11].contains month then 30
  else 31

def dropChar? (c : Char) : List Char → Option (List Char)
  | d :: rest => if c == d then some rest else none
  | [] => none

def padded (width n : Nat) : String :=
  let ds := (toString n).toList
  String.ofList (List.replicate (width - ds.length) '0' ++ ds)

def date? (cs : List Char) : Option (String × List Char) := do
  let (year, rest) ← fixed? 4 0 9999 cs
  let rest ← dropChar? '-' rest
  let (month, rest) ← fixed? 2 1 12 rest
  let rest ← dropChar? '-' rest
  let (day, rest) ← fixed? 2 1 31 rest
  if daysInMonth year month < day then none
  return (padded 4 year ++ "-" ++ padded 2 month ++ "-" ++ padded 2 day, rest)

/-- Reads a time of day and answers its text: fractions of a second are cut to nine digits and lose
trailing zeros. -/
def time? (cs : List Char) : Option (String × List Char) := do
  let (hour, rest) ← fixed? 2 0 23 cs
  let rest ← dropChar? ':' rest
  let (minute, rest) ← fixed? 2 0 59 rest
  let rest ← dropChar? ':' rest
  let (second, rest) ← fixed? 2 0 60 rest
  let text := padded 2 hour ++ ":" ++ padded 2 minute ++ ":" ++ padded 2 second
  match rest with
  | '.' :: more =>
    let ds := more.takeWhile isDigit
    if ds.isEmpty then return (text, rest)
    let kept := ((ds.take 9).reverse.dropWhile (· == '0')).reverse
    let text := if kept.isEmpty then text else text ++ "." ++ String.ofList kept
    return (text, more.drop ds.length)
  | _ => return (text, rest)

def offset? (cs : List Char) : Option (String × List Char) :=
  match cs with
  | 'Z' :: rest | 'z' :: rest => some ("Z", rest)
  | c :: more =>
    if c == '+' || c == '-' then do
      let (hour, rest) ← fixed? 2 0 23 more
      let rest ← dropChar? ':' rest
      let (minute, rest) ← fixed? 2 0 59 rest
      let mark := if c == '-' && hour + minute ≠ 0 then "-" else "+"
      return (mark ++ padded 2 hour ++ ":" ++ padded 2 minute, rest)
    else some ("", cs)
  | [] => some ("", [])

/-- A point in time as a kept value: an object with the text in one field. -/
def timeNode (text : String) : Node := .object [(some "$__toml_private_datetime", .text (some text))]

/-- Reads a date with or without a time of day, or a time of day alone. -/
def moment? (cs : List Char) : Option (Node × List Char) :=
  match date? cs with
  | some (date, rest) =>
    let timed := match rest with
      | c :: more => if c == 'T' || c == 't' || c == ' ' then time? more else none
      | [] => none
    match timed with
    | some (time, rest) =>
      (offset? rest).map fun (offset, rest) => (timeNode (date ++ "T" ++ time ++ offset), rest)
    | none => some (timeNode date, rest)
  | none => (time? cs).map fun (time, rest) => (timeNode time, rest)

end CodeSearch.Toml
