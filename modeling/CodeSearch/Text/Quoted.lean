import CodeSearch.Charset.Property
import CodeSearch.Text.Digits

/-!
# Quoted text

Text between double quotes for diagnostics, on one line and unambiguous: what is not printable, and marks
that would combine with the character before them, are written as code points.
-/

namespace CodeSearch.Text

/-- The characters that show: not controls, formats, separators other than the space, private or
unassigned. -/
def printable : Charset :=
  (Charset.unions [Charset.categories ["cc", "cf", "co", "zl", "zp", "zs"], .surrogates,
    .unassigned]).compl.union (.single 0x20)

def graphemeExtend : Charset := (Charset.find? Charset.propertyTable "graphemeextend").getD .empty

def codePointEscape (c : Char) : List Char :=
  ['\\', 'u', '\x7b'] ++ (lowerHex c.toNat).toList ++ ['\x7d']

/-- One character inside quotes; `apostrophes` says whether they are escaped too. -/
def quoteChar (apostrophes : Bool) (c : Char) : List Char :=
  match c with
  | '\x00' => ['\\', '0']
  | '\t' => ['\\', 't']
  | '\r' => ['\\', 'r']
  | '\n' => ['\\', 'n']
  | '"' => ['\\', '"']
  | '\\' => ['\\', '\\']
  | '\'' => if apostrophes then ['\\', '\''] else ['\'']
  | c =>
    if 0x20 ≤ c.toNat && c.toNat < 0x7F then [c]
    else if graphemeExtend.mem c || !printable.mem c then codePointEscape c
    else [c]

def quoteWith (apostrophes : Bool) (s : String) : String :=
  "\"" ++ String.ofList (s.toList.flatMap (quoteChar apostrophes)) ++ "\""

def quoted (s : String) : String := quoteWith false s

/-- A path in quotes; apostrophes are escaped in it as well. -/
def quotedPath (s : String) : String := quoteWith true s

end CodeSearch.Text
