import CodeSearch.Charset.Category
import CodeSearch.Charset.PropertyTable
import CodeSearch.Charset.ScriptTable
import CodeSearch.Charset.ScriptExtensionTable
import CodeSearch.Charset.AgeTable
import CodeSearch.Charset.GraphemeBreakTable
import CodeSearch.Charset.WordBreakTable
import CodeSearch.Charset.SentenceBreakTable

/-!
# Sets by property

Named sets of characters. Names are compared without case, blanks, hyphens, underscores and a leading
`is`. A name alone is a property without a value, a general category or a script; with a value it names
the property that takes it.
-/

namespace CodeSearch.Charset

def asciiLower (c : Char) : Char :=
  if 'A' ≤ c && c ≤ 'Z' then Char.ofNat (c.toNat + 32) else c

/-- The form in which names are compared. The name `isc` stays whole: it does not mean the category
`c`. -/
def looseName (cs : List Char) : String :=
  let startsWithIs := (cs.take 2).map asciiLower == ['i', 's']
  let body := if startsWithIs then cs.drop 2 else cs
  let kept := (body.filter fun c => c.toNat < 0x80 && c != ' ' && c != '_' && c != '-').map asciiLower
  if startsWithIs && kept == ['c'] then "isc" else String.ofList kept

def digits : Charset := categories ["nd"]

def blanks : Charset := (find? propertyTable "whitespace").getD empty

/-- Letters, marks, digits, connectors and joiners: what a word is made of. -/
def wordChars : Charset :=
  unions [(find? propertyTable "alphabetic").getD empty, categories ["mn", "mc", "me", "nd", "pc"],
    (find? propertyTable "joincontrol").getD empty]

def alphabetic : Charset := (find? propertyTable "alphabetic").getD empty

def numeric : Charset := categories ["nd", "nl", "no"]

/-- The set that a name alone stands for. A property comes before a category, and that before a script;
three short names always mean a category. -/
def named? (name : String) : Option Charset :=
  let property :=
    if ["cf", "sc", "lc"].contains name then none else find? propertyTable name
  property.orElse fun _ => (category? name).orElse fun _ => find? scriptTable name

/-- The characters assigned in a version of the standard or before. -/
def assignedBy? (version : String) : Option Charset :=
  match ageTable.findIdx? fun row => row.1.contains version with
  | some i => some (unions ((ageTable.take (i + 1)).map fun row => ofText row.2))
  | none => none

def valued? (property value : String) : Option Charset :=
  match property with
  | "gc" | "generalcategory" => category? value
  | "sc" | "script" => find? scriptTable value
  | "scx" | "scriptextensions" => find? scriptExtensionTable value
  | "age" => assignedBy? value
  | "gcb" | "graphemeclusterbreak" => find? graphemeBreakTable value
  | "wb" | "wordbreak" => find? wordBreakTable value
  | "sb" | "sentencebreak" => find? sentenceBreakTable value
  | _ => none

end CodeSearch.Charset
