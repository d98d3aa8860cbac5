import CodeSearch.Charset.Basic
import CodeSearch.Charset.CategoryTable

/-!
# General categories

Every code point is in exactly one general category; those of no assigned character are in `cn`.
Groups of categories are unions.
-/

namespace CodeSearch.Charset

def categories (names : List String) : Charset := unions (names.filterMap (find? categoryTable))

def surrogates : Charset := range 0xD800 0xDFFF

def unassigned : Charset :=
  (unions (surrogates :: categoryTable.map fun row => ofText row.2)).compl

/-- A general category or group of them by its name, without case and separators. -/
def category? (name : String) : Option Charset :=
  match name with
  | "any" => some all
  | "assigned" => some unassigned.compl
  | "ascii" => some ascii
  | "cn" | "unassigned" => some unassigned
  | "c" | "other" => some ((categories ["cc", "cf", "co"]).union unassigned)
  | "l" | "letter" => some (categories ["lu", "ll", "lt", "lm", "lo"])
  | "lc" | "casedletter" => some (categories ["lu", "ll", "lt"])
  | "m" | "mark" | "combiningmark" => some (categories ["mn", "mc", "me"])
  | "n" | "number" => some (categories ["nd", "nl", "no"])
  | "p" | "punctuation" | "punct" => some (categories ["pc", "pd", "pe", "pf", "pi", "po", "ps"])
  | "s" | "symbol" => some (categories ["sc", "sk", "sm", "so"])
  | "z" | "separator" => some (categories ["zl", "zp", "zs"])
  | _ => find? categoryTable name

end CodeSearch.Charset
