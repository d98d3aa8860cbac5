import CodeSearch.Charset.CaseFold
import CodeSearch.Pattern.Expr

/-!
# The meaning of written patterns

From the structure of a pattern to the pattern itself: flags are applied and classes looked up. Flags set
inside a group end with it. With Unicode off, classes are sets of bytes, and whatever could take a byte
that is no whole character is refused.
-/

namespace CodeSearch.Pattern

structure Flags where
  ignoreCase : Bool
  multiLine : Bool
  dotAll : Bool
  unicode : Bool
  crlf : Bool
  deriving DecidableEq, Repr

def Flags.start (ignoreCase : Bool) : Flags := ⟨ignoreCase, false, false, true, false⟩

def Flags.change (flags : Flags) (c : FlagChange) : Flags :=
  match c.flag with
  | .ignoreCase => { flags with ignoreCase := c.on }
  | .multiLine => { flags with multiLine := c.on }
  | .dotAll => { flags with dotAll := c.on }
  | .unicode => { flags with unicode := c.on }
  | .crlf => { flags with crlf := c.on }
  | .swapGreed | .verbose => flags

def Shorthand.charset (unicode : Bool) : Shorthand → Charset
  | .digit => if unicode then .digits else .range 48 57
  | .blank => if unicode then .blanks else .ofRanges [(9, 13), (32, 32)]
  | .word => if unicode then .wordChars else .ofRanges [(48, 57), (65, 90), (95, 95), (97, 122)]

def PropertyName.charset? : PropertyName → Option Charset
  | .alone name => Charset.named? (Charset.looseName name)
  | .valued name value => Charset.valued? (Charset.looseName name) (Charset.looseName value)

namespace Flags

def fold (flags : Flags) (s : Charset) : Charset :=
  if !flags.ignoreCase then s else if flags.unicode then s.foldCase else s.foldAscii

/-- Negates a set; a set of bytes must then still hold ASCII alone. -/
def negate? (flags : Flags) (negated : Bool) (s : Charset) : Option Charset :=
  if flags.unicode then some (if negated then s.compl else s)
  else if negated || !s.isAscii then none
  else some s

/-- Case partners are added before a set is negated. -/
def foldAndNegate? (flags : Flags) (negated : Bool) (s : Charset) : Option Charset :=
  flags.negate? negated (flags.fold s)

def shorthand? (flags : Flags) (s : Shorthand) (negated : Bool) : Option Charset :=
  flags.negate? negated (s.charset flags.unicode)

def property? (flags : Flags) (p : PropertyName) (negated : Bool) : Option Charset :=
  if flags.unicode then p.charset?.bind (flags.foldAndNegate? negated) else none

def set? (flags : Flags) : SetExpr → Option Charset
  | .empty => some .empty
  | .range low high =>
    if flags.unicode || high.char.toNat < 0x80 then
      some (.range low.char.toNat high.char.toNat)
    else none
  | .shorthand s negated => flags.shorthand? s negated
  | .property p negated => flags.property? p negated
  | .ascii ranges negated => flags.foldAndNegate? negated (.ofRanges ranges)
  | .nested negated body => (set? flags body).bind (flags.foldAndNegate? negated)
  | .union items => (sets? flags items).map Charset.unions
  | .op kind left right => do
    let l ← set? flags left
    let r ← set? flags right
    let l := flags.fold l
    let r := flags.fold r
    return match kind with
      | .meet => l.inter r
      | .minus => l.diff r
      | .either => l.symmDiff r
where
  sets? (flags : Flags) : List SetExpr → Option (List Charset)
  | [] => some []
  | item :: items => do
    let s ← set? flags item
    let ss ← sets? flags items
    return s :: ss

/-- A character, with its case partners where case is ignored. Written as a byte it has to be ASCII when
Unicode is off. -/
def literal? (flags : Flags) (l : Literal) : Option Pattern :=
  if !flags.unicode && l.byte && 0x80 ≤ l.char.toNat then none
  else some (.set (flags.fold (.ofChar l.char)))

def dot? (flags : Flags) : Option Pattern :=
  if !flags.unicode then none
  else if flags.dotAll then some (.set .all)
  else if flags.crlf then some (.set (Charset.ofRanges [(10, 10), (13, 13)]).compl)
  else some (.set (Charset.single 10).compl)

def look (flags : Flags) : Assertion → Look
  | .lineStart => if flags.multiLine then .lineStart flags.crlf else .textStart
  | .lineEnd => if flags.multiLine then .lineEnd flags.crlf else .textEnd
  | .textStart => .textStart
  | .textEnd => .textEnd
  | .word edge => .word edge flags.unicode

end Flags

/-- The pattern that an expression means under the flags before it, and the flags after it. -/
def Expr.pattern? (flags : Flags) : Expr → Option (Pattern × Flags)
  | .empty => some (.empty, flags)
  | .flags changes => some (.empty, changes.foldl Flags.change flags)
  | .literal l => (flags.literal? l).map (·, flags)
  | .dot => flags.dot?.map (·, flags)
  | .look a => some (.look (flags.look a), flags)
  | .shorthand s negated => (flags.shorthand? s negated).map (.set ·, flags)
  | .property p negated => (flags.property? p negated).map (.set ·, flags)
  | .set negated body =>
    ((flags.set? body).bind (flags.foldAndNegate? negated)).map (.set ·, flags)
  | .repeated low high body => do
    let (p, flags) ← body.pattern? flags
    return (.rep low high p, flags)
  | .group changes body => do
    let (p, _) ← body.pattern? (changes.foldl Flags.change flags)
    return (p, flags)
  | .concat parts => do
    let (ps, flags) ← patterns? flags parts
    return (Pattern.seqs ps, flags)
  | .choice branches => do
    let (ps, flags) ← patterns? flags branches
    return (Pattern.alts ps, flags)
where
  patterns? (flags : Flags) : List Expr → Option (List Pattern × Flags)
  | [] => some ([], flags)
  | e :: es => do
    let (p, flags) ← e.pattern? flags
    let (ps, flags) ← patterns? flags es
    return (p :: ps, flags)

end CodeSearch.Pattern
