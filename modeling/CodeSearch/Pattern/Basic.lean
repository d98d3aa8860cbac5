import Std.Data.HashSet
import CodeSearch.Charset.Property

/-!
# Patterns

Regular expressions with look-around assertions, and the test whether one matches anywhere in a text.
`Matches` gives the meaning: which stretch of a text a pattern takes, the characters on either side being
visible to assertions. `isMatch` runs the sets of remainders that a character leaves of each pattern.
-/

namespace CodeSearch

/-- Assertions on where words begin and end; the half ones look at one side only. -/
inductive WordEdge where
  | boundary | inner | start | finish | startHalf | finishHalf
  deriving DecidableEq, Hashable, Repr

inductive Look where
  | textStart
  | textEnd
  /-- After a line feed; with `crlf` also after a carriage return, but not inside a CR LF pair. -/
  | lineStart (crlf : Bool)
  | lineEnd (crlf : Bool)
  | word (edge : WordEdge) (unicode : Bool)
  deriving DecidableEq, Hashable, Repr

structure Place where
  before : Option Char
  after : Option Char

def isAsciiWord (c : Char) : Bool :=
  ('0' ≤ c && c ≤ '9') || ('A' ≤ c && c ≤ 'Z') || ('a' ≤ c && c ≤ 'z') || c == '_'

def isWord (unicode : Bool) (c : Char) : Bool :=
  isAsciiWord c || (unicode && 0x80 ≤ c.toNat && Charset.wordChars.mem c)

def WordEdge.holds (before after : Bool) : WordEdge → Bool
  | .boundary => before != after
  | .inner => before == after
  | .start => !before && after
  | .finish => before && !after
  | .startHalf => !before
  | .finishHalf => !after

def Look.holds (place : Place) : Look → Bool
  | .textStart => place.before.isNone
  | .textEnd => place.after.isNone
  | .lineStart false => place.before.isNone || place.before == some '\n'
  | .lineStart true =>
    place.before.isNone || place.before == some '\n' ||
      (place.before == some '\r' && place.after != some '\n')
  | .lineEnd false => place.after.isNone || place.after == some '\n'
  | .lineEnd true =>
    place.after.isNone || place.after == some '\r' ||
      (place.after == some '\n' && place.before != some '\r')
  | .word edge unicode =>
    edge.holds (place.before.any (isWord unicode)) (place.after.any (isWord unicode))

inductive Pattern where
  | empty
  | set (s : Charset)
  | look (l : Look)
  | seq (first second : Pattern)
  | alt (left right : Pattern)
  /-- At least `low` and at most `high` times in a row. -/
  | rep (low : Nat) (high : Option Nat) (body : Pattern)
  deriving DecidableEq, Hashable, Repr, Inhabited

namespace Pattern

def never : Pattern := .set .empty

def char (c : Char) : Pattern := .set (.ofChar c)

def seqs (ps : List Pattern) : Pattern := ps.foldr .seq .empty

def alts : List Pattern → Pattern
  | [] => never
  | [p] => p
  | p :: ps => .alt p (alts ps)

/-- The places that a stretch of text passes through: `edge before cs after` is the one at its start. -/
def edge (before : Option Char) (cs : List Char) (after : Option Char) : Place :=
  ⟨before, cs.head?.or after⟩

def lastOr (before : Option Char) (cs : List Char) : Option Char := cs.getLast?.or before

/-- `p` takes exactly the stretch `cs` between the characters `before` and `after`. -/
inductive Matches : Pattern → Option Char → List Char → Option Char → Prop where
  | empty (before after) : Matches .empty before [] after
  | set {s c} (before after) (h : s.mem c = true) : Matches (.set s) before [c] after
  | look {l before after} (h : l.holds ⟨before, after⟩ = true) : Matches (.look l) before [] after
  | seq {p q before cs ds after} (hp : Matches p before cs (ds.head?.or after))
      (hq : Matches q (lastOr before cs) ds after) : Matches (.seq p q) before (cs ++ ds) after
  | left {p q before cs after} (h : Matches p before cs after) : Matches (.alt p q) before cs after
  | right {p q before cs after} (h : Matches q before cs after) : Matches (.alt p q) before cs after
  | done {high p} (before after) : Matches (.rep 0 high p) before [] after
  | more {low high p before cs ds after} (hhigh : high ≠ some 0)
      (hp : Matches p before cs (ds.head?.or after))
      (hrest : Matches (.rep (low - 1) (high.map (· - 1)) p) (lastOr before cs) ds after) :
      Matches (.rep low high p) before (cs ++ ds) after

def nullable (place : Place) : Pattern → Bool
  | .empty => true
  | .set _ => false
  | .look l => l.holds place
  | .seq p q => p.nullable place && q.nullable place
  | .alt p q => p.nullable place || q.nullable place
  | .rep low high p => low == 0 || (high != some 0 && p.nullable place && high.all (low ≤ ·))

def andThen (p q : Pattern) : Pattern :=
  match p with
  | .empty => q
  | _ => .seq p q

/-- What may remain of a pattern once it has taken `c` at a place. Of a repetition whose body takes the
empty stretch here, any number of rounds may already be done. -/
def remainders (place : Place) (c : Char) : Pattern → List Pattern
  | .empty => []
  | .set s => if s.mem c then [.empty] else []
  | .look _ => []
  | .seq p q =>
    let first := (p.remainders place c).map (·.andThen q)
    if p.nullable place then first ++ q.remainders place c else first
  | .alt p q => p.remainders place c ++ q.remainders place c
  | .rep low high p =>
    if high = some 0 || high.any (· < low) then []
    else
      let low' := if p.nullable place then 0 else low - 1
      (p.remainders place c).map (·.andThen (.rep low' (high.map (· - 1)) p))

def distinct (ps : List Pattern) : List Pattern :=
  if ps.length ≤ 8 then ps.eraseDups else (Std.HashSet.ofList ps).toList

/-- Runs the live remainders over the rest of a text; a match may start at every place. -/
def search (start : Pattern) (before : Option Char) (live : List Pattern) : List Char → Bool
  | [] => (start :: live).any (nullable ⟨before, none⟩)
  | c :: cs =>
    let place : Place := ⟨before, some c⟩
    (start :: live).any (nullable place) ||
      search start (some c) (distinct ((start :: live).flatMap (remainders place c))) cs

def isMatch (p : Pattern) (cs : List Char) : Bool := search p none [] cs

end Pattern

end CodeSearch
