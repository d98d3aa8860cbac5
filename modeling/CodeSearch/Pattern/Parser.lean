import CodeSearch.Pattern.Expr
import CodeSearch.Text.Blank
import CodeSearch.Text.Digits

/-!
# Reading patterns

From the text of a pattern to its structure. Each reader takes the characters still to come and answers
what it read together with the rest, or nothing when the text is malformed. In verbose mode blanks and
comments between the parts of a pattern are skipped.
-/

namespace CodeSearch.Pattern

open Text

/-- Skips blanks and, from a number sign to the end of its line, comments. -/
def skipVerbose (inComment : Bool) : List Char → List Char
  | [] => []
  | c :: cs =>
    if inComment then skipVerbose (c != '\n') cs
    else if isBlank c then skipVerbose false cs
    else if c == '#' then skipVerbose true cs
    else c :: cs

def skip (verbose : Bool) (cs : List Char) : List Char :=
  if verbose then skipVerbose false cs else cs

def dropText? (expected : String) (cs : List Char) : Option (List Char) :=
  if expected.toList.isPrefixOf cs then some (cs.drop expected.length) else none

def isMeta (c : Char) : Bool :=
  ['\\', '.', '+', '*', '?', '(', ')', '|', '[', ']', '\x7b', '\x7d', '^', '$', '#', '&', '-',
    '~'].contains c

/-- Characters that stand for themselves after a backslash: the meta characters and all ASCII that is
neither alphanumeric nor an angle bracket. -/
def isEscapable (c : Char) : Bool :=
  isMeta c || (c.toNat < 0x80 && !c.isAlphanum && c != '<' && c != '>')

def charOfNat? (n : Nat) : Option Char :=
  if n.isValidChar then some (Char.ofNat n) else none

def hexOfDigits (cs : List Char) : Nat := cs.foldl (fun n c => n * 16 + (hexValue? c).getD 0) 0

def hexDigits? (verbose : Bool) : Nat → List Char → Option (List Char × List Char)
  | 0, cs => some ([], cs)
  | _ + 1, [] => none
  | count + 1, c :: cs =>
    if isHexDigit c then
      (hexDigits? verbose count (skip verbose cs)).map fun (ds, rest) => (c :: ds, rest)
    else none

def hexInBraces? (verbose : Bool) (fuel : Nat) (cs : List Char) : Option (List Char × List Char) :=
  match fuel, skip verbose cs with
  | _, [] => none
  | _, '\x7d' :: rest => some ([], rest)
  | 0, _ => none
  | fuel + 1, c :: rest =>
    if isHexDigit c then
      (hexInBraces? verbose fuel rest).map fun (ds, rest) => (c :: ds, rest)
    else none

/-- Reads the code point after `\x`, `\u` or `\U`, which stand before two, four or eight digits; any
number of digits may stand in braces. -/
def hexEscape? (verbose : Bool) (letter : Char) (cs : List Char) :
    Option (Literal × List Char) :=
  match skip verbose cs with
  | [] => none
  | '\x7b' :: rest => do
    let (ds, rest) ← hexInBraces? verbose rest.length rest
    if ds.isEmpty then none
    let c ← charOfNat? (hexOfDigits ds)
    return (⟨c, false⟩, rest)
  | rest => do
    let count := if letter == 'x' then 2 else if letter == 'u' then 4 else 8
    let (ds, rest) ← hexDigits? verbose count rest
    let c ← charOfNat? (hexOfDigits ds)
    return (⟨c, letter == 'x'⟩, rest)

def nameInBraces? (verbose : Bool) (fuel : Nat) (cs : List Char) : Option (List Char × List Char) :=
  match fuel, skip verbose cs with
  | _, [] => none
  | _, '\x7d' :: rest => some ([], rest)
  | 0, _ => none
  | fuel + 1, c :: rest =>
    (nameInBraces? verbose fuel rest).map fun (name, rest) => (c :: name, rest)

/-- Cuts a list before the first place where `mark` stands, and drops the mark. -/
def cutAt? (mark : List Char) : List Char → Option (List Char × List Char)
  | [] => none
  | c :: cs =>
    if mark.isPrefixOf (c :: cs) then some ([], (c :: cs).drop mark.length)
    else (cutAt? mark cs).map fun (front, back) => (c :: front, back)

/-- A property with a value takes one of three marks between them, the first of which negates. -/
def propertyOfName (name : List Char) (negated : Bool) : Escape :=
  match cutAt? ['!', '='] name with
  | some (front, back) => .property (.valued front back) (!negated)
  | none =>
    match (cutAt? [':'] name).orElse fun _ => cutAt? ['='] name with
    | some (front, back) => .property (.valued front back) negated
    | none => .property (.alone name) negated

def propertyEscape? (verbose negated : Bool) (cs : List Char) : Option (Escape × List Char) :=
  match skip verbose cs with
  | [] => none
  | '\x7b' :: rest => do
    let (name, rest) ← nameInBraces? verbose rest.length rest
    return (propertyOfName name negated, rest)
  | c :: rest =>
    if c == '\\' then none else some (.property (.alone [c]) negated, skip verbose rest)

def edgeName (verbose : Bool) (fuel : Nat) (cs : List Char) : List Char × List Char :=
  match fuel, cs with
  | fuel + 1, c :: rest =>
    if c.isAlpha || c == '-' then
      let (name, rest) := edgeName verbose fuel (skip verbose rest)
      (c :: name, rest)
    else ([], cs)
  | _, _ => ([], cs)

/-- Reads what may follow `\b`. Braces that do not open with a letter are left for a repetition. -/
def wordEscape? (verbose : Bool) (cs : List Char) : Option (Escape × List Char) :=
  match cs with
  | '\x7b' :: inside =>
    match skip verbose inside with
    | [] => none
    | c :: more =>
      if !(c.isAlpha || c == '-') then some (.look (.word .boundary), cs)
      else
        match edgeName verbose (c :: more).length (c :: more) with
        | (name, '\x7d' :: rest) =>
          match String.ofList name with
          | "start" => some (.look (.word .start), rest)
          | "end" => some (.look (.word .finish), rest)
          | "start-half" => some (.look (.word .startHalf), rest)
          | "end-half" => some (.look (.word .finishHalf), rest)
          | _ => none
        | _ => none
  | _ => some (.look (.word .boundary), cs)

def escape? (verbose : Bool) : List Char → Option (Escape × List Char)
  | [] => none
  | c :: cs =>
    if isDigit c then none
    else if c == 'x' || c == 'u' || c == 'U' then
      (hexEscape? verbose c cs).map fun (l, rest) => (.literal l, rest)
    else if c == 'p' || c == 'P' then propertyEscape? verbose (c == 'P') cs
    else if isEscapable c then some (.literal ⟨c, false⟩, cs)
    else
      match c with
      | 'd' => some (.shorthand .digit false, cs)
      | 'D' => some (.shorthand .digit true, cs)
      | 's' => some (.shorthand .blank false, cs)
      | 'S' => some (.shorthand .blank true, cs)
      | 'w' => some (.shorthand .word false, cs)
      | 'W' => some (.shorthand .word true, cs)
      | 'a' => some (.literal ⟨'\x07', false⟩, cs)
      | 'f' => some (.literal ⟨'\x0c', false⟩, cs)
      | 't' => some (.literal ⟨'\t', false⟩, cs)
      | 'n' => some (.literal ⟨'\n', false⟩, cs)
      | 'r' => some (.literal ⟨'\r', false⟩, cs)
      | 'v' => some (.literal ⟨'\x0b', false⟩, cs)
      | 'A' => some (.look .textStart, cs)
      | 'z' => some (.look .textEnd, cs)
      | 'b' => wordEscape? verbose cs
      | 'B' => some (.look (.word .inner), cs)
      | '<' => some (.look (.word .start), cs)
      | '>' => some (.look (.word .finish), cs)
      | _ => none

def asciiClass? (name : String) : Option (List (Nat × Nat)) :=
  match name with
  | "alnum" => some [(48, 57), (65, 90), (97, 122)]
  | "alpha" => some [(65, 90), (97, 122)]
  | "ascii" => some [(0, 127)]
  | "blank" => some [(9, 9), (32, 32)]
  | "cntrl" => some [(0, 31), (127, 127)]
  | "digit" => some [(48, 57)]
  | "graph" => some [(33, 126)]
  | "lower" => some [(97, 122)]
  | "print" => some [(32, 126)]
  | "punct" => some [(33, 47), (58, 64), (91, 96), (123, 126)]
  | "space" => some [(9, 13), (32, 32)]
  | "upper" => some [(65, 90)]
  | "word" => some [(48, 57), (65, 90), (95, 95), (97, 122)]
  | "xdigit" => some [(48, 57), (65, 70), (97, 102)]
  | _ => none

def asciiItem? (cs : List Char) : Option (SetExpr × List Char) := do
  let rest ← dropText? ":" cs
  let (negated, rest) := match rest with
    | '^' :: more => (true, more)
    | _ => (false, rest)
  let name := rest.takeWhile (· != ':')
  let rest ← dropText? ":]" (rest.dropWhile (· != ':'))
  let ranges ← asciiClass? (String.ofList name)
  return (.ascii ranges negated, rest)

def setItem? (verbose : Bool) : List Char → Option (Escape × List Char)
  | [] => none
  | '\\' :: cs => escape? verbose cs
  | c :: cs => some (.literal ⟨c, false⟩, cs)

/-- Reads an item or a range. A hyphen before a closing bracket or another hyphen is no range. -/
def setRange? (verbose : Bool) (cs : List Char) : Option (SetExpr × List Char) := do
  let (first, rest) ← setItem? verbose cs
  let rest := skip verbose rest
  let isRange := match rest with
    | '-' :: more =>
      match skip verbose more with
      | ']' :: _ => false
      | '-' :: _ => false
      | _ => true
    | _ => false
  if isRange then
    let more := skip verbose rest.tail
    if more.isEmpty then none
    let (last, rest) ← setItem? verbose more
    match first, last with
    | .literal low, .literal high =>
      if low.char ≤ high.char then return (.range low high, rest) else none
    | _, _ => none
  else
    match first with
    | .literal l => return (.range l l, rest)
    | .shorthand s negated => return (.shorthand s negated, rest)
    | .property p negated => return (.property p negated, rest)
    | .look _ => none

/-- An open class: its own negation, the operator waiting for its right side, and what the enclosing
class held when it opened. -/
structure OpenSet where
  negated : Bool
  pending : Option (SetOp × SetExpr)
  outer : List SetExpr

/-- Applies a waiting operator; operators associate to the left. -/
def closeOp (pending : Option (SetOp × SetExpr)) (items : List SetExpr) : SetExpr :=
  let right := SetExpr.ofItems items.reverse
  match pending with
  | none => right
  | some (kind, left) => .op kind left right

def leadingHyphens (verbose : Bool) (fuel : Nat) (items : List SetExpr) (cs : List Char) :
    List SetExpr × List Char :=
  match fuel, cs with
  | fuel + 1, '-' :: rest =>
    leadingHyphens verbose fuel (.range ⟨'-', false⟩ ⟨'-', false⟩ :: items) (skip verbose rest)
  | _, _ => (items, cs)

/-- Reads the front of a class whose bracket has been read: a caret, then hyphens or one closing bracket
that stand for themselves. -/
def openSet? (verbose : Bool) (cs : List Char) : Option (Bool × List SetExpr × List Char) :=
  let cs := skip verbose cs
  let (negated, cs) := match cs with
    | '^' :: rest => (true, skip verbose rest)
    | _ => (false, cs)
  let (items, cs) := leadingHyphens verbose cs.length [] cs
  match items, cs with
  | _, [] => none
  | [], ']' :: rest =>
    let rest := skip verbose rest
    if rest.isEmpty then none else some (negated, [.range ⟨']', false⟩ ⟨']', false⟩], rest)
  | _, _ => some (negated, items, cs)

/-- Reads a class from inside its brackets. `items` are those of the innermost open class, newest
first. -/
def setBody? (verbose : Bool) (fuel : Nat) (current : OpenSet) (outers : List OpenSet)
    (items : List SetExpr) (cs : List Char) : Option (Expr × List Char) :=
  match fuel, skip verbose cs with
  | 0, _ => none
  | _, [] => none
  | fuel + 1, '[' :: rest =>
    match asciiItem? rest with
    | some (item, rest) => setBody? verbose fuel current outers (item :: items) rest
    | none => do
      let (negated, inner, rest) ← openSet? verbose rest
      setBody? verbose fuel ⟨negated, none, items⟩ (current :: outers) inner rest
  | fuel + 1, ']' :: rest =>
    let body := closeOp current.pending items
    match outers with
    | [] => some (.set current.negated body, rest)
    | outer :: outers =>
      setBody? verbose fuel outer outers (.nested current.negated body :: current.outer) rest
  | fuel + 1, cs =>
    let op := match cs with
      | '&' :: '&' :: rest => some (SetOp.meet, rest)
      | '-' :: '-' :: rest => some (SetOp.minus, rest)
      | '~' :: '~' :: rest => some (SetOp.either, rest)
      | _ => none
    match op with
    | some (kind, rest) =>
      setBody? verbose fuel { current with pending := some (kind, closeOp current.pending items) }
        outers [] rest
    | none => do
      let (item, rest) ← setRange? verbose cs
      setBody? verbose fuel current outers (item :: items) rest

def set? (verbose : Bool) (cs : List Char) : Option (Expr × List Char) := do
  let (negated, items, rest) ← openSet? verbose cs
  setBody? verbose (rest.length + 1) ⟨negated, none, []⟩ [] items rest

def decimalRun (verbose : Bool) (fuel : Nat) (cs : List Char) : List Char × List Char :=
  match fuel, cs with
  | fuel + 1, c :: rest =>
    if isDigit c then
      let (ds, rest) := decimalRun verbose fuel (skip verbose rest)
      (c :: ds, rest)
    else ([], cs)
  | _, _ => ([], cs)

/-- Reads a repetition count, which may have blanks around it and is below 2^32. -/
def count? (verbose : Bool) (cs : List Char) : Option Nat × List Char :=
  let cs := cs.dropWhile isBlank
  let (ds, rest) := decimalRun verbose cs.length cs
  let rest := if (rest.head?.any isBlank) then skip verbose (rest.dropWhile isBlank) else rest
  ((decimal? ds).filter (· < Nat.pow 2 32), rest)

def bounds? (verbose : Bool) (cs : List Char) : Option (Nat × Option Nat × List Char) := do
  let cs := skip verbose cs
  if cs.isEmpty then none
  let (first, rest) := count? verbose cs
  let low ← first
  let (high, rest) ←
    match rest with
    | ',' :: more =>
      match skip verbose more with
      | [] => none
      | '\x7d' :: after => some (none, '\x7d' :: after)
      | more =>
        let (last, rest) := count? verbose more
        last.map fun high => (some high, rest)
    | _ => some (some low, rest)
  match rest with
  | '\x7d' :: after =>
    -- A question mark makes the repetition lazy, which changes no answer.
    let after := match skip verbose after with
      | '?' :: lazy => lazy
      | other => other
    if high.all (low ≤ ·) then return (low, high, after) else none
  | _ => none

def flag? (c : Char) : Option Flag :=
  match c with
  | 'i' => some .ignoreCase
  | 'm' => some .multiLine
  | 's' => some .dotAll
  | 'U' => some .swapGreed
  | 'u' => some .unicode
  | 'R' => some .crlf
  | 'x' => some .verbose
  | _ => none

/-- Reads flags up to a colon or a closing parenthesis, which is left. No flag may stand twice, and a
minus sign, of which there is at most one, needs a flag after it. -/
def flagChanges? (on : Bool) (dangling : Bool) (found : List FlagChange) :
    List Char → Option (List FlagChange × List Char)
  | [] => none
  | c :: cs =>
    if c == ':' || c == ')' then if dangling then none else some (found.reverse, c :: cs)
    else if c == '-' then if on then flagChanges? false true found cs else none
    else
      match flag? c with
      | none => none
      | some flag =>
        if found.any (·.flag = flag) then none
        else flagChanges? on false (⟨flag, on⟩ :: found) cs

def settingOf (flag : Flag) (changes : List FlagChange) : Option Bool :=
  (changes.reverse.find? (·.flag = flag)).map (·.on)

def isNameStart (c : Char) : Bool := c == '_' || Charset.alphabetic.mem c

def isNameChar (c : Char) : Bool :=
  isNameStart c || c == '.' || c == '[' || c == ']' || Charset.numeric.mem c

def groupName? (cs : List Char) : Option (List Char × List Char) :=
  let name := cs.takeWhile (· != '>')
  match name, cs.dropWhile (· != '>') with
  | first :: others, _ :: rest =>
    if isNameStart first && others.all isNameChar then some (name, rest) else none
  | _, _ => none

inductive Opening where
  | capture
  | named (name : List Char)
  | flagged (changes : List FlagChange)
  /-- Flags for the rest of the enclosing group. -/
  | change (changes : List FlagChange)

def opening? (verbose : Bool) (cs : List Char) : Option (Opening × List Char) :=
  match skip verbose cs with
  | '?' :: '=' :: _ | '?' :: '!' :: _ | '?' :: '<' :: '=' :: _ | '?' :: '<' :: '!' :: _ => none
  | '?' :: 'P' :: '<' :: rest | '?' :: '<' :: rest =>
    (groupName? rest).map fun (name, rest) => (.named name, rest)
  | '?' :: rest =>
    match flagChanges? true false [] rest with
    | some ([], ')' :: _) => none
    | some (changes, ')' :: rest) => some (.change changes, rest)
    | some (changes, _ :: rest) => some (.flagged changes, rest)
    | _ => none
  | rest => some (.capture, rest)

structure OpenGroup where
  changes : List FlagChange
  parts : List Expr
  branches : List Expr
  verbose : Bool

/-- The state between two parts of a pattern: parts and finished branches of the innermost open group,
newest first, the groups around it, and the group names in use. -/
structure Reading where
  verbose : Bool
  parts : List Expr
  branches : List Expr
  groups : List OpenGroup
  names : List (List Char)

def Reading.start : Reading := ⟨false, [], [], [], []⟩

def Reading.push (st : Reading) (e : Expr) : Reading := { st with parts := e :: st.parts }

def Reading.body (st : Reading) : Expr :=
  let last := Expr.ofParts st.parts.reverse
  if st.branches.isEmpty then last else .choice (last :: st.branches).reverse

/-- Replaces the last part by its repetition; flags cannot be repeated. -/
def Reading.repeatLast? (st : Reading) (low : Nat) (high : Option Nat) : Option Reading :=
  match st.parts with
  | [] => none
  | .flags _ :: _ => none
  | .empty :: _ => none
  | e :: parts => some { st with parts := .repeated low high e :: parts }

def Reading.openGroup? (st : Reading) (opening : Opening) : Option Reading :=
  let enter (changes : List FlagChange) : Reading :=
    { st with
      verbose := (settingOf .verbose changes).getD st.verbose
      parts := []
      branches := []
      groups := ⟨changes, st.parts, st.branches, st.verbose⟩ :: st.groups }
  match opening with
  | .capture => some (enter [])
  | .named name => if st.names.contains name then none else some { enter [] with names := name :: st.names }
  | .flagged changes => some (enter changes)
  | .change changes =>
    some { st.push (.flags changes) with
      verbose := (settingOf .verbose changes).getD st.verbose }

def Reading.closeGroup? (st : Reading) : Option Reading :=
  match st.groups with
  | [] => none
  | g :: groups =>
    some { st with
      verbose := g.verbose
      parts := .group g.changes st.body :: g.parts
      branches := g.branches
      groups := groups }

def dropLazy : List Char → List Char
  | '?' :: rest => rest
  | cs => cs

def Reading.step? (st : Reading) (c : Char) (cs : List Char) : Option (Reading × List Char) :=
  match c with
  | '(' => do
    let (opening, rest) ← opening? st.verbose cs
    let st ← st.openGroup? opening
    return (st, rest)
  | ')' => st.closeGroup?.map (·, cs)
  | '|' =>
    some ({ st with parts := [], branches := Expr.ofParts st.parts.reverse :: st.branches }, cs)
  | '[' => (set? st.verbose cs).map fun (e, rest) => (st.push e, rest)
  | '?' => (st.repeatLast? 0 (some 1)).map (·, dropLazy cs)
  | '*' => (st.repeatLast? 0 none).map (·, dropLazy cs)
  | '+' => (st.repeatLast? 1 none).map (·, dropLazy cs)
  | '\x7b' => do
    let (low, high, rest) ← bounds? st.verbose cs
    let st ← st.repeatLast? low high
    return (st, rest)
  | '\\' => do
    let (e, rest) ← escape? st.verbose cs
    let part := match e with
      | .literal l => Expr.literal l
      | .look a => .look a
      | .shorthand s negated => .shorthand s negated
      | .property p negated => .property p negated
    return (st.push part, rest)
  | '.' => some (st.push .dot, cs)
  | '^' => some (st.push (.look .lineStart), cs)
  | '$' => some (st.push (.look .lineEnd), cs)
  | c => some (st.push (.literal ⟨c, false⟩), cs)

def Reading.run? (fuel : Nat) (st : Reading) (cs : List Char) : Option Expr :=
  match fuel, skip st.verbose cs with
  | _, [] => if st.groups.isEmpty then some st.body else none
  | 0, _ => none
  | fuel + 1, c :: cs => do
    let (st, rest) ← st.step? c cs
    st.run? fuel rest

def maxDepth : Nat := 250

def parse? (cs : List Char) : Option Expr :=
  (Reading.start.run? cs.length cs).filter (·.depth ≤ maxDepth)

end CodeSearch.Pattern
