import CodeSearch.Pattern.Basic

/-!
# Written patterns

The structure of a pattern as it is written, before flags are applied and classes are looked up.
-/

namespace CodeSearch.Pattern

inductive Flag where
  | ignoreCase | multiLine | dotAll | swapGreed | unicode | crlf | verbose
  deriving DecidableEq, Repr

structure FlagChange where
  flag : Flag
  on : Bool
  deriving DecidableEq, Repr

/-- A character; `byte` says that it is written as two hexadecimal digits. -/
structure Literal where
  char : Char
  byte : Bool
  deriving DecidableEq, Repr

inductive Assertion where
  | lineStart | lineEnd | textStart | textEnd
  | word (edge : WordEdge)
  deriving DecidableEq, Repr

/-- The classes written with one letter: digits, blanks and word characters. -/
inductive Shorthand where
  | digit | blank | word
  deriving DecidableEq, Repr

inductive PropertyName where
  | alone (name : List Char)
  | valued (name value : List Char)
  deriving DecidableEq, Repr

inductive Escape where
  | literal (l : Literal)
  | look (a : Assertion)
  | shorthand (s : Shorthand) (negated : Bool)
  | property (p : PropertyName) (negated : Bool)
  deriving Repr

inductive SetOp where
  | meet | minus | either
  deriving DecidableEq, Repr

inductive SetExpr where
  | empty
  | range (low high : Literal)
  | shorthand (s : Shorthand) (negated : Bool)
  | property (p : PropertyName) (negated : Bool)
  /-- A named class of ASCII characters, by its ranges. -/
  | ascii (ranges : List (Nat × Nat)) (negated : Bool)
  | nested (negated : Bool) (body : SetExpr)
  | union (items : List SetExpr)
  | op (kind : SetOp) (left right : SetExpr)
  deriving Repr, Inhabited

inductive Expr where
  | empty
  | flags (changes : List FlagChange)
  | literal (l : Literal)
  | dot
  | look (a : Assertion)
  | shorthand (s : Shorthand) (negated : Bool)
  | property (p : PropertyName) (negated : Bool)
  | set (negated : Bool) (body : SetExpr)
  | repeated (low : Nat) (high : Option Nat) (body : Expr)
  | group (changes : List FlagChange) (body : Expr)
  | concat (parts : List Expr)
  | choice (branches : List Expr)
  deriving Repr, Inhabited

namespace SetExpr

def ofItems : List SetExpr → SetExpr
  | [] => .empty
  | [item] => item
  | items => .union items

def depth : SetExpr → Nat
  | .nested _ body => body.depth + 1
  | .union items => depths items + 1
  | .op _ left right => max left.depth right.depth + 1
  | _ => 0
where
  depths : List SetExpr → Nat
  | [] => 0
  | item :: items => max item.depth (depths items)

end SetExpr

namespace Expr

def ofParts : List Expr → Expr
  | [] => .empty
  | [part] => part
  | parts => .concat parts

/-- How deep groups, repetitions, classes, sequences and alternations are nested. -/
def depth : Expr → Nat
  | .set _ body => body.depth + 1
  | .repeated _ _ body => body.depth + 1
  | .group _ body => body.depth + 1
  | .concat parts => depths parts + 1
  | .choice branches => depths branches + 1
  | _ => 0
where
  depths : List Expr → Nat
  | [] => 0
  | part :: parts => max part.depth (depths parts)

end Expr

end CodeSearch.Pattern
