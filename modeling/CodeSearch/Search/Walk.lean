import CodeSearch.Files.Tree

/-!
# Walking a working copy

The regular files below a directory in the order of their paths, name by name. Version control metadata at
the top, names that are no text, links, and (on request) directories whose name begins with a dot are left
out.
-/

namespace CodeSearch

open Files

structure WalkRules where
  /-- Names at the top that belong to version control. -/
  special : List String
  excludeDotFiles : Bool

/-- A file with the names that lead to it. -/
structure Walked where
  names : List String
  content : Bytes

namespace Walked

def path (w : Walked) : String := String.intercalate "/" w.names

def under (dir : String) (w : Walked) : Walked := { w with names := dir :: w.names }

end Walked

def beginsWithDot (name : String) : Bool := name.toList.head? == some '.'

def WalkRules.enters (rules : WalkRules) (top : Bool) (name : String) (isDir : Bool) : Bool :=
  !(top && rules.special.contains name) &&
    !(rules.excludeDotFiles && beginsWithDot name && isDir)

def nameLe (a b : Name) : Bool := !decide (b < a)

/-- The files of a directory, of which `top` says whether it is the one that the walk began with. -/
def walkTree (rules : WalkRules) (top : Bool) : Tree → List Walked
  | .dir entries =>
    ((walkEntries rules top entries).mergeSort fun a b => nameLe a.1 b.1).flatMap (·.2)
  | _ => []
where
  /-- The files below each entry, with the entry's name. -/
  walkEntries (rules : WalkRules) (top : Bool) : List (Name × Tree) → List (Name × List Walked)
  | [] => []
  | (name, t) :: rest =>
    match Utf8.decode? name with
    | none => walkEntries rules top rest
    | some text =>
      if rules.enters top text t.isDir then
        let found :=
          match t with
          | .file content _ => [⟨[text], content⟩]
          | .dir entries => (walkTree rules false (.dir entries)).map (·.under text)
          | .link _ => []
        (name, found) :: walkEntries rules top rest
      else walkEntries rules top rest

end CodeSearch
