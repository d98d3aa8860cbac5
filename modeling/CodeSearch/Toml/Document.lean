import CodeSearch.Toml.Lexical

/-!
# TOML documents

Tables are built as their headers and keys come. A table that was only passed through on the way to another
is implicit and may still be defined once; one made by a dotted key may only be added to by dotted keys in
the same place.
-/

namespace CodeSearch.Toml

mutual

inductive Table where
  | mk (implicit dotted : Bool) (entries : List (String × Item))

inductive Item where
  | value (node : Node)
  | table (t : Table)
  /-- An array of tables, newest first. -/
  | tables (ts : List Table)

end

namespace Table

def empty : Table := .mk false false []

/-- A table that stands between others. -/
def passing (dotted : Bool) : Table := .mk true dotted []

def implicit : Table → Bool
  | .mk i _ _ => i

def dotted : Table → Bool
  | .mk _ d _ => d

def entries : Table → List (String × Item)
  | .mk _ _ es => es

def find? (t : Table) (key : String) : Option Item := (t.entries.find? (·.1 == key)).map (·.2)

/-- Puts an item in the place of the one with its key, or last. -/
def put (t : Table) (key : String) (item : Item) : Table :=
  if t.entries.any (·.1 == key) then
    .mk t.implicit t.dotted (t.entries.map fun e => if e.1 == key then (key, item) else e)
  else .mk t.implicit t.dotted (t.entries ++ [(key, item)])

def erase (t : Table) (key : String) : Table :=
  .mk t.implicit t.dotted (t.entries.filter (·.1 != key))

def explicit (t : Table) : Table := .mk false false t.entries

/-- Changes the table at a path, making the tables on the way. In an array of tables the path leads through
the newest. A dotted key never leads into a table that has a definition of its own. -/
def modify? (dottedKey : Bool) (change : Table → Option Table) : List String → Table → Option Table
  | [], t => change t
  | key :: path, t =>
    match t.find? key with
    | none => (modify? dottedKey change path (passing dottedKey)).map fun s => t.put key (.table s)
    | some (.value _) => none
    | some (.tables []) => none
    | some (.tables (newest :: older)) =>
      (modify? dottedKey change path newest).map fun s => t.put key (.tables (s :: older))
    | some (.table s) =>
      if dottedKey && !s.implicit then none
      else (modify? dottedKey change path s).map fun s => t.put key (.table s)

/-- Sets the value of a dotted key that has none yet. -/
def set? (t : Table) (path : List String) (value : Node) : Option Table :=
  let parents := path.dropLast
  modify? true (fun parent =>
    let key := path.getLast?.getD ""
    if parent.dotted == parents.isEmpty || (parent.find? key).isSome then none
    else some (parent.put key (.value value))) parents t

end Table

mutual

def Table.node : Table → Node
  | .mk _ _ es => .object (entryNodes es)

def entryNodes : List (String × Item) → List (Option String × Node)
  | [] => []
  | (key, item) :: rest => (some key, item.node) :: entryNodes rest

def Item.node : Item → Node
  | .value n => n
  | .table t => t.node
  | .tables ts => .array (tableNodes [] ts)

def tableNodes (acc : List Node) : List Table → List Node
  | [] => acc
  | t :: ts => tableNodes (t.node :: acc) ts

end

mutual

/-- Reads a value. `depth` counts the arrays and inline tables around it. -/
def value? (fuel depth : Nat) (cs : List Char) : Option (Node × List Char) :=
  match fuel with
  | 0 => none
  | fuel + 1 =>
    match cs with
    | '"' :: _ | '\'' :: _ => (string? cs).map fun (s, rest) => (.text (some s), rest)
    | '[' :: rest => if nestingLimit ≤ depth + 1 then none else items? fuel (depth + 1) [] rest
    | '\x7b' :: rest =>
      if nestingLimit ≤ depth + 1 then none
      else
        match skipWs rest with
        | '\x7d' :: rest => some (.object [], rest)
        | rest => fields? fuel (depth + 1) .empty rest
    | 't' :: 'r' :: 'u' :: 'e' :: rest => some (.bool true, rest)
    | 'f' :: 'a' :: 'l' :: 's' :: 'e' :: rest => some (.bool false, rest)
    | _ =>
      match moment? cs with
      | some found => some found
      | none => number? cs

def items? (fuel depth : Nat) (acc : List Node) (cs : List Char) : Option (Node × List Char) :=
  match fuel with
  | 0 => none
  | fuel + 1 =>
    match skipLines (cs.length + 1) cs with
    | ']' :: rest => some (.array acc.reverse, rest)
    | cs =>
      match value? fuel depth cs with
      | none => none
      | some (node, rest) =>
        match skipLines (rest.length + 1) rest with
        | ',' :: rest => items? fuel depth (node :: acc) rest
        | ']' :: rest => some (.array (node :: acc).reverse, rest)
        | _ => none

/-- Reads the fields of an inline table up to its brace; they stand on one line. -/
def fields? (fuel depth : Nat) (t : Table) (cs : List Char) : Option (Node × List Char) :=
  match fuel with
  | 0 => none
  | fuel + 1 =>
    match key? nestingLimit cs with
    | none => none
    | some (path, rest) =>
      match rest with
      | '=' :: rest =>
        match value? fuel depth (skipWs rest) with
        | none => none
        | some (node, rest) =>
          match t.set? path node with
          | none => none
          | some t =>
            match skipWs rest with
            | ',' :: rest => fields? fuel depth t rest
            | '\x7d' :: rest => some (t.node, rest)
            | _ => none
      | _ => none

end

/-- A document under way: the finished tables, and the table that keys now go to with its path. -/
structure Draft where
  root : Table
  current : Table
  path : List String
  inArray : Bool

def Draft.start : Draft := ⟨.empty, .empty, [], false⟩

def Draft.finish? (d : Draft) : Option Table :=
  match d.path.getLast? with
  | none => some d.current
  | some key =>
    Table.modify? false (fun parent =>
      if d.inArray then
        match parent.find? key with
        | some (.tables ts) => some (parent.put key (.tables (d.current :: ts)))
        | none => some (parent.put key (.tables [d.current]))
        | _ => none
      else some (parent.put key (.table d.current))) d.path.dropLast d.root

/-- Begins the table of a header. It may have been passed through before, and then keeps what it has. -/
def Draft.openTable? (root : Table) (path : List String) : Option Draft :=
  let key := path.getLast?.getD ""
  let found := Table.modify? false some path.dropLast root
  match found with
  | none => none
  | some root =>
    let parent := path.dropLast.foldl (fun (t : Option Table) key =>
      t.bind fun t =>
        match t.find? key with
        | some (.table s) => some s
        | some (.tables (s :: _)) => some s
        | _ => none) (some root)
    match parent.bind (·.find? key) with
    | none => some ⟨root, .empty, path, false⟩
    | some (.table t) =>
      if t.implicit && !t.dotted then
        (Table.modify? false (fun p => some (p.erase key)) path.dropLast root).map fun root =>
          ⟨root, t.explicit, path, false⟩
      else none
    | some _ => none

def Draft.openArray? (root : Table) (path : List String) : Option Draft :=
  let key := path.getLast?.getD ""
  (Table.modify? false (fun parent =>
    match parent.find? key with
    | none => some (parent.put key (.tables []))
    | some (.tables _) => some parent
    | _ => none) path.dropLast root).map fun root => ⟨root, .empty, path, true⟩

def header? (d : Draft) (cs : List Char) : Option (Draft × List Char) := do
  let (isArray, cs) := match cs with
    | '[' :: rest => (true, rest)
    | _ => (false, cs)
  let (path, rest) ← key? nestingLimit cs
  if nestingLimit ≤ path.length then none
  let rest ← dropChar? ']' rest
  let rest ← if isArray then dropChar? ']' rest else some rest
  let rest ← lineRest? rest
  let root ← d.finish?
  let d ← if isArray then Draft.openArray? root path else Draft.openTable? root path
  return (d, rest)

def pair? (d : Draft) (cs : List Char) : Option (Draft × List Char) := do
  let (path, rest) ← key? nestingLimit cs
  if nestingLimit ≤ path.length then none
  let rest ← dropChar? '=' rest
  let rest := skipWs rest
  let (node, rest) ← value? (rest.length + 1) 0 rest
  let rest ← lineRest? rest
  let current ← d.current.set? path node
  return ({ d with current := current }, rest)

def run? (fuel : Nat) (d : Draft) (cs : List Char) : Option Draft :=
  match fuel, skipWs cs with
  | _, [] => some d
  | 0, _ => none
  | fuel + 1, '#' :: rest =>
    match lineRest? ('#' :: rest) with
    | some rest => run? fuel d rest
    | none => none
  | fuel + 1, '[' :: rest =>
    match header? d rest with
    | some (d, rest) => run? fuel d rest
    | none => none
  | fuel + 1, c :: rest =>
    match newline? (c :: rest) with
    | some rest => run? fuel d rest
    | none =>
      match pair? d (c :: rest) with
      | some (d, rest) => run? fuel d rest
      | none => none

/-- Reads a document. A byte order mark may stand in front. -/
def node? (cs : List Char) : Option Node := do
  let cs := match cs with
    | '\uFEFF' :: rest => rest
    | _ => cs
  let d ← run? (cs.length + 1) .start cs
  let root ← d.finish?
  return root.node

end CodeSearch.Toml
