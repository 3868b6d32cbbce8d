import Wiring.Toml.Value

/-!
# Building tables

The statements of a document are put together into one table. A key is given a value once. A
table may have one header of its own, whether its subtables come before or after it, and only
dotted keys extend a table that dotted keys started.
-/

namespace Wiring.Toml

/-- A line of a document that says something. Paths are never empty. -/
inductive Statement where
  /-- A header: what follows goes into this table. -/
  | header (path : List Text)
  /-- A header for one more table of an array. -/
  | arrayHeader (path : List Text)
  | entry (path : List Text) (value : Value)

/-- How a table came to be: on the way to another one, by a dotted key, or by its own header. -/
inductive Origin where
  | implied
  | dotted
  | declared
deriving DecidableEq

/-- What stands under a key while tables can still grow. -/
inductive Node where
  | value (v : Value)
  | table (origin : Origin) (entries : List (Text × Node))
  | tables (items : List (List (Text × Node)))

abbrev Tree := List (Text × Node)

/-- The tree with another node under a key that it has. -/
def replaceNode (key : Text) (node : Node) (tree : Tree) : Tree :=
  tree.map fun e => if e.1 = key then (key, node) else e

/-- Changes the tree at the end of a path, the last one where there is an array of them. Tables
that are missing on the way get the given origin; on the way of a dotted key no table may have a
header. -/
def updateAt (origin : Origin) (change : Origin → Tree → Option Tree) :
    List Text → Origin → Tree → Option Tree
  | [], here, tree => change here tree
  | key :: path, _, tree =>
    match tree.lookup key with
    | none => do
      let sub ← updateAt origin change path origin []
      return tree ++ [(key, .table origin sub)]
    | some (.value _) => none
    | some (.table there sub) =>
      if origin = .dotted ∧ there = .declared then none
      else do
        let sub ← updateAt origin change path there sub
        return replaceNode key (.table there sub) tree
    | some (.tables items) => do
      let sub ← items.getLast?
      let sub ← updateAt origin change path .declared sub
      return replaceNode key (.tables (items.dropLast ++ [sub])) tree

/-- Gives a new key its value. -/
def addValue (key : Text) (value : Value) (tree : Tree) : Option Tree :=
  if (tree.lookup key).isSome then none else some (tree ++ [(key, .value value)])

/-- Gives a dotted key its value, in a table that dotted keys have made. -/
def addEntry (path : List Text) (value : Value) (tree : Tree) : Option Tree := do
  let key ← path.getLast?
  updateAt .dotted
    (fun here tree =>
      if path.length = 1 ∨ here = .dotted then addValue key value tree else none)
    path.dropLast .declared tree

/-- Declares a table, which goes after all that stands beside it. -/
def declareTable (key : Text) (tree : Tree) : Option Tree :=
  match tree.lookup key with
  | none => some (tree ++ [(key, .table .declared [])])
  | some (.table .implied sub) =>
    some (tree.filter (fun e => e.1 ≠ key) ++ [(key, .table .declared sub)])
  | _ => none

/-- Adds an empty table to an array of tables. -/
def extendArray (key : Text) (tree : Tree) : Option Tree :=
  match tree.lookup key with
  | none => some (tree ++ [(key, .tables [[]])])
  | some (.tables items) => some (replaceNode key (.tables (items ++ [[]])) tree)
  | _ => none

/-- A document so far, and the path of its last header. -/
structure Draft where
  tree : Tree := []
  current : List Text := []

def Draft.add (d : Draft) : Statement → Option Draft
  | .header path => do
    let key ← path.getLast?
    let tree ← updateAt .implied (fun _ => declareTable key) path.dropLast .declared d.tree
    return ⟨tree, path⟩
  | .arrayHeader path => do
    let key ← path.getLast?
    let tree ← updateAt .implied (fun _ => extendArray key) path.dropLast .declared d.tree
    return ⟨tree, path⟩
  | .entry path value => do
    let tree ← updateAt .implied (fun _ => addEntry path value) d.current .declared d.tree
    return { d with tree }

mutual

def Node.toValue : Node → Value
  | .value v => v
  | .table _ entries => .table (treeTable entries)
  | .tables items => .array (treeTables items)

/-- The table that a tree has grown into. -/
def treeTable : List (Text × Node) → Table
  | [] => []
  | (key, node) :: entries => (key, node.toValue) :: treeTable entries

def treeTables : List (List (Text × Node)) → List Value
  | [] => []
  | entries :: items => .table (treeTable entries) :: treeTables items

end

/-- The table of a document. -/
def tableOfStatements (statements : List Statement) : Option Table :=
  (statements.foldlM Draft.add {}).map fun d => treeTable d.tree

/-- The table that is written on one line. -/
def tableOfEntries (entries : List (List Text × Value)) : Option Table :=
  (entries.foldlM (fun tree (path, value) => addEntry path value tree) []).map treeTable

end Wiring.Toml
