import LinePatch.Yaml.Reader
import LinePatch.Yaml.Construct

/-!
# Configuration documents

A configuration file is a YAML 1.1 document. Loading it reads its characters, scans
them into tokens, parses the tokens into events, composes the events into a graph of
nodes and builds a value for each node. A stream with no document loads as nothing.
-/

namespace LinePatch.Yaml

variable [Text.Surrogates]

/-- A loaded document: the value built for each node, and the root node, if any. -/
structure Document where
  built : Array (Option Built)
  root : Option Nat

def viewFrom (built : Array (Option Built)) : Nat → List Nat → Nat → Setting
  | 0, _, _ => .none
  | fuel + 1, path, n =>
    let inner := viewFrom built fuel (n :: path)
    match built[n]?.join with
    | some (.atom v _) => v
    | some (.list items) =>
      if path.contains n then .recurring false else .list (items.map inner)
    | some (.dict entries) =>
      if path.contains n then .recurring true
      else .map (entries.map fun (k, v) => (inner k, inner v))
    | some (.set items) => .set (items.map inner)
    | some (.pairs entries) =>
      if path.contains n then .recurring false
      else .list (entries.map fun (k, v) => .tuple [inner k, inner v])
    | none => .none

namespace Document

def view (d : Document) (n : Nat) : Setting :=
  viewFrom d.built (d.built.size + 1) [] n

/-- The value of the document; nothing for an empty stream. -/
def value (d : Document) : Setting :=
  match d.root with
  | some r => d.view r
  | none => .none

/-- The entries of a mapping node, as pairs of nodes; none for other nodes. -/
def entries (d : Document) (n : Nat) : Option (List (Nat × Nat)) :=
  match d.built[n]?.join with
  | some (.dict es) => some es
  | _ => none

/-- The node of the value of a text key in a mapping node. -/
def lookup (d : Document) (entries : List (Nat × Nat)) (key : String) : Option Nat :=
  (entries.find? fun (k, _) => (d.view k).sameKey (.str key)).map (·.2)

end Document

def load (name text : String) : Except Failure Document := do
  let chars ← readChars name text
  let composer : Composer := { parser := { scanner := Scanner.start name chars } }
  let (root, composer) ← composeSingle.run composer
  match root with
  | none => pure { built := #[], root := none }
  | some r =>
    let builder : Builder :=
      { nodes := composer.nodes, built := Array.replicate composer.nodes.size none }
    let ((), builder) ← (buildAll r).run builder
    pure { built := builder.built, root := some r }

end LinePatch.Yaml
