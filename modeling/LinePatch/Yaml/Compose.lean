import LinePatch.Yaml.Parser
import LinePatch.Yaml.Resolve

/-!
# Composing the node graph

The events of a document are composed into a graph of nodes: scalars with their text,
sequences with their items and mappings with their pairs, each with a tag. Nodes are
numbered in the order they are begun, and collections refer to other nodes by number.
An anchor names the node it is attached to and an alias refers to that same node, so
the graph may share nodes, and a collection may even hold itself. An alias to an anchor
not yet seen, or an anchor used twice, is a problem.
-/

namespace LinePatch.Yaml

variable [Text.Surrogates]

/-- What a node holds. -/
inductive NodeBody where
  | scalar (value : String)
  | sequence (items : List Nat)
  | mapping (pairs : List (Nat × Nat))
  deriving Inhabited, Repr

/-- A node of the graph: its tag, what it holds, and where it starts. -/
structure Node where
  tag : String
  body : NodeBody
  start : Mark
  deriving Inhabited, Repr

def Node.kindName (n : Node) : String :=
  match n.body with
  | .scalar _ => "scalar"
  | .sequence _ => "sequence"
  | .mapping _ => "mapping"

/-- The state of composing: the parser, the nodes so far and the anchors of the
current document. -/
structure Composer where
  parser : Parser
  nodes : Array Node := #[]
  anchors : List (String × Nat) := []
  deriving Inhabited

abbrev ComposeM := StateT Composer (Except Failure)

def parse {α : Type} (m : ParseM α) : ComposeM α := fun c => do
  let (a, p) ← m.run c.parser
  pure (a, { c with parser := p })

def nextEvent : ComposeM Event := do
  match ← parse peekEvent with
  | some e => pure e
  | none =>
    let m := (← get).parser.scanner.mark
    pure { kind := .streamEnd, start := m, stop := m }

def takeNext : ComposeM Event := do
  let e ← nextEvent
  discard (parse takeEvent)
  pure e

def addNode (n : Node) : ComposeM Nat := do
  let id := (← get).nodes.size
  modify fun c => { c with nodes := c.nodes.push n }
  pure id

def setBody (id : Nat) (body : NodeBody) : ComposeM Unit :=
  modify fun c => { c with nodes := c.nodes.modify id fun n => { n with body := body } }

def addAnchor (anchor : Option String) (id : Nat) : ComposeM Unit :=
  match anchor with
  | some a => modify fun c => { c with anchors := c.anchors ++ [(a, id)] }
  | none => pure ()

def composeFail {α : Type} (context : Option String) (contextMark : Option Mark) (problem : String)
    (problemMark : Mark) : ComposeM α :=
  throw (Problem.fail
    { context := context, contextMark := contextMark, problem := problem, problemMark := some problemMark })

def collectionTag (tag : Option String) (default : String) : String :=
  match tag with
  | some t => if t = "!" then default else t
  | none => default

def checkAnchor (anchor : Option String) (place : Mark) : ComposeM Unit := do
  match anchor with
  | some a =>
    match (← get).anchors.lookup a with
    | some first =>
      let firstMark := ((← get).nodes[first]?.map (·.start)).getD place
      composeFail (some ("found duplicate anchor " ++ Text.quoted a ++ "; first occurrence"))
        (some firstMark) "second occurrence" place
    | none => pure ()
  | none => pure ()

mutual

def composeNode : Nat → ComposeM Nat
  | 0 => do composeFail none none "document nested too deeply" (← nextEvent).start
  | fuel + 1 => do
    let e ← nextEvent
    match e.kind with
    | .aliasOf a =>
      discard takeNext
      match (← get).anchors.lookup a with
      | some id => pure id
      | none => composeFail none none ("found undefined alias " ++ Text.quoted a) e.start
    | .scalar anchor tag pi _ value _ =>
      checkAnchor anchor e.start
      discard takeNext
      let tag := match tag with
        | some t => if t = "!" then scalarTag value pi else t
        | none => scalarTag value pi
      let id ← addNode { tag := tag, body := .scalar value, start := e.start }
      addAnchor anchor id
      pure id
    | .sequenceStart anchor tag _ =>
      checkAnchor anchor e.start
      discard takeNext
      let id ← addNode { tag := collectionTag tag (yamlTag "seq"), body := .sequence [], start := e.start }
      addAnchor anchor id
      let items ← composeItems fuel #[]
      setBody id (.sequence items.toList)
      discard takeNext
      pure id
    | .mappingStart anchor tag _ =>
      checkAnchor anchor e.start
      discard takeNext
      let id ← addNode { tag := collectionTag tag (yamlTag "map"), body := .mapping [], start := e.start }
      addAnchor anchor id
      let pairs ← composePairs fuel #[]
      setBody id (.mapping pairs.toList)
      discard takeNext
      pure id
    | _ => composeFail none none "expected a node" e.start

def composeItems : Nat → Array Nat → ComposeM (Array Nat)
  | 0, items => pure items
  | fuel + 1, items => do
    match (← nextEvent).kind with
    | .sequenceEnd => pure items
    | _ =>
      let id ← composeNode fuel
      composeItems fuel (items.push id)

def composePairs : Nat → Array (Nat × Nat) → ComposeM (Array (Nat × Nat))
  | 0, pairs => pure pairs
  | fuel + 1, pairs => do
    match (← nextEvent).kind with
    | .mappingEnd => pure pairs
    | _ =>
      let k ← composeNode fuel
      let v ← composeNode fuel
      composePairs fuel (pairs.push (k, v))

end

def composeSingle : ComposeM (Option Nat) := do
  discard takeNext
  let fuel := 8 * ((← get).parser.scanner.text.size + 4)
  let root ←
    match (← nextEvent).kind with
    | .streamEnd => pure none
    | _ => do
      discard takeNext
      let id ← composeNode fuel
      discard takeNext
      modify fun c => { c with anchors := [] }
      pure (some id)
  let e ← nextEvent
  match e.kind with
  | .streamEnd => pure ()
  | _ =>
    discard takeNext
    let nodes := (← get).nodes
    let first := (root.bind fun id => nodes[id]?.map (·.start)).getD e.start
    composeFail (some "expected a single document in the stream") (some first)
      "but found another document" e.start
  discard takeNext
  pure root

end LinePatch.Yaml
