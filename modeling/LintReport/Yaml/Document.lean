/-
YAML documents as graphs of nodes.

* `Yaml.Document` — the nodes of a document, by number, and its root;
* `Yaml.compose` — the document that a text holds, none if it holds none; how deep its
  collections are nested is limited.

Design notes: an alias is the number of the node with its anchor. That node may be one that
is still open, so a document can contain itself and its nodes form a graph. A collection takes
its number when it opens, before its children, and gets its children when it closes.
-/
import LintReport.Yaml.Event

namespace LintReport.Yaml

/-- What a node holds: a text, or the numbers of other nodes. -/
inductive Content
  | scalar (text : Option String)
  | sequence (items : List Nat)
  | mapping (entries : List (Nat × Nat))
  deriving DecidableEq, Repr, Inhabited

/-- A node, from one index of the text to another. -/
structure Node where
  content : Content
  start : Nat
  stop : Nat
  deriving DecidableEq, Repr, Inhabited

/-- The nodes of a document, and the number of its root. -/
structure Document where
  nodes : Array Node
  root : Nat
  deriving DecidableEq, Repr, Inhabited

/-- A collection that is still open: its number, its children, last first, and the key that
awaits its value. -/
inductive Open
  | sequence (id : Nat) (items : List Nat)
  | mapping (id : Nat) (entries : List (Nat × Nat)) (key : Option Nat)
  deriving Repr

/-- The nodes found so far. -/
structure Builder where
  nodes : Array Node
  anchors : List (String × Nat)
  opened : List Open
  root : Option Nat

namespace Builder

/-- Before the first event. -/
def start : Builder := ⟨#[], [], [], none⟩

/-- Gives the innermost open collection a child. -/
def put (b : Builder) (id : Nat) : Builder :=
  match b.opened with
  | [] => { b with root := some id }
  | .sequence c items :: rest => { b with opened := .sequence c (id :: items) :: rest }
  | .mapping c entries none :: rest => { b with opened := .mapping c entries (some id) :: rest }
  | .mapping c entries (some key) :: rest =>
    { b with opened := .mapping c ((key, id) :: entries) none :: rest }

/-- Adds a node, which must not have the anchor of another one. -/
def add (b : Builder) (anchor : Option String) (node : Node) : Except Error Builder :=
  let anchors := match anchor with
    | none => some b.anchors
    | some name =>
      if (b.anchors.lookup name).isSome then none else some ((name, b.nodes.size) :: b.anchors)
  match anchors with
  | none => .error .malformed
  | some anchors => .ok { b with nodes := b.nodes.push node, anchors := anchors }

/-- Opens a collection, at most `deepest` of which are open at a time. -/
def openWith (deepest : Nat) (b : Builder) (anchor : Option String) (node : Node) (o : Nat → Open) :
    Except Error Builder := do
  if deepest ≤ b.opened.length then throw .tooDeep
  let id := b.nodes.size
  let b ← b.add anchor node
  return { b with opened := o id :: b.opened }

/-- Gives a collection its content and the index at which it stops; the collections around it
stay open. -/
def complete (b : Builder) (id : Nat) (content : Content) (stop : Nat) (around : List Open) :
    Builder :=
  { b with
    opened := around
    nodes := b.nodes.modify id fun n => { n with content := content, stop := stop } }

/-- Closes a collection, which stops at an index. -/
def close (b : Builder) (stop : Nat) : Builder :=
  match b.opened with
  | [] => b
  | .sequence id items :: rest =>
    (b.complete id (.sequence items.reverse) stop rest).put id
  | .mapping id entries _ :: rest =>
    (b.complete id (.mapping entries.reverse) stop rest).put id

/-- The nodes after one more event. -/
def step (deepest : Nat) (b : Builder) (e : Event) : Except Error Builder :=
  match e.kind with
  | .fault e => .error e
  | .alias name =>
    match b.anchors.lookup name with
    | some id => .ok (b.put id)
    | none => .error .malformed
  | .scalar anchor text => do
    let id := b.nodes.size
    return (← b.add anchor ⟨.scalar text, e.start, e.stop⟩).put id
  | .openSequence anchor =>
    b.openWith deepest anchor ⟨.sequence [], e.start, e.stop⟩ fun id => .sequence id []
  | .openMapping anchor =>
    b.openWith deepest anchor ⟨.mapping [], e.start, e.stop⟩ fun id => .mapping id [] none
  | .close => .ok (b.close e.stop)

end Builder

/-- The document that a text holds. -/
def compose (deepest : Nat) (cs : List Char) : Except Error (Option Document) := do
  let b ← (events cs).foldlM (Builder.step deepest) Builder.start
  return b.root.map fun root => ⟨b.nodes, root⟩

end LintReport.Yaml
