/-
The structure of a YAML document, as a sequence of events.

* `Yaml.events` — the beginnings and ends of collections, the scalars and the aliases of the
  one document that a text holds, in order.

Design notes: the parser is a machine over the tokens with a stack of what it looks for, the
present thing on top. A key or a value that is left out is an empty scalar without extent. Of
any few rounds of the machine one takes a token or removes an entry of the stack, so the number
of rounds is bounded by the number of tokens. As with tokens, what goes wrong is an event of
its own at the end.
-/
import LintReport.Yaml.Scan

namespace LintReport.Yaml

/-- Kinds of events; nodes may carry an anchor. -/
inductive EventKind
  | alias (name : String)
  | scalar (anchor : Option String) (text : Option String)
  | openSequence (anchor : Option String)
  | openMapping (anchor : Option String)
  | close
  | fault (e : Error)
  deriving DecidableEq, Repr, Inhabited

/-- An event, from one index of the text to another. -/
structure Event where
  kind : EventKind
  start : Nat
  stop : Nat
  deriving DecidableEq, Repr, Inhabited

/-- What the parser looks for. -/
inductive Phase
  /-- A node; block collections are possible, and so are items without indentation. -/
  | node (block entries : Bool)
  | blockEntry
  | indentlessEntry
  | blockKey
  | blockValue
  | flowItem (first : Bool)
  | pairKey
  | pairValue
  | pairEnd
  | flowKey (first : Bool)
  | flowValue
  | flowNoValue
  deriving DecidableEq, Repr, Inhabited

/-- The tokens to come, and what is looked for, the present thing first. -/
structure Parser where
  input : List Token
  goals : List Phase
  deriving Inhabited

namespace Parser

/-- The next token; a fault is reported by whoever looks at it. -/
def peek (input : List Token) : Except Error Token :=
  match input with
  | [] => .error .malformed
  | t :: _ =>
    match t.kind with
    | .fault e => .error e
    | _ => .ok t

/-- What a round leads to: an event in most cases, and the parser after it. -/
abbrev Round := Except Error (List Event × Parser)

/-- A round with an event. -/
def emit (kind : EventKind) (start stop : Nat) (input : List Token) (goals : List Phase) : Round :=
  .ok ([⟨kind, start, stop⟩], ⟨input, goals⟩)

/-- A round with the empty scalar at an index. -/
def emitEmpty (index : Nat) (input : List Token) (goals : List Phase) : Round :=
  emit (.scalar none (some "")) index index input goals

/-- A round that only changes what is looked for. -/
def look (input : List Token) (goals : List Phase) : Round := .ok ([], ⟨input, goals⟩)

/-! ### Nodes -/

/-- The anchor and the tag before a node, in either order: the anchor, whether there is any of
the two, where the first begins and the last ends, and the tokens after them. -/
structure Properties where
  anchor : Option String
  present : Bool
  start : Nat
  stop : Nat
  input : List Token

/-- An anchor at the beginning of the tokens. -/
def anchor? (input : List Token) : Except Error (Option (String × Token)) := do
  let t ← peek input
  match t.kind with
  | .anchor name => return some (name, t)
  | _ => return none

/-- A tag at the beginning of the tokens, with its handle if it has one. -/
def tag? (input : List Token) : Except Error (Option (Option String × Token)) := do
  let t ← peek input
  match t.kind with
  | .tag handle => return some (handle, t)
  | _ => return none

/-- The handle of a tag must be a known one. -/
def checkHandle (handles : List String) : Option String → Except Error Unit
  | some handle => if handles.contains handle then .ok () else .error .malformed
  | none => .ok ()

/-- The properties at the beginning of the tokens. All of them are read before the handle of the
tag is checked. -/
def properties (handles : List String) (input : List Token) : Except Error Properties := do
  match ← anchor? input with
  | some (name, a) =>
    match ← tag? input.tail with
    | some (handle, t) =>
      checkHandle handles handle
      return ⟨some name, true, a.start, t.stop, input.tail.tail⟩
    | none => return ⟨some name, true, a.start, a.stop, input.tail⟩
  | none =>
    match ← tag? input with
    | some (handle, t) =>
      let after ← anchor? input.tail
      checkHandle handles handle
      match after with
      | some (name, a) => return ⟨some name, true, t.start, a.stop, input.tail.tail⟩
      | none => return ⟨none, true, t.start, t.stop, input.tail⟩
    | none =>
      let t ← peek input
      return ⟨none, false, t.start, t.start, input⟩

/-- The round that finds a node. -/
def node (handles : List String) (block entries : Bool) (input : List Token)
    (goals : List Phase) : Round := do
  let first ← peek input
  if let .alias name := first.kind then
    emit (.alias name) first.start first.stop input.tail goals
  else
    let ps ← properties handles input
    let t ← peek ps.input
    match t.kind, entries, block with
    | .entry, true, _ =>
      emit (.openSequence ps.anchor) ps.start t.stop ps.input (.indentlessEntry :: goals)
    | .scalar text, _, _ => emit (.scalar ps.anchor text) ps.start t.stop ps.input.tail goals
    | .openSequence, _, _ =>
      emit (.openSequence ps.anchor) ps.start t.stop ps.input.tail (.flowItem true :: goals)
    | .openMapping, _, _ =>
      emit (.openMapping ps.anchor) ps.start t.stop ps.input.tail (.flowKey true :: goals)
    | .blockSequence, _, true =>
      emit (.openSequence ps.anchor) ps.start t.start ps.input.tail (.blockEntry :: goals)
    | .blockMapping, _, true =>
      emit (.openMapping ps.anchor) ps.start t.start ps.input.tail (.blockKey :: goals)
    | _, _, _ =>
      if ps.present then emit (.scalar ps.anchor (some "")) ps.start ps.stop ps.input goals
      else .error .malformed

/-! ### Collections -/

/-- After an indicator: an empty scalar if one of the kinds follows, otherwise a node, and then
in either case what is looked for next. -/
def nodeUnless (kinds : List Kind) (block entries : Bool) (indicator : Token)
    (input : List Token) (goals : List Phase) : Round := do
  let t ← peek input
  if kinds.contains t.kind then emitEmpty indicator.stop input goals
  else look input (.node block entries :: goals)

/-- The end of a collection whose last token comes next. -/
def close (t : Token) (input : List Token) (goals : List Phase) : Round :=
  emit .close t.start t.stop input.tail goals

/-- The tokens after the comma that must stand before an item that is not the first. -/
def afterComma (first : Bool) (input : List Token) : Except Error (List Token) := do
  if first then return input
  let t ← peek input
  if t.kind = .item then return input.tail else throw .malformed

/-- One round of the parser. -/
def round (handles : List String) (goal : Phase) (input : List Token) (goals : List Phase) :
    Round := do
  let t ← peek input
  let rest := input.tail
  match goal, t.kind with
  | .node block entries, _ => node handles block entries input goals
  | .blockEntry, .entry => nodeUnless [.entry, .blockEnd] true false t rest (.blockEntry :: goals)
  | .blockEntry, .blockEnd => close t input goals
  | .blockEntry, _ => throw .malformed
  | .indentlessEntry, .entry =>
    nodeUnless [.entry, .key, .value, .blockEnd] true false t rest (.indentlessEntry :: goals)
  | .indentlessEntry, _ => emit .close t.start t.start input goals
  | .blockKey, .key => nodeUnless [.key, .value, .blockEnd] true true t rest (.blockValue :: goals)
  | .blockKey, .blockEnd => close t input goals
  | .blockKey, _ => throw .malformed
  | .blockValue, .value =>
    nodeUnless [.key, .value, .blockEnd] true true t rest (.blockKey :: goals)
  | .blockValue, _ => emitEmpty t.start input (.blockKey :: goals)
  | .flowItem _, .closeSequence => close t input goals
  | .flowItem first, _ =>
    let input ← afterComma first input
    let t ← peek input
    match t.kind with
    | .key => emit (.openMapping none) t.start t.stop input (.pairKey :: goals)
    | .closeSequence => close t input goals
    | _ => look input (.node false false :: .flowItem false :: goals)
  | .pairKey, _ =>
    nodeUnless [.value, .item, .closeSequence] false false t rest (.pairValue :: goals)
  | .pairValue, .value =>
    nodeUnless [.item, .closeSequence] false false t rest (.pairEnd :: goals)
  | .pairValue, _ => emitEmpty t.start input (.pairEnd :: goals)
  | .pairEnd, _ => emit .close t.start t.start input (.flowItem false :: goals)
  | .flowKey _, .closeMapping => close t input goals
  | .flowKey first, _ =>
    let input ← afterComma first input
    let t ← peek input
    match t.kind with
    | .key =>
      nodeUnless [.value, .item, .closeMapping] false false t input.tail (.flowValue :: goals)
    | .closeMapping => close t input goals
    | _ => look input (.node false false :: .flowNoValue :: goals)
  | .flowValue, .value =>
    nodeUnless [.item, .closeMapping] false false t rest (.flowKey false :: goals)
  | .flowValue, _ => emitEmpty t.start input (.flowKey false :: goals)
  | .flowNoValue, _ => emitEmpty t.start input (.flowKey false :: goals)

/-! ### Documents -/

/-- The event of a fault. -/
def faultEvent (e : Error) : Event := ⟨.fault e, 0, 0⟩

/-- The tag handles that are known without a directive. -/
def defaultHandles : List String := ["!", "!!"]

/-- Reads the directives before a document: the handles they define, and the tokens after
them. A version must be of the first series and come once, and so must each handle. -/
def directives (versioned : Bool) (handles : List String) :
    List Token → Except Error (List String × List Token)
  | ⟨.directive d, _, _⟩ :: rest =>
    match d with
    | .version major =>
      if versioned || major != 1 then .error .malformed else directives true handles rest
    | .tag handle =>
      if handles.contains handle then .error .malformed
      else directives versioned (handle :: handles) rest
    | .other => directives versioned handles rest
  | input => .ok (handles ++ defaultHandles, input)

/-- The fault of a stream whose document has ended, if it goes on: directives are looked at
before it is found that a second document is one too many. -/
def checkEnd (input : List Token) : Except Error Unit := do
  let t ← peek input
  if t.kind = .streamEnd then return ()
  let (_, input) ← directives false [] input
  let _ ← peek input
  throw .malformed

/-- The rest of a stream after its document: nothing but borders may follow. -/
def afterDocument (input : List Token) : List Event :=
  match checkEnd (input.dropWhile (·.kind = .documentEnd)) with
  | .error e => [faultEvent e]
  | .ok () => []

/-- The events of a document from a parser on. -/
def run (handles : List String) : Nat → Parser → List Event
  | _, ⟨input, []⟩ => afterDocument input
  | 0, _ => [faultEvent .malformed]
  | fuel + 1, ⟨input, goal :: goals⟩ =>
    match round handles goal input goals with
    | .error e => [faultEvent e]
    | .ok (events, p) => events ++ run handles fuel p

/-- The events of the document at the beginning of the tokens. -/
def document (handles : List String) (input : List Token) : List Event :=
  run handles (8 * input.length + 8) ⟨input, [.node true false]⟩

/-- Whether a document that has begun ends before any content. -/
def isEmptyBefore (k : Kind) : Bool :=
  match k with
  | .directive _ | .documentStart | .documentEnd | .streamEnd => true
  | _ => false

/-- The events of a document with an explicit beginning. -/
def explicitDocument (input : List Token) : Except Error (List Event) := do
  let (handles, input) ← directives false [] input
  let border ← peek input
  if border.kind != .documentStart then throw .malformed
  let t ← peek input.tail
  if isEmptyBefore t.kind then
    return ⟨.scalar none (some ""), t.start, t.start⟩ :: afterDocument input.tail
  else return document handles input.tail

/-- The events of the one document that a stream of tokens holds, none if it holds none. -/
def stream (input : List Token) : Except Error (List Event) := do
  let t ← peek input
  match t.kind with
  | .streamEnd => return []
  | .directive _ | .documentStart => explicitDocument input
  | _ => return document defaultHandles input

end Parser

/-- The events of the document that a text holds. -/
def events (cs : List Char) : List Event :=
  match Parser.stream (tokens cs) with
  | .ok es => es
  | .error e => [Parser.faultEvent e]

end LintReport.Yaml
