/-
Finding the tokens of a YAML text.

* `Yaml.tokens` — the tokens of a text, from first to last.

Design notes: block collections have no brackets, so their beginnings and ends follow from the
columns at which items and keys stand; the scanner keeps the columns of the collections that
are open. A key is known as one only when its colon is found: a token that could begin a key
is remembered with its number, for each level of flow collections the last such token, and the
key token is put in before it later. A key must have its colon on the same line and within 1024
characters; where the indentation says that only a key can stand, a missing colon is a fault.
A token that could still begin a key is not given out, so a fault comes before it.
-/
import LintReport.Yaml.Scalar

namespace LintReport.Yaml

/-- A token that could turn out to begin a key. -/
structure Candidate where
  /-- The number of the token, counted from the first. -/
  number : Nat
  required : Bool
  index : Nat
  line : Nat
  column : Nat
  deriving Repr

/-- The state of the scanner. -/
structure Scanner where
  cursor : Cursor
  /-- The tokens found so far, last first. -/
  found : List Token
  /-- How many tokens that are. -/
  count : Nat
  /-- How many flow collections are open. -/
  flow : Nat
  /-- The column of the innermost block collection, `-1` outside of all. -/
  indent : Int
  /-- The columns of the collections around it. -/
  outer : List Int
  keyAllowed : Bool
  /-- The candidates for keys, by level of flow collections. -/
  candidates : List (Nat × Candidate)

namespace Scanner

/-- The scanner at the beginning of a text. -/
def start (cs : List Char) : Scanner := ⟨Cursor.start cs, [], 0, 0, -1, [], true, []⟩

/-- The column of the next character. -/
def column (s : Scanner) : Int := s.cursor.column

/-- Whether the scanner is inside of a flow collection. -/
def inFlow (s : Scanner) : Bool := s.flow != 0

/-- Puts a token at the end. -/
def push (s : Scanner) (kind : Kind) (start stop : Nat) : Scanner :=
  { s with found := ⟨kind, start, stop⟩ :: s.found, count := s.count + 1 }

/-- Puts a token without extent at the end. -/
def pushHere (s : Scanner) (kind : Kind) : Scanner := s.push kind s.cursor.index s.cursor.index

/-- Takes some characters as one token. -/
def take (s : Scanner) (kind : Kind) (length : Nat) : Scanner :=
  let after := s.cursor.advance length
  { s.push kind s.cursor.index after.index with cursor := after }

/-- Puts a token without extent before the token of a number. -/
def insertAt (s : Scanner) (number : Nat) (kind : Kind) (index : Nat) : Scanner :=
  let later := s.count - number
  { s with
    found := s.found.take later ++ ⟨kind, index, index⟩ :: s.found.drop later
    count := s.count + 1 }

/-! ### Candidates and indentation -/

/-- The candidate of the present level. -/
def candidate? (s : Scanner) : Option Candidate := s.candidates.lookup s.flow

/-- Without the candidate of the present level, which must not be one that is required. -/
def dropCandidate (s : Scanner) : Except Error Scanner :=
  match s.candidate? with
  | none => .ok s
  | some c =>
    if c.required then .error .malformed
    else .ok { s with candidates := s.candidates.filter (·.1 != s.flow) }

/-- Whether the colon of a candidate can no longer come. -/
def isStale (s : Scanner) (c : Candidate) : Bool :=
  c.line != s.cursor.line || 1024 < s.cursor.index - c.index

/-- Without the candidates whose colon can no longer come. -/
def dropStale (s : Scanner) : Except Error Scanner :=
  if s.candidates.any fun (_, c) => s.isStale c && c.required then .error .malformed
  else .ok { s with candidates := s.candidates.filter fun (_, c) => !s.isStale c }

/-- Remembers the next token as one that could begin a key. -/
def saveCandidate (s : Scanner) : Except Error Scanner := do
  if s.keyAllowed then
    let s ← s.dropCandidate
    let c : Candidate := ⟨s.count, !s.inFlow && s.indent == s.column, s.cursor.index,
      s.cursor.line, s.cursor.column⟩
    return { s with candidates := (s.flow, c) :: s.candidates }
  else return s

/-- Ends the block collections that stand further right than a column. -/
def unwindTo (column : Int) (s : Scanner) : List Int → Scanner
  | [] => { s with outer := [] }
  | indent :: outer =>
    if column < s.indent then
      unwindTo column { s.pushHere .blockEnd with indent := indent } outer
    else { s with outer := indent :: outer }

/-- Ends the block collections that stand further right than a column, outside of flow
collections. -/
def unwind (s : Scanner) (column : Int) : Scanner :=
  if s.inFlow then s else unwindTo column s s.outer

/-- Whether a block collection begins at a column. -/
def opensAt (s : Scanner) (column : Int) : Bool := s.indent < column

/-- Opens a block collection at a column. -/
def openAt (s : Scanner) (column : Int) : Scanner :=
  { s with indent := column, outer := s.indent :: s.outer }

/-- Opens a block collection at the next character, if one begins there. -/
def openHere (s : Scanner) (kind : Kind) : Scanner :=
  if s.opensAt s.column then (s.openAt s.column).pushHere kind else s

/-! ### Tokens -/

/-- The cursor after blanks, comments and line breaks, and whether a line break was among
them. -/
def skipToToken : Nat → Cursor → Bool → Cursor × Bool
  | 0, c, crossed => (c, crossed)
  | fuel + 1, c, crossed =>
    let c := c.skipBlanks.skipComment
    match c.lineBreak? with
    | some (_, c) => skipToToken fuel c true
    | none => (c, crossed)

/-- The scanner before the next token. -/
def toToken (s : Scanner) : Scanner :=
  let c := if s.cursor.index = 0 && s.cursor.peek = '\ufeff' then s.cursor.next else s.cursor
  let (c, crossed) := skipToToken (c.rest.length + 1) c false
  { s with cursor := c, keyAllowed := s.keyAllowed || (crossed && !s.inFlow) }

/-- Ends all block collections and forgets the candidate, as at the border of a document. -/
def closeAll (s : Scanner) : Except Error Scanner := do
  let s ← (s.unwind (-1)).dropCandidate
  return { s with keyAllowed := false }

/-- The end of the text. -/
def fetchEnd (s : Scanner) : Except Error Scanner := do
  return { (← s.closeAll) with candidates := [] }.pushHere .streamEnd

/-- The three characters of a border of documents. -/
def fetchBorder (s : Scanner) (kind : Kind) : Except Error Scanner := do
  return (← s.closeAll).take kind 3

/-- The opening bracket of a flow collection. -/
def fetchOpen (s : Scanner) (kind : Kind) : Except Error Scanner := do
  let s ← s.saveCandidate
  return { s with flow := s.flow + 1, keyAllowed := true }.take kind 1

/-- The closing bracket of a flow collection. -/
def fetchClose (s : Scanner) (kind : Kind) : Except Error Scanner := do
  let s ← s.dropCandidate
  return { s with flow := s.flow - 1, keyAllowed := false }.take kind 1

/-- The comma between items of a flow collection. -/
def fetchItem (s : Scanner) : Except Error Scanner := do
  let s ← { s with keyAllowed := true }.dropCandidate
  return s.take .item 1

/-- Opens a block collection for an indicator, which may stand only where a key may. -/
def openFor (s : Scanner) (kind : Kind) : Except Error Scanner :=
  if s.inFlow then .ok s
  else if s.keyAllowed then .ok (s.openHere kind)
  else .error .malformed

/-- The hyphen before an item of a block collection. -/
def fetchEntry (s : Scanner) : Except Error Scanner := do
  let s ← s.openFor .blockSequence
  let s ← { s with keyAllowed := true }.dropCandidate
  return s.take .entry 1

/-- The question mark before a key. -/
def fetchKey (s : Scanner) : Except Error Scanner := do
  let s ← s.openFor .blockMapping
  let s ← { s with keyAllowed := !s.inFlow }.dropCandidate
  return s.take .key 1

/-- The colon before a value: its key began at the candidate of this level, if there is one. -/
def fetchValue (s : Scanner) : Except Error Scanner := do
  match s.candidate? with
  | some c =>
    let s := { s with candidates := s.candidates.filter (·.1 != s.flow), keyAllowed := false }
    let s := s.insertAt c.number .key c.index
    let s :=
      if !s.inFlow && s.opensAt c.column then
        (s.openAt c.column).insertAt c.number .blockMapping c.index
      else s
    return s.take .value 1
  | none =>
    let s ← s.openFor .blockMapping
    let s ← { s with keyAllowed := !s.inFlow }.dropCandidate
    return s.take .value 1

/-- Characters of names of anchors, directives and tag handles. -/
def isNameChar (c : Char) : Bool := c.isAlphanum || c = '-' || c = '_'

/-- An anchor or an alias. -/
def fetchAnchor (s : Scanner) (kind : String → Kind) : Except Error Scanner := do
  let s ← s.saveCandidate
  let (name, after) := s.cursor.next.takeWhile isNameChar
  if name.isEmpty then throw .malformed
  if !(isSpacing after.peek || "?:,]\x7d%@`".toList.contains after.peek) then throw .malformed
  return { s with keyAllowed := false }.take (kind (String.ofList name)) (name.length + 1)

/-- Characters of tags. -/
def isTagChar (c : Char) : Bool :=
  c.isAlphanum || "-;/?:@&=+$,_.!~*'()[]%".toList.contains c

/-- Bytes written as percent escapes one after the other, and the characters after them. -/
def escapeBytes : List Char → Except Error (List UInt8)
  | '%' :: a :: b :: rest =>
    match Text.hexPair? a b with
    | some byte => (byte :: ·) <$> escapeBytes rest
    | none => .error .malformed
  | '%' :: _ => .error .malformed
  | _ => .ok []

/-- Whether the percent escapes in the characters of a tag are UTF-8, each run of them. -/
def checkEscapes : Nat → List Char → Except Error Unit
  | 0, _ => .ok ()
  | fuel + 1, cs =>
    match cs.dropWhile (· != '%') with
    | [] => .ok ()
    | rest => do
      let bytes ← escapeBytes rest
      match Text.Utf8.decode bytes with
      | .ok _ => checkEscapes fuel (rest.drop (3 * bytes.length))
      | .error _ => throw .malformed

/-- The characters of a tag, and the cursor after them. -/
def tagChars (c : Cursor) : Except Error (String × Cursor) := do
  let (cs, after) := c.takeWhile isTagChar
  if cs.isEmpty then throw .malformed
  checkEscapes (cs.length + 1) cs
  return (String.ofList cs, after)

/-- A tag handle: an exclamation mark, or a name between two. -/
def tagHandle (c : Cursor) : Except Error (String × Cursor) := do
  if c.peek != '!' then throw .malformed
  if c.peekAt 1 = ' ' then return ("!", c.next)
  let (name, after) := c.next.takeWhile isNameChar
  if after.peek != '!' then throw .malformed
  return (String.ofList ('!' :: name ++ ['!']), after.next)

/-- A tag: in angle brackets, a lone mark, or a handle and characters. -/
def tag (c : Cursor) : Except Error (Kind × Cursor) := do
  let (kind, after) ←
    if c.peekAt 1 = '<' then do
      let (_, after) ← tagChars (c.advance 2)
      if after.peek != '>' then throw .malformed
      pure (Kind.tag none, after.next)
    else if isSpacing (c.peekAt 1) then pure (Kind.tag none, c.next)
    else if (c.next.rest.takeWhile (!endsWord ·)).contains '!' then do
      let (handle, after) ← tagHandle c
      let (_, after) ← tagChars after
      pure (Kind.tag (some handle), after)
    else do
      let (_, after) ← tagChars c.next
      pure (Kind.tag (some "!"), after)
  if endsWord after.peek then return (kind, after) else throw .malformed

/-- A tag. -/
def fetchTag (s : Scanner) : Except Error Scanner := do
  let s ← s.saveCandidate
  let (kind, after) ← tag s.cursor
  return { s.push kind s.cursor.index after.index with cursor := after, keyAllowed := false }

/-- The digits of a version number. -/
def versionNumber (c : Cursor) : Except Error (Nat × Cursor) := do
  let (ds, after) := c.takeWhile Char.isDigit
  if ds.isEmpty then throw .malformed
  match Text.Numeral.readUnsigned "" ds with
  | .ok n => return (n, after)
  | .error e => throw (.numeral e)

/-- The value of a directive, after its name. -/
def directiveValue (name : String) (c : Cursor) : Except Error (Directive × Cursor) := do
  if name = "YAML" then
    let (major, c) ← versionNumber c.skipBlanks
    if c.peek != '.' then throw .malformed
    let (_, c) ← versionNumber c.next
    if endsWord c.peek then return (.version major, c) else throw .malformed
  else if name = "TAG" then
    let (handle, c) ← tagHandle c.skipBlanks
    if c.peek != ' ' then throw .malformed
    let (_, c) ← tagChars c.skipBlanks
    if endsWord c.peek then return (.tag handle, c) else throw .malformed
  else return (.other, c)

/-- A directive. -/
def fetchDirective (s : Scanner) : Except Error Scanner := do
  let s ← s.closeAll
  let (name, c) := s.cursor.next.takeWhile isNameChar
  if name.isEmpty || !endsWord c.peek then throw .malformed
  let name := String.ofList name
  let (directive, c) ← directiveValue name c
  let stop := c.index
  let c := if directive = .other then c.skipWhile (!endsLine ·) else c
  let c ← restOfLine c
  return { s.push (.directive directive) s.cursor.index stop with cursor := c }

/-- Puts a scalar at the end. -/
def pushScalar (s : Scanner) (found : Found) : Scanner :=
  { s.push (.scalar found.chars.text?) s.cursor.index found.stop with
    cursor := found.cursor, keyAllowed := found.keyMayFollow }

/-- A plain scalar. -/
def fetchPlain (s : Scanner) : Except Error Scanner := do
  let s ← s.saveCandidate
  return s.pushScalar (plainScalar s.inFlow s.indent s.cursor)

/-- A quoted scalar. -/
def fetchQuoted (s : Scanner) : Except Error Scanner := do
  let s ← s.saveCandidate
  return s.pushScalar (← quotedScalar s.cursor)

/-- A block scalar. -/
def fetchBlock (s : Scanner) : Except Error Scanner := do
  let s ← s.dropCandidate
  return s.pushScalar (← blockScalar s.indent s.cursor)

/-- Whether a plain scalar begins at the next character. -/
def beginsPlain (s : Scanner) : Bool :=
  let c := s.cursor.peek
  !(isSpacing c || "-?:,[]\x7b\x7d#&*!|>'\"%@`".toList.contains c)
    || (!isSpacing (s.cursor.peekAt 1) && (c = '-' || (!s.inFlow && (c = '?' || c = ':'))))

/-- Whether an indicator stands for itself: outside of flow collections a blank must follow. -/
def isIndicator (s : Scanner) : Bool := s.inFlow || isSpacing (s.cursor.peekAt 1)

/-- The next token, from its first character. -/
def fetchHere (s : Scanner) : Except Error Scanner :=
  let c := s.cursor.peek
  let atStart := s.cursor.column = 0
  if s.cursor.rest.isEmpty then s.fetchEnd
  else if c = '%' && atStart then s.fetchDirective
  else if atStart && s.cursor.atMarker '-' then s.fetchBorder .documentStart
  else if atStart && s.cursor.atMarker '.' then s.fetchBorder .documentEnd
  else if c = '[' then s.fetchOpen .openSequence
  else if c = '\x7b' then s.fetchOpen .openMapping
  else if c = ']' then s.fetchClose .closeSequence
  else if c = '\x7d' then s.fetchClose .closeMapping
  else if c = ',' then s.fetchItem
  else if c = '-' && isSpacing (s.cursor.peekAt 1) then s.fetchEntry
  else if c = '?' && s.isIndicator then s.fetchKey
  else if c = ':' && s.isIndicator then s.fetchValue
  else if c = '*' then s.fetchAnchor .alias
  else if c = '&' then s.fetchAnchor .anchor
  else if c = '!' then s.fetchTag
  else if (c = '|' || c = '>') && !s.inFlow then s.fetchBlock
  else if c = '\'' || c = '"' then s.fetchQuoted
  else if s.beginsPlain then s.fetchPlain
  else .error .malformed

/-- The next token, with the ends of block collections before it. -/
def fetch (s : Scanner) : Except Error Scanner := do
  let s ← s.toToken.dropStale
  (s.unwind s.column).fetchHere

/-- How many tokens are settled: those before the first one that could still turn out to begin
a key. -/
def settled (s : Scanner) : Nat :=
  s.candidates.foldl (fun n (_, c) => if s.isStale c then n else min n c.number) s.count

/-- The settled tokens and a fault after them: whoever asks for the next token has to wait until
it is settled, and so meets the fault. -/
def withFault (s : Scanner) (e : Error) : List Token :=
  s.found.reverse.take s.settled ++ [⟨.fault e, s.cursor.index, s.cursor.index⟩]

/-- The tokens to the end of the text; every token takes at least one of the characters left,
and the end takes one round more. -/
def run : Nat → Scanner → List Token
  | 0, s => s.found.reverse
  | fuel + 1, s =>
    match s.fetch with
    | .error e => s.withFault e
    | .ok s =>
      match s.found with
      | ⟨.streamEnd, _, _⟩ :: _ => s.found.reverse
      | _ => run fuel s

end Scanner

/-- Characters that a YAML text may hold. -/
def isAllowed (c : Char) : Bool :=
  c = '\t' || c = '\n' || c = '\r' || ('\x20' ≤ c && c ≤ '\x7e') || c = '\u0085'
    || ('\u00a0' ≤ c && c ≤ '\ufffd') || 0x10000 ≤ c.toNat

/-- The tokens of a text. -/
def tokens (cs : List Char) : List Token :=
  if cs.all isAllowed then Scanner.run (cs.length + 1) (Scanner.start cs)
  else [⟨.fault .malformed, 0, 0⟩]

end LintReport.Yaml
