/-
The log: which notes a user sees, and as which lines of the output.

* `Environment.logLevel?` — the level that a variable asks for, by name or by number;
* `Log`, `Log.setup` — the least level that is shown, and the handlers that write lines;
* `Log.remove`, `Log.add` — the log without a handler, and with one more;
* `Log.line` — the line of a note;
* `Log.shown` — the events with the lines of the notes in the place of the notes.

Design notes: setting up goes through the handlers that there are, removes each of them, and puts
a new one in their place. A handler is known by its serial number, so that two that write alike
are told apart. A line has the color of its level. Where the text holds the code that ends a color,
the color begins again after it. The color ends before a line break and begins again after it, and
so it does around a part of a line between two codes that end everything.
-/
import LintReport.Journal
import LintReport.Terminal.Color
import LintReport.Terminal.Style
import LintReport.Text.Blank
import LintReport.Text.Casing
import LintReport.Text.Numeral

namespace LintReport

/-- The variable that asks for a level. -/
def logLevelVariable : String := "LINTFRAME_LOG_LEVEL"

/-- The levels that can be asked for by name. -/
def Level.requests : List (String × Level) := [
  ("TRACE", .trace), ("DEBUG", .debug), ("INFO", .info), ("WARNING", .warning),
  ("WARN", .warning), ("ERROR", .error), ("CRITICAL", .critical), ("FATAL", .critical),
  ("NOTSET", 0)]

/-- The level that a word asks for; a word of digits is a number. -/
def Level.ofRequest? (word : String) : Except Text.Numeral.Error (Option Level) :=
  if word != "" && word.toList.all Text.isDigit then some <$> Text.Numeral.read word
  else .ok (Level.requests.lookup word)

/-- The level that the variable asks for. -/
def Environment.logLevel? (env : Environment) : Except Text.Numeral.Error (Option Level) :=
  match env.get? logLevelVariable with
  | none => .ok none
  | some raw => if raw = "" then .ok none else Level.ofRequest? (Text.upper (Text.trim raw))

/-! ### Lines -/

/-- A color of lines: codes that turn it on, each with the one that turns it off. -/
structure Ink where
  codes : List (String × String)
  deriving DecidableEq, Repr, Inhabited

/-- The color of letters by its code. -/
def Ink.letters (code : String) : Ink := ⟨[(Terminal.sequence code, Terminal.sequence "39")]⟩

/-- The color with another code before its own. -/
def Ink.after (on off : String) (ink : Ink) : Ink :=
  ⟨(Terminal.sequence on, Terminal.sequence off) :: ink.codes⟩

/-- The color of a level. -/
def Level.ink (l : Level) : Ink :=
  if critical ≤ l then .letters "91"
  else if error ≤ l then .letters "31"
  else if warning ≤ l then .letters "33"
  else if info ≤ l then .letters "32"
  else if debug ≤ l then .letters "90"
  else if trace ≤ l then .letters "34"
  else (Ink.letters "31").after "2" "22"

namespace Ink

/-- All codes that turn the color on. -/
def start (ink : Ink) : String := String.join (ink.codes.map (·.1))

/-- All codes that turn the color off. -/
def stop (ink : Ink) : String := String.join (ink.codes.map (·.2))

/-- The characters with the color ended before each line break and begun after it. -/
def acrossLines (ink : Ink) : List Char → List Char
  | [] => []
  | '\r' :: '\n' :: rest =>
    ink.stop.toList ++ '\r' :: '\n' :: (ink.start.toList ++ acrossLines ink rest)
  | c :: rest =>
    if c = '\n' then ink.stop.toList ++ '\n' :: (ink.start.toList ++ acrossLines ink rest)
    else c :: acrossLines ink rest

/-- The text with the color begun again after every code that ends it. -/
def renewed (ink : Ink) (text : String) : String :=
  ink.codes.foldl (fun text (on, off) => text.replace off (off ++ on)) text

/-- The code that ends every color. -/
def resetAll : List Char := (Terminal.sequence "0").toList

/-- The length of the text up to the next code that ends everything, that code included, if
there is one on the line. -/
def lengthToReset? (cs : List Char) : Option Nat :=
  if resetAll.isPrefixOf cs then some resetAll.length
  else
    match cs with
    | [] => none
    | '\n' :: _ => none
    | _ :: rest => (lengthToReset? rest).map (· + 1)

/-- The length of a part between two codes that end everything, codes included, if one begins
here. -/
def plainLength? (cs : List Char) : Option Nat :=
  if resetAll.isPrefixOf cs then
    (lengthToReset? (cs.drop resetAll.length)).map (· + resetAll.length)
  else none

/-- The characters with the color ended before each part between two codes that end everything
and begun after it; `inside` more characters belong to such a part. -/
def aroundPlain (ink : Ink) (inside : Nat) : List Char → List Char
  | [] => []
  | c :: rest =>
    match inside with
    | 1 => c :: (ink.start.toList ++ aroundPlain ink 0 rest)
    | n + 1 => c :: aroundPlain ink n rest
    | 0 =>
      match plainLength? (c :: rest) with
      | some n => ink.stop.toList ++ c :: aroundPlain ink (n - 1) rest
      | none => c :: aroundPlain ink 0 rest

/-- The text in the color. -/
def paint (ink : Ink) (text : String) : String :=
  let parts := ink.aroundPlain 0 (ink.renewed text).toList
  ink.start ++ String.ofList (ink.acrossLines parts) ++ ink.stop

end Ink

/-- The place in a program that a note comes from. -/
structure Place where
  file : String
  line : Nat
  scope : String
  deriving DecidableEq, Repr

/-- How a handler writes: with the place of a note or without. -/
inductive LineFormat
  | short
  | placed
  deriving DecidableEq, Repr, Inhabited

/-- The place as a line shows it. -/
def LineFormat.mark (f : LineFormat) (place : Option Place) : String :=
  match f, place with
  | .placed, some p => s!"[{p.file}:{p.line}] [{p.scope}] "
  | _, _ => ""

/-- The line of a note. -/
def LineFormat.line (f : LineFormat) (place : Option Place) (level : Level) (text : String) :
    String :=
  level.ink.paint (s!"[{level.name}] " ++ f.mark place ++ text) ++ "\n"

/-! ### Setup -/

/-- What writes the lines of a log. Its serial number tells it from other handlers. -/
structure Handler where
  serial : Nat
  format : LineFormat
  deriving DecidableEq, Repr, Inhabited

/-- A new handler: its serial number is greater than those of the others. -/
def Handler.beside (others : List Handler) (format : LineFormat) : Handler :=
  ⟨(others.map (·.serial)).foldl max 0 + 1, format⟩

/-- The least level that is shown, and the handlers. -/
structure Log where
  level : Level
  handlers : List Handler
  deriving DecidableEq, Repr, Inhabited

namespace Log

/-- The log without a handler, if it has it. -/
def remove (log : Log) (h : Handler) : Log := { log with handlers := log.handlers.erase h }

/-- The log with one more handler, unless it has it already. -/
def add (log : Log) (h : Handler) : Log :=
  if h ∈ log.handlers then log else { log with handlers := log.handlers ++ [h] }

/-- The format of lines under a level: the place is shown below the level of information. -/
def formatOf (level : Level) : LineFormat := if Level.info ≤ level then .short else .placed

/-- The log after the handlers are removed, one after the other, and a new one is put in their
place. -/
def withLevel (log : Log) (level : Level) : Log :=
  let bare := log.handlers.foldl remove { log with level := level }
  bare.add (.beside log.handlers (formatOf level))

/-- The level where none is given: the one asked for, unless it is zero, or else the highest. -/
def standardLevel (asked : Option Level) : Level :=
  match asked with
  | none => .critical
  | some l => if l = 0 then .critical else l

/-- The log set up for a level, or else for the one that the variable asks for. -/
def setup (log : Log) (env : Environment) (level : Option Level) :
    Except Text.Numeral.Error Log := do
  match level with
  | some l => return log.withLevel l
  | none => return log.withLevel (standardLevel (← env.logLevel?))

/-- Whether notes of a level are shown; those at zero and below never are. -/
def shows (log : Log) (level : Level) : Bool := 0 < level && log.level ≤ level

/-- What the handlers write for a note. -/
def line (log : Log) (place : Option Place) (level : Level) (text : String) : String :=
  if log.shows level then String.join (log.handlers.map fun h => h.format.line place level text)
  else ""

/-- The events with what is written for the notes in the place of the notes. -/
def shown (log : Log) (events : List Event) : List Event :=
  events.map fun
    | .note level text => .written .output (log.line none level text)
    | e => e

end Log

end LintReport
