/-
Tokens of YAML texts.

* `Yaml.Token` — a token with the indices at which it starts and stops;
* `Yaml.Error` — why a text is no YAML document.

Design notes: what goes wrong while the tokens are found is a last token of its own, so that
whoever gets as far as it reports it, and an error found by a reader before that wins.
-/
import LintReport.Text.Numeral

namespace LintReport.Yaml

/-- Why a text is no YAML document. -/
inductive Error
  | malformed
  /-- An escape names a code point past the last one. -/
  | codePoint (code : Nat)
  /-- A version number has too many digits. -/
  | numeral (e : Text.Numeral.Error)
  /-- Collections are nested too deeply. -/
  | tooDeep
  deriving DecidableEq, Repr, Inhabited

/-- A line of instructions before a document. -/
inductive Directive
  | version (major : Nat)
  | tag (handle : String)
  | other
  deriving DecidableEq, Repr

/-- Kinds of tokens. The text of a scalar is none if it holds half a surrogate pair. -/
inductive Kind
  | directive (d : Directive)
  | documentStart
  | documentEnd
  | blockSequence
  | blockMapping
  | blockEnd
  | openSequence
  | closeSequence
  | openMapping
  | closeMapping
  | item
  | entry
  | key
  | value
  | alias (name : String)
  | anchor (name : String)
  | tag (handle : Option String)
  | scalar (text : Option String)
  | streamEnd
  | fault (e : Error)
  deriving DecidableEq, Repr, Inhabited

/-- A token, from one index of the text to another. -/
structure Token where
  kind : Kind
  start : Nat
  stop : Nat
  deriving DecidableEq, Repr, Inhabited

end LintReport.Yaml
