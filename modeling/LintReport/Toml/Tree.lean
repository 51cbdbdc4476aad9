/-
Tables of a settings file while they are put together.

* `Node` — a value, a part of a table, or a list of tables;
* `nodesOf` — the nodes that a key has, of which several are parts of one table;
* `put` — fields with one more node for a key;
* `assign` — fields with a value at a path of keys.

Design notes: headers may come back to a table after others, so a table can have several parts.
They stay apart until the whole text is read. Who made a part decides what may be added to it.
Dotted keys that follow each other add to one part.
-/
import LintReport.Value.Basic

namespace LintReport.Toml

/-- Why a text is no settings file. -/
inductive Error
  | malformed
  | repeatedKey (key : String)
  /-- A table is given by a header and by dotted keys. -/
  | redefined
  /-- The tables are nested too deeply to be handed on. -/
  | tooDeep
  deriving DecidableEq, Repr

/-- Who made a part of a table: a header on the way to another table, dotted keys, its own
header, or, on the way to another table, a header of the list that the part then belongs to. -/
inductive Maker
  | passing
  | dotted
  | header
  | element
  deriving DecidableEq, Repr

/-- A value, a part of a table, or a list of tables. -/
inductive Node
  | value (v : Value)
  | table (maker : Maker) (fields : List (String × Node))
  | tables (items : List (List (String × Node)))

/-- The fields of a table that is put together. -/
abbrev Fields := List (String × Node)

/-- The keys of fields, each once. -/
def keysOf (fields : Fields) : List String := (fields.map (·.1)).eraseDups

/-- The nodes that a key has. -/
def nodesOf (key : String) (fields : Fields) : List Node :=
  fields.filterMap fun (k, n) => if k = key then some n else none

/-- The key of the last part of a table. -/
def lastTable? (fields : Fields) : Option String :=
  (fields.filterMap fun
    | (k, .table _ _) => some k
    | _ => none).getLast?

/-- The fields of parts of a table, one part after the other. -/
def contents (parts : List Node) : Fields :=
  parts.flatMap fun
    | .table _ fields => fields
    | _ => []

/-- The fields with one more node for a key, which may follow only a part of a table. -/
def put (key : String) (node : Node) (fields : Fields) : Except Error Fields :=
  match (nodesOf key fields).getLast? with
  | some (.value _) => .error (.repeatedKey key)
  | some (.tables _) => .error (.repeatedKey key)
  | _ => .ok (fields ++ [(key, node)])

/-- The fields one after the other. -/
def join (fields : Fields) : Except Error Fields :=
  fields.foldlM (fun joined (key, node) => put key node joined) []

/-- The fields with another node in the place of the last one of a key. -/
def replaceLast (key : String) (node : Node) : Fields → Fields
  | [] => []
  | (k, n) :: rest =>
    if k = key && rest.all (·.1 != key) then (k, node) :: rest
    else (k, n) :: replaceLast key node rest

/-- The fields with a new node for a key, made from the present one. -/
def change (key : String) (f : Option Node → Except Error Node) : Fields → Except Error Fields
  | [] => do return [(key, ← f none)]
  | (k, n) :: rest =>
    if k = key then do return (k, ← f (some n)) :: rest
    else do return (k, n) :: (← change key f rest)

/-- The fields with a value at a path of keys. -/
def assign (v : Value) : List String → Fields → Except Error Fields
  | [], fields => .ok fields
  | [key], fields => change key (fun
    | none => .ok (.value v)
    | some _ => .error (.repeatedKey key)) fields
  | key :: path, fields => change key (fun
    | none => .table .dotted <$> assign v path []
    | some (.table .dotted inner) => .table .dotted <$> assign v path inner
    | some _ => .error (.repeatedKey key)) fields

end LintReport.Toml
