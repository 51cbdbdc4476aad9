/-
Tables in parts: which of them go together, and what they come to.

* `check` — whether the parts of every table go together;
* `add` — fields with one more node, which may become a part of a table that is there;
* `finish` — the finished fields, in which every table is one.

Design notes: parts go together if their fields could have been added to one table, which is
tried. A part made by headers alone that comes right after another one of its table is added to
it; any other part stays apart. A list of tables takes what headers give below it into its last
table, but a part that stays apart cannot bring more of a list that another part has.

The `fuel` of the functions bounds the depth of the tables. The number of parts that a path of keys
has is limited, and a table is reached by two paths, a header and a dotted key; each table takes two
steps.
-/
import LintReport.Limits
import LintReport.Toml.Tree

namespace LintReport.Toml

mutual

/-- Refuses the nodes of a key if they are parts that do not go together. -/
def checkKey : Nat → Fields → String → Except Error Unit
  | 0, _, _ => .ok ()
  | fuel + 1, fields, key =>
    let parts := nodesOf key fields
    if parts.length < 2 then .ok ()
    else do
      check fuel (← (contents parts).foldlM (fun joined (k, n) => add fuel false k n joined) [])

/-- Refuses fields that hold parts that do not go together. -/
def check : Nat → Fields → Except Error Unit
  | 0, _ => .ok ()
  | fuel + 1, fields => (keysOf fields).forM (checkKey fuel fields)

/-- Refuses the nodes of a key if they are parts that cannot be joined as they are. -/
def checkJoin : Nat → Fields → String → Except Error Unit
  | 0, _, _ => .ok ()
  | fuel + 1, fields, key =>
    let parts := nodesOf key fields
    if parts.length < 2 then .ok () else do check fuel (← join (contents parts))

/-- The fields with a node added for a key. If this makes one more part and that is to be
`checked`, all parts must go together. -/
def add : Nat → Bool → String → Node → Fields → Except Error Fields
  | 0, _, _, _, fields => .ok fields
  | fuel + 1, checked, key, node, fields => do
    checkJoin fuel fields key
    let asPart : Except Error Fields := do
      let fields ← put key node fields
      if checked then checkKey fuel fields key
      return fields
    let into (present more : Fields) : Except Error Fields :=
      more.foldlM (fun present (k, n) => do
        let present ← add fuel true k n present
        checkJoin fuel present k
        return present) present
    match (nodesOf key fields).getLast?, node with
    | none, _ => return fields ++ [(key, node)]
    | some (.table _ present), .table .element more =>
      return replaceLast key (.tables [present, more]) fields
    | some (.tables items), .table .element more =>
      return replaceLast key (.tables (items ++ [more])) fields
    | some (.tables items), .tables more =>
      return replaceLast key (.tables (items ++ more)) fields
    | some (.tables items), .table maker more =>
      if maker = .header then throw (.repeatedKey key)
      let last ← into (items.getLastD []) more
      return replaceLast key (.tables (items.dropLast ++ [last])) fields
    | some (.table .header _), .table .header _ => throw (.repeatedKey key)
    | some (.table .header _), .table .dotted _ => throw .redefined
    | some (.table .header _), .table _ _ => asPart
    | some (.table .dotted _), .table .header _ => throw .redefined
    | some (.table _ _), .table .header _ => asPart
    | some (.table maker present), .table new more =>
      if maker = .dotted || new = .dotted || lastTable? fields != some key then asPart
      else return replaceLast key (.table maker (← into present more)) fields
    | some _, _ => throw (.repeatedKey key)

end

mutual

/-- The finished fields. -/
def finishWithin : Nat → Fields → Except Error LintReport.Fields
  | 0, _ => .ok []
  | fuel + 1, fields =>
    (keysOf fields).mapM fun key => do return (key, ← finishNodes fuel (nodesOf key fields))

/-- The finished value of the nodes of a key. -/
def finishNodes : Nat → List Node → Except Error Value
  | 0, _ => .ok .null
  | _, [.value v] => .ok v
  | fuel + 1, [.table _ fields] => .table <$> finishWithin fuel fields
  | fuel + 1, [.tables items] =>
    .list <$> items.mapM fun fields => .table <$> finishWithin fuel fields
  | fuel + 1, parts => do
    let fields ← join (contents parts)
    check fuel fields
    .table <$> finishWithin fuel fields

end

/-- The fuel for all tables that there can be. -/
def depth (limits : Limits) : Nat := 4 * limits.keyParts + 8

/-- The finished fields. -/
def finish (limits : Limits) (fields : Fields) : Except Error LintReport.Fields :=
  finishWithin (depth limits) fields

/-- The fields of a table with the table or list of tables of a header below it. -/
def attach (limits : Limits) (key : String) (node : Node) (fields : Fields) :
    Except Error Fields := do
  let fields ← add (depth limits) false key node fields
  checkJoin (depth limits) fields key
  return fields

end LintReport.Toml
