import QueryTree.Toml.Error

/-!
# TOML documents under construction

A document is read statement by statement.  A table may be declared once and may not be reopened
by another form than the one that made it, and what was written inline may not be changed.  A
document under construction keeps, beside the table read so far, which keys are closed in which
way.

## Main definitions

* `Toml.Document`: a table with the keys that are closed.
* `Toml.Document.declareTable`, `Toml.Document.appendTable`, `Toml.Document.assign`: the three
  kinds of statement.
* `Toml.InlineTable.assign`: an entry of an inline table.
-/

namespace QueryTree.Toml

/-- Whether one of the keys leads to a key or to something around it. -/
def Key.isWithin (keys : List Key) (key : Key) : Bool := keys.any (·.isPrefixOf key)

/-- The dotted ways to a key, the key itself left out: every nonempty proper part of it from the
front. -/
def Key.waysTo : Key → List Key
  | [] => []
  | [_] => []
  | name :: next :: names => [name] :: (waysTo (next :: names)).map (name :: ·)

/-- A document under construction. -/
structure Document where
  table : Table
  /-- The key of the table that receives the next values. -/
  header : Key
  /-- The keys that no header may declare. -/
  declared : List Key
  /-- The keys that dotted keys passed since the last header; the next header declares them. -/
  passed : List Key
  /-- The keys of inline values: nothing within them may change. -/
  frozen : List Key
deriving Repr

namespace Document

/-- The document before its first statement. -/
def empty : Document := ⟨[], [], [], [], []⟩

/-- The document at a header: the keys that dotted keys passed are declared. -/
def settle (d : Document) : Document := { d with declared := d.passed ++ d.declared, passed := [] }

/-- The document after the header of a table. -/
def declareTable (key : Key) (d : Document) : Except Fault Document :=
  if key ∈ d.declared ∨ Key.isWithin d.frozen key then .error (.declaredTwice key)
  else match d.table.openAt key with
    | none => .error .overwrite
    | some table => .ok { d with table := table, header := key, declared := key :: d.declared }

/-- The document after the header of an element of an array of tables.  What was closed within
the element before is open in the new one. -/
def appendTable (key : Key) (d : Document) : Except Fault Document :=
  if Key.isWithin d.frozen key then .error (.immutable key)
  else
    let changed := match key.getLast? with
      | none => none
      | some name => d.table.modifyAt true (Table.appendTo name) key.dropLast
    match changed with
    | none => .error .overwrite
    | some table => .ok { d with
        table := table
        header := key
        declared := key :: d.declared.filter fun k => !key.isPrefixOf k
        frozen := d.frozen.filter fun k => !key.isPrefixOf k }

/-- The document after an assignment. -/
def assign (key : Key) (value : Value) (d : Document) : Except Fault Document :=
  let ways := (Key.waysTo key).map (d.header ++ ·)
  match ways.find? (· ∈ d.declared) with
  | some way => .error (.redefined way)
  | none =>
    let parent := d.header ++ key.dropLast
    if Key.isWithin d.frozen parent then .error (.immutable parent)
    else
      let changed := match key.getLast? with
        | none => none
        | some name => d.table.modifyAt true (Table.addNew name value) parent
      match changed with
      | none => .error .overwrite
      | some table => .ok { d with
          table := table
          passed := ways ++ d.passed
          frozen := if value.isContainer then (d.header ++ key) :: d.frozen else d.frozen }

end Document

/-- An inline table under construction. -/
structure InlineTable where
  table : Table
  /-- The keys of inline values: nothing within them may change. -/
  frozen : List Key
deriving Repr

namespace InlineTable

/-- The inline table before its first entry. -/
def empty : InlineTable := ⟨[], []⟩

/-- The inline table after an entry. -/
def assign (key : Key) (value : Value) (t : InlineTable) : Except Fault InlineTable :=
  if Key.isWithin t.frozen key then .error (.immutable key)
  else match key.getLast? with
    | none => .error .overwrite
    | some name =>
      match t.table.modifyAt false some key.dropLast with
      | none => .error .overwrite
      | some _ =>
        match t.table.modifyAt false (Table.addNew name value) key.dropLast with
        | none => .error (.duplicateInlineKey name)
        | some table => .ok
            ⟨table, if value.isContainer then key :: t.frozen else t.frozen⟩

end InlineTable
end QueryTree.Toml
