import QueryTree.Text.Basic

/-!
# TOML values

A TOML document is a table: names with values, which are texts, numbers, truth values, dates and
times, arrays and tables again.  Of numbers with a fraction and of dates and times the text is
kept.

## Main definitions

* `Toml.Value`, `Toml.Table`: values and tables.
* `Toml.Key`: the names on the way to a value.
* `Toml.Table.modifyAt`: a change of the table at a key, which is made if it is missing.
-/

namespace QueryTree.Toml

/-- A TOML value. -/
inductive Value
  | string (t : Text)
  | integer (n : Int)
  | float (t : Text)
  | boolean (b : Bool)
  | dateTime (t : Text)
  | date (t : Text)
  | time (t : Text)
  | array (vs : List Value)
  | table (entries : List (Text × Value))
deriving Repr

/-- A table: names with values, in the order in which they were given. -/
abbrev Table := List (Text × Value)

/-- The names on the way from the document to a value. -/
abbrev Key := List Text

namespace Value

/-- Whether a value is an array or a table. -/
def isContainer : Value → Bool
  | .array _ => true
  | .table _ => true
  | _ => false

end Value

namespace Table

/-- The value of a name. -/
def find? (t : Table) (name : Text) : Option Value := t.lookup name

/-- The table with another value for a name, which is added if it is missing. -/
def put (t : Table) (name : Text) (v : Value) : Table :=
  if (t.find? name).isSome then t.map fun e => if e.1 = name then (name, v) else e
  else t ++ [(name, v)]

/-- The table with the table at a key changed.  Missing tables on the way are made; the way
leads into the last element of an array if `intoArrays` holds, and nowhere else than into tables
otherwise. -/
def modifyAt (intoArrays : Bool) (change : Table → Option Table) : Key → Table → Option Table
  | [], t => change t
  | name :: names, t =>
    match t.find? name with
    | none => (modifyAt intoArrays change names []).map fun u => t.put name (.table u)
    | some (.table u) => (modifyAt intoArrays change names u).map fun u => t.put name (.table u)
    | some (.array vs) =>
      match intoArrays, vs.getLast? with
      | true, some (.table u) =>
        (modifyAt intoArrays change names u).map fun u =>
          t.put name (.array (vs.dropLast ++ [.table u]))
      | _, _ => none
    | some _ => none

/-- The table with the table at a key made, if it was missing. -/
def openAt (key : Key) (t : Table) : Option Table := modifyAt true some key t

/-- The table with an empty table added to the array of tables of a name. -/
def appendTo (name : Text) (t : Table) : Option Table :=
  match t.find? name with
  | none => some (t.put name (.array [.table []]))
  | some (.array vs) => some (t.put name (.array (vs ++ [.table []])))
  | some _ => none

/-- The table with a value for a new name. -/
def addNew (name : Text) (v : Value) (t : Table) : Option Table :=
  if (t.find? name).isSome then none else some (t.put name v)

end Table
end QueryTree.Toml
