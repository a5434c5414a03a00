import QueryTree.TreeView.Outline

/-!
# Trees as JSON

A tree is written as JSON with two spaces of indentation for each level.  Texts are written in
visible ASCII characters: another character is written by its UTF-16 code units.

## Main definitions

* `Json.string`: a text as a JSON string.
* `Node.json`: a tree as JSON.
-/

namespace QueryTree

variable {ν : Type}

namespace Json

/-- A UTF-16 code unit as an escape. -/
def unit (n : Nat) : Text := '\\' :: 'u' :: Text.hex 4 n

/-- How a character is written in a string. -/
def char (c : Char) : Text :=
  if c = '"' then ['\\', '"']
  else if c = '\\' then ['\\', '\\']
  else if c = '\n' then ['\\', 'n']
  else if c = '\r' then ['\\', 'r']
  else if c = '\t' then ['\\', 't']
  else if c = '\x08' then ['\\', 'b']
  else if c = '\x0c' then ['\\', 'f']
  else if 32 ≤ c.toNat ∧ c.toNat < 127 then [c]
  else if c.toNat < 0x10000 then unit c.toNat
  else unit (0xd800 + (c.toNat - 0x10000) / 0x400) ++ unit (0xdc00 + (c.toNat - 0x10000) % 0x400)

/-- A text as a JSON string. -/
def string (t : Text) : Text := '"' :: t.flatMap char ++ ['"']

/-- A truth value as JSON. -/
def boolean (b : Bool) : Text := if b then "true".toList else "false".toList

/-- A line feed and the indentation of a level. -/
def newline (level : Nat) : Text := '\n' :: List.replicate (2 * level) ' '

/-- Items on lines of their own between brackets, the items one level deeper than the brackets. -/
def block (opening closing : Char) (level : Nat) (items : List Text) : Text :=
  opening :: newline (level + 1) ++ Text.joinWith (',' :: newline (level + 1)) items
    ++ newline level ++ [closing]

/-- A member of an object. -/
def member (name value : Text) : Text := string name ++ [':', ' '] ++ value

/-- An object. -/
def object (level : Nat) (members : List (Text × Text)) : Text :=
  block '\x7b' '\x7d' level (members.map fun m => member m.1 m.2)

end Json

/-- A literal as JSON at a level. -/
def Literal.json (level : Nat) (l : Literal ν) : Text :=
  Json.object level [("kind".toList, Json.string l.kind.name), ("text".toList, Json.string l.text),
    ("negated".toList, Json.boolean l.negated)]

namespace Node

mutual

/-- A tree as JSON at a level. -/
def jsonAt (level : Nat) : Node ν → Text
  | .literal l => l.json level
  | .branch op a b rest =>
    Json.object level [("kind".toList, Json.string op.name),
      ("children".toList, Json.block '[' ']' (level + 1)
        (a.jsonAt (level + 2) :: b.jsonAt (level + 2) :: jsonAll (level + 2) rest))]

/-- The trees of a list as JSON at a level. -/
def jsonAll (level : Nat) : List (Node ν) → List Text
  | [] => []
  | n :: ns => n.jsonAt level :: jsonAll level ns

end

/-- A tree as JSON; a word for no tree. -/
def json : Option (Node ν) → Text
  | none => "null".toList
  | some n => n.jsonAt 0

end Node
end QueryTree
