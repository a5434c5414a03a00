import QueryTree.Toml.Document
import QueryTree.Toml.Scalar

/-!
# Reading TOML documents

A document is a sequence of statements, each on lines of its own: headers of tables, headers of
elements of arrays of tables, and assignments.

## Main definitions

* `Toml.value`: a value, read from the front of a text.
* `Toml.statement`: one statement.
* `Toml.parse`: a whole document.
-/

namespace QueryTree.Toml

namespace Reader

/-- Stops at the present place if a step of the construction is refused. -/
def check {α : Type} : Except Fault α → Reader α
  | .ok a => pure a
  | .error fault => fail fault

/-- Leaves a text behind, or stops with a fault if it does not follow. -/
def expect (t : Text) (fault : Fault) : Reader Unit := do
  if !(← accept t) then fail fault

/-- The characters of a class at the present place, which are left behind. -/
def takeWhile (p : Char → Bool) : Reader Text := do
  let rest ← get
  set (rest.dropWhile p)
  return rest.takeWhile p

end Reader

/-- Whether a character may stand in a name without quotes. -/
def isBare (c : Char) : Bool := Text.isAsciiWord c || c = '-'

/-- One name of a key. -/
def keyPart : Reader Text := do
  match ← Reader.peek with
  | some c =>
    if isBare c then Reader.takeWhile isBare
    else if c = apostrophe then
      modify (·.drop 1)
      literalString
    else if c = '"' then
      modify (·.drop 1)
      basicString
    else Reader.fail .invalidKeyStart
  | none => Reader.fail .invalidKeyStart

/-- The names of a key after the first one; every name takes a character. -/
def keyParts : Nat → Reader Key
  | 0 => return []
  | steps + 1 => do
    Reader.skip isSpace
    if !(← Reader.accept ['.']) then return []
    Reader.skip isSpace
    let name ← keyPart
    return name :: (← keyParts steps)

/-- A key, with the blank space after it. -/
def key : Reader Key := do
  let name ← keyPart
  let rest ← get
  return name :: (← keyParts (rest.length + 1))

/-- A key and its value. -/
def assignment (value : Reader Value) : Reader (Key × Value) := do
  let k ← key
  Reader.expect ['='] .expectedEquals
  Reader.skip isSpace
  return (k, ← value)

/-- Leaves blank space, line feeds and comments behind; each round passes a line. -/
def skipLines : Nat → Reader Unit
  | 0 => return ()
  | steps + 1 => do
    let before ← get
    Reader.skip isSpaceOrNewline
    skipComment
    let after ← get
    if after.length < before.length then skipLines steps

/-- Leaves all blank space, line feeds and comments behind. -/
def skipAllLines : Reader Unit := do
  let rest ← get
  skipLines (rest.length + 1)

/-- The elements of an array up to its end; every element takes a character. -/
def elements (value : Reader Value) : Nat → Reader (List Value)
  | 0 => return []
  | steps + 1 => do
    skipAllLines
    if ← Reader.accept [']'] then return []
    let v ← value
    skipAllLines
    if ← Reader.accept [']'] then return [v]
    Reader.expect [','] .unclosedArray
    return v :: (← elements value steps)

/-- The entries of an inline table up to its end, added to those before; every entry takes a
character. -/
def entries (value : Reader Value) : Nat → InlineTable → Reader Table
  | 0, t => return t.table
  | steps + 1, t => do
    Reader.skip isSpace
    let (k, v) ← assignment value
    let t ← Reader.check (t.assign k v)
    Reader.skip isSpace
    if ← Reader.accept ['\x7d'] then return t.table
    Reader.expect [','] .unclosedInlineTable
    entries value steps t

/-- An array after its opening bracket. -/
def array (value : Reader Value) : Reader Value := do
  let rest ← get
  return .array (← elements value (rest.length + 1))

/-- An inline table after its opening brace. -/
def inlineTable (value : Reader Value) : Reader Value := do
  Reader.skip isSpace
  if ← Reader.accept ['\x7d'] then return .table []
  let rest ← get
  return .table (← entries value (rest.length + 1) .empty)

/-- A text between quotes of either kind, after the first one. -/
def quotedString (quote : Char) : Reader Value := do
  if ← Reader.accept [quote, quote] then return .string (← multilineString quote)
  else return .string (← if quote = '"' then basicString else literalString)

/-- A value that starts with no bracket and no quote: a date, a time or a number. -/
def plainValue : Reader Value := fun text =>
  match dateTime? text with
  | some (some v, rest) => .ok (v, rest)
  | some (none, _) => .error (.invalidDate, text.length)
  | none =>
    match ((time? text).or (number? text)).or (specialFloat? text) with
    | some found => .ok found
    | none => .error (.invalidValue, text.length)

/-- A value; what is nested deeper than `depth` is not read. -/
def value : Nat → Reader Value
  | 0 => Reader.fail .invalidValue
  | depth + 1 => do
    if ← Reader.accept ['"'] then quotedString '"'
    else if ← Reader.accept [apostrophe] then quotedString apostrophe
    else if ← Reader.accept "true".toList then return .boolean true
    else if ← Reader.accept "false".toList then return .boolean false
    else if ← Reader.accept ['['] then array (value depth)
    else if ← Reader.accept ['\x7b'] then inlineTable (value depth)
    else plainValue

/-- A value that may be nested as deep as the text is long. -/
def anyValue : Reader Value := do
  let rest ← get
  value (rest.length + 1)

/-- The header of a table or of an element of an array of tables, after the first bracket. -/
def header (d : Document) : Reader Document := do
  if ← Reader.accept ['['] then
    Reader.skip isSpace
    let k ← key
    let d ← Reader.check (d.settle.appendTable k)
    Reader.expect [']', ']'] .expectedArrayEnd
    return d
  else
    Reader.skip isSpace
    let k ← key
    let d ← Reader.check (d.settle.declareTable k)
    Reader.expect [']'] .expectedTableEnd
    return d

/-- One statement, which starts with the character `c`. -/
def statement (c : Char) (d : Document) : Reader Document := do
  if isBare c || c = apostrophe || c = '"' then
    let (k, v) ← assignment anyValue
    Reader.check (d.assign k v)
  else if ← Reader.accept ['['] then header d
  else if c = '#' then return d
  else Reader.fail .invalidStatement

/-- The statements of a document; each takes a line. -/
def statements : Nat → Document → Reader Document
  | 0, d => return d
  | steps + 1, d => do
    Reader.skip isSpace
    match ← Reader.peek with
    | none => return d
    | some '\n' =>
      modify (·.drop 1)
      statements steps d
    | some c =>
      let d ← statement c d
      Reader.skip isSpace
      skipComment
      match ← Reader.peek with
      | none => return d
      | some '\n' =>
        modify (·.drop 1)
        statements steps d
      | some _ => Reader.fail .expectedNewline

/-- A text with every carriage return that stands before a line feed left out. -/
def withoutReturns : Text → Text
  | [] => []
  | c :: cs =>
    if c = '\r' && cs.head? = some '\n' then withoutReturns cs else c :: withoutReturns cs

/-- The table that a document writes. -/
def parse (document : Text) : Except Error Table :=
  let text := withoutReturns document
  match statements (text.length + 1) .empty text with
  | .ok (d, _) => .ok d.table
  | .error (fault, left) => .error ⟨fault, .of text left⟩

end QueryTree.Toml
