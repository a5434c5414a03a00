import QueryTree.Toml.Value

/-!
# Writing TOML documents

A document of sections is written with a header for each section, one setting on a line, and an
empty line between sections.  Texts are written between double quotes; what may not stand there is
written by an escape.

## Main definitions

* `Toml.Setting`, `Toml.Section`: settings under the header of a table.
* `Toml.writeString`: a text between double quotes.
* `Toml.writeSections`: a document.
-/

namespace QueryTree.Toml

/-- The value of a setting that is written. -/
inductive Setting
  | boolean (b : Bool)
  | string (t : Text)
deriving DecidableEq, Repr

/-- The settings under one header. -/
structure Section where
  name : Text
  settings : List (Text × Setting)
deriving DecidableEq, Repr

/-- How a character is written between double quotes. -/
def writeChar (c : Char) : Text :=
  if c = '\x08' then ['\\', 'b']
  else if c = '\n' then ['\\', 'n']
  else if c = '\x0c' then ['\\', 'f']
  else if c = '\r' then ['\\', 'r']
  else if c = '"' then ['\\', '"']
  else if c = '\\' then ['\\', '\\']
  else if (c.toNat < 32 && c ≠ '\t') || c.toNat = 127 then '\\' :: 'u' :: Text.hex 4 c.toNat
  else [c]

/-- A text between double quotes. -/
def writeString (t : Text) : Text := '"' :: t.flatMap writeChar ++ ['"']

/-- The value of a setting, written out. -/
def Setting.write : Setting → Text
  | .boolean true => "true".toList
  | .boolean false => "false".toList
  | .string t => writeString t

/-- The line of a setting. -/
def writeSetting (name : Text) (s : Setting) : Text :=
  name ++ " = ".toList ++ s.write ++ ['\n']

/-- A section with its header. -/
def Section.write (s : Section) : Text :=
  '[' :: s.name ++ "]\n".toList ++ s.settings.flatMap fun e => writeSetting e.1 e.2

/-- A document of sections. -/
def writeSections (sections : List Section) : Text :=
  Text.joinWith ['\n'] (sections.map Section.write)

end QueryTree.Toml
