import QueryTree.Text.Basic

/-!
# Paths

A path is absolute or starts at the working directory; it names the parts on the way.  Parts that
lead nowhere (empty ones and single dots) are dropped when a path is read; a part of two dots
leads up and stays until the path is resolved.

## Main definitions

* `Path`: paths, with `Path.ofText` and `Path.text`.
* `Path.expandHome`: a path with its leading tilde replaced by the home directory.
* `Path.resolve`: the place that a path leads to from a working directory.
-/

namespace QueryTree

/-- A path. -/
structure Path where
  absolute : Bool
  parts : List Text
deriving DecidableEq, Repr

/-- A place in a file system: the names on the way to it from the root. -/
abbrev Location := List Text

/-- The places on the way to a place, the root left out and the place itself included. -/
def Location.ways : Location → List Location
  | [] => []
  | name :: names => [name] :: (ways names).map (name :: ·)

/-- The home directory of a user is not known. -/
structure NoHome where
  user : Text
deriving DecidableEq, Repr

/-- The report of a home directory that is not known. -/
def NoHome.message (_ : NoHome) : Text := "Could not determine home directory.".toList

namespace Path

/-- The part that leads up. -/
def up : Text := ['.', '.']

/-- The path that a text writes. -/
def ofText (t : Text) : Path where
  absolute := t.head? = some '/'
  parts := (Text.pieces (· = '/') t).filter fun p => p ≠ [] && p ≠ ['.']

/-- A path written out. -/
def text (p : Path) : Text :=
  let names := Text.joinWith ['/'] p.parts
  if p.absolute then '/' :: names
  else if p.parts.isEmpty then ['.']
  else names

/-- The absolute path of a place. -/
def ofLocation (l : Location) : Path := ⟨true, l⟩

/-- The path around a path; a path without parts is its own. -/
def parent (p : Path) : Path := { p with parts := p.parts.dropLast }

/-- The path with a leading tilde replaced by the home directory.  Only the home directory of
the present user is known. -/
def expandHome (p home : Path) : Except NoHome Path :=
  if p.absolute then .ok p
  else match p.parts with
    | ('~' :: user) :: rest =>
      if user.isEmpty then .ok { home with parts := home.parts ++ rest } else .error ⟨user⟩
    | _ => .ok p

/-- The place reached from a place by one part of a path. -/
def step (l : Location) (part : Text) : Location :=
  if part = up then l.dropLast else l ++ [part]

/-- The place that a path leads to from a working directory, if no part is a detour. -/
def resolve (workingDirectory : Location) (p : Path) : Location :=
  p.parts.foldl step (if p.absolute then [] else workingDirectory)

end Path
end QueryTree
