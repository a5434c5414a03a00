import QueryTree.Files.Path
import QueryTree.Text.Quoted
import QueryTree.Text.Utf8

/-!
# Files and directories

A disk holds files and directories at places.  The operations on it are those that a program asks
of its system, each with the errors that it can give; an error names the path that was asked for.

## Main definitions

* `Content`: what is in a file.
* `Disk`: files and directories, the working directory and the home directory.
* `DiskError`: why an operation fails.
* `Disk.read`, `Disk.makeDirectory`, `Disk.makeDirectories`, `Disk.write`: the operations.
-/

namespace QueryTree

/-- What is in a file: a text, or bytes that need not encode one. -/
inductive Content
  | text (t : Text)
  | bytes (bs : List Nat)
deriving DecidableEq, Repr

namespace Content

/-- Bytes as the text that they encode, if they do. -/
def ofBytes (bs : List Nat) : Content :=
  match Utf8.decode bs with
  | .ok t => .text t
  | .error _ => .bytes bs

/-- The text in a file. -/
def decode : Content → Except Utf8.Fault Text
  | .text t => .ok t
  | .bytes bs => Utf8.decode bs

end Content

/-- What is at a place. -/
inductive Entry
  | file (content : Content)
  | directory
deriving DecidableEq, Repr

/-- What an operation found in its way. -/
inductive DiskFault
  | notFound
  | exists
  | notDirectory
  | isDirectory
deriving DecidableEq, Repr

/-- Why an operation on a path fails. -/
structure DiskError where
  fault : DiskFault
  path : Path
deriving DecidableEq, Repr

/-- The words for what was found in the way. -/
def DiskFault.message : DiskFault → Text
  | .notFound => "[Errno 2] No such file or directory".toList
  | .exists => "[Errno 17] File exists".toList
  | .notDirectory => "[Errno 20] Not a directory".toList
  | .isDirectory => "[Errno 21] Is a directory".toList

/-- The report of an operation that fails. -/
def DiskError.message (e : DiskError) : Text :=
  e.fault.message ++ [':', ' '] ++ e.path.text.quoted

/-- Files and directories. -/
structure Disk where
  /-- What is at places other than the root, newest first. -/
  entries : List (Location × Entry)
  workingDirectory : Location
  home : Location
deriving Repr

namespace Disk

/-- The disk with a working directory and a home directory and nothing else. -/
def empty (workingDirectory home : Location) : Disk where
  entries := (Location.ways home ++ Location.ways workingDirectory).map fun l => (l, .directory)
  workingDirectory := workingDirectory
  home := home

/-- What is at a place. -/
def find? (d : Disk) (l : Location) : Option Entry :=
  if l.isEmpty then some .directory else d.entries.lookup l

/-- Whether a place is a directory. -/
def isDirectoryAt (d : Disk) (l : Location) : Bool := d.find? l = some .directory

/-- The disk with something put at a place. -/
def put (d : Disk) (l : Location) (e : Entry) : Disk :=
  { d with entries := (l, e) :: d.entries.filter fun x => x.1 ≠ l }

@[simp] theorem find?_put_self (d : Disk) {l : Location} (h : l ≠ []) (e : Entry) :
    (d.put l e).find? l = some e := by
  simp [find?, put, h]

/-- What is put at one place does not show at another. -/
theorem find?_put_of_ne (d : Disk) {l m : Location} (h : m ≠ l) (e : Entry) :
    (d.put l e).find? m = d.find? m := by
  have hlookup : ∀ es : List (Location × Entry),
      (es.filter fun x => decide (x.1 ≠ l)).lookup m = es.lookup m := by
    intro es
    induction es with
    | nil => rfl
    | cons x es ih =>
      obtain ⟨k, v⟩ := x
      by_cases hk : k = l
      · -- the entry is left out, and it is not the one that is looked up
        subst hk
        rw [List.filter_cons_of_neg (by simp), ih, List.lookup_cons, beq_false_of_ne h]
      · rw [List.filter_cons_of_pos (by simpa using hk), List.lookup_cons, List.lookup_cons, ih]
  simp only [find?, put, List.lookup_cons, beq_false_of_ne h, hlookup]

/-- The disk with directories on the way to a place, where nothing is yet. -/
def openWay (d : Disk) (l : Location) : Disk :=
  (Location.ways l).dropLast.foldl
    (fun d way => if (d.find? way).isSome then d else d.put way .directory) d

/-- The files with the places where they are. -/
def files (d : Disk) : List (Location × Content) :=
  d.entries.filterMap fun
    | (l, .file c) => some (l, c)
    | (_, .directory) => none

/-- The place that a path without its last part leads to, if everything on the way is a
directory, and else what is wrong on the way. -/
def follow (d : Disk) : Location → List Text → Except DiskFault Location
  | l, [] =>
    match d.find? l with
    | some .directory => .ok l
    | some (.file _) => .error .notDirectory
    | none => .error .notFound
  | l, part :: parts =>
    match d.find? l with
    | some .directory => follow d (Path.step l part) parts
    | some (.file _) => .error .notDirectory
    | none => .error .notFound

/-- Where a path starts. -/
def start (d : Disk) (p : Path) : Location := if p.absolute then [] else d.workingDirectory

/-- The place of a path whose way exists. -/
def locate (d : Disk) (p : Path) : Except DiskFault Location :=
  match p.parts.getLast? with
  | none => .ok (d.start p)
  | some name => (d.follow (d.start p) p.parts.dropLast).map fun l => Path.step l name

/-- What is in the file at a place; an error names the place. -/
def read (d : Disk) (l : Location) : Except DiskError Content :=
  match d.find? l with
  | some (.file c) => .ok c
  | some .directory => .error ⟨.isDirectory, .ofLocation l⟩
  | none => .error ⟨.notFound, .ofLocation l⟩

/-- The disk with a new directory. -/
def makeDirectory (d : Disk) (p : Path) : Except DiskFault Disk :=
  match d.locate p with
  | .error fault => .error fault
  | .ok l => if (d.find? l).isSome then .error .exists else .ok (d.put l .directory)

/-- Whether a path leads to a directory. -/
def isDirectory (d : Disk) (p : Path) : Bool :=
  match d.locate p with
  | .error _ => false
  | .ok l => d.isDirectoryAt l

/-- The disk with a new directory, unless there is a directory already. -/
def ensureDirectory (d : Disk) (p : Path) : Except DiskFault Disk :=
  match d.makeDirectory p with
  | .ok d' => .ok d'
  | .error fault => if d.isDirectory p then .ok d else .error fault

/-- The disk with a directory at a path and all that are missing on the way; the parts of the
path are given from the last one on. -/
def makeWay (d : Disk) (absolute : Bool) : List Text → Except DiskError Disk
  | [] => .ok d
  | part :: above =>
    let p : Path := ⟨absolute, (part :: above).reverse⟩
    match d.ensureDirectory p with
    | .ok d' => .ok d'
    | .error .notFound =>
      match makeWay d absolute above with
      | .error e => .error e
      | .ok d' => (d'.ensureDirectory p).mapError fun fault => ⟨fault, p⟩
    | .error fault => .error ⟨fault, p⟩

/-- The disk with a directory at a path and all that are missing on the way. -/
def makeDirectories (d : Disk) (p : Path) : Except DiskError Disk :=
  d.makeWay p.absolute p.parts.reverse

/-- The disk with another content in the file at a path, which is made if it is missing. -/
def write (d : Disk) (p : Path) (c : Content) : Except DiskError Disk :=
  match d.locate p with
  | .error fault => .error ⟨fault, p⟩
  | .ok l =>
    if d.isDirectoryAt l then .error ⟨.isDirectory, p⟩ else .ok (d.put l (.file c))

end Disk
end QueryTree
