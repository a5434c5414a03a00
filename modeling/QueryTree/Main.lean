import QueryTree.Session.Run

/-!
# The program

Reads the files that the command line looks at, runs the command line on them, and prints and
writes what comes of it.
-/

open QueryTree

/-- What is at a place of the real file system, if the place around it is a directory. -/
def readEntry (l : Location) : IO (Option Entry) := do
  try
    let bytes ← IO.FS.readBinFile (String.ofList (Path.ofLocation l).text)
    return some (.file (.ofBytes (bytes.toList.map UInt8.toNat)))
  catch
    | .inappropriateType .. => return some .directory
    | _ => return none

/-- A disk with what is at some places of the real file system. -/
def readDisk (d : Disk) (places : List Location) : IO Disk :=
  places.foldlM (fun d l => do
    if !d.isDirectoryAt l.dropLast then return d
    match ← readEntry l with
    | some e => return d.put l e
    | none => return d) d

/-- Writes the texts that are new on a disk to the real file system. -/
def writeChanges (before after : Disk) : IO Unit := do
  for (l, c) in after.files do
    if before.find? l ≠ some (.file c) then
      match c with
      | .text t =>
        IO.FS.createDirAll (String.ofList (Path.ofLocation l.dropLast).text)
        IO.FS.writeFile (String.ofList (Path.ofLocation l).text) (String.ofList t)
      | .bytes _ => return ()

/-- Runs a command line. -/
def main (arguments : List String) : IO UInt32 := do
  let words := arguments.map String.toList
  let place (name : String) : IO Location := do
    return (Path.ofText ((← IO.getEnv name).getD "/").toList).resolve []
  let none := Disk.empty (← place "PWD") (← place "HOME")
  let disk ← readDisk none (CommandLine.places none words)
  let noColorSet := (← IO.getEnv "NO_COLOR").isSome
  let (outcome, s) := Session.perform (Action.main noColorSet words) ⟨{}, disk⟩
  writeChanges disk s.disk
  IO.print (String.ofList s.terminal.output.printed)
  IO.eprint (String.ofList s.terminal.errors.printed)
  if let some f := outcome.failure then IO.eprintln (String.ofList f.message)
  return outcome.exitCode.toUInt32
