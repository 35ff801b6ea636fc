import RouteCensus.Command.Run
import RouteCensus.Workspace.Snapshot

/-! # The program

The program reads a snapshot of the current directory from standard input, runs
the command of its arguments in it, prints the report, and writes the files that
the command has changed.  The member `now` of the snapshot is the time to put
into contracts.
-/

namespace RouteCensus

/-- The files of a workspace that another one does not hold in the same form. -/
def Workspace.changes (before after : Workspace) : List (Path × List UInt8) :=
  (after.files.filesBelow (fun _ => false) []).filterMap fun parts =>
    let path : Path := { absolute := true, parts := parts }
    match after.fileBytes? path with
    | some bytes => if before.fileBytes? path == some bytes then none else some (path, bytes)
    | none => none

/-- The time that a snapshot names, the start of 1970 if it names none. -/
def Snapshot.now (value : Json) : Timestamp :=
  match (value.member? "now").map Timestamp.check with
  | some (.ok time) => time
  | _ => { year := 1970, month := 1, day := 1, offset := some 0 }

partial def readAll (input : IO.FS.Stream) (text : String) : IO String := do
  let line ← input.getLine
  if line.isEmpty then return text else readAll input (text ++ line)

def writeChange (change : Path × List UInt8) : IO Unit := do
  IO.FS.createDirAll (change.1.parent.text "")
  IO.FS.writeBinFile (change.1.text "") ⟨change.2.toArray⟩

end RouteCensus

open RouteCensus in
def main (args : List String) : IO UInt32 := do
  let text ← readAll (← IO.getStdin) ""
  let base := (← IO.currentDir).toString
  match Json.read Command.usualDepth text.toList with
  | .error e =>
    IO.eprintln s!"The snapshot is not valid JSON: {e.message}"
    return 1
  | .ok value =>
    match Snapshot.ofJson? base value with
    | none =>
      IO.eprintln "The snapshot does not describe a workspace"
      return 1
    | some snapshot =>
      let outcome := Command.run (Snapshot.now value) (.usual snapshot.parser) snapshot.workspace args
      IO.print outcome.output
      (snapshot.workspace.changes outcome.workspace).forM writeChange
      return outcome.exitCode.toUInt32
