import RouteCensus.Workspace.Path

/-! # File trees

Files and folders of a file system.  The entries of a folder are listed in some
order, which the results of this library do not depend on.
-/

namespace RouteCensus

inductive Entry where
  | file (bytes : List UInt8)
  | folder (entries : List (String × Entry))
  deriving Repr, Inhabited

inductive WriteError where
  /-- The path goes on behind a file. -/
  | throughFile
  /-- A file is where a folder should be: the last folder, or one after a folder that was created. -/
  | folderIsFile
  | targetIsFolder
  deriving DecidableEq, Repr

/-- A write that failed, with what it left behind: folders that were created by then stay. -/
structure WriteFailure (σ : Type) where
  cause : WriteError
  left : σ
  deriving Repr

namespace Entry

def isFolder : Entry → Bool
  | folder _ => true
  | file _ => false

def childIn? (name : String) (entries : List (String × Entry)) : Option Entry :=
  (entries.find? fun e => e.1 == name).map (·.2)

def child? (e : Entry) (name : String) : Option Entry :=
  match e with
  | folder entries => childIn? name entries
  | file _ => none

/-- Follows the parts of a path from a folder whose enclosing folders are given, innermost first.
A double dot at the root stays there. -/
def follow (outer : List Entry) (here : Entry) : List String → Option Entry
  | [] => some here
  | part :: rest =>
    if part == ".." then
      match here, outer with
      | folder _, up :: outer => follow outer up rest
      | folder _, [] => follow [] here rest
      | file _, _ => none
    else
      match here.child? part with
      | some e => follow (here :: outer) e rest
      | none => none

def find? (root : Entry) (parts : List String) : Option Entry :=
  follow [] root parts

/-- Sets an entry of a folder: a known one at its place, a new one at the end. -/
def setIn (name : String) (e : Entry) : List (String × Entry) → List (String × Entry)
  | [] => [(name, e)]
  | entry :: rest => if entry.1 = name then (name, e) :: rest else entry :: setIn name e rest

def setAt (new : Entry) : List String → Entry → Entry
  | [], _ => new
  | part :: rest, folder entries =>
    folder (setIn part (setAt new rest ((childIn? part entries).getD (folder []))) entries)
  | _ :: _, file bytes => file bytes

/-- Creates one folder, if it is not there, in folders that are. -/
def makeFolder (inTheWay : WriteError) (parts : List String) (root : Entry) :
    Except (WriteFailure Entry) Entry :=
  match root.find? parts with
  | some (folder _) => .ok root
  | some (file _) => .error ⟨inTheWay, root⟩
  | none => .ok (setAt (folder []) parts root)

/-- What it means that a file is in the place of the folder after `n` parts.  If the path leads to
the file from the start and goes on, no folder is created at all. -/
def inTheWay (root : Entry) (parts : List String) (n : Nat) : WriteError :=
  if n < parts.length && (root.find? (parts.take n)).isSome then .throughFile else .folderIsFile

def makeFirst (root : Entry) (parts : List String) (count : Nat) :
    Except (WriteFailure Entry) Entry :=
  (List.range count).foldlM
    (fun made n => makeFolder (root.inTheWay parts n) (Path.collapse (parts.take n)) made) root

def makeFolders (root : Entry) (parts : List String) : Except (WriteFailure Entry) Entry :=
  root.makeFirst parts (parts.length + 1)

def write (root : Entry) (parts : List String) (bytes : List UInt8) :
    Except (WriteFailure Entry) Entry := do
  let made ← root.makeFolders parts.dropLast
  let target := Path.collapse parts
  match made.find? target with
  | some (folder _) => .error ⟨.targetIsFolder, made⟩
  | _ => .ok (setAt (file bytes) target made)

mutual

def filesBelow (skip : String → Bool) (trail : List String) : Entry → List (List String)
  | file _ => [trail]
  | folder entries => filesAmong skip trail entries

def filesAmong (skip : String → Bool) (trail : List String) : List (String × Entry) → List (List String)
  | [] => []
  | (name, e) :: rest =>
    (if e.isFolder && skip name then [] else e.filesBelow skip (trail ++ [name])) ++
      filesAmong skip trail rest

end

end Entry

/-- A file system with the text of the folder to work in, the variables of the environment and the
home folders of users, the own one under the empty name. -/
structure Workspace where
  base : String
  files : Entry := .folder []
  environment : List (String × String) := []
  homes : List (String × String) := []
  deriving Repr

namespace Workspace

def locate (w : Workspace) (p : Path) : List String :=
  if p.absolute then p.parts else (Path.ofText w.base).parts ++ p.parts

def find? (w : Workspace) (p : Path) : Option Entry :=
  w.files.find? (w.locate p)

def isFolder (w : Workspace) (p : Path) : Bool :=
  (w.find? p).any Entry.isFolder

def fileBytes? (w : Workspace) (p : Path) : Option (List UInt8) :=
  match w.find? p with
  | some (.file bytes) => some bytes
  | _ => none

def pathText (w : Workspace) (p : Path) : String :=
  p.text w.base

/-- The path without double dots.  One that leaves the folder to work in starts at the root. -/
def resolve (w : Workspace) (p : Path) : Path :=
  if p.leaves then { absolute := true, parts := Path.collapse (w.locate p) }
  else { p with parts := Path.collapse p.parts }

/-- The home folder of a user, of whom a variable may tell if it is the own one. -/
def homeOf? (w : Workspace) (user : String) : Option String :=
  let told := if user.isEmpty then w.environment.reverse.filter fun v => v.1 == "HOME" else []
  (told ++ w.homes.filter fun home => home.1 == user).head?.map (·.2)

/-- The path with the home folder of a user for a first part that starts with a tilde.  It fails if
the user has none, or one that starts with a tilde again. -/
def expandUser? (w : Workspace) (p : Path) : Option Path :=
  match p.absolute, p.parts.map String.toList with
  | false, ('~' :: user) :: _ =>
    match w.homeOf? (String.ofList user) with
    | none => none
    | some home =>
      if home.toList.head? == some '~' then none
      else some ((Path.ofText (if home.isEmpty then "/" else home)).join { p with parts := p.parts.tail })
  | _, _ => some p

def withFiles (w : Workspace) :
    Except (WriteFailure Entry) Entry → Except (WriteFailure Workspace) Workspace
  | .ok files => .ok { w with files := files }
  | .error failure => .error ⟨failure.cause, { w with files := failure.left }⟩

def write (w : Workspace) (p : Path) (bytes : List UInt8) :
    Except (WriteFailure Workspace) Workspace :=
  w.withFiles (w.files.write (w.locate p) bytes)

def makeFolder (w : Workspace) (p : Path) : Except (WriteFailure Workspace) Workspace :=
  w.withFiles (w.files.makeFolders (w.locate p))

end Workspace
end RouteCensus
