import RouteCensus.Text.Case
import RouteCensus.Workspace.Settings
import RouteCensus.Workspace.Tree

/-! # Finding source files

A scan lists the files below a folder that have one of the wanted suffixes and
that no ignored folder holds, sorted by path.
-/

namespace RouteCensus

inductive ScanError where
  | noFolder (path : Path)
  deriving DecidableEq, Repr

def ScanError.message (base : String) : ScanError → String
  | noFolder path => s!"Source directory does not exist: {path.text base}"

structure ScanOptions where
  /-- An empty list means the default suffixes. -/
  extensions : List String := []
  /-- No list means the default names, an empty one means none. -/
  ignored : Option (List String) := none
  /-- Keeps that many files; a negative number drops from the end. -/
  limit : Option Int := none
  deriving DecidableEq, Repr

/-- The first items, or all but the last ones if the number is negative. -/
def takeSigned {α : Type} (n : Int) (items : List α) : List α :=
  if 0 ≤ n then items.take n.toNat else items.take (items.length - n.natAbs)

def ignoresName (ignored : Option (List String)) (name : String) : Bool :=
  (ignored.getD ({} : Settings).ignoredDirs).contains name

namespace ScanOptions

def suffixes (o : ScanOptions) : List String :=
  (if o.extensions.isEmpty then ({} : Settings).extensions else o.extensions).map Text.downcase

def wants (o : ScanOptions) (parts : List String) : Bool :=
  o.suffixes.contains (Text.downcase (Path.suffixOf (parts.getLast?.getD "")))

end ScanOptions

namespace Workspace

/-- The paths of the wanted files below a folder, in no particular order. -/
def candidates (w : Workspace) (o : ScanOptions) (root : Path) : List Path :=
  match w.find? root with
  | some (.folder entries) =>
    ((Entry.filesAmong (ignoresName o.ignored) [] entries).filter o.wants).map fun parts =>
      { w.resolve root with parts := (w.resolve root).parts ++ parts }
  | _ => []

def comesBefore (w : Workspace) (p q : Path) : Bool :=
  !decide (w.pathText q < w.pathText p)

/-- The wanted files below a folder, sorted by the text of their paths. -/
def scan (w : Workspace) (o : ScanOptions) (root : Path) : Except ScanError (List Path) :=
  if w.isFolder root then
    let sorted := (w.candidates o root).mergeSort w.comesBefore
    .ok (match o.limit with
      | some n => takeSigned n sorted
      | none => sorted)
  else
    .error (.noFolder root)

end Workspace
end RouteCensus
