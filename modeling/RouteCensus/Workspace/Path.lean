/-! # File paths

A path is read as the list of its parts: empty parts and single dots are
dropped, double dots are kept.  The suffix of a file name starts at its last
dot, unless that dot is the first or the last character.
-/

namespace RouteCensus

/-- A path as its parts, starting at the file system's root or in the workspace. -/
structure Path where
  absolute : Bool
  parts : List String
  deriving DecidableEq, Repr, Inhabited

namespace Path

def ofText (s : String) : Path where
  absolute := s.toList.head? == some '/'
  parts := ((s.toList.splitOn '/').filter fun p => !(p.isEmpty || p == ['.'])).map String.ofList

def name (p : Path) : String :=
  p.parts.getLast?.getD ""

def suffixChars (name : List Char) : List Char :=
  let tail := (name.reverse.takeWhile (· != '.')).reverse
  let head := name.length - tail.length
  if 2 ≤ head ∧ tail ≠ [] then '.' :: tail else []

/-- The suffix of a file name, with its dot; empty if it has none. -/
def suffixOf (name : String) : String :=
  String.ofList (suffixChars name.toList)

def suffix (p : Path) : String :=
  suffixOf p.name

def parent (p : Path) : Path :=
  { p with parts := p.parts.dropLast }

def join (p q : Path) : Path :=
  if q.absolute then q else { p with parts := p.parts ++ q.parts }

def child (p : Path) (part : String) : Path :=
  { p with parts := p.parts ++ [part] }

/-- Removes each double dot together with the part before it. -/
def collapse (parts : List String) : List String :=
  (parts.foldl (fun done part => if part == ".." then done.drop 1 else part :: done) []).reverse

/-- Whether some double dot leads out of the folder that is `depth` parts above. -/
def climbs (depth : Nat) : List String → Bool
  | [] => false
  | part :: rest => if part == ".." then depth == 0 || climbs (depth - 1) rest else climbs (depth + 1) rest

def leaves (p : Path) : Bool :=
  !p.absolute && climbs 0 p.parts

/-- The text of a path when the workspace lies at `base`. -/
def text (base : String) (p : Path) : String :=
  let tail := String.intercalate "/" p.parts
  if p.absolute then "/" ++ tail
  else if p.parts.isEmpty then base
  else base ++ "/" ++ tail

def relativeText (p : Path) : String :=
  if p.parts.isEmpty then "." else String.intercalate "/" p.parts

end Path
end RouteCensus
