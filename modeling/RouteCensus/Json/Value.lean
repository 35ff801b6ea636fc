import RouteCensus.Number.Double

/-! # JSON values

Whole numbers and fractions are told apart as they were written.  The members
of an object keep their order.  A string may hold half of a surrogate pair,
because an escape can spell one; such a string is kept as code points.
-/

namespace RouteCensus

inductive JsonString where
  | text (s : String)
  /-- Code points, at least one of them half of a surrogate pair. -/
  | broken (codes : List Nat)
  deriving DecidableEq, Repr, Inhabited

namespace JsonString

def isSurrogate (n : Nat) : Bool :=
  decide (0xD800 ≤ n) && decide (n ≤ 0xDFFF)

def ofCodes (codes : List Nat) : JsonString :=
  if codes.any isSurrogate then .broken codes else .text (String.ofList (codes.map Char.ofNat))

def toCodes : JsonString → List Nat
  | text s => s.toList.map Char.toNat
  | broken codes => codes

end JsonString

inductive Json where
  | null
  | bool (b : Bool)
  | int (n : Int)
  | real (x : Double)
  | str (s : JsonString)
  | arr (items : List Json)
  | obj (members : List (JsonString × Json))
  deriving Repr, Inhabited

namespace Json

def string (s : String) : Json :=
  .str (.text s)

/-- An object value with the given names in the given order. -/
def record (members : List (String × Json)) : Json :=
  .obj (members.map fun m => (.text m.1, m.2))

/-- Sets a member: the last value wins, the first place stays. -/
def setMember (name : JsonString) (value : Json) : List (JsonString × Json) → List (JsonString × Json)
  | [] => [(name, value)]
  | m :: rest => if m.1 = name then (name, value) :: rest else m :: setMember name value rest

def member? (name : String) : Json → Option Json
  | obj members => (members.find? fun m => m.1 == .text name).map (·.2)
  | _ => none

def text? : Json → Option String
  | str (.text s) => some s
  | _ => none

end Json
end RouteCensus
