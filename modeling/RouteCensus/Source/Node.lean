import RouteCensus.Text.Utf8

/-! # Parse trees

A node has a kind, a place in the source and its children in source order.
Tokens such as keywords and brackets are nodes that are not named.  Every node
carries the bytes it spans, so a tree can be read without its source.
-/

namespace RouteCensus

/-- All that is known of a node but its children. -/
structure Label where
  kind : String
  named : Bool := true
  /-- The parser inserted the node to go on. -/
  missing : Bool := false
  /-- The node is source that the parser could not fit in. -/
  error : Bool := false
  /-- The node or a descendant is missing or an error. -/
  damaged : Bool := false
  /-- The role of the node in its parent. -/
  field : Option String := none
  start : Nat := 0
  stop : Nat := 0
  /-- The line of the first byte, counted from zero. -/
  row : Nat := 0
  bytes : List UInt8 := []
  deriving DecidableEq, Repr, Inhabited

inductive Node where
  | mk (label : Label) (children : List Node)
  deriving Repr, Inhabited

namespace Node

def label : Node → Label
  | mk label _ => label

def children : Node → List Node
  | mk _ children => children

def kind (n : Node) : String := n.label.kind

def named (n : Node) : Bool := n.label.named

def namedChildren (n : Node) : List Node :=
  n.children.filter named

def role? (n : Node) (field : String) : Option Node :=
  n.children.find? fun child => child.label.field == some field

def text (n : Node) : String :=
  String.ofList (Text.Utf8.decodeLenient n.label.bytes)

/-- The line of the first byte, counted from one. -/
def line (n : Node) : Nat :=
  n.label.row + 1

mutual

def size : Node → Nat
  | mk _ children => 1 + sizeAll children

def sizeAll : List Node → Nat
  | [] => 0
  | n :: rest => n.size + sizeAll rest

end

end Node

def textOf (n : Option Node) : String :=
  match n with
  | some n => n.text
  | none => ""

end RouteCensus
