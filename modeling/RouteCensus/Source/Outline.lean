import RouteCensus.Source.Node

/-! # Outlines

An outline lists the nodes of a tree in pre-order, each with its depth.  With
the source text it determines the tree: the children of a node are the entries
that follow it one level deeper, up to the next entry that is not deeper.
-/

namespace RouteCensus

structure OutlineEntry where
  depth : Nat
  kind : String
  named : Bool
  missing : Bool
  error : Bool
  damaged : Bool
  start : Nat
  stop : Nat
  field : Option String
  deriving DecidableEq, Repr

namespace OutlineEntry

def rowAt (source : ByteArray) (place : Nat) : Nat :=
  (source.extract 0 place).data.count 0x0A

def label (source : ByteArray) (e : OutlineEntry) : Label where
  kind := e.kind
  named := e.named
  missing := e.missing
  error := e.error
  damaged := e.damaged
  field := e.field
  start := e.start
  stop := e.stop
  row := rowAt source e.start
  bytes := (source.extract e.start e.stop).data.toList

/-- Puts an entry before the trees that follow it, adopting those that are deeper. -/
def attach (source : ByteArray) (e : OutlineEntry) (following : List (Nat × Node)) : List (Nat × Node) :=
  (e.depth, .mk (e.label source) ((following.takeWhile fun t => decide (e.depth < t.1)).map (·.2))) ::
    following.dropWhile fun t => decide (e.depth < t.1)

end OutlineEntry

def Node.ofOutline? (source : ByteArray) (outline : List OutlineEntry) : Option Node :=
  ((outline.foldr (OutlineEntry.attach source) []).head?).map (·.2)

end RouteCensus
