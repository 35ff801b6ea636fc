/-! # Sets of code points

A set of code points is written as its runs, lowest first.  The character
classes of this library are ASCII rules extended by such a table.
-/

namespace RouteCensus.Text

/-- Runs of code points, each given by its first and its last member. -/
abbrev Runs := List (Nat × Nat)

def Runs.has (runs : Runs) (c : Char) : Bool :=
  runs.any fun run => decide (run.1 ≤ c.toNat) && decide (c.toNat ≤ run.2)

end RouteCensus.Text
