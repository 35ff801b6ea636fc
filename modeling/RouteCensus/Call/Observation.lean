import RouteCensus.Endpoint.Basic

/-! # Observed calls -/

namespace RouteCensus

/-- What the source says about one HTTP call.  The method is the text found there. -/
structure Observation where
  kind : CallKind
  method : String
  url : String
  line : Int
  client : Option String := none
  body : Option Fields := none
  deriving DecidableEq, Repr

end RouteCensus
