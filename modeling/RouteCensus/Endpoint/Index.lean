import RouteCensus.Endpoint.Basic

/-! # Endpoint indexes

An index collects endpoints in the order of their first occurrence.  An
endpoint whose key is taken is counted and otherwise ignored.
-/

namespace RouteCensus

structure EndpointIndex where
  entries : List Endpoint := []
  duplicates : Nat := 0
  deriving DecidableEq, Repr

namespace EndpointIndex

def contains (index : EndpointIndex) (key : String) : Bool :=
  index.entries.any fun e => e.key == key

def add (index : EndpointIndex) (e : Endpoint) : EndpointIndex :=
  if index.contains e.key then { index with duplicates := index.duplicates + 1 }
  else { index with entries := index.entries ++ [e] }

/-- Offers an endpoint: the index after it, and whether the endpoint was taken in. -/
def offer (index : EndpointIndex) (e : Endpoint) : EndpointIndex × Bool :=
  (index.add e, !index.contains e.key)

def extend (index : EndpointIndex) (endpoints : List Endpoint) : EndpointIndex :=
  endpoints.foldl add index

end EndpointIndex

/-- The endpoints of all batches, of equal keys the first. -/
def aggregate (batches : List (List Endpoint)) : List Endpoint :=
  (batches.foldl EndpointIndex.extend {}).entries

end RouteCensus
