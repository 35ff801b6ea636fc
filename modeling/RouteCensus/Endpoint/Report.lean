import RouteCensus.Check.Issue
import RouteCensus.Endpoint.Descriptor

/-! # Reported calls

A call that someone else reports comes in words.  Its body is checked first; its
kind is looked at only if the call becomes an endpoint.
-/

namespace RouteCensus

structure CallReport where
  kind : String
  method : String
  url : String
  line : Int
  client : Option String := none
  /-- Key, name and type of each field. -/
  body : Option (List (String × String × String)) := none
  deriving DecidableEq, Repr

namespace CallReport

/-- The fields of a reported body; the first unknown type is the issue. -/
def fields (entries : List (String × String × String)) : Checked Fields :=
  entries.foldlM
    (fun known (key, name, type) =>
      match FieldType.ofWord? type with
      | some type => .ok (known.set key { name := name, type := type })
      | none => (Checked.fail .notLiteral).under (.name "inferred_type"))
    ([] : Fields)

def bodyFields (r : CallReport) : Checked (Option Fields) :=
  match r.body with
  | some entries => (fields entries).map some
  | none => .ok none

def observation (r : CallReport) (kind : CallKind) (body : Option Fields) : Observation :=
  { kind := kind, method := r.method, url := r.url, line := r.line, client := r.client, body := body }

def describe (r : CallReport) (sourceFile : String) : Checked (Option Endpoint) :=
  match r.bodyFields with
  | .error issues => .error issues
  | .ok body =>
    match CallKind.ofWord? r.kind with
    | some kind => .ok ((r.observation kind body).describe? sourceFile)
    | none =>
      match (r.observation .client body).describe? sourceFile with
      | some _ => (Checked.fail .notLiteral).under (.name "kind")
      | none => .ok none

end CallReport
end RouteCensus
