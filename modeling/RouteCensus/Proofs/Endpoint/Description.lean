import RouteCensus.Endpoint.Descriptor
import RouteCensus.Proofs.Text.Pieces

/-! # Described calls

A call has an endpoint exactly if its URL has the mark of the backend and its
method, once it is in upper case and without blanks around it, is a known one.
The endpoint describes itself: made into a call again it gives the same endpoint.
-/

namespace RouteCensus

namespace HttpMethod

theorem ofWord?_eq_some {s : String} {method : HttpMethod} (h : ofWord? s = some method) :
    method.word = s := by
  simpa using List.find?_some h

theorem ofWord?_word (method : HttpMethod) : ofWord? method.word = some method := by
  cases method <;> decide

theorem word_mem (method : HttpMethod) :
    method.word ∈ ["GET", "POST", "PUT", "PATCH", "DELETE"] := by
  cases method <;> decide

theorem takesBody_iff (method : HttpMethod) :
    method.takesBody = true ↔ method.word ∈ ["POST", "PUT", "PATCH"] := by
  cases method <;> decide

end HttpMethod

theorem normalMethod_word (method : HttpMethod) : normalMethod method.word = method.word := by
  cases method <;> decide +kernel

namespace Observation

/-- The endpoint of a call whose method is known. -/
def endpoint (call : Observation) (method : HttpMethod) (sourceFile : String) : Endpoint :=
  { rawPath := call.url
    route := Route.ofUrl call.url
    method := method
    controllerName := Route.controllerName (Route.ofUrl call.url)
    actionName := Route.actionName method.word (Route.ofUrl call.url)
    pathParams := Route.pathParams (Route.ofUrl call.url)
    queryParams := Route.queryParams call.url
    requestBody := if method.takesBody then call.body else none
    sourceFile := sourceFile
    sourceLine := call.line
    kind := call.kind
    client := call.client }

theorem describe?_eq (call : Observation) (sourceFile : String) :
    call.describe? sourceFile =
      if Route.isApi call.url.toList then
        (HttpMethod.ofWord? (normalMethod call.method)).map fun method =>
          call.endpoint method sourceFile
      else none :=
  rfl

variable {call : Observation} {sourceFile : String} {e : Endpoint}

theorem describe?_eq_some_iff :
    call.describe? sourceFile = some e ↔
      Route.isApi call.url.toList = true ∧
        ∃ method, HttpMethod.ofWord? (normalMethod call.method) = some method ∧
          call.endpoint method sourceFile = e := by
  rw [describe?_eq]
  by_cases h : Route.isApi call.url.toList = true
  · simp [h]
  · simp [h]

end Observation

/-- The call that an endpoint tells of. -/
def Endpoint.observation (e : Endpoint) : Observation :=
  { kind := e.kind
    method := e.method.word
    url := e.rawPath
    line := e.sourceLine
    client := e.client
    body := e.requestBody }

theorem Observation.describe?_observation {call : Observation} {sourceFile : String} {e : Endpoint}
    (h : call.describe? sourceFile = some e) :
    e.observation.describe? e.sourceFile = some e := by
  obtain ⟨happi, method, hmethod, rfl⟩ := describe?_eq_some_iff.1 h
  refine describe?_eq_some_iff.2 ⟨happi, method, ?_, ?_⟩
  · rw [Endpoint.observation, endpoint, normalMethod_word, HttpMethod.ofWord?_word]
  · cases htakes : method.takesBody <;> simp [Endpoint.observation, endpoint, htakes]

end RouteCensus
