import RouteCensus.Call.Observation
import RouteCensus.Route.Names
import RouteCensus.Route.Params

/-! # From calls to endpoints

A call becomes an endpoint if its URL refers to the backend and its method is
one of the known ones.
-/

namespace RouteCensus

/-- The method text in upper case without blanks around it; an empty one means `GET`. -/
def normalMethod (method : String) : String :=
  let text := Text.trim (Text.upper method.toList)
  if text.isEmpty then "GET" else String.ofList text

def Observation.describe? (call : Observation) (sourceFile : String) : Option Endpoint :=
  if Route.isApi call.url.toList then
    (HttpMethod.ofWord? (normalMethod call.method)).map fun method =>
      let route := Route.ofUrl call.url
      { rawPath := call.url
        route := route
        method := method
        controllerName := Route.controllerName route
        actionName := Route.actionName method.word route
        pathParams := Route.pathParams route
        queryParams := Route.queryParams call.url
        requestBody := if method.takesBody then call.body else none
        sourceFile := sourceFile
        sourceLine := call.line
        kind := call.kind
        client := call.client }
  else
    none

end RouteCensus
