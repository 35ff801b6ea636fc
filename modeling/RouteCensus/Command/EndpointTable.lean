import RouteCensus.Endpoint.Basic
import RouteCensus.Json.Writer
import RouteCensus.Terminal.Table

/-! # Tables of endpoints

An endpoint is shown by its method, its route, the names of its controller and
action, the fields of its body and the place in the source.
-/

namespace RouteCensus.Command

/-- The path of a source file as seen from the scanned directory. -/
def shortFile (root file : String) : List Char :=
  if !root.isEmpty && root.toList.isPrefixOf file.toList then
    (file.toList.drop root.toList.length).dropWhile fun c => c == '/' || c == '\\'
  else
    file.toList

def bodyText (body : Option Fields) : String :=
  let text := String.intercalate ", " ((body.getD []).map fun f => f.1 ++ ":" ++ f.2.type.word)
  if text.isEmpty then "-" else text

def endpointRow (root : String) (e : Endpoint) : List String :=
  [e.method.word, e.route, e.controllerName ++ "." ++ e.actionName, bodyText e.requestBody,
    String.ofList (shortFile root e.sourceFile ++ ':' :: Json.writeInt e.sourceLine)]

def endpointTable (root : String) (endpoints : List Endpoint) : Terminal.Table where
  columns :=
    [{ title := "METHOD", wraps := false }, { title := "ROUTE" }, { title := "CONTROLLER.ACTION" }, { title := "BODY" },
      { title := "FILE:LINE", wraps := false }]
  rows := endpoints.map (endpointRow root)

end RouteCensus.Command
