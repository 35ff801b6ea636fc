import RouteCensus.Check.Scalar
import RouteCensus.Contracts.Timestamp
import RouteCensus.Endpoint.Basic
import RouteCensus.Json.Writer

/-! # Contracts documents

The result of a scan as a document: a version, a time, the scanned directory
and the endpoints.  Documents are written as JSON and checked when they are
read; members may go by their camel case or their snake case name.
-/

namespace RouteCensus

/-- The version of the documents that this library writes and reads. -/
def contractsVersion : Int := 1

structure Contracts where
  schemaVersion : Int
  generatedAt : Timestamp
  root : String
  endpoints : List Endpoint := []
  deriving DecidableEq, Repr

namespace SchemaField

def toJson (f : SchemaField) : Json :=
  .record [("name", .string f.name), ("inferredType", .string f.type.word)]

def check : Json → Checked SchemaField
  | .obj members =>
    (Except.ok SchemaField.mk : Checked _)
    |> (Checked.ap · (Check.required members "name" "name" Check.string))
    |> (Checked.ap · (Check.optional members "inferredType" "inferred_type" .string (Check.literal FieldType.ofWord?)))
  | _ => .fail .notModel

end SchemaField

def Fields.toJson (fields : Fields) : Json :=
  .record (fields.map fun entry => (entry.1, entry.2.toJson))

def Fields.checkMember (member : JsonString × Json) : Checked (String × SchemaField) :=
  match member.1 with
  | .text key => ((SchemaField.check member.2).under (.name key)).map fun field => (key, field)
  | .broken _ => .fail .notUnicode

def Fields.check : Json → Checked Fields
  | .obj members => .all (members.map Fields.checkMember)
  | _ => .fail .notDict

namespace Endpoint

def toJson (e : Endpoint) : Json :=
  .record [
    ("rawPath", .string e.rawPath),
    ("route", .string e.route),
    ("method", .string e.method.word),
    ("controllerName", .string e.controllerName),
    ("actionName", .string e.actionName),
    ("pathParams", .arr (e.pathParams.map .string)),
    ("queryParams", .arr (e.queryParams.map .string)),
    ("requestBody", (e.requestBody.map Fields.toJson).getD .null),
    ("sourceFile", .string e.sourceFile),
    ("sourceLine", .int e.sourceLine),
    ("kind", .string e.kind.word),
    ("client", (e.client.map .string).getD .null)]

def check : Json → Checked Endpoint
  | .obj members =>
    (Except.ok Endpoint.mk : Checked _)
    |> (Checked.ap · (Check.required members "rawPath" "raw_path" Check.string))
    |> (Checked.ap · (Check.required members "route" "route" Check.string))
    |> (Checked.ap · (Check.optional members "method" "method" .get (Check.literal HttpMethod.ofWord?)))
    |> (Checked.ap · (Check.optional members "controllerName" "controller_name" "Default" Check.string))
    |> (Checked.ap · (Check.optional members "actionName" "action_name" "getAction" Check.string))
    |> (Checked.ap · (Check.optional members "pathParams" "path_params" [] (Check.list Check.string)))
    |> (Checked.ap · (Check.optional members "queryParams" "query_params" [] (Check.list Check.string)))
    |> (Checked.ap · (Check.optional members "requestBody" "request_body" none (Check.nullable Fields.check)))
    |> (Checked.ap · (Check.optional members "sourceFile" "source_file" "" Check.string))
    |> (Checked.ap · (Check.optional members "sourceLine" "source_line" 0 Check.integer))
    |> (Checked.ap · (Check.optional members "kind" "kind" .client (Check.literal CallKind.ofWord?)))
    |> (Checked.ap · (Check.optional members "client" "client" none (Check.nullable Check.string)))
  | _ => .fail .notModel

end Endpoint

namespace Contracts

def toJson (c : Contracts) : Json :=
  .record [
    ("schemaVersion", .int c.schemaVersion),
    ("generatedAt", .string c.generatedAt.wireText),
    ("root", .string c.root),
    ("endpoints", .arr (c.endpoints.map Endpoint.toJson))]

def check : Json → Checked Contracts
  | .obj members =>
    (Except.ok Contracts.mk : Checked _)
    |> (Checked.ap · (Check.required members "schemaVersion" "schema_version" Check.integer))
    |> (Checked.ap · (Check.required members "generatedAt" "generated_at" Timestamp.check))
    |> (Checked.ap · (Check.required members "root" "root" Check.string))
    |> (Checked.ap · (Check.optional members "endpoints" "endpoints" [] (Check.list Endpoint.check)))
  | _ => .fail .notModel

/-- The text of a document, which ends with a line feed. -/
def text (c : Contracts) : String :=
  c.toJson.pretty .unicode ++ "\n"

def ofScan (now : Timestamp) (root : String) (endpoints : List Endpoint) : Contracts :=
  { schemaVersion := contractsVersion, generatedAt := now, root := root, endpoints := endpoints }

end Contracts
end RouteCensus
