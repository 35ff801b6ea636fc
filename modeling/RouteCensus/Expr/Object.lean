import RouteCensus.Endpoint.Schema
import RouteCensus.Expr.Literal

/-! # Object literals

An object literal gives a schema: its plain and shorthand properties with the
types that their literal values show.  Spreads, methods and computed keys
contribute nothing.
-/

namespace RouteCensus.Node

/-- The type that a literal value shows; anything else counts as text. -/
def fieldType (n : Option Node) : FieldType :=
  match n.map unwrap with
  | none => .string
  | some value =>
    if value.kind == "number" then .number
    else if value.kind == "true" || value.kind == "false" then .boolean
    else .string

/-- The text of a property key that is not computed. -/
def keyText? (key : Node) : Option String :=
  if ["property_identifier", "identifier", "private_property_identifier", "number"].contains key.kind then
    some key.text
  else if key.kind == "string" then
    some key.stringValue
  else
    none

def pairKey? (pair : Node) : Option String :=
  (pair.role? "key").bind keyText?

def memberField? (member : Node) : Option SchemaField :=
  if member.kind == "pair" then
    member.pairKey?.map fun name => { name := name, type := fieldType (member.role? "value") }
  else if member.kind == "shorthand_property_identifier" then
    some { name := member.text }
  else
    none

/-- The fields of the members, of equally named ones the last at the first one's place. -/
def fieldsOf (members : List Node) : Fields :=
  (members.filterMap memberField?).foldl (fun fields field => fields.set field.name field) []

def schema? (n : Node) : Option Fields :=
  if n.unwrap.kind == "object" then some (fieldsOf n.unwrap.namedChildren) else none

/-- The value of the first plain property with the given key. -/
def property? (object : Node) (name : String) : Option Node :=
  ((object.namedChildren.filter fun member => member.kind == "pair").find? fun pair =>
    pair.pairKey? == some name).bind fun pair => pair.role? "value"

end RouteCensus.Node
