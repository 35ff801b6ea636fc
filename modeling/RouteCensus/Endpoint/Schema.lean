/-! # Body schemas

The fields of a request body, keyed by name, in the order in which the keys
first occur.
-/

namespace RouteCensus

inductive FieldType where
  | string
  | number
  | boolean
  deriving DecidableEq, Repr

def FieldType.word : FieldType → String
  | string => "String"
  | number => "Number"
  | boolean => "Boolean"

def FieldType.ofWord? (s : String) : Option FieldType :=
  [string, number, boolean].find? fun t => t.word == s

structure SchemaField where
  name : String
  type : FieldType := .string
  deriving DecidableEq, Repr

/-- Fields by key, each key once. -/
abbrev Fields := List (String × SchemaField)

/-- Sets a field: the last value wins, the first place stays. -/
def Fields.set (key : String) (field : SchemaField) : Fields → Fields
  | [] => [(key, field)]
  | entry :: rest => if entry.1 = key then (key, field) :: rest else entry :: Fields.set key field rest

end RouteCensus
