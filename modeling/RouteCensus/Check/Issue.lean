import RouteCensus.Json.Value

/-! # Checked values

Checking a value against a shape reports every issue it has, each with the place
where it was found.  Issues of several parts come in the order of the parts.
-/

namespace RouteCensus

inductive IssueKind where
  | missing
  | notString
  | notUnicode
  | notLiteral
  | notList
  | notTuple
  | notDict
  | notModel
  | notInt
  | intText
  | intFraction
  | intSize
  | notFinite
  | notBool
  | boolText
  | notDatetime
  | datetimeRange
  | datetimeText
  /-- A rule of the domain is broken; the message says which. -/
  | rule (message : String)
  deriving DecidableEq, Repr

def IssueKind.code : IssueKind → String
  | missing => "missing"
  | notString => "string_type"
  | notUnicode => "string_unicode"
  | notLiteral => "literal_error"
  | notList => "list_type"
  | notTuple => "tuple_type"
  | notDict => "dict_type"
  | notModel => "model_type"
  | notInt => "int_type"
  | intText => "int_parsing"
  | intFraction => "int_from_float"
  | intSize => "int_parsing_size"
  | notFinite => "finite_number"
  | notBool => "bool_type"
  | boolText => "bool_parsing"
  | notDatetime => "datetime_type"
  | datetimeRange => "datetime_parsing"
  | datetimeText => "datetime_from_date_parsing"
  | rule _ => "value_error"

/-- A step into a value: a member's name or an item's position. -/
inductive Step where
  | name (s : String)
  | index (n : Nat)
  deriving DecidableEq, Repr

def Step.text : Step → String
  | name s => s
  | index n => toString n

structure Issue where
  place : List Step
  kind : IssueKind
  deriving DecidableEq, Repr

def Issue.placeText (i : Issue) : String :=
  String.intercalate "." (i.place.map Step.text)

/-- The value that steps lead to, as far as there is one. -/
def Json.along (value : Json) : List Step → Json
  | [] => value
  | step :: rest =>
    match step, value with
    | .name s, .obj _ => ((value.member? s).map fun part => part.along rest).getD value
    | .index n, .arr items => (items[n]?.map fun part => part.along rest).getD value
    | _, _ => value

def Issue.valueIn (i : Issue) (value : Json) : Json :=
  value.along i.place

abbrev Checked (α : Type) := Except (List Issue) α

namespace Checked

variable {α β : Type}

def fail (kind : IssueKind) : Checked α :=
  .error [{ place := [], kind := kind }]

/-- Moves the issues of a part one step down. -/
def under (step : Step) (part : Checked α) : Checked α :=
  part.mapError fun issues => issues.map fun issue => { issue with place := step :: issue.place }

/-- Applies a function to a further part, collecting the issues of both. -/
def ap (f : Checked (α → β)) (part : Checked α) : Checked β :=
  match f, part with
  | .ok f, .ok a => .ok (f a)
  | .error issues, .ok _ => .error issues
  | .ok _, .error issues => .error issues
  | .error first, .error second => .error (first ++ second)

def all : List (Checked α) → Checked (List α)
  | [] => .ok []
  | part :: rest => ap (Except.map List.cons part) (all rest)

end Checked
end RouteCensus
