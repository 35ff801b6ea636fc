import RouteCensus.Source.Node

/-! # Bound names

The names that a declaration or parameter pattern binds, in source order.  Keys,
default values and type annotations bind nothing.
-/

namespace RouteCensus.Node

/-- Kinds that stand in a parameter list and bind no name. -/
def bindsNothing (kind : String) : Bool :=
  ["type_annotation", "type_identifier", "predefined_type", "accessibility_modifier", "this"].contains kind

/-- The role of the part of a pattern that holds the bound names, where not all children do. -/
def patternRole? (kind : String) : Option String :=
  if kind == "assignment_pattern" || kind == "object_assignment_pattern" then some "left"
  else if kind == "pair_pattern" then some "value"
  else if kind == "required_parameter" || kind == "optional_parameter" then some "pattern"
  else none

mutual

def boundNames : Node → List String
  | mk label children =>
    if label.kind == "identifier" || label.kind == "shorthand_property_identifier_pattern" then
      [(mk label children).text]
    else
      match patternRole? label.kind with
      | some role => boundNamesInRole role children
      | none => if bindsNothing label.kind then [] else boundNamesInAll children

def boundNamesInRole (role : String) : List Node → List String
  | [] => []
  | child :: rest =>
    if child.label.field == some role then child.boundNames else boundNamesInRole role rest

def boundNamesInAll : List Node → List String
  | [] => []
  | child :: rest =>
    if child.named then child.boundNames ++ boundNamesInAll rest else boundNamesInAll rest

end

/-- The names of the parameters of a function, which may have a single one without brackets. -/
def parameterNames (function : Node) : List String :=
  match function.role? "parameter" with
  | some single => single.boundNames
  | none =>
    match function.role? "parameters" with
    | some list => boundNamesInAll list.children
    | none => []

end RouteCensus.Node
