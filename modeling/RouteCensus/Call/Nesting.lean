import RouteCensus.Call.Recognize

/-! # Nesting

The operands of a sum and the names of a pattern are found by nested calls, one
for each level, and only so many calls can be nested.  Where the URL of a call or
a pattern goes deeper, the search for calls breaks off.  How many calls there can
be is up to the caller.
-/

namespace RouteCensus

inductive BreakOff where
  /-- It would nest too many calls. -/
  | tooDeep
  deriving DecidableEq, Repr

namespace Node

mutual

/-- The calls that are nested to find the operands of an expression.  Wrappers cost none, and the
right side of a sum is looked at only if there is a left one. -/
def sumDepth : Node → Nat
  | mk label children =>
    if isWrapperKind label.kind then
      sumDepthOfFirst children
    else if (mk label children).isSum then
      match sideDepth? "left" children, sideDepth? "right" children with
      | some left, some right => 1 + max left right
      | some left, none => 1 + left
      | none, _ => 1
    else
      1

def sumDepthOfFirst : List Node → Nat
  | [] => 1
  | child :: rest => if child.named then child.sumDepth else sumDepthOfFirst rest

def sideDepth? (role : String) : List Node → Option Nat
  | [] => none
  | child :: rest =>
    if child.label.field == some role then some child.sumDepth else sideDepth? role rest

end

mutual

/-- The calls that are nested to find the names that a pattern binds. -/
def patternDepth : Node → Nat
  | mk label children =>
    if label.kind == "identifier" || label.kind == "shorthand_property_identifier_pattern" then
      1
    else
      match patternRole? label.kind with
      | some role => 1 + patternDepthInRole role children
      | none => if bindsNothing label.kind then 1 else 1 + patternDepthInAll children

/-- The depth of the first child in the given role; its absence is found by a call, too. -/
def patternDepthInRole (role : String) : List Node → Nat
  | [] => 1
  | child :: rest =>
    if child.label.field == some role then child.patternDepth else patternDepthInRole role rest

def patternDepthInAll : List Node → Nat
  | [] => 0
  | child :: rest =>
    if child.named then max child.patternDepth (patternDepthInAll rest) else patternDepthInAll rest

end

def patterns (n : Node) : List Node :=
  if isFunctionKind n.kind then
    match n.role? "parameter" with
    | some single => [single]
    | none => ((n.role? "parameters").map namedChildren).getD []
  else if n.kind == "catch_clause" then
    (n.role? "parameter").toList
  else if n.kind == "for_in_statement" then
    if (n.role? "kind").isSome then (n.role? "left").toList else []
  else if n.kind == "variable_declarator" then
    (n.role? "name").toList.filter fun name => name.kind != "identifier"
  else
    []

mutual

/-- Whether a pattern of a tree, reached through named nodes, goes deeper than `limit`. -/
def hasDeepPattern (limit : Nat) : Node → Bool
  | mk label children =>
    label.named && ((mk label children).patterns.any (fun p => decide (limit < p.patternDepth)) ||
      hasDeepPatternAmong limit children)

def hasDeepPatternAmong (limit : Nat) : List Node → Bool
  | [] => false
  | child :: rest => child.hasDeepPattern limit || hasDeepPatternAmong limit rest

end

/-- The expression that the URL text of another is read from: itself, or what it is a name of. -/
def urlSource? (resolve : Resolver) (n : Node) : Option Node :=
  if n.unwrap.kind == "identifier" then
    ((resolve n.unwrap.text).map unwrap).filter fun init => init.kind != "identifier"
  else
    some n.unwrap

/-- Whether the URL text of an expression lies in a sum that goes deeper than `limit`. -/
def hasDeepUrl (limit : Nat) (resolve : Resolver) (n : Node) : Bool :=
  (n.urlSource? resolve).any fun source => !source.isTextual && decide (limit < source.sumDepth)

end Node

/-- The expression that a call site has in the place of a URL, if the call may be an HTTP call. -/
def CallSite.target? (site : CallSite) : Option Node :=
  if site.callee.kind == "identifier" && site.callee.text == "fetch" ||
      (calledVerb? site.callee).isSome then
    site.arguments.head?
  else
    none

namespace Node

def tooDeep (limit : Nat) (root : Node) : Bool :=
  root.hasDeepPattern limit ||
    root.callSites.2.any fun site => site.target?.any fun target =>
      target.hasDeepUrl limit (root.callSites.1.initOf site.scope)

/-- The URL text of an expression, read with at most `limit` nested calls. -/
def urlWithin (limit : Nat) (resolve : Resolver) (n : Node) : Except BreakOff (Option String) :=
  if n.hasDeepUrl limit resolve then .error .tooDeep else .ok (n.url? resolve)

def callSitesWithin (limit : Nat) (root : Node) :
    Except BreakOff (ScopeTable Node × List CallSite) :=
  if root.hasDeepPattern limit then .error .tooDeep else .ok root.callSites

def observationsWithin (limit : Nat) (root : Node) : Except BreakOff (List Observation) :=
  if root.tooDeep limit then .error .tooDeep else .ok root.observations

end Node

end RouteCensus
