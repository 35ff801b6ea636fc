import RouteCensus.Call.Observation
import RouteCensus.Expr.Object
import RouteCensus.Expr.Url
import RouteCensus.Scope.Survey
import RouteCensus.Text.Case

/-! # Recognising HTTP calls

Two forms are recognised: a call of the global `fetch` with a URL and an options
object, and a call of a method named like an HTTP verb on any object, with a URL
and a payload.  An identifier given as URL or as payload is resolved once.
-/

namespace RouteCensus

/-- Finds the initialiser of a name as seen from the call. -/
abbrev Resolver := String → Option Node

def carriesBody (method : String) : Bool :=
  (HttpMethod.ofWord? method).any HttpMethod.takesBody

/-- The schema of an object literal or of the initialiser of an identifier. -/
def payloadSchema? (resolve : Resolver) (payload : Node) : Option Fields :=
  let inner := payload.unwrap
  if inner.kind == "object" then inner.schema?
  else if inner.kind == "identifier" then (resolve inner.text).bind Node.schema?
  else none

def stringified? (n : Node) : Option Node :=
  let call := n.unwrap
  if call.kind == "call_expression" then
    match call.role? "function" with
    | none => none
    | some callee =>
      if callee.kind == "member_expression" && textOf (callee.role? "object") == "JSON" &&
          textOf (callee.role? "property") == "stringify" then
        (call.role? "arguments").bind fun arguments => arguments.namedChildren.head?
      else
        none
  else
    none

/-- The method that an options object asks for, when it is written as a string. -/
def optionsMethod (options : Option Node) : String :=
  match (options.bind fun o => o.property? "method").map Node.unwrap with
  | some value => if value.kind == "string" then Text.upcase value.stringValue else "GET"
  | none => "GET"

def optionsBody? (resolve : Resolver) (options : Option Node) : Option Fields :=
  ((options.bind fun o => o.property? "body").bind stringified?).bind (payloadSchema? resolve)

/-- The options of a call: its argument, if that is an object literal. -/
def optionsObject? (argument : Option Node) : Option Node :=
  (argument.map Node.unwrap).filter fun o => o.kind == "object"

def fetchCall? (resolve : Resolver) (site : CallSite) : Option Observation :=
  if site.callee.kind == "identifier" && site.callee.text == "fetch" then
    match site.arguments with
    | [] => none
    | target :: more =>
      (target.url? resolve).map fun url =>
        let options := optionsObject? more.head?
        let method := optionsMethod options
        { kind := .fetch
          method := method
          url := url
          line := site.line
          body := if carriesBody method then optionsBody? resolve options else none }
  else
    none

/-- The method that the name of a called property stands for. -/
def calledVerb? (callee : Node) : Option HttpMethod :=
  if callee.kind == "member_expression" then
    (callee.role? "property").bind fun property => HttpMethod.ofVerb? (Text.downcase property.text)
  else
    none

def clientName? (callee : Node) : Option String :=
  let name := textOf (callee.role? "object")
  if name.isEmpty then none else some name

def clientCall? (resolve : Resolver) (site : CallSite) : Option Observation :=
  match calledVerb? site.callee, site.arguments with
  | some method, target :: more =>
    (target.url? resolve).map fun url =>
      { kind := .client
        method := method.word
        url := url
        line := site.line
        client := clientName? site.callee
        body := if method.takesBody then more.head?.bind (payloadSchema? resolve) else none }
  | _, _ => none

def CallSite.observation? (resolve : Resolver) (site : CallSite) : Option Observation :=
  match fetchCall? resolve site with
  | some call => some call
  | none => clientCall? resolve site

/-- The HTTP calls of a program in source order. -/
def Node.observations (root : Node) : List Observation :=
  let (table, sites) := root.callSites
  sites.filterMap fun site => site.observation? (table.initOf site.scope)

end RouteCensus
