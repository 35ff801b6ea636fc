import RouteCensus.Endpoint.Schema

/-! # Endpoints

An endpoint is one backend route that some frontend call asks for.  Its key,
method and route together, is what tells endpoints apart.
-/

namespace RouteCensus

inductive HttpMethod where
  | get
  | post
  | put
  | patch
  | delete
  deriving DecidableEq, Repr

namespace HttpMethod

def word : HttpMethod → String
  | get => "GET"
  | post => "POST"
  | put => "PUT"
  | patch => "PATCH"
  | delete => "DELETE"

/-- The word in lower case, as calls on a client object spell it. -/
def verb : HttpMethod → String
  | get => "get"
  | post => "post"
  | put => "put"
  | patch => "patch"
  | delete => "delete"

def all : List HttpMethod :=
  [get, post, put, patch, delete]

def ofWord? (s : String) : Option HttpMethod :=
  all.find? fun m => m.word == s

def ofVerb? (s : String) : Option HttpMethod :=
  all.find? fun m => m.verb == s

def takesBody : HttpMethod → Bool
  | post | put | patch => true
  | get | delete => false

end HttpMethod

/-- How a call was made: through the global function or on a client object. -/
inductive CallKind where
  | fetch
  | client
  deriving DecidableEq, Repr

def CallKind.word : CallKind → String
  | fetch => "fetch"
  | client => "client"

def CallKind.ofWord? (s : String) : Option CallKind :=
  [fetch, client].find? fun k => k.word == s

structure Endpoint where
  /-- The URL text of the call. -/
  rawPath : String
  route : String
  method : HttpMethod := .get
  controllerName : String := "Default"
  actionName : String := "getAction"
  pathParams : List String := []
  queryParams : List String := []
  requestBody : Option Fields := none
  sourceFile : String := ""
  sourceLine : Int := 0
  kind : CallKind := .client
  client : Option String := none
  deriving DecidableEq, Repr

def Endpoint.key (e : Endpoint) : String :=
  e.method.word ++ ":" ++ e.route

end RouteCensus
