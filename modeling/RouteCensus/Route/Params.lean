import RouteCensus.Route.Url

/-! # Parameters of routes and URLs -/

namespace RouteCensus.Route

/-- The parameter that the text starts with and the length of the rest of its spelling: a word
after a colon, or a word in braces. -/
def param? (s : List Char) : Option (List Char × Nat) :=
  match s with
  | ':' :: rest =>
    let name := rest.takeWhile Text.isWord
    if name.isEmpty then none else some (name, name.length)
  | _ => (braced? s).map fun name => (name, name.length + 1)

/-- All parameters from left to right, `skip` characters on. -/
def paramsAfter (skip : Nat) : List Char → List (List Char)
  | [] => []
  | c :: rest =>
    match skip with
    | k + 1 => paramsAfter k rest
    | 0 =>
      match param? (c :: rest) with
      | some (name, k) => name :: paramsAfter k rest
      | none => paramsAfter 0 rest

def pathParams (route : String) : List String :=
  Text.distinct ((paramsAfter 0 route.toList).map String.ofList)

def queryKey (item : List Char) : List Char :=
  Text.trim (Text.before (· == '=') item)

def queryKeys (url : List Char) : List (List Char) :=
  match Text.after? (· == '?') url with
  | none => []
  | some query => ((Text.before (· == '#') query).splitOn '&').map queryKey

def queryParams (url : String) : List String :=
  Text.distinct ((queryKeys url.toList).map String.ofList)

end RouteCensus.Route
