import RouteCensus.Text.Blank
import RouteCensus.Text.Pieces
import RouteCensus.Text.Word

/-! # From URLs to routes

A route is a URL without query, fragment, origin and dynamic base, in which
every placeholder in braces has become a parameter with a colon.
-/

namespace RouteCensus.Route

/-- The path segment that marks a URL as one of the backend. -/
def apiMark : List Char :=
  "/api/".toList

def isApi (url : List Char) : Bool :=
  Text.occurs apiMark url

def stripQuery (url : List Char) : List Char :=
  Text.before (· == '#') (Text.before (· == '?') url)

def isSchemeChar (c : Char) : Bool :=
  c.isAlphanum || c == '+' || c == '.' || c == '-'

/-- What follows the scheme and the host, if the text starts with both. -/
def afterOrigin? (s : List Char) : Option (List Char) :=
  match s with
  | c :: rest =>
    if c.isAlpha then
      match rest.dropWhile isSchemeChar with
      | ':' :: '/' :: '/' :: host => some (host.dropWhile (· != '/'))
      | _ => none
    else none
  | [] => none

def dropOrigin (s : List Char) : List Char :=
  (afterOrigin? s).getD s

def braced? (s : List Char) : Option (List Char) :=
  match s with
  | '{' :: rest =>
    let name := rest.takeWhile Text.isWord
    if name.isEmpty then none
    else if (rest.dropWhile Text.isWord).head? == some '}' then some name
    else none
  | _ => none

/-- The text after all placeholders that it starts with, `skip` characters on. -/
def afterBraces (skip : Nat) : List Char → List Char
  | [] => []
  | c :: rest =>
    match skip with
    | k + 1 => afterBraces k rest
    | 0 =>
      match braced? (c :: rest) with
      | some name => afterBraces (name.length + 1) rest
      | none => c :: rest

/-- Drops the placeholders that stand before the first slash, if nothing else does. -/
def dropDynamicBase (s : List Char) : List Char :=
  if (braced? s).isSome && (afterBraces 0 s).head? == some '/' then afterBraces 0 s else s

/-- Writes each placeholder as a parameter, `skip` characters on. -/
def colonsAfter (skip : Nat) : List Char → List Char
  | [] => []
  | c :: rest =>
    match skip with
    | k + 1 => colonsAfter k rest
    | 0 =>
      match braced? (c :: rest) with
      | some name => ':' :: name ++ colonsAfter (name.length + 1) rest
      | none => c :: colonsAfter 0 rest

def colons (s : List Char) : List Char :=
  colonsAfter 0 s

def withSlash (s : List Char) : List Char :=
  if s.head? == some '/' then s else '/' :: s

def ofUrlChars (url : List Char) : List Char :=
  withSlash (colons (dropDynamicBase (dropOrigin (Text.trim (stripQuery url)))))

def ofUrl (url : String) : String :=
  String.ofList (ofUrlChars url.toList)

end RouteCensus.Route
