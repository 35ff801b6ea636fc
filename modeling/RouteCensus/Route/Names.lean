import RouteCensus.Text.Blank
import RouteCensus.Text.Case
import RouteCensus.Text.Digit

/-! # Names of controllers and actions

A route is served by the controller named for its first segment after `api` and
a possible version, through the action named for its last word.
-/

namespace RouteCensus.Route

def capitalize : List Char → List Char
  | [] => []
  | c :: rest => c.toUpper :: rest

/-- The ASCII words of a text, capitalised and joined. -/
def titleChars (s : List Char) : List Char :=
  match (s.splitOnP fun c => !c.isAlphanum).filter fun w => !w.isEmpty with
  | [] => "Default".toList
  | words => words.flatMap capitalize

def titleCase (s : String) : String :=
  String.ofList (titleChars s.toList)

/-- The title of a text that may be absent, which counts as an empty one. -/
def titleOf (text : Option String) : String :=
  titleCase (text.getD "")

/-- A letter `v` with decimal digits; a line feed may end it. -/
def isVersion (segment : List Char) : Bool :=
  match segment with
  | c :: rest =>
    (c == 'v' || c == 'V') && !(rest.takeWhile Text.isDecimalDigit).isEmpty &&
      (rest.dropWhile Text.isDecimalDigit == [] || rest.dropWhile Text.isDecimalDigit == ['\n'])
  | [] => false

/-- The segments between slashes, empty ones left out. -/
def segments (route : List Char) : List (List Char) :=
  (route.splitOn '/').filter fun s => !s.isEmpty

def resource? (route : List Char) : Option (List Char) :=
  match (segments route).dropWhile (· != "api".toList) with
  | [] => none
  | _ :: after =>
    match after with
    | [] => none
    | first :: more => if isVersion first then more.head? else some first

def controllerName (route : String) : String :=
  String.ofList ((resource? route.toList).elim "Default".toList titleChars)

def dropApi (route : List Char) : List Char :=
  if "/api/".toList.isPrefixOf route then '/' :: route.drop 5 else route

def isActionSeparator (c : Char) : Bool :=
  c == '/' || c == ':' || c == '{' || c == '}' || c == '-'

/-- The last word of a route, where separators count as blanks. -/
def lastWord (route : List Char) : List Char :=
  (Text.blankWords ((dropApi route).map fun c => if isActionSeparator c then ' ' else c)).getLast?.getD
    "Action".toList

def actionName (method route : String) : String :=
  String.ofList (Text.lower method.toList ++ titleChars (lastWord route.toList))

end RouteCensus.Route
