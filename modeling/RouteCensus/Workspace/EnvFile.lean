import RouteCensus.Text.Blank

/-! # Environment files

A file of variables, one `NAME=value` a line, possibly after the word `export`.
A value in quotes may span lines and hold escapes; one without quotes ends at a
comment.  A value may refer to variables of the environment and to those above
it.  Lines of any other form are passed over.
-/

namespace RouteCensus.EnvFile

def isLineEnd (c : Char) : Bool :=
  c == '\n' || c == '\r'

def isInlineBlank (c : Char) : Bool :=
  Text.isBlank c && !isLineEnd c

def dropLine (s : List Char) : List Char :=
  s.dropWhile fun c => !isLineEnd c

def dropExport (s : List Char) : List Char :=
  let word := "export".toList
  if word.isPrefixOf s then
    match s.drop word.length with
    | c :: rest => if isInlineBlank c then rest.dropWhile isInlineBlank else s
    | [] => s
  else
    s

def isNameChar (c : Char) : Bool :=
  !(c == '=' || c == '#' || Text.isBlank c)

/-- The name that a line starts with, possibly in single quotes, and what follows it. -/
def takeName? (s : List Char) : Option (List Char × List Char) :=
  match s with
  | '\x27' :: rest =>
    match rest.takeWhile (· != '\x27'), rest.dropWhile (· != '\x27') with
    | name, _ :: rest => if name.isEmpty then none else some (name, rest)
    | _, [] => none
  | _ =>
    match s.takeWhile isNameChar with
    | [] => none
    | name => some (name, s.dropWhile isNameChar)

/-- The text up to the closing quote, and the rest; a backslash takes the character behind it along. -/
def takeQuoted? (quote : Char) : List Char → Option (List Char × List Char)
  | [] => none
  | '\\' :: c :: rest => (takeQuoted? quote rest).map fun (text, rest) => ('\\' :: c :: text, rest)
  | c :: rest =>
    if c == quote then some ([], rest) else (takeQuoted? quote rest).map fun (text, rest) => (c :: text, rest)

def doubleEscape? : Char → Option Char
  | '\\' => some '\\'
  | '\x27' => some '\x27'
  | '"' => some '"'
  | 'a' => some '\x07'
  | 'b' => some '\x08'
  | 'f' => some '\x0c'
  | 'n' => some '\n'
  | 'r' => some '\r'
  | 't' => some '\t'
  | 'v' => some '\x0b'
  | _ => none

def singleEscape? : Char → Option Char
  | '\\' => some '\\'
  | '\x27' => some '\x27'
  | _ => none

def unescape (escape? : Char → Option Char) : List Char → List Char
  | [] => []
  | '\\' :: c :: rest =>
    match escape? c with
    | some x => x :: unescape escape? rest
    | none => '\\' :: c :: unescape escape? rest
  | c :: rest => c :: unescape escape? rest

/-- The text before a comment, which starts with blanks and a hash sign. -/
def dropComment : List Char → List Char
  | [] => []
  | c :: rest =>
    if isInlineBlank c && (rest.dropWhile isInlineBlank).head? == some '#' then [] else c :: dropComment rest

def takeValue? (s : List Char) : Option (List Char × List Char) :=
  match s.dropWhile isInlineBlank with
  | '\x27' :: rest =>
    (takeQuoted? '\x27' rest).map fun (text, rest) => (unescape singleEscape? text, rest)
  | '"' :: rest =>
    (takeQuoted? '"' rest).map fun (text, rest) => (unescape doubleEscape? text, rest)
  | _ => some (Text.trim (dropComment (s.takeWhile fun c => !isLineEnd c)), dropLine s)

def isLineDone (s : List Char) : Bool :=
  match (s.dropWhile isInlineBlank).head? with
  | some c => c == '#' || isLineEnd c
  | none => true

/-- A variable, without a value if no equals sign follows its name. -/
abbrev Variable := String × Option String

/-- The variable that the text starts with, if there is one, and the place where reading stopped. -/
def takeVariable (s : List Char) : Option Variable × List Char :=
  let s := dropExport s
  match takeName? s with
  | none => (none, s)
  | some (name, s) =>
    let found := fun (value : Option (List Char)) (rest : List Char) =>
      (if isLineDone rest then some (String.ofList name, value.map String.ofList) else none, rest)
    match s.dropWhile isInlineBlank with
    | '=' :: rest =>
      match takeValue? rest with
      | some (value, rest) => found (some value) rest
      | none => (none, rest)
    | rest => found none rest

def entriesWithin : Nat → List Char → List Variable
  | 0, _ => []
  | fuel + 1, s =>
    match s.dropWhile Text.isBlank with
    | [] => []
    | s =>
      let (found, rest) := takeVariable s
      found.toList ++ entriesWithin fuel (dropLine rest)

def entries (s : List Char) : List Variable :=
  entriesWithin (s.length + 1) s

/-- The variable and the default of a reference, after its opening, and how long it is:
a name, a default behind a colon and a hyphen if there is one, and the closing brace. -/
def reference? (s : List Char) : Option (List Char × List Char × Nat) :=
  let name := s.takeWhile fun c => c != ':' && c != '\x7d'
  match s.drop name.length with
  | '\x7d' :: _ => some (name, [], name.length + 1)
  | ':' :: '-' :: rest =>
    let default := rest.takeWhile (· != '\x7d')
    if default.length < rest.length then some (name, default, name.length + default.length + 3) else none
  | _ => none

def expandAfter (lookup : String → Option String) (skip : Nat) : List Char → List Char
  | [] => []
  | c :: rest =>
    match skip with
    | skip + 1 => expandAfter lookup skip rest
    | 0 =>
      match c, rest with
      | '$', '\x7b' :: tail =>
        match reference? tail with
        | some (name, default, size) =>
          ((lookup (String.ofList name)).map String.toList).getD default ++ expandAfter lookup (size + 1) rest
        | none => c :: expandAfter lookup 0 rest
      | _, _ => c :: expandAfter lookup 0 rest

def expand (lookup : String → Option String) (value : String) : String :=
  String.ofList (expandAfter lookup 0 value.toList)

/-- Sets a variable: a known one at its place, a new one at the end. -/
def setVariable (name : String) (value : Option String) : List Variable → List Variable
  | [] => [(name, value)]
  | v :: rest => if v.1 = name then (name, value) :: rest else v :: setVariable name value rest

/-- What a reference to a name stands for: a variable set above, else one of the environment.
A variable without a value stands for nothing. -/
def lookupName (environment : List (String × String)) (known : List Variable) (name : String) : Option String :=
  match known.find? fun v => v.1 == name with
  | some v => some (v.2.getD "")
  | none => (environment.reverse.find? fun v => v.1 == name).map (·.2)

def read (environment : List (String × String)) (s : List Char) : List Variable :=
  (entries s).foldl (fun known v => setVariable v.1 (v.2.map (expand (lookupName environment known))) known) []

end RouteCensus.EnvFile
