/-! # Options on a command line

A command knows some options by their spellings: a word after two hyphens, or a
letter after one.  An option takes a value, or it is a switch that stands for
one.  All else is an argument, and so is everything after two hyphens alone.
-/

namespace RouteCensus.Command

structure Spelling where
  text : String
  /-- The option that is meant. -/
  option : String
  /-- What a switch stands for; no switch takes a value. -/
  switch : Option String := none
  deriving DecidableEq, Repr

structure Arguments where
  /-- Options in the order in which they were given. -/
  options : List (String × String) := []
  positional : List String := []
  deriving DecidableEq, Repr

namespace Arguments

/-- The value of an option; of several ones the last counts. -/
def value? (a : Arguments) (option : String) : Option String :=
  (a.options.reverse.find? fun o => o.1 == option).map (·.2)

def addPositional (s : String) (a : Arguments) : Arguments :=
  { a with positional := s :: a.positional }

end Arguments

inductive Reading where
  /-- Options that the word sets by itself. -/
  | sets (options : List (String × String))
  /-- Options that it sets, and one whose value is the next word. -/
  | awaits (options : List (String × String)) (option : String)
  | unknown
  deriving DecidableEq, Repr

def spelled? (spellings : List Spelling) (text : String) : Option Spelling :=
  spellings.find? fun s => s.text == text

/-- Reads letters behind one hyphen: switches, then perhaps an option with the rest as its value. -/
def readLetters (spellings : List Spelling) : List Char → Reading
  | [] => .sets []
  | letter :: rest =>
    match spelled? spellings (String.ofList ['-', letter]) with
    | none => .unknown
    | some ⟨_, option, some value⟩ =>
      match readLetters spellings rest with
      | .sets options => .sets ((option, value) :: options)
      | .awaits options last => .awaits ((option, value) :: options) last
      | .unknown => .unknown
    | some ⟨_, option, none⟩ =>
      if rest.isEmpty then .awaits [] option else .sets [(option, String.ofList rest)]

/-- Reads a word behind two hyphens, with a value behind an equals sign or in the next word. -/
def readLong (spellings : List Spelling) (word : List Char) : Reading :=
  let name := word.takeWhile (· != '=')
  match spelled? spellings (String.ofList name), word.drop name.length with
  | some ⟨_, option, none⟩, _ :: value => .sets [(option, String.ofList value)]
  | some ⟨_, option, none⟩, [] => .awaits [] option
  | some ⟨_, option, some value⟩, [] => .sets [(option, value)]
  | _, _ => .unknown

/-- Whether a word is about options; a hyphen alone is an argument. -/
def isOptionWord (word : String) : Bool :=
  match word.toList with
  | '-' :: _ :: _ => true
  | _ => false

def readWord (spellings : List Spelling) (word : String) : Reading :=
  match word.toList with
  | '-' :: '-' :: _ => readLong spellings word.toList
  | _ :: letters => readLetters spellings letters
  | [] => .unknown

/-- Sorts the words of a command line into options and arguments, unless an option is unknown or
lacks its value. -/
def Arguments.read (spellings : List Spelling) : List String → Option Arguments
  | [] => some {}
  | word :: rest =>
    if word == "--" then
      some { positional := rest }
    else if isOptionWord word then
      match readWord spellings word, rest with
      | .sets options, rest =>
        (Arguments.read spellings rest).map fun a => { a with options := options ++ a.options }
      | .awaits options option, value :: rest =>
        (Arguments.read spellings rest).map fun a => { a with options := options ++ (option, value) :: a.options }
      | _, _ => none
    else
      (Arguments.read spellings rest).map (Arguments.addPositional word)

def dropSwitches (switches : List String) : List String → Option (List String)
  | [] => some []
  | word :: rest =>
    if word == "--" then some rest
    else if isOptionWord word then
      if switches.contains word then dropSwitches switches rest else none
    else some (word :: rest)

end RouteCensus.Command
