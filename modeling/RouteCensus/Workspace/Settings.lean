import RouteCensus.Check.Scalar
import RouteCensus.Text.Case
import RouteCensus.Text.Lines
import RouteCensus.Text.Utf8
import RouteCensus.Workspace.EnvFile
import RouteCensus.Workspace.Tree

/-! # Settings

A setting is taken from the first source that has it: the caller, the
environment, a file of variables, the default.  The caller may also say where and
how variables are looked up; else their names start with a common word and count
in any case, and the file is `.env` in the workspace.
-/

namespace RouteCensus

structure Settings where
  extensions : List String := [".js", ".jsx", ".ts", ".tsx"]
  ignoredDirs : List String :=
    [".git", "node_modules", "dist", "build", "out", "coverage", ".next", ".nuxt", ".turbo", ".cache", ".backlist"]
  maxFileBytes : Int := 2000000
  workers : Option Int := none
  contractsPath : Option String := none
  debug : Bool := false
  deriving DecidableEq, Repr

namespace Settings

/-- The items between commas, trimmed, without empty ones. -/
def commaItems (s : List Char) : List String :=
  (((s.splitOn ',').map Text.trim).filter fun item => !item.isEmpty).map String.ofList

def checkItems : Json → Checked (List String)
  | .str (.text s) => .ok (commaItems s.toList)
  | .arr values => Check.items Check.string values
  | _ => .fail .notTuple

/-- Extensions are kept in lower case and start with a dot. -/
def normalExtension (s : String) : String :=
  if s.toList.head? == some '.' then Text.downcase s else "." ++ Text.downcase s

def checkExtensions (value : Json) : Checked (List String) :=
  Except.map (fun items => items.map normalExtension) (checkItems value)

def checkWorkers (value : Json) : Checked (Option Int) :=
  match Check.nullable Check.integer value with
  | .ok (some n) => if n < 1 then .fail (.rule "Value error, workers must be >= 1") else .ok (some n)
  | other => other

abbrev Values := List (String × Json)

structure Lookup where
  /-- The start of the names of variables. -/
  start : String := "BACKLIST_"
  /-- Files of variables, of which a later one goes before an earlier one. -/
  files : List String := [".env"]
  /-- Whether names count exactly as they are spelled. -/
  exactCase : Bool := false
  /-- Whether empty variables are passed over. -/
  skipEmpty : Bool := false
  /-- The text that stands for no value. -/
  nullText : Option String := none
  deriving DecidableEq, Repr

def valueOf? (values : Values) (name : String) : Option Json :=
  (values.find? fun v => v.1 == name).map (·.2)

def paths : Json → List String
  | .str (.text s) => [s]
  | .arr values => values.filterMap Json.text?
  | _ => []

/-- What the caller's values say about the lookup of variables. -/
def Lookup.ofValues (values : Values) : Lookup :=
  let text? := fun name => (valueOf? values name).bind Json.text?
  let holds := fun name => match valueOf? values name with
    | some (.bool b) => b
    | _ => false
  let defaults : Lookup := {}
  { start := (text? "_env_prefix").getD defaults.start
    files := ((valueOf? values "_env_file").map paths).getD defaults.files
    exactCase := holds "_case_sensitive"
    skipEmpty := holds "_env_ignore_empty"
    nullText := text? "_env_parse_none_str" }

def Lookup.key (l : Lookup) (name : String) : String :=
  if l.exactCase then name else Text.downcase name

/-- The value that the caller gives for a name; of several spellings the first one counts. -/
def given? (l : Lookup) (values : Values) (name : String) : Option Json :=
  (values.find? fun v => l.key v.1 == name).map (·.2)

/-- The value of the variable for a name; of several spellings the last one counts. -/
def fromVariable? (l : Lookup) (known : List EnvFile.Variable) (name : String) : Option Json := do
  let counted := known.filter fun v => !(l.skipEmpty && v.2 == some "")
  let text ← (← counted.reverse.find? fun v => l.key v.1 == l.key (l.start ++ name)).2
  return if l.nullText == some text then .null else .string text

def find? (l : Lookup) (values : Values) (environment : List (String × String)) (file : List EnvFile.Variable)
    (name : String) : Option Json :=
  (given? l values name).or
    ((fromVariable? l (environment.map fun v => (v.1, some v.2)) name).or (fromVariable? l file name))

/-- Checks a value under its name; without one the default stands. -/
def setting {α : Type} (find? : String → Option Json) (name : String) (default : α) (check : Json → Checked α) :
    Checked α :=
  match find? name with
  | some value => (check value).under (.name name)
  | none => .ok default

def load (values : Values) (environment : List (String × String)) (file : List EnvFile.Variable) :
    Checked Settings :=
  let find? := find? (.ofValues values) values environment file
  let defaults : Settings := {}
  (Except.ok Settings.mk : Checked _)
  |> (Checked.ap · (setting find? "extensions" defaults.extensions checkExtensions))
  |> (Checked.ap · (setting find? "ignored_dirs" defaults.ignoredDirs checkItems))
  |> (Checked.ap · (setting find? "max_file_bytes" defaults.maxFileBytes Check.integer))
  |> (Checked.ap · (setting find? "workers" defaults.workers checkWorkers))
  |> (Checked.ap · (setting find? "contracts_path" defaults.contractsPath (Check.nullable Check.string)))
  |> (Checked.ap · (setting find? "debug" defaults.debug Check.truth))

end Settings

inductive SettingsError where
  /-- The bytes of a file of variables are not UTF-8. -/
  | notText
  | invalid (issues : List Issue)
  deriving Repr

namespace Workspace

/-- The variables of a file of the workspace, none if there is no such file.  A byte order mark
at its start is passed over. -/
def fileVariables? (w : Workspace) (path : String) : Option (List EnvFile.Variable) :=
  match w.fileBytes? (Path.ofText path) with
  | some bytes => do
    let text ← Text.Utf8.decode? bytes
    return EnvFile.read w.environment (Text.unixLines (if text.head? == some '\uFEFF' then text.tail else text))
  | none => some []

def settings (w : Workspace) (values : Settings.Values) : Except SettingsError Settings :=
  match (Settings.Lookup.ofValues values).files.mapM w.fileVariables? with
  | some files => (Settings.load values w.environment files.flatten).mapError .invalid
  | none => .error .notText

/-- Whether the environment asks for verbose logs; the name of this variable counts exactly. -/
def wantsDebug (w : Workspace) : Bool :=
  let value := ((w.environment.reverse.find? fun v => v.1 == "BACKLIST_DEBUG").map (·.2)).getD ""
  ["1", "true", "yes", "on"].contains (Text.downcase value)

end Workspace
end RouteCensus
