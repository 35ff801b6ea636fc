import RouteCensus.Json.Reader
import RouteCensus.Source.Grammar
import RouteCensus.Source.Outline
import RouteCensus.Workspace.Tree

/-! # Snapshots

A snapshot describes a workspace in JSON: `dirs` lists folders, `files` lists
files with their content as `text` or `hex`, `env` holds variables and `homes` the
home folders of users.  A file may carry `trees`, the outlines of its parse trees by grammar.  An outline entry is
the list of depth, kind, flags, first byte, last byte and, if it has one, role.
-/

namespace RouteCensus

structure ParsedSource where
  grammar : Grammar
  source : String
  outline : List OutlineEntry
  deriving DecidableEq, Repr

structure Snapshot where
  workspace : Workspace
  parsed : List ParsedSource := []
  deriving Repr

namespace Snapshot

def string? : Json → Option String
  | .str (.text s) => some s
  | _ => none

def natural? : Json → Option Nat
  | .int n => if 0 ≤ n then some n.toNat else none
  | _ => none

def items? : Json → Option (List Json)
  | .arr items => some items
  | _ => none

def members : Json → List (String × Json)
  | .obj members => members.filterMap fun m =>
    match m.1 with
    | .text name => some (name, m.2)
    | .broken _ => none
  | _ => []

/-- The flags are the sum of 1 for a named node, 2 for a missing one, 4 for an error and 8 for a
damaged node. -/
def outlineEntry? : Json → Option OutlineEntry
  | .arr (depth :: kind :: flags :: start :: stop :: role) => do
    let flags ← natural? flags
    return {
      depth := ← natural? depth
      kind := ← string? kind
      named := flags.testBit 0
      missing := flags.testBit 1
      error := flags.testBit 2
      damaged := flags.testBit 3
      start := ← natural? start
      stop := ← natural? stop
      field := role.head?.bind string? }
  | _ => none

/-- The outlines of a source text; an unknown grammar is passed over. -/
def parsedSources (source : String) (trees : Json) : List ParsedSource :=
  (members trees).filterMap fun (name, entries) => do
    let grammar ← Grammar.ofName? name
    let outline ← (← items? entries).mapM outlineEntry?
    return { grammar := grammar, source := source, outline := outline }

/-- The parser that knows the given sources; of any other it gives an empty program. -/
def parserOf (parsed : List ParsedSource) : Parser := fun grammar source =>
  let known := parsed.find? fun p => p.grammar == grammar && p.source == source
  (known.bind fun p => Node.ofOutline? source.toUTF8 p.outline).getD (.mk { kind := "program" } [])

def hexBytes? : List Char → Option (List UInt8)
  | [] => some []
  | [_] => none
  | high :: low :: rest => do
    let high ← Json.hexDigit? high
    let low ← Json.hexDigit? low
    return UInt8.ofNat (16 * high + low) :: (← hexBytes? rest)

/-- The content of a file: raw bytes, else a text, else nothing. -/
def content? (file : Json) : Option (List UInt8) :=
  match file.member? "hex" with
  | some hex => (string? hex).bind fun s => hexBytes? s.toList
  | none =>
    match file.member? "text" with
    | some text => (string? text).map fun s => Text.Utf8.encode s.toList
    | none => some []

def addFile (s : Snapshot) (file : Json) : Option Snapshot := do
  let path ← (file.member? "path").bind string?
  let bytes ← content? file
  let workspace ← (s.workspace.write (Path.ofText path) bytes).toOption
  let source := String.ofList (Text.Utf8.decodeLenient bytes)
  return { workspace := workspace
           parsed := s.parsed ++ ((file.member? "trees").map (parsedSources source)).getD [] }

def addFolder (s : Snapshot) (folder : Json) : Option Snapshot := do
  let path ← string? folder
  let workspace ← (s.workspace.makeFolder (Path.ofText path)).toOption
  return { s with workspace := workspace }

def texts (value : Json) (name : String) : List (String × String) :=
  (members ((value.member? name).getD .null)).filterMap fun m => (string? m.2).map fun text => (m.1, text)

def listed (value : Json) (name : String) : List Json :=
  ((value.member? name).bind items?).getD []

def ofJson? (base : String) (value : Json) : Option Snapshot := do
  let bare : Workspace := { base := base, environment := texts value "env", homes := texts value "homes" }
  let empty ← (bare.makeFolder (Path.ofText "")).toOption
  let withFolders ← (listed value "dirs").foldlM addFolder { workspace := empty }
  (listed value "files").foldlM addFile withFolders

def parser (s : Snapshot) : Parser :=
  parserOf s.parsed

end Snapshot
end RouteCensus
