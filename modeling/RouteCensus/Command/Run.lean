import RouteCensus.Command.Console
import RouteCensus.Command.EndpointTable
import RouteCensus.Command.Options
import RouteCensus.Contracts.Store
import RouteCensus.Text.Pieces
import RouteCensus.Workspace.Analysis

/-! # Commands

`scan` analyses a folder, reports its endpoints and writes them to a contracts
file.  `endpoints list` reports the endpoints of such a file.
-/

namespace RouteCensus.Command

/-- What a command relies on where it runs. -/
structure Host where
  parser : Parser
  /-- How many calls can be nested in the search of a tree. -/
  depth : Nat
  /-- How many arrays and objects can be nested in a document that is read. -/
  levels : Nat
  report : Report
  console : Console

/-- The nesting that a stack of a thousand calls leaves room for. -/
def usualDepth : Nat := 985

/-- A host with a plain terminal, whose reports quote the values. -/
def Host.usual (parser : Parser) : Host where
  parser := parser
  depth := usualDepth
  levels := usualDepth
  report := quotingReport
  console := .ofScreen { isCharName := fun _ => false }

structure Scan where
  source : String := "src"
  out : Option String := none
  write : Bool := true
  maxFiles : Option Int := none
  format : String := "table"
  deriving DecidableEq, Repr

structure Listing where
  contracts : Option String := none
  method : Option String := none
  routeContains : Option String := none
  controller : Option String := none
  limit : Int := 200
  format : String := "table"
  deriving DecidableEq, Repr

inductive Request where
  | scan (options : Scan)
  | list (options : Listing)
  deriving DecidableEq, Repr

def scanSpellings : List Spelling :=
  [⟨"--out", "out", none⟩, ⟨"-o", "out", none⟩, ⟨"--write", "write", some "yes"⟩, ⟨"--no-write", "write", some "no"⟩,
    ⟨"--workers", "workers", none⟩, ⟨"--max-files", "max-files", none⟩, ⟨"--format", "format", none⟩]

def listSpellings : List Spelling :=
  [⟨"--contracts", "contracts", none⟩, ⟨"-c", "contracts", none⟩, ⟨"--method", "method", none⟩,
    ⟨"--route-contains", "route-contains", none⟩, ⟨"--controller", "controller", none⟩,
    ⟨"--limit", "limit", none⟩, ⟨"--format", "format", none⟩]

/-- The number that an option holds; fails if the option is given and holds none. -/
def numberOption (a : Arguments) (option : String) : Option (Option Int) :=
  match a.value? option with
  | none => some none
  | some text => (Integer.read? text).map some

def Scan.ofWords? (words : List String) : Option Scan := do
  let a ← Arguments.read scanSpellings words
  let maxFiles ← numberOption a "max-files"
  let workers ← numberOption a "workers"
  if workers.any (· < 1) || 1 < a.positional.length then
    none
  else
    return { source := a.positional.head?.getD "src"
             out := a.value? "out"
             write := a.value? "write" != some "no"
             maxFiles := maxFiles
             format := (a.value? "format").getD "table" }

def Listing.ofWords? (words : List String) : Option Listing := do
  let a ← Arguments.read listSpellings words
  let limit ← numberOption a "limit"
  if a.positional.isEmpty then
    return { contracts := a.value? "contracts"
             method := a.value? "method"
             routeContains := a.value? "route-contains"
             controller := a.value? "controller"
             limit := limit.getD 200
             format := (a.value? "format").getD "table" }
  else
    none

def Request.ofWords? (words : List String) : Option Request := do
  match ← dropSwitches ["--debug"] words with
  | "scan" :: rest => (Scan.ofWords? rest).map .scan
  | "endpoints" :: rest =>
    match ← dropSwitches [] rest with
    | "list" :: rest => (Listing.ofWords? rest).map .list
    | _ => none
  | _ => none

inductive Failure where
  | settings (cause : SettingsError)
  /-- A path is given by the home of a user who has none. -/
  | noHome
  /-- A source file is nested too deeply. -/
  | tooDeep
  | read (cause : StoreError)
  | write (cause : WriteError)
  | markup (cause : Terminal.Markup.Error)
  deriving Repr

structure Outcome where
  exitCode : Nat := 0
  output : String := ""
  failure : Option Failure := none
  workspace : Workspace
  deriving Repr

def Outcome.broken (w : Workspace) (output : String) (cause : Failure) : Outcome :=
  { exitCode := 1, output := output, failure := some cause, workspace := w }

/-- The end of a command after its output was printed, perhaps not all of it. -/
def Outcome.ended (w : Workspace) (exitCode : Nat) (output : List Char) :
    Option Terminal.Markup.Error → Outcome
  | none => { exitCode := exitCode, output := String.ofList output, workspace := w }
  | some wrong => .broken w (String.ofList output) (.markup wrong)

/-- Words that make no request, or a folder that is not there. -/
def Outcome.usage (w : Workspace) : Outcome :=
  { exitCode := 2, workspace := w }

def isJsonFormat (format : String) : Bool :=
  Text.downcase format == "json"

def endpointsJson (endpoints : List Endpoint) : Item :=
  .raw ((Json.arr (endpoints.map Endpoint.toJson)).pretty .ascii)

def pathOf (w : Workspace) (s : String) : Except Failure Path :=
  match w.expandUser? (Path.ofText s) with
  | none => .error .noHome
  | some path => .ok (w.resolve path)

/-- The contracts file: the one asked for, else the one of the settings, else the default one; an
empty text asks for none. -/
def contractsPath (w : Workspace) (asked : Option String) : Except Failure Path :=
  match asked.filter fun s => !s.isEmpty with
  | some s => pathOf w s
  | none =>
    match w.settings [] with
    | .error cause => .error (.settings cause)
    | .ok settings =>
      match settings.contractsPath.filter fun s => !s.isEmpty with
      | some s => pathOf w s
      | none => .ok (defaultContractsPath (Path.ofText ""))

def failedItems (a : Analysis) : List Item :=
  if a.filesFailed.isEmpty then
    []
  else
    .message s!"[yellow]Unparseable files: {a.filesFailed.length}[/yellow]" ::
      (a.failedNames.take 20).map fun name => .message s!"  {name}"

def scanItems (w : Workspace) (format : String) (a : Analysis) : List Item :=
  let root := w.pathText a.root
  if isJsonFormat format then
    [endpointsJson a.endpoints]
  else
    [.message s!"[bold green]backlist[/bold green] scan: {root}",
      .message s!"Files scanned: {a.filesScanned}",
      .message s!"HTTP call sites: {a.callSites} (non-API rejected: {a.rejected})"] ++
    failedItems a ++
    [.message "",
      .message s!"Endpoints: [bold]{a.endpoints.length}[/bold] (duplicates dropped: {a.duplicates})"] ++
    if a.endpoints.isEmpty then [] else [.table (endpointTable root a.endpoints)]

def writeReport (now : Timestamp) (host : Host) (w : Workspace) (options : Scan) (a : Analysis)
    (printed : List Char) : Outcome :=
  match contractsPath w options.out with
  | .error cause => .broken w (String.ofList printed) cause
  | .ok path =>
    match w.writeContracts path (.ofScan now (w.pathText a.root) a.endpoints) with
    | .error failure => .broken failure.left (String.ofList printed) (.write failure.cause)
    | .ok written =>
      let note := if isJsonFormat options.format then [] else
        [.message s!"[bold green]Wrote[/bold green] contracts to: {w.pathText path}"]
      let (text, wrong) := host.console.printAll note
      .ended written 0 (printed ++ text) wrong

def runScan (now : Timestamp) (host : Host) (w : Workspace) (options : Scan) : Outcome :=
  match pathOf w options.source with
  | .error cause => .broken w "" cause
  | .ok source =>
    match w.settings [] with
    | .error cause => .broken w "" (.settings cause)
    | .ok settings =>
      match w.analyze host.parser host.depth settings options.maxFiles source with
      | .error (.scan _) => .usage w
      | .error .tooDeep => .broken w "" .tooDeep
      | .error .noHome => .broken w "" .noHome
      | .ok a =>
        match host.console.printAll (scanItems w options.format a) with
        | (text, none) => if options.write then writeReport now host w options a text else .ended w 0 text none
        | (text, wrong) => .ended w 0 text wrong

/-- Whether an endpoint passes the filters; an empty filter lets all pass. -/
def Listing.selects (options : Listing) (e : Endpoint) : Bool :=
  let passes := fun (filter : Option String) (test : String → Bool) =>
    (filter.filter fun s => !s.isEmpty).all test
  passes options.method (fun s => e.method.word == Text.upcase s) &&
    passes options.routeContains (fun s => Text.occurs s.toList e.route.toList) &&
    passes options.controller (fun s => Text.downcase e.controllerName == Text.downcase s)

def Listing.rows (options : Listing) (endpoints : List Endpoint) : List Endpoint :=
  (endpoints.filter options.selects).take options.limit.toNat

def listItems (w : Workspace) (options : Listing) (path : Path) (c : Contracts) : List Item :=
  let rows := options.rows c.endpoints
  if isJsonFormat options.format then
    [endpointsJson rows]
  else
    [.message s!"[bold]Contracts:[/bold] {w.pathText path} (generated {c.generatedAt.displayText})",
      .message s!"[bold]Endpoints:[/bold] {rows.length} (showing up to {options.limit})",
      .table (endpointTable c.root rows)]

def finish (host : Host) (w : Workspace) (exitCode : Nat) (items : List Item) : Outcome :=
  let (text, wrong) := host.console.printAll items
  .ended w exitCode text wrong

def runList (host : Host) (w : Workspace) (options : Listing) : Outcome :=
  match contractsPath w options.contracts with
  | .error cause => .broken w "" cause
  | .ok path =>
    match w.readContracts host.levels path with
    | .ok c => finish host w 0 (listItems w options path c)
    | .error cause =>
      if cause.breaksOff then .broken w "" (.read cause)
      else finish host w 1 [.message s!"[bold red]error:[/bold red] {cause.message host.report w.base}"]

def run (now : Timestamp) (host : Host) (w : Workspace) (words : List String) : Outcome :=
  match Request.ofWords? words with
  | none => .usage w
  | some (.scan options) => runScan now host w options
  | some (.list options) => runList host w options

end RouteCensus.Command
