import RouteCensus.Call.Nesting
import RouteCensus.Endpoint.Descriptor
import RouteCensus.Endpoint.Index
import RouteCensus.Source.Grammar
import RouteCensus.Workspace.Scan

/-! # Analysing a workspace

Every source file is analysed on its own; a file that cannot be read or parsed
is reported and contributes nothing.  The endpoints of all files are merged in
the order of their paths.  A file that can be parsed but is nested too deeply for
its calls to be searched makes the whole analysis break off.
-/

namespace RouteCensus

structure FileAnalysis where
  failed : Bool := false
  endpoints : List Endpoint := []
  callSites : Nat := 0
  rejected : Nat := 0
  deriving DecidableEq, Repr

/-- The endpoints of the calls that qualify, and how many do not. -/
def FileAnalysis.ofCalls (sourceFile : String) (calls : List Observation) : FileAnalysis where
  endpoints := calls.filterMap fun call => call.describe? sourceFile
  callSites := calls.length
  rejected := calls.countP fun call => (call.describe? sourceFile).isNone

/-- Analyses the bytes of a file, where text that is not well-formed is dropped. -/
def analyzeBytes (parser : Parser) (path : Path) (sourceFile : String) (bytes : List UInt8) : FileAnalysis :=
  let source := String.ofList (Text.Utf8.decodeLenient bytes)
  match parseSource parser source (Grammar.ofPath path) with
  | .ok tree => .ofCalls sourceFile tree.observations
  | .error _ => { failed := true }

namespace Workspace

/-- Analyses one file, which fails if it is larger than the limit. -/
def analyzeFile (w : Workspace) (parser : Parser) (limit : Option Int) (path : Path) : FileAnalysis :=
  match w.fileBytes? path with
  | none => { failed := true }
  | some bytes =>
    if limit.any fun n : Int => decide (n < (bytes.length : Int)) then { failed := true }
    else analyzeBytes parser path (w.pathText path) bytes

/-- Whether the search for calls in a file, at most `depth` of them nested, breaks off once the file
was read and parsed. -/
def breaksOff (w : Workspace) (parser : Parser) (depth : Nat) (limit : Option Int) (path : Path) : Bool :=
  match w.fileBytes? path with
  | none => false
  | some bytes =>
    if limit.any fun n : Int => decide (n < (bytes.length : Int)) then false
    else
      match parseSource parser (String.ofList (Text.Utf8.decodeLenient bytes)) (Grammar.ofPath path) with
      | .ok tree => tree.tooDeep depth
      | .error _ => false

end Workspace

structure Analysis where
  root : Path
  filesScanned : Nat
  filesFailed : List Path
  callSites : Nat
  rejected : Nat
  duplicates : Nat
  endpoints : List Endpoint
  deriving DecidableEq, Repr

def FileAnalysis.total (number : FileAnalysis → Nat) (files : List (Path × FileAnalysis)) : Nat :=
  files.foldr (fun f sum => number f.2 + sum) 0

def Analysis.ofFiles (root : Path) (files : List (Path × FileAnalysis)) : Analysis :=
  let endpoints := aggregate (files.map fun f => f.2.endpoints)
  { root := root
    filesScanned := files.length
    filesFailed := (files.filter fun f => f.2.failed).map fun f => f.1
    callSites := FileAnalysis.total FileAnalysis.callSites files
    rejected := FileAnalysis.total FileAnalysis.rejected files
    duplicates := FileAnalysis.total (fun f => f.endpoints.length) files - endpoints.length
    endpoints := endpoints }

def Analysis.failedNames (a : Analysis) : List String :=
  a.filesFailed.map fun p => String.intercalate "/" (p.parts.drop a.root.parts.length)

inductive AnalysisError where
  | scan (cause : ScanError)
  /-- Some file is nested too deeply. -/
  | tooDeep
  /-- The folder is named by the home of a user who has none. -/
  | noHome
  deriving DecidableEq, Repr

namespace Workspace

def analyze (w : Workspace) (parser : Parser) (depth : Nat) (settings : Settings) (limit : Option Int)
    (root : Path) : Except AnalysisError Analysis :=
  if w.isFolder root then
    let root := w.resolve root
    let options : ScanOptions :=
      { extensions := settings.extensions, ignored := some settings.ignoredDirs, limit := limit }
    match w.scan options root with
    | .error cause => .error (.scan cause)
    | .ok paths =>
      if paths.any (w.breaksOff parser depth (some settings.maxFileBytes)) then .error .tooDeep
      else
        .ok (.ofFiles root (paths.map fun p => (p, w.analyzeFile parser (some settings.maxFileBytes) p)))
  else
    .error (.scan (.noFolder root))

/-- Analyses a folder that may be named by the home of a user. -/
def analyzeFolder (w : Workspace) (parser : Parser) (depth : Nat) (settings : Settings) (limit : Option Int)
    (root : Path) : Except AnalysisError Analysis :=
  match w.expandUser? root with
  | none => .error .noHome
  | some root => w.analyze parser depth settings limit root

end Workspace

end RouteCensus
