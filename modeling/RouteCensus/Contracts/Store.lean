import RouteCensus.Contracts.Document
import RouteCensus.Json.Display
import RouteCensus.Json.Reader
import RouteCensus.Text.Lines
import RouteCensus.Text.Utf8
import RouteCensus.Workspace.Tree

/-! # Stored contracts

A document is kept in a file of the workspace.  Reading refuses a file that is
no JSON, that has another version, or whose content does not have the shape of
a document, in this order.  The wording of the report on such content is up to the
caller: it may quote any part of the content.
-/

namespace RouteCensus

inductive StoreError where
  | notFound (path : Path)
  /-- The bytes of the file are not UTF-8. -/
  | notText
  /-- The text has a number or a nesting beyond what is read. -/
  | beyondLimits (cause : Json.Fault)
  | notJson (path : Path) (cause : Json.ReadError)
  | unsupportedVersion (found : Json)
  | malformed (path : Path) (value : Json) (issues : List Issue)
  deriving Repr

/-- The wording of a report on a value that does not have the shape of a document. -/
abbrev Report := Json → List Issue → String

/-- A report that quotes the value at the place of each issue. -/
def quotingReport : Report := fun value issues =>
  String.intercalate "\n" (issues.map fun issue =>
    s!"{issue.placeText}\n  [type={issue.kind.code}, input_value={(issue.valueIn value).display}]")

def StoreError.message (report : Report) (base : String) : StoreError → String
  | notFound path => s!"Contracts file not found: {path.text base}"
  | notText => "Contracts file is not UTF-8"
  | beyondLimits cause => cause.message
  | notJson path cause => s!"Contracts file is not valid JSON: {path.text base} ({cause.message})"
  | unsupportedVersion found =>
    s!"Unsupported contracts schema version {found.display} (expected {contractsVersion})"
  | malformed path value issues =>
    s!"Contracts file is malformed: {path.text base}\n{report value issues}"

/-- Whether a command that reads the file breaks off, rather than report the error. -/
def StoreError.breaksOff : StoreError → Bool
  | notText | beyondLimits _ => true
  | notFound _ | notJson _ _ | unsupportedVersion _ | malformed _ _ _ => false

/-- Whether a value counts as the supported version; the truth value does, as the number does. -/
def isSupportedVersion : Json → Bool
  | .int n => n == contractsVersion
  | .bool b => b
  | .real x => x.toInt? == some contractsVersion
  | _ => false

namespace Contracts

/-- The version that a value states, the null value if it states none. -/
def statedVersion (value : Json) : Json :=
  (value.member? "schemaVersion").getD .null

def ofJson (path : Path) (value : Json) : Except StoreError Contracts :=
  if isSupportedVersion (statedVersion value) then (check value).mapError (.malformed path value)
  else .error (.unsupportedVersion (statedVersion value))

def ofText (levels : Nat) (path : Path) (text : List Char) : Except StoreError Contracts :=
  match Json.read levels text with
  | .error cause => .error (if cause.fault.isLimit then .beyondLimits cause.fault else .notJson path cause)
  | .ok value => ofJson path value

def ofBytes (levels : Nat) (path : Path) (bytes : List UInt8) : Except StoreError Contracts :=
  match Text.Utf8.decode? bytes with
  | none => .error .notText
  | some text => ofText levels path (Text.unixLines text)

def bytes (c : Contracts) : List UInt8 :=
  Text.Utf8.encode c.text.toList

end Contracts

namespace Workspace

/-- Reads a document, with at most `levels` arrays and objects in each other. -/
def readContracts (w : Workspace) (levels : Nat) (path : Path) : Except StoreError Contracts :=
  match w.fileBytes? path with
  | none => .error (.notFound path)
  | some bytes => Contracts.ofBytes levels path bytes

def writeContracts (w : Workspace) (path : Path) (c : Contracts) :
    Except (WriteFailure Workspace) Workspace :=
  w.write path c.bytes

end Workspace

def defaultContractsPath (folder : Path) : Path :=
  (folder.child ".backlist").child "contracts.json"

end RouteCensus
