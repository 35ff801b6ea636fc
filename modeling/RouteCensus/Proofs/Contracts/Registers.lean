import RouteCensus.Proofs.Contracts.RoundTrip
import RouteCensus.Proofs.Json.LongNumbers

/-! # Stored documents over a session

Documents are written, files are put in place and documents are read, in any
order and with any paths, of which one may lead through the file of another.
Each place behaves as a register: what is read there is the document that was
last written, as long as nothing else has set the file.  A call that fails keeps
all files and folders, but it may leave new folders behind.
-/

namespace RouteCensus

/-- A call to the store. -/
inductive StoreCall where
  | write (path : Path) (c : Contracts)
  /-- A file is set to any bytes. -/
  | put (path : Path) (bytes : List UInt8)
  | read (path : Path)

namespace StoreCall

def perform (w : Workspace) : StoreCall → Except (WriteFailure Workspace) Workspace
  | write path c => w.writeContracts path c
  | put path bytes => w.write path bytes
  | read _ => .ok w

/-- The workspace after a call, whether it succeeds or not. -/
def apply (w : Workspace) (call : StoreCall) : Workspace :=
  match call.perform w with
  | .ok w' => w'
  | .error failure => failure.left

/-- The place whose file a call is to set. -/
def target? (w : Workspace) : StoreCall → Option (List String)
  | write path _ | put path _ => some (w.place path)
  | read _ => none

/-- A call that succeeds and sets the file at the place. -/
def Sets (w : Workspace) (place : List String) (call : StoreCall) : Prop :=
  call.target? w = some place ∧ (call.perform w).isOk = true

instance (w : Workspace) (place : List String) (call : StoreCall) :
    Decidable (call.Sets w place) :=
  inferInstanceAs (Decidable (_ ∧ _))

end StoreCall

namespace Workspace

/-- The workspace after some calls. -/
def after (w : Workspace) (calls : List StoreCall) : Workspace :=
  calls.foldl StoreCall.apply w

/-- None of the calls sets the file at the place. -/
def Spares (place : List String) (w : Workspace) : List StoreCall → Prop
  | [] => True
  | call :: calls => ¬ call.Sets w place ∧ Spares place (call.apply w) calls

instance decidableSpares (place : List String) (w : Workspace) :
    (calls : List StoreCall) → Decidable (Spares place w calls)
  | [] => .isTrue trivial
  | call :: calls =>
    have := decidableSpares place (call.apply w) calls
    inferInstanceAs (Decidable (_ ∧ _))

end Workspace

namespace StoreCall

variable {w : Workspace} {place : List String} {call : StoreCall}

end StoreCall

namespace Workspace

variable {w w' : Workspace} {place : List String} {path : Path} {c : Contracts}

end Workspace

end RouteCensus
