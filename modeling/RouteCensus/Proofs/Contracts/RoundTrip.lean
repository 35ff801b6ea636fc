import RouteCensus.Contracts.Store
import RouteCensus.Proofs.Contracts.Document
import RouteCensus.Proofs.Json.Lines
import RouteCensus.Proofs.Text.Utf8
import RouteCensus.Proofs.Workspace.Effects

/-! # Stored documents are read again

The bytes of a document decode to its text, which has no line break to
translate, parses to the value of the document and passes its check.  Numbers
that have more digits than a reader takes are the one exception.
-/

namespace RouteCensus

namespace Contracts

theorem toList_text (c : Contracts) : c.text.toList = c.toJson.write .unicode 0 ++ ['\n'] := by
  simp [text, Json.pretty]

/-- Reading the bytes of a document comes down to reading its text as it was written. -/
theorem WellFormed.ofBytes_eq {digits : Nat} {c : Contracts} (hc : c.WellFormed digits)
    (levels : Nat) (path : Path) :
    ofBytes levels path c.bytes = ofText levels path (c.toJson.write .unicode 0 ++ ['\n']) := by
  rw [ofBytes, bytes, Text.Utf8.decode?_encode, toList_text]
  dsimp only
  rw [Json.unixLines_write (hc.toJson_plain (Nat.le_refl 5))]

/-- The value of a document is taken back exactly if its version is the supported one. -/
theorem WellFormed.ofJson_toJson {digits : Nat} {c : Contracts} (hc : c.WellFormed digits)
    (path : Path) :
    ofJson path c.toJson = if c.schemaVersion = contractsVersion then .ok c
      else .error (.unsupportedVersion (.int c.schemaVersion)) := by
  have hstated : statedVersion c.toJson = .int c.schemaVersion := rfl
  rw [ofJson, hstated, hc.check_toJson]
  simp only [isSupportedVersion, beq_iff_eq]
  rfl

theorem WellFormed.ofBytes_bytes {levels : Nat} {c : Contracts}
    (hc : c.WellFormed Json.mostDigits) (hlevels : 5 ≤ levels) (path : Path) :
    ofBytes levels path c.bytes = if c.schemaVersion = contractsVersion then .ok c
      else .error (.unsupportedVersion (.int c.schemaVersion)) := by
  rw [hc.ofBytes_eq, ofText, Json.read_write (hc.toJson_plain hlevels)]
  exact hc.ofJson_toJson path

end Contracts

namespace Workspace

theorem readContracts_eq {w w' : Workspace} {path : Path} {c : Contracts}
    (h : w.writeContracts path c = .ok w') (levels : Nat) :
    w'.readContracts levels path = Contracts.ofBytes levels path c.bytes := by
  rw [readContracts, fileBytes?_write h]

end Workspace

end RouteCensus
