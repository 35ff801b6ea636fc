import RouteCensus.Proofs.Contracts.Document
import RouteCensus.Proofs.Json.Lines
import RouteCensus.Proofs.Json.LongNumbers
import RouteCensus.Proofs.Text.Utf8
import RouteCensus.Contracts.Store
import Mathlib.Algebra.Order.Field.Rat
import Mathlib.Data.Nat.Cast.Field

/-! # The version gate

A stored value is looked at for its version before anything else.  The version
must equal the number 1, as a whole number, as a fraction or as a truth value;
any other value is refused for its version, whatever else is wrong with it.  The
check of the whole document reads the version once more, with conversions and
under two names, and comes to the number 1 for every value that passed the gate.
-/

namespace RouteCensus

namespace Double

/-- The number that a finite value stands for. -/
def value? : Double → Option ℚ
  | finite negative mantissa exponent =>
    some ((if negative then -1 else 1) * mantissa * (2 : ℚ) ^ exponent)
  | _ => none

theorem two_zpow_eq (e : Int) :
    (2 : ℚ) ^ e = ((Nat.pow 2 e.toNat : Nat) : ℚ) / (Nat.pow 2 (-e).toNat : Nat) := by
  obtain ⟨n, rfl | rfl⟩ := e.eq_nat_or_neg
  · simp
  · simp

/-- A quotient is whole exactly if the division has no rest. -/
theorem cast_div_eq_iff {n d : Nat} (hd : 0 < d) {k : Int} :
    (n : ℚ) / d = k ↔ n % d = 0 ∧ ((n / d : Nat) : Int) = k := by
  have hne : (d : ℚ) ≠ 0 := Nat.cast_ne_zero.2 hd.ne'
  constructor
  · intro h
    have hnat : (n : Int) = k * d := by
      rw [div_eq_iff hne] at h
      exact_mod_cast h
    have hdvd : d ∣ n := Int.natCast_dvd_natCast.1 ⟨k, hnat.trans (mul_comm _ _)⟩
    refine ⟨Nat.mod_eq_zero_of_dvd hdvd, ?_⟩
    rw [Int.natCast_div, hnat, Int.mul_ediv_cancel _ (Int.natCast_ne_zero.2 hd.ne')]
  · rintro ⟨hmod, rfl⟩
    rw [Int.cast_natCast, Nat.cast_div (Nat.dvd_of_mod_eq_zero hmod) hne]

/-- The whole number of a value is the number that it stands for. -/
theorem toInt?_eq_some_iff (x : Double) (n : Int) :
    x.toInt? = some n ↔ x.value? = some (n : ℚ) := by
  cases x with
  | nan | infinite => simp [toInt?, value?]
  | finite negative mantissa exponent =>
    have hd : 0 < Nat.pow 2 (-exponent).toNat := Nat.pow_pos (by decide)
    have hvalue : (mantissa : ℚ) * 2 ^ exponent =
        ((mantissa * Nat.pow 2 exponent.toNat : Nat) : ℚ) / (Nat.pow 2 (-exponent).toNat : Nat) := by
      rw [two_zpow_eq, Nat.cast_mul, mul_div_assoc]
    rw [toInt?, value?, Option.some_inj, mul_assoc, hvalue, Option.ite_none_right_eq_some,
      Option.some_inj]
    generalize mantissa * Nat.pow 2 exponent.toNat = scaled
    cases negative with
    | false =>
      simp only [Bool.false_eq_true, if_false, one_mul]
      exact (cast_div_eq_iff hd).symm
    | true =>
      simp only [if_true, neg_one_mul, neg_eq_iff_eq_neg, ← Int.cast_neg]
      exact (cast_div_eq_iff hd).symm

end Double

namespace Json

/-- A value equals a whole number if it is a number or a truth value that stands for it. -/
def EqualsInt (n : Int) : Json → Prop
  | .int m => m = n
  | .bool b => (if b then 1 else 0) = n
  | .real x => x.value? = some (n : ℚ)
  | _ => False

/-- An object whose version equals 1. -/
def StatesOne (value : Json) : Prop :=
  ∃ members version, value = .obj members ∧ value.member? "schemaVersion" = some version ∧
    version.EqualsInt 1

end Json

theorem isSupportedVersion_iff (version : Json) :
    isSupportedVersion version = true ↔ version.EqualsInt 1 := by
  cases version with
  | int n => simp [isSupportedVersion, Json.EqualsInt, contractsVersion]
  | bool b => cases b <;> simp [isSupportedVersion, Json.EqualsInt]
  | real x =>
    simp only [isSupportedVersion, Json.EqualsInt, beq_iff_eq]
    exact x.toInt?_eq_some_iff 1
  | null | str | arr | obj => simp [isSupportedVersion, Json.EqualsInt]

/-- Whatever equals 1 is converted to 1. -/
theorem Check.integer_of_equalsInt_one {version : Json} (h : version.EqualsInt 1) :
    Check.integer version = .ok 1 := by
  cases version with
  | int n => exact congrArg Except.ok h
  | bool b => exact congrArg Except.ok h
  | real x =>
    have hwhole := (x.toInt?_eq_some_iff 1).2 h
    cases x with
    | nan | infinite => cases hwhole
    | finite negative mantissa exponent =>
      simp only [Check.integer, Double.isFinite, hwhole]
      rfl
  | null | str | arr | obj => exact h.elim

namespace Checked

variable {α β : Type}

/-- All issues of a check stand under one of the names. -/
def IssuesUnder (names : List String) (part : Checked α) : Prop :=
  ∀ issues, part = .error issues → ∀ issue ∈ issues,
    ∃ name ∈ names, issue.place.head? = some (.name name)

theorem issuesUnder_ok (names : List String) (a : α) : IssuesUnder names (.ok a) := by
  intro issues h
  cases h

theorem issuesUnder_under {names : List String} {name : String} (hname : name ∈ names)
    (part : Checked α) : (part.under (.name name)).IssuesUnder names := by
  intro issues h issue hissue
  cases part with
  | ok a => cases h
  | error found =>
    cases h
    obtain ⟨old, -, rfl⟩ := List.mem_map.1 hissue
    exact ⟨name, hname, rfl⟩

theorem IssuesUnder.ap {names : List String} {f : Checked (α → β)} {part : Checked α}
    (hf : f.IssuesUnder names) (hpart : part.IssuesUnder names) :
    (f.ap part).IssuesUnder names := by
  intro issues h issue hissue
  cases f with
  | ok g =>
    cases part with
    | ok a => cases h
    | error second => cases h; exact hpart _ rfl issue hissue
  | error first =>
    cases part with
    | ok a => cases h; exact hf _ rfl issue hissue
    | error second =>
      cases h
      rcases List.mem_append.1 hissue with hissue | hissue
      · exact hf _ rfl issue hissue
      · exact hpart _ rfl issue hissue

theorem ap_eq_ok {f : Checked (α → β)} {part : Checked α} {b : β} (h : f.ap part = .ok b) :
    ∃ g a, f = .ok g ∧ part = .ok a ∧ g a = b := by
  cases f <;> cases part <;> cases h
  exact ⟨_, _, rfl, rfl, rfl⟩

end Checked

namespace Check

variable {α : Type} {names : List String} {first second : String}

theorem name_of_member? {members : List (JsonString × Json)} {found : String × Json}
    (h : member? members first second = some found) : found.1 = first ∨ found.1 = second := by
  unfold member? at h
  split at h
  · cases h
    exact .inl rfl
  · obtain ⟨value, -, rfl⟩ := Option.map_eq_some_iff.1 h
    exact .inr rfl

theorem issuesUnder_required (members : List (JsonString × Json)) (hfirst : first ∈ names)
    (hsecond : second ∈ names) (check : Json → Checked α) :
    (required members first second check).IssuesUnder names := by
  unfold required
  split
  · next hmember =>
    rcases name_of_member? hmember with rfl | rfl
    · exact Checked.issuesUnder_under hfirst _
    · exact Checked.issuesUnder_under hsecond _
  · exact Checked.issuesUnder_under hfirst _

theorem issuesUnder_optional (members : List (JsonString × Json)) (hfirst : first ∈ names)
    (hsecond : second ∈ names) (default : α) (check : Json → Checked α) :
    (optional members first second default check).IssuesUnder names := by
  unfold optional
  split
  · next hmember =>
    rcases name_of_member? hmember with rfl | rfl
    · exact Checked.issuesUnder_under hfirst _
    · exact Checked.issuesUnder_under hsecond _
  · exact Checked.issuesUnder_ok names default

end Check

namespace Contracts

theorem isSupportedVersion_statedVersion_iff (value : Json) :
    isSupportedVersion (statedVersion value) = true ↔ value.StatesOne := by
  rw [isSupportedVersion_iff]
  constructor
  · intro h
    cases value with
    | obj members =>
      cases hversion : Json.member? "schemaVersion" (.obj members) with
      | none =>
        rw [statedVersion, hversion] at h
        exact h.elim
      | some version =>
        rw [statedVersion, hversion] at h
        exact ⟨members, version, rfl, hversion, h⟩
    | null | bool | int | real | str | arr => exact h.elim
  · rintro ⟨members, version, -, hversion, hone⟩
    rw [statedVersion, hversion]
    exact hone

/-- The names of the members of a document other than its version. -/
def otherNames : List String :=
  ["generatedAt", "generated_at", "root", "endpoints"]

/-- The check of a value that states version 1 finds this version, and nothing to object to in it. -/
theorem check_of_statesOne {value : Json} (h : value.StatesOne) :
    (∀ c, check value = .ok c → c.schemaVersion = 1) ∧ (check value).IssuesUnder otherNames := by
  obtain ⟨members, version, rfl, hversion, hone⟩ := h
  have hfirst : Check.required members "schemaVersion" "schema_version" Check.integer = .ok 1 := by
    rw [Check.required, Check.member?, hversion]
    simp only [Check.integer_of_equalsInt_one hone]
    rfl
  rw [check, hfirst]
  constructor
  · intro c hc
    obtain ⟨withRoot, endpoints, hroot, -, rfl⟩ := Checked.ap_eq_ok hc
    obtain ⟨withTime, root, htime, -, rfl⟩ := Checked.ap_eq_ok hroot
    obtain ⟨withVersion, time, hstart, -, rfl⟩ := Checked.ap_eq_ok htime
    cases hstart
    rfl
  · exact (((Checked.issuesUnder_ok otherNames (Contracts.mk 1)).ap
      (Check.issuesUnder_required members (by decide) (by decide) Timestamp.check)).ap
      (Check.issuesUnder_required members (by decide) (by decide) Check.string)).ap
      (Check.issuesUnder_optional members (by decide) (by decide) [] (Check.list Endpoint.check))

end Contracts

namespace Workspace

/-- The value of the JSON text in a file. -/
def storedValue? (w : Workspace) (levels : Nat) (path : Path) : Option Json :=
  (w.fileBytes? path).bind fun bytes => (Text.Utf8.decode? bytes).bind fun text =>
    (Json.read levels (Text.unixLines text)).toOption

variable {w : Workspace} {levels : Nat} {path : Path}

theorem readContracts_of_storedValue? {value : Json} (h : w.storedValue? levels path = some value) :
    w.readContracts levels path = Contracts.ofJson path value := by
  obtain ⟨bytes, hbytes, h⟩ := Option.bind_eq_some_iff.1 h
  obtain ⟨text, htext, h⟩ := Option.bind_eq_some_iff.1 h
  cases hread : Json.read levels (Text.unixLines text) with
  | error cause =>
    rw [hread] at h
    cases h
  | ok found =>
    rw [hread] at h
    cases h
    simp only [readContracts, hbytes, Contracts.ofBytes, htext, Contracts.ofText, hread]

theorem exists_storedValue? {c : Contracts} (h : w.readContracts levels path = .ok c) :
    ∃ value, w.storedValue? levels path = some value := by
  unfold readContracts at h
  split at h
  · cases h
  · next bytes hbytes =>
    unfold Contracts.ofBytes at h
    split at h
    · cases h
    · next text htext =>
      unfold Contracts.ofText at h
      split at h
      · cases h
      · next value hread =>
        refine ⟨value, ?_⟩
        rw [storedValue?, hbytes, Option.bind_some, htext, Option.bind_some, hread]
        rfl

theorem readContracts_of_statesOne {value : Json} (h : w.storedValue? levels path = some value)
    (hone : value.StatesOne) :
    w.readContracts levels path = (Contracts.check value).mapError (.malformed path value) := by
  rw [readContracts_of_storedValue? h, Contracts.ofJson,
    if_pos ((Contracts.isSupportedVersion_statedVersion_iff value).2 hone)]

theorem readContracts_of_not_statesOne {value : Json} (h : w.storedValue? levels path = some value)
    (hone : ¬ value.StatesOne) :
    w.readContracts levels path =
      .error (.unsupportedVersion ((value.member? "schemaVersion").getD .null)) := by
  rw [readContracts_of_storedValue? h, Contracts.ofJson,
    if_neg fun hgate => hone ((Contracts.isSupportedVersion_statedVersion_iff value).1 hgate)]
  rfl

/-- A document is read only from an object whose version equals 1, and then it has version 1.  Every
other value is refused for its version, whatever else it holds; a value that states version 1 is
read, or refused as malformed for another member. -/
theorem readContracts_gated (w : Workspace) (levels : Nat) (path : Path) :
    (∀ c, w.readContracts levels path = .ok c →
      ∃ value, w.storedValue? levels path = some value ∧ value.StatesOne ∧ c.schemaVersion = 1) ∧
    ∀ value, w.storedValue? levels path = some value →
      (¬ value.StatesOne → w.readContracts levels path =
        .error (.unsupportedVersion ((value.member? "schemaVersion").getD .null))) ∧
      (value.StatesOne →
        (∃ c, w.readContracts levels path = .ok c ∧ c.schemaVersion = 1) ∨
        ∃ issues, w.readContracts levels path = .error (.malformed path value issues) ∧
          ∀ issue ∈ issues, ∃ name ∈ Contracts.otherNames,
            issue.place.head? = some (.name name)) := by
  have hpassed : ∀ value, w.storedValue? levels path = some value → value.StatesOne →
      (∃ c, w.readContracts levels path = .ok c ∧ c.schemaVersion = 1) ∨
      ∃ issues, w.readContracts levels path = .error (.malformed path value issues) ∧
        ∀ issue ∈ issues, ∃ name ∈ Contracts.otherNames,
          issue.place.head? = some (.name name) := by
    intro value hvalue hone
    obtain ⟨hversion, hissues⟩ := Contracts.check_of_statesOne hone
    rw [readContracts_of_statesOne hvalue hone]
    cases hcheck : Contracts.check value with
    | ok c => exact .inl ⟨c, rfl, hversion c hcheck⟩
    | error issues => exact .inr ⟨issues, rfl, hissues issues hcheck⟩
  refine ⟨fun c hc => ?_, fun value hvalue =>
    ⟨readContracts_of_not_statesOne hvalue, hpassed value hvalue⟩⟩
  obtain ⟨value, hvalue⟩ := exists_storedValue? hc
  by_cases hone : value.StatesOne
  · refine ⟨value, hvalue, hone, ?_⟩
    rcases hpassed value hvalue hone with ⟨d, hd, hversion⟩ | ⟨issues, herror, -⟩
    · rw [hc] at hd
      exact Except.ok.inj hd ▸ hversion
    · rw [hc] at herror
      cases herror
  · rw [readContracts_of_not_statesOne hvalue hone] at hc
    cases hc

/-- A workspace with the text in its only file. -/
def withText (text : List Char) : Workspace where
  base := "/"
  files := .folder [("c.json", .file (Text.Utf8.encode text))]

theorem fileBytes?_withText (text : List Char) :
    (withText text).fileBytes? ⟨true, ["c.json"]⟩ = some (Text.Utf8.encode text) := by
  rfl

/-- The version may be a truth value, and a second one under the other name does not count. -/
theorem readContracts_twoVersions :
    ∃ c, (withText ("\x7b\"schema_version\": 7, \"schemaVersion\": true, \"root\": \"/r\", " ++
        "\"generatedAt\": \"2024-05-06T07:08:09Z\"\x7d").toList).readContracts 985
          ⟨true, ["c.json"]⟩ = .ok c ∧ c.schemaVersion = 1 := by
  generalize htext : ("\x7b\"schema_version\": 7, \"schemaVersion\": true, \"root\": \"/r\", " ++
    "\"generatedAt\": \"2024-05-06T07:08:09Z\"\x7d").toList = text
  have hread : ((withText text).readContracts 985 ⟨true, ["c.json"]⟩).toOption.isSome = true := by
    rw [← htext]
    decide +kernel
  cases hresult : (withText text).readContracts 985 ⟨true, ["c.json"]⟩ with
  | error cause =>
    rw [hresult] at hread
    cases hread
  | ok c =>
    obtain ⟨value, -, -, hversion⟩ := (readContracts_gated _ _ _).1 c hresult
    exact ⟨c, rfl, hversion⟩

/-- An object of version 2 with a number for its root. -/
def numberedRoot (n : Int) : Json :=
  .record [("schemaVersion", .int 2), ("root", .int n)]

theorem plain_numberedRoot_iff {digits depth : Nat} (hdigits : 1 ≤ digits) (n : Int) :
    (numberedRoot n).Plain digits (depth + 1) ↔ Json.digitCount n ≤ digits := by
  have htwo : Json.digitCount 2 = 1 := by decide
  simp [numberedRoot, Json.record, Json.Plain, Json.PlainMembers, htwo, hdigits]

theorem not_statesOne_numberedRoot (n : Int) : ¬ (numberedRoot n).StatesOne := by
  rintro ⟨members, version, -, hversion, hone⟩
  obtain rfl : Json.int 2 = version := Option.some.inj hversion
  exact absurd hone (show (2 : Int) ≠ 1 by decide)

theorem readContracts_numberedRoot {n : Int} (h : Json.mostDigits < Json.digitCount n)
    (levels : Nat) :
    ∃ cause, (withText ((numberedRoot n).write .unicode 0 ++ ['\n'])).readContracts (levels + 1)
      ⟨true, ["c.json"]⟩ = .error (.beyondLimits cause) := by
  have hplain : (numberedRoot n).Plain (Json.digitCount n) (levels + 1) :=
    (plain_numberedRoot_iff (Nat.one_le_of_lt h) n).2 le_rfl
  have hlong : ¬ (numberedRoot n).Plain Json.mostDigits (levels + 1) := fun hshort =>
    h.not_ge ((plain_numberedRoot_iff (by decide) n).1 hshort)
  obtain ⟨e, hread, hlimit⟩ : ∃ e,
      Json.read (levels + 1) ((numberedRoot n).write .unicode 0 ++ ['\n']) = .error e ∧
        e.fault.isLimit = true :=
    Json.read_write_long hplain hlong
  refine ⟨e.fault, ?_⟩
  rw [readContracts, fileBytes?_withText]
  simp only [Contracts.ofBytes, Text.Utf8.decode?_encode, Json.unixLines_write hplain,
    Contracts.ofText, hread, hlimit, if_true]

/-- Text beyond the limits of reading has no value that is looked at, so it is not refused for the
version that it spells. -/
theorem readContracts_longRoot :
    ¬ (numberedRoot (Json.powTen 4300)).StatesOne ∧
    ∃ cause, (withText ((numberedRoot (Json.powTen 4300)).write .unicode 0 ++
      ['\n'])).readContracts 985 ⟨true, ["c.json"]⟩ = .error (.beyondLimits cause) := by
  refine ⟨not_statesOne_numberedRoot _, readContracts_numberedRoot ?_ 984⟩
  rw [Json.digitCount_powTen]
  decide

end Workspace

end RouteCensus
