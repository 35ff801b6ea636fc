import RouteCensus.Contracts.Document
import RouteCensus.Proofs.Contracts.Timestamp
import RouteCensus.Proofs.Json.RoundTrip

/-! # Documents as values

Every part of a document is written as a plain value, passes the check of this
value, and is what the check gives back.
-/

namespace RouteCensus

namespace Checked

variable {α β : Type}

theorem all_map_ok {f : α → Checked β} {g : α → β} (h : ∀ a, f a = .ok (g a)) (as : List α) :
    Checked.all (as.map f) = .ok (as.map g) := by
  induction as with
  | nil => rfl
  | cons a as ih =>
    rw [List.map_cons, Checked.all, h, ih]
    rfl

end Checked

namespace Check

variable {α : Type}

theorem all_mapIdx_under {check : Json → Checked α} {toJson : α → Json} {as : List α}
    (h : ∀ a ∈ as, check (toJson a) = .ok a) (step : Nat → Step) :
    Checked.all ((as.map toJson).mapIdx fun i value => (check value).under (step i)) = .ok as := by
  induction as generalizing step with
  | nil => rfl
  | cons a as ih =>
    have htail := ih (fun b hb => h b (List.mem_cons_of_mem a hb)) fun i => step (i + 1)
    rw [List.map_cons, List.mapIdx_cons, Checked.all, h a List.mem_cons_self, htail]
    rfl

theorem list_map {check : Json → Checked α} {toJson : α → Json} {as : List α}
    (h : ∀ a ∈ as, check (toJson a) = .ok a) : list check (.arr (as.map toJson)) = .ok as :=
  all_mapIdx_under h .index

theorem list_map_string (strings : List String) :
    list string (.arr (strings.map .string)) = .ok strings :=
  list_map fun _ _ => rfl

theorem literal_word {ofWord? : String → Option α} {word : α → String} {a : α}
    (h : ofWord? (word a) = some a) :
    literal ofWord? (.string (word a)) = .ok a := by
  simp only [literal, Json.string, h]

end Check

theorem SchemaField.check_toJson (f : SchemaField) : SchemaField.check f.toJson = .ok f := by
  have htype : Check.literal FieldType.ofWord? (.string f.type.word) = .ok f.type :=
    Check.literal_word (by cases f.type <;> rfl)
  change Checked.ap (Checked.ap (.ok SchemaField.mk) (.ok f.name))
    ((Check.literal FieldType.ofWord? (.string f.type.word)).under (.name "inferredType")) = .ok f
  rw [htype]
  rfl

theorem Fields.check_toJson (fields : Fields) : Fields.check fields.toJson = .ok fields := by
  have hmember : ∀ entry : String × SchemaField,
      Fields.checkMember (.text entry.1, entry.2.toJson) = .ok entry := by
    intro entry
    rw [Fields.checkMember, SchemaField.check_toJson]
    rfl
  rw [Fields.toJson, Json.record, Fields.check, List.map_map, List.map_map]
  exact (Checked.all_map_ok hmember fields).trans (by rw [List.map_id'])

namespace Endpoint

theorem check_toJson (e : Endpoint) : Endpoint.check e.toJson = .ok e := by
  have hmethod : Check.literal HttpMethod.ofWord? (.string e.method.word) = .ok e.method :=
    Check.literal_word (by cases e.method <;> rfl)
  have hkind : Check.literal CallKind.ofWord? (.string e.kind.word) = .ok e.kind :=
    Check.literal_word (by cases e.kind <;> rfl)
  have hbody : Check.nullable Fields.check ((e.requestBody.map Fields.toJson).getD .null) =
      .ok e.requestBody := by
    cases e.requestBody with
    | none => rfl
    | some fields =>
      change Except.map some (Fields.check fields.toJson) = _
      rw [Fields.check_toJson]
      rfl
  have hclient : Check.nullable Check.string ((e.client.map Json.string).getD .null) =
      .ok e.client := by
    cases e.client <;> rfl
  change (Except.ok Endpoint.mk : Checked _)
    |> (Checked.ap · (.ok e.rawPath))
    |> (Checked.ap · (.ok e.route))
    |> (Checked.ap · ((Check.literal HttpMethod.ofWord? (.string e.method.word)).under (.name "method")))
    |> (Checked.ap · (.ok e.controllerName))
    |> (Checked.ap · (.ok e.actionName))
    |> (Checked.ap · ((Check.list Check.string (.arr (e.pathParams.map .string))).under (.name "pathParams")))
    |> (Checked.ap · ((Check.list Check.string (.arr (e.queryParams.map .string))).under (.name "queryParams")))
    |> (Checked.ap · ((Check.nullable Fields.check ((e.requestBody.map Fields.toJson).getD .null)).under
      (.name "requestBody")))
    |> (Checked.ap · (.ok e.sourceFile))
    |> (Checked.ap · (.ok e.sourceLine))
    |> (Checked.ap · ((Check.literal CallKind.ofWord? (.string e.kind.word)).under (.name "kind")))
    |> (Checked.ap · ((Check.nullable Check.string ((e.client.map Json.string).getD .null)).under (.name "client")))
    |> (· = .ok e)
  rw [hmethod, hkind, hbody, hclient, Check.list_map_string, Check.list_map_string]
  rfl

end Endpoint

namespace Json

theorem plain_string (digits depth : Nat) (s : String) : (Json.string s).Plain digits depth :=
  ⟨s, rfl⟩

theorem plainItems_map {α : Type} {digits depth : Nat} {f : α → Json} {as : List α}
    (h : ∀ a ∈ as, (f a).Plain digits depth) :
    PlainItems digits depth (as.map f) := by
  induction as with
  | nil => trivial
  | cons a as ih => exact ⟨h a List.mem_cons_self, ih fun b hb => h b (List.mem_cons_of_mem a hb)⟩

theorem plainMembers_map {digits depth : Nat} {members : List (String × Json)}
    (h : ∀ m ∈ members, m.2.Plain digits depth) :
    PlainMembers digits depth (members.map fun m => (.text m.1, m.2)) := by
  induction members with
  | nil => trivial
  | cons m members ih =>
    exact ⟨⟨m.1, rfl⟩, h m List.mem_cons_self, ih fun b hb => h b (List.mem_cons_of_mem m hb)⟩

/-- An object with distinct names is plain if its members are. -/
theorem plain_record {digits depth : Nat} {members : List (String × Json)}
    (hnames : (members.map Prod.fst).Nodup)
    (h : ∀ m ∈ members, m.2.Plain digits depth) :
    (Json.record members).Plain digits (depth + 1) := by
  refine ⟨Nat.succ_pos depth, ?_, plainMembers_map h⟩
  rw [List.map_map, show (Prod.fst ∘ fun m : String × Json => (JsonString.text m.1, m.2)) =
    JsonString.text ∘ Prod.fst from rfl, ← List.map_map]
  exact List.pairwise_map.2 (hnames.imp fun hne heq => hne (JsonString.text.inj heq))

theorem plain_strings (digits depth : Nat) (strings : List String) :
    (Json.arr (strings.map .string)).Plain digits (depth + 1) :=
  ⟨Nat.succ_pos depth, plainItems_map fun s _ => plain_string digits depth s⟩

end Json

theorem SchemaField.toJson_plain (digits depth : Nat) (f : SchemaField) :
    f.toJson.Plain digits (depth + 1) := by
  apply Json.plain_record
  · change ["name", "inferredType"].Nodup
    decide
  · intro m hm
    simp only [List.mem_cons, List.not_mem_nil, or_false] at hm
    rcases hm with rfl | rfl <;> exact Json.plain_string digits depth _

theorem Fields.toJson_plain (digits depth : Nat) {fields : Fields}
    (h : (fields.map Prod.fst).Nodup) :
    fields.toJson.Plain digits (depth + 2) := by
  apply Json.plain_record
  · rw [List.map_map]
    exact h
  · intro m hm
    obtain ⟨entry, -, rfl⟩ := List.mem_map.1 hm
    exact entry.2.toJson_plain digits depth

theorem Endpoint.toJson_plain (digits depth : Nat) {e : Endpoint}
    (hline : Json.digitCount e.sourceLine ≤ digits)
    (hkeys : ∀ fields ∈ e.requestBody, (fields.map Prod.fst).Nodup) :
    e.toJson.Plain digits (depth + 3) := by
  have hbody : ((e.requestBody.map Fields.toJson).getD .null).Plain digits (depth + 2) := by
    cases hfields : e.requestBody with
    | none => trivial
    | some fields => exact Fields.toJson_plain digits depth (hkeys fields hfields)
  have hclient : ((e.client.map Json.string).getD .null).Plain digits (depth + 2) := by
    cases e.client with
    | none => trivial
    | some client => exact Json.plain_string _ _ client
  apply Json.plain_record
  · change ["rawPath", "route", "method", "controllerName", "actionName", "pathParams",
      "queryParams", "requestBody", "sourceFile", "sourceLine", "kind", "client"].Nodup
    decide
  · intro m hm
    simp only [List.mem_cons, List.not_mem_nil, or_false] at hm
    rcases hm with rfl | rfl | rfl | rfl | rfl | rfl | rfl | rfl | rfl | rfl | rfl | rfl
    · exact Json.plain_string _ _ _
    · exact Json.plain_string _ _ _
    · exact Json.plain_string _ _ _
    · exact Json.plain_string _ _ _
    · exact Json.plain_string _ _ _
    · exact Json.plain_strings _ _ _
    · exact Json.plain_strings _ _ _
    · exact hbody
    · exact Json.plain_string _ _ _
    · exact hline
    · exact Json.plain_string _ _ _
    · exact hclient

namespace Contracts

/-- A document whose time a check lets pass, whose body schemas have each key once, and whose whole
numbers have no more than the given digits. -/
structure WellFormed (digits : Nat) (c : Contracts) : Prop where
  time_admitted : ∃ v, Timestamp.check v = .ok c.generatedAt
  version_digits : Json.digitCount c.schemaVersion ≤ digits
  line_digits : ∀ e ∈ c.endpoints, Json.digitCount e.sourceLine ≤ digits
  keys_nodup : ∀ e ∈ c.endpoints, ∀ fields ∈ e.requestBody, (fields.map Prod.fst).Nodup

theorem WellFormed.time_valid {digits : Nat} {c : Contracts} (h : c.WellFormed digits) :
    c.generatedAt.Valid := by
  obtain ⟨v, hv⟩ := h.time_admitted
  exact Timestamp.valid_of_check hv

/-- The value of a document nests five levels deep: the document, its endpoints, an endpoint, its
request body and a field. -/
theorem WellFormed.toJson_plain {digits levels : Nat} {c : Contracts} (h : c.WellFormed digits)
    (hlevels : 5 ≤ levels) : c.toJson.Plain digits levels := by
  obtain ⟨depth, rfl⟩ := Nat.exists_eq_add_of_le' hlevels
  have hendpoints : (Json.arr (c.endpoints.map Endpoint.toJson)).Plain digits (depth + 4) :=
    ⟨Nat.succ_pos _, Json.plainItems_map fun e he =>
      e.toJson_plain digits depth (h.line_digits e he) (h.keys_nodup e he)⟩
  apply Json.plain_record
  · change ["schemaVersion", "generatedAt", "root", "endpoints"].Nodup
    decide
  · intro m hm
    simp only [List.mem_cons, List.not_mem_nil, or_false] at hm
    rcases hm with rfl | rfl | rfl | rfl
    · exact h.version_digits
    · exact Json.plain_string _ _ _
    · exact Json.plain_string _ _ _
    · exact hendpoints

theorem WellFormed.check_toJson {digits : Nat} {c : Contracts} (h : c.WellFormed digits) :
    Contracts.check c.toJson = .ok c := by
  have htime := Timestamp.check_wireText h.time_valid
  have hendpoints : Check.list Endpoint.check (.arr (c.endpoints.map Endpoint.toJson)) =
      .ok c.endpoints :=
    Check.list_map fun e _ => e.check_toJson
  change (Except.ok Contracts.mk : Checked _)
    |> (Checked.ap · (.ok c.schemaVersion))
    |> (Checked.ap · ((Timestamp.check (.string c.generatedAt.wireText)).under (.name "generatedAt")))
    |> (Checked.ap · (.ok c.root))
    |> (Checked.ap · ((Check.list Endpoint.check (.arr (c.endpoints.map Endpoint.toJson))).under (.name "endpoints")))
    |> (· = .ok c)
  rw [htime, hendpoints]
  rfl

end Contracts

end RouteCensus
