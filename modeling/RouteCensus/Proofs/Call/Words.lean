import RouteCensus.Call.Recognize
import RouteCensus.Endpoint.Report
import Mathlib.Data.List.Nodup
import Mathlib.Tactic.Common

/-! # Found calls in words

A call that is found in a program can be reported in words: every one of them is
known where a reported call is checked, and the keys of its body are different.
The report therefore raises no issue and gives the same endpoint as the call.
-/

namespace RouteCensus

namespace Fields

theorem keys_set (fields : Fields) (key : String) (field : SchemaField) :
    (Fields.set key field fields).map Prod.fst =
      if key ∈ fields.map Prod.fst then fields.map Prod.fst else fields.map Prod.fst ++ [key] := by
  induction fields with
  | nil => rfl
  | cons entry fields ih =>
    rw [Fields.set]
    by_cases hkey : entry.1 = key
    · simp [hkey]
    · rw [if_neg hkey, List.map_cons, ih]
      simp only [List.map_cons, List.mem_cons, Ne.symm hkey, false_or]
      split <;> rfl

theorem nodup_set {fields : Fields} (h : (fields.map Prod.fst).Nodup) (key : String)
    (field : SchemaField) : ((Fields.set key field fields).map Prod.fst).Nodup := by
  rw [keys_set]
  split
  · exact h
  · next hkey =>
    rw [List.nodup_append]
    exact ⟨h, List.nodup_singleton key, by
      rintro k hk _ hkey' rfl
      exact hkey (List.mem_singleton.1 hkey' ▸ hk)⟩

theorem set_of_not_mem {fields : Fields} {key : String} (h : key ∉ fields.map Prod.fst)
    (field : SchemaField) : Fields.set key field fields = fields ++ [(key, field)] := by
  induction fields with
  | nil => rfl
  | cons entry fields ih =>
    rw [List.map_cons, List.mem_cons, not_or] at h
    rw [Fields.set, if_neg (Ne.symm h.1), ih h.2, List.cons_append]

end Fields

namespace Node

/-- What holds of no fields and stays when one is set holds of every schema. -/
theorem schema?_induction {p : Fields → Prop} (hnil : p [])
    (hset : ∀ (fields : Fields) (field : SchemaField), p fields →
      p (Fields.set field.name field fields))
    {n : Node} {fields : Fields} (h : n.schema? = some fields) : p fields := by
  have hfold : ∀ (found : List SchemaField) (fields : Fields), p fields →
      p (found.foldl (fun fields field => Fields.set field.name field fields) fields) := by
    intro found
    induction found with
    | nil => exact fun fields h => h
    | cons field found ih => exact fun fields h => ih _ (hset fields field h)
  unfold schema? at h
  split at h
  · obtain rfl := Option.some.inj h
    exact hfold _ [] hnil
  · cases h

theorem schema?_nodup {n : Node} {fields : Fields} (h : n.schema? = some fields) :
    (fields.map Prod.fst).Nodup :=
  schema?_induction (p := fun fields => (fields.map Prod.fst).Nodup) List.nodup_nil
    (fun _ field hfields => Fields.nodup_set hfields field.name field) h

end Node

theorem exists_of_payloadSchema? {resolve : Resolver} {payload : Node} {fields : Fields}
    (h : payloadSchema? resolve payload = some fields) : ∃ n : Node, n.schema? = some fields := by
  simp only [payloadSchema?] at h
  split at h
  · exact ⟨_, h⟩
  · split at h
    · obtain ⟨init, -, hinit⟩ := Option.bind_eq_some_iff.1 h
      exact ⟨init, hinit⟩
    · cases h

theorem payloadSchema?_nodup {resolve : Resolver} {payload : Node} {fields : Fields}
    (h : payloadSchema? resolve payload = some fields) : (fields.map Prod.fst).Nodup := by
  obtain ⟨n, hn⟩ := exists_of_payloadSchema? h
  exact Node.schema?_nodup hn

theorem fetchCall?_nodup {resolve : Resolver} {site : CallSite} {call : Observation}
    (h : fetchCall? resolve site = some call) :
    ∀ fields ∈ call.body, (fields.map Prod.fst).Nodup := by
  intro fields hfields
  unfold fetchCall? at h
  split at h
  · split at h
    · cases h
    · obtain ⟨url, -, rfl⟩ := Option.map_eq_some_iff.1 h
      simp only [Option.mem_def, optionsBody?] at hfields
      split at hfields
      · obtain ⟨payload, -, hpayload⟩ := Option.bind_eq_some_iff.1 hfields
        exact payloadSchema?_nodup hpayload
      · cases hfields
  · cases h

theorem clientCall?_nodup {resolve : Resolver} {site : CallSite} {call : Observation}
    (h : clientCall? resolve site = some call) :
    ∀ fields ∈ call.body, (fields.map Prod.fst).Nodup := by
  intro fields hfields
  unfold clientCall? at h
  split at h
  · obtain ⟨url, -, rfl⟩ := Option.map_eq_some_iff.1 h
    simp only [Option.mem_def] at hfields
    split at hfields
    · obtain ⟨payload, -, hpayload⟩ := Option.bind_eq_some_iff.1 hfields
      exact payloadSchema?_nodup hpayload
    · cases hfields
  · cases h

/-- In the body of a found call every key occurs once. -/
theorem Node.observations_nodup {root : Node} {call : Observation} (h : call ∈ root.observations) :
    ∀ fields ∈ call.body, (fields.map Prod.fst).Nodup := by
  obtain ⟨site, -, hsite⟩ := List.mem_filterMap.1 h
  unfold CallSite.observation? at hsite
  split at hsite
  · next found hfound =>
    obtain rfl := Option.some.inj hsite
    exact fetchCall?_nodup hfound
  · exact clientCall?_nodup hsite

/-- A call as someone else would report it. -/
def Observation.report (call : Observation) : CallReport :=
  { kind := call.kind.word
    method := call.method
    url := call.url
    line := call.line
    client := call.client
    body := call.body.map fun fields =>
      fields.map fun entry => (entry.1, entry.2.name, entry.2.type.word) }

theorem FieldType.ofWord?_word (type : FieldType) : FieldType.ofWord? type.word = some type := by
  cases type <;> decide

theorem CallKind.ofWord?_word (kind : CallKind) : CallKind.ofWord? kind.word = some kind := by
  cases kind <;> decide

/-- Fields that are added one by one, with distinct keys, keep their places. -/
theorem Fields.foldlM_add {add : Fields → String × String × String → Checked Fields}
    (hadd : ∀ (known : Fields) (entry : String × SchemaField),
      add known (entry.1, entry.2.name, entry.2.type.word) = .ok (known.set entry.1 entry.2))
    {known rest : Fields} (h : ((known ++ rest).map Prod.fst).Nodup) :
    (rest.map fun entry => (entry.1, entry.2.name, entry.2.type.word)).foldlM add known =
      .ok (known ++ rest) := by
  induction rest generalizing known with
  | nil =>
    rw [List.append_nil]
    rfl
  | cons entry rest ih =>
    have hkey : entry.1 ∉ known.map Prod.fst := by
      intro hmem
      rw [List.map_append, List.map_cons, List.nodup_append] at h
      exact h.2.2 _ hmem _ List.mem_cons_self rfl
    rw [← List.singleton_append, ← List.append_assoc] at h ⊢
    rw [List.singleton_append, List.map_cons, List.foldlM_cons, hadd, Fields.set_of_not_mem hkey]
    exact ih h

theorem CallReport.fields_words {fields : Fields} (h : (fields.map Prod.fst).Nodup) :
    CallReport.fields (fields.map fun entry => (entry.1, entry.2.name, entry.2.type.word)) =
      .ok fields := by
  apply Fields.foldlM_add _ (show ((([] : Fields) ++ fields).map Prod.fst).Nodup from h)
  intro known entry
  simp only [FieldType.ofWord?_word]

/-- The report of a found call raises no issue, and gives the endpoint that the call gives. -/
theorem Node.describe_report {root : Node} {call : Observation} (h : call ∈ root.observations)
    (sourceFile : String) : call.report.describe sourceFile = .ok (call.describe? sourceFile) := by
  have hbody : call.report.bodyFields = .ok call.body := by
    unfold CallReport.bodyFields
    cases hfields : call.body with
    | none => simp [Observation.report, hfields]
    | some fields =>
      simp only [Observation.report, hfields, Option.map_some,
        CallReport.fields_words (Node.observations_nodup h fields hfields)]
      rfl
  have hkind : CallKind.ofWord? call.report.kind = some call.kind := call.kind.ofWord?_word
  simp only [CallReport.describe, hbody, hkind]
  rfl

end RouteCensus
