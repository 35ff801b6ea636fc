import RouteCensus.Proofs.Call.Likeness
import RouteCensus.Proofs.Call.SourceOrder
import RouteCensus.Proofs.Call.Words
import RouteCensus.Proofs.Endpoint.Description

/-! # Endpoints that agree with themselves

The calls of a program are normal in all that a tree decides: their bodies are
schemas, whose keys are the names of their fields, their lines count from one,
and a call of the global function has no client.  Together with the rules of
description this makes every endpoint of a program agree with itself, and it is
the endpoint of the call that it tells of.
-/

namespace RouteCensus

namespace Fields

theorem mem_set {key : String} {field : SchemaField} {fields : Fields}
    {entry : String × SchemaField} (h : entry ∈ Fields.set key field fields) :
    entry = (key, field) ∨ entry ∈ fields := by
  induction fields with
  | nil => exact .inl (List.mem_singleton.1 h)
  | cons known fields ih =>
    rw [Fields.set] at h
    split at h
    · exact (List.mem_cons.1 h).imp_right (List.mem_cons_of_mem known)
    · rcases List.mem_cons.1 h with rfl | h
      · exact .inr List.mem_cons_self
      · exact (ih h).imp_right (List.mem_cons_of_mem known)

/-- Every key is the name of its field. -/
def Named (fields : Fields) : Prop :=
  ∀ entry ∈ fields, entry.1 = entry.2.name

instance (fields : Fields) : Decidable fields.Named :=
  inferInstanceAs (Decidable (∀ entry ∈ fields, entry.1 = entry.2.name))

theorem Named.set {fields : Fields} (h : fields.Named) (field : SchemaField) :
    (Fields.set field.name field fields).Named := by
  intro entry hentry
  rcases mem_set hentry with rfl | hentry
  · rfl
  · exact h entry hentry

end Fields

namespace Node

theorem schema?_named {n : Node} {fields : Fields} (h : n.schema? = some fields) :
    fields.Named :=
  schema?_induction (p := Fields.Named) (fun _ hentry => nomatch hentry)
    (fun _ field hfields => hfields.set field) h

end Node

/-- What holds of the calls of a program, whatever the program. -/
structure Observation.Regular (call : Observation) : Prop where
  client : call.kind = .fetch → call.client = none
  body : ∀ fields ∈ call.body, ∃ n : Node, n.schema? = some fields

theorem fetchCall?_regular {resolve : Resolver} {site : CallSite} {call : Observation}
    (h : fetchCall? resolve site = some call) : call.Regular := by
  unfold fetchCall? at h
  split at h
  · split at h
    · cases h
    · obtain ⟨url, -, rfl⟩ := Option.map_eq_some_iff.1 h
      refine ⟨fun _ => rfl, ?_⟩
      intro fields hfields
      simp only [Option.mem_def, optionsBody?] at hfields
      split at hfields
      · obtain ⟨payload, -, hpayload⟩ := Option.bind_eq_some_iff.1 hfields
        exact exists_of_payloadSchema? hpayload
      · cases hfields
  · cases h

theorem clientCall?_regular {resolve : Resolver} {site : CallSite} {call : Observation}
    (h : clientCall? resolve site = some call) : call.Regular := by
  unfold clientCall? at h
  split at h
  · obtain ⟨url, -, rfl⟩ := Option.map_eq_some_iff.1 h
    refine ⟨nofun, ?_⟩
    intro fields hfields
    simp only [Option.mem_def] at hfields
    split at hfields
    · obtain ⟨payload, -, hpayload⟩ := Option.bind_eq_some_iff.1 hfields
      exact exists_of_payloadSchema? hpayload
    · cases hfields
  · cases h

theorem CallSite.observation?_regular {resolve : Resolver} {site : CallSite} {call : Observation}
    (h : site.observation? resolve = some call) : call.Regular := by
  unfold CallSite.observation? at h
  split at h
  · next found hfound =>
    obtain rfl := Option.some.inj h
    exact fetchCall?_regular hfound
  · exact clientCall?_regular h

namespace Node

variable {root : Node} {call : Observation}

theorem observations_regular (h : call ∈ root.observations) : call.Regular := by
  obtain ⟨site, -, hsite⟩ := List.mem_filterMap.1 h
  exact CallSite.observation?_regular hsite

theorem line_pos_of_mem_observations (h : call ∈ root.observations) : 1 ≤ call.line := by
  rw [← root.filterMap_observation_foundCalls] at h
  obtain ⟨found, hfound, hobservation⟩ := List.mem_filterMap.1 h
  rw [root.line_of_foundCalls hfound hobservation, Node.line]
  omega

end Node

namespace Route

theorem pathParams_nodup (route : String) : (pathParams route).Nodup :=
  Text.distinct_nodup _

theorem empty_notMem_pathParams (route : String) : "" ∉ pathParams route :=
  Text.empty_notMem_distinct _

theorem queryParams_nodup (url : String) : (queryParams url).Nodup :=
  Text.distinct_nodup _

theorem empty_notMem_queryParams (url : String) : "" ∉ queryParams url :=
  Text.empty_notMem_distinct _

end Route

/-- An endpoint whose parts agree with each other. -/
structure Endpoint.Consistent (e : Endpoint) : Prop where
  method : e.method.word ∈ ["GET", "POST", "PUT", "PATCH", "DELETE"]
  body_method : e.requestBody.isSome → e.method.word ∈ ["POST", "PUT", "PATCH"]
  body_keys : ∀ fields ∈ e.requestBody, (fields.map Prod.fst).Nodup ∧ fields.Named
  pathParams_nodup : e.pathParams.Nodup
  pathParams_proper : "" ∉ e.pathParams
  queryParams_nodup : e.queryParams.Nodup
  queryParams_proper : "" ∉ e.queryParams
  line_pos : 1 ≤ e.sourceLine
  client : e.kind = .fetch → e.client = none

/-- The endpoint of a call of a program agrees with itself, and the call that it tells of has the
same endpoint. -/
theorem Node.describe?_consistent {root : Node} {call : Observation} {sourceFile : String}
    {e : Endpoint} (hcall : call ∈ root.observations) (he : call.describe? sourceFile = some e) :
    e.observation.describe? e.sourceFile = some e ∧ e.Consistent := by
  refine ⟨Observation.describe?_observation he, ?_⟩
  obtain ⟨-, method, -, rfl⟩ := Observation.describe?_eq_some_iff.1 he
  have hregular := observations_regular hcall
  have hbody : ∀ fields ∈ (call.endpoint method sourceFile).requestBody,
      fields ∈ call.body ∧ method.takesBody = true := by
    intro fields hfields
    cases htakes : method.takesBody with
    | false => simp [Observation.endpoint, htakes] at hfields
    | true => exact ⟨by simpa [Observation.endpoint, htakes] using hfields, rfl⟩
  constructor
  case method => exact method.word_mem
  case body_method =>
    intro hsome
    obtain ⟨fields, hfields⟩ := Option.isSome_iff_exists.1 hsome
    exact method.takesBody_iff.1 (hbody fields hfields).2
  case body_keys =>
    intro fields hfields
    obtain ⟨n, hn⟩ := hregular.body fields (hbody fields hfields).1
    exact ⟨schema?_nodup hn, schema?_named hn⟩
  case pathParams_nodup => simp [Observation.endpoint, Route.pathParams_nodup]
  case pathParams_proper => simp [Observation.endpoint, Route.empty_notMem_pathParams]
  case queryParams_nodup => simp [Observation.endpoint, Route.queryParams_nodup]
  case queryParams_proper => simp [Observation.endpoint, Route.empty_notMem_queryParams]
  case line_pos => exact line_pos_of_mem_observations hcall
  case client => exact hregular.client

namespace Node

/-- The program `axios.post('/api/users/:id/of/:id?page=1&page=2', { name: 'x', name: 3 })`. -/
def repeatingCall : Node :=
  let pair value :=
    Node.mk { kind := "pair" } [wordNode "property_identifier" (some "key") "name", value]
  .mk { kind := "program" } [.mk { kind := "call_expression" }
    [.mk { kind := "member_expression", field := some "function" }
      [wordNode "identifier" (some "object") "axios",
        wordNode "property_identifier" (some "property") "post"],
      .mk { kind := "arguments", field := some "arguments" }
        [.mk { kind := "string" }
          [wordNode "string_fragment" none "/api/users/:id/of/:id?page=1&page=2"],
          .mk { kind := "object" } [pair (.mk { kind := "string", field := some "value" } []),
            pair (wordNode "number" (some "value") "3")]]]]

/-- What is found in that program. -/
def repeatingObservation : Observation :=
  { kind := .client
    method := "POST"
    url := "/api/users/:id/of/:id?page=1&page=2"
    line := 1
    client := some "axios"
    body := some [("name", { name := "name", type := .number })] }

theorem describe?_repeatingCall :
    repeatingObservation ∈ repeatingCall.observations ∧
      ∃ e, repeatingObservation.describe? "a.ts" = some e ∧
        e.pathParams = ["id"] ∧ e.queryParams = ["page"] ∧ e.requestBody.isSome ∧
        e.observation.describe? e.sourceFile = some e ∧ e.Consistent := by
  have hcall : repeatingObservation ∈ repeatingCall.observations := by decide +kernel
  have he : repeatingObservation.describe? "a.ts" =
      some (repeatingObservation.endpoint .post "a.ts") :=
    Observation.describe?_eq_some_iff.2 ⟨by decide +kernel, .post, by decide +kernel, rfl⟩
  exact ⟨hcall, _, he, by decide +kernel, by decide +kernel, rfl, describe?_consistent hcall he⟩

end Node

end RouteCensus
