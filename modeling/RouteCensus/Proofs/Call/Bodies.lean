import RouteCensus.Proofs.Call.Likeness
import RouteCensus.Proofs.Endpoint.Description
import RouteCensus.Proofs.Expr.Composite
import RouteCensus.Proofs.Text.Case

/-! # Methods and bodies

The method of a `fetch` call is read twice: in upper case where the call is found,
and in upper case without blanks around it where its endpoint is made.  A body is
kept only where both readings take one.  So a call that sends an object has a
body in its endpoint exactly if its method takes one, the method is written
without blanks around it, and no comment hides the object.
-/

namespace RouteCensus

/-- No word has a blank in it. -/
theorem HttpMethod.isBlank_word (method : HttpMethod) :
    ∀ c ∈ method.word.toList, Text.isBlank c = false := by
  have hall : method.word.toList.all (fun c => !Text.isBlank c) = true := by
    cases method <;> decide
  simpa using hall

theorem normalMethod_upcase (method : String) :
    normalMethod (Text.upcase method) = normalMethod method := by
  simp only [normalMethod, Text.upcase, String.toList_ofList, Text.upper_upper]

/-- Where the text of a method is read as it stands, blanks around it count. -/
theorem carriesBody_upcase_iff {text : String} {method : HttpMethod}
    (h : HttpMethod.ofWord? (normalMethod text) = some method) :
    carriesBody (Text.upcase text) = true ↔
      method.takesBody = true ∧ Text.trim text.toList = text.toList := by
  have hword := HttpMethod.ofWord?_eq_some h
  have hnormal : normalMethod text =
      if (Text.upper (Text.trim text.toList)).isEmpty then "GET"
      else String.ofList (Text.upper (Text.trim text.toList)) := by
    rw [normalMethod, Text.trim_upper]
  constructor
  · intro hcarries
    obtain ⟨known, hknown, htakes⟩ := (Option.any_eq_true _ _).1 hcarries
    have hupper : Text.upper text.toList = known.word.toList := by
      rw [HttpMethod.ofWord?_eq_some hknown, Text.upcase, String.toList_ofList]
    have htrim : Text.trim text.toList = text.toList :=
      Text.trim_of_upper (hupper ▸ known.isBlank_word)
    have hne : (Text.upper text.toList).isEmpty = false := by
      rw [hupper]
      cases known <;> rfl
    rw [htrim, if_neg (Bool.eq_false_iff.1 hne)] at hnormal
    rw [hnormal] at h
    obtain rfl := Option.some.inj (hknown.symm.trans h)
    exact ⟨htakes, htrim⟩
  · rintro ⟨htakes, htrim⟩
    rw [htrim] at hnormal
    split at hnormal
    · -- an empty text means `GET`, which takes no body
      rw [hnormal] at h
      obtain rfl : HttpMethod.get = method := Option.some.inj h
      cases htakes
    · rw [carriesBody, Text.upcase, ← hnormal, h]
      exact htakes

namespace Node

/-- Options that ask for a method written as a string and, as their body, for an object in JSON.
Comments may stand before the object. -/
structure SendsObject (options method call object : Node) : Prop where
  kind : options.kind = "object"
  method_kind : method.kind = "string"
  method : (options.property? "method").map unwrap = some method
  body : (options.property? "body").map unwrap = some call
  call_kind : call.kind = "call_expression"
  stringifies : call.stringifies = true
  argument : (call.role? "arguments").bind held? = some object
  object_kind : object.unwrap.kind = "object"

variable {options method call object : Node}

/-- The expression that brackets hold is their first named node, or that one is a comment. -/
theorem firstNamed?_of_held? {n inner : Node} (h : n.held? = some inner) :
    n.firstNamed? = some inner ∨
      n.firstNamed? ≠ some inner ∧
        ∃ first, n.firstNamed? = some first ∧ isCommentKind first.kind = true := by
  unfold held? at h
  unfold firstNamed?
  cases hnamed : n.namedChildren with
  | nil => rw [hnamed] at h; cases h
  | cons first rest =>
    rw [hnamed, List.find?_cons] at h
    cases hcomment : isCommentKind first.kind with
    | false =>
      rw [hcomment] at h
      exact .inl (by simpa using h)
    | true =>
      have hinner : isCommentKind inner.kind = false := by
        rw [hcomment] at h
        simpa using List.find?_some h
      refine .inr ⟨?_, first, rfl, hcomment⟩
      rintro hfirst
      obtain rfl : first = inner := by simpa using hfirst
      rw [hcomment] at hinner
      cases hinner

theorem payloadSchema?_comment {n : Node} (h : isCommentKind n.kind = true) (resolve : Resolver) :
    payloadSchema? resolve n = none := by
  have hkind : n.kind = "comment" ∨ n.kind = "html_comment" := by
    simpa [isCommentKind] using h
  have hwrapper : isWrapperKind n.kind = false := by
    rcases hkind with hkind | hkind <;> rw [hkind] <;> decide
  rw [payloadSchema?, unwrap_of_not_wrapper hwrapper]
  rcases hkind with hkind | hkind <;> rw [hkind] <;> rfl

theorem payloadSchema?_object {n : Node} (h : n.unwrap.kind = "object") (resolve : Resolver) :
    payloadSchema? resolve n = n.schema? := by
  rw [payloadSchema?, h, schema?, schema?, unwrap_of_bare n.unwrap_bare]
  rfl

/-- The object that is sent gives its schema, unless a comment stands before it. -/
theorem SendsObject.optionsBody?_eq_some_iff (h : options.SendsObject method call object)
    (resolve : Resolver) {fields : Fields} :
    optionsBody? resolve (some options) = some fields ↔
      call.payload? = some object ∧ object.schema? = some fields := by
  have hstringified : (options.property? "body").bind stringified? = call.payload? := by
    obtain ⟨value, hvalue, hcall⟩ := Option.map_eq_some_iff.1 h.body
    rw [hvalue, Option.bind_some, stringified?_eq, hcall, h.call_kind, h.stringifies]
    rfl
  obtain ⟨brackets, hbrackets, hheld⟩ := Option.bind_eq_some_iff.1 h.argument
  have hpayload : call.payload? = brackets.firstNamed? := by
    rw [payload?, hbrackets, Option.bind_some]
  rw [optionsBody?, Option.bind_some, hstringified, hpayload]
  rcases firstNamed?_of_held? hheld with hfirst | ⟨hne, first, hfirst, hcomment⟩
  · simp [hfirst, payloadSchema?_object h.object_kind]
  · rw [hfirst, Option.bind_some, payloadSchema?_comment hcomment]
    rw [hfirst] at hne
    simp [hne]

theorem SendsObject.optionsMethod_eq (h : options.SendsObject method call object) :
    optionsMethod (some options) = Text.upcase method.stringValue := by
  rw [optionsMethod, Option.bind_some, h.method]
  simp [h.method_kind]

end Node

namespace CallSite

/-- The call that a `fetch` with options is found to be. -/
def fetched (resolve : Resolver) (site : CallSite) (url : String) (options : Node) : Observation :=
  { kind := .fetch
    method := optionsMethod (some options)
    url := url
    line := site.line
    body := if carriesBody (optionsMethod (some options)) then optionsBody? resolve (some options)
      else none }

variable {resolve : Resolver} {site : CallSite} {target second options method call object : Node}
  {more : List Node} {url : String}

theorem observation?_fetch (hkind : site.callee.kind = "identifier")
    (htext : site.callee.text = "fetch") (harguments : site.arguments = target :: second :: more)
    (hurl : target.url? resolve = some url) (hoptions : second.unwrap.kind = "object") :
    site.observation? resolve = some (fetched resolve site url second.unwrap) := by
  have hsecond : optionsObject? (some second) = some second.unwrap := by
    simp [optionsObject?, hoptions]
  simp [CallSite.observation?, fetchCall?, hkind, htext, harguments, hurl, hsecond, fetched]

theorem requestBody_fetched_iff (hoptions : options.SendsObject method call object)
    {known : HttpMethod}
    (hknown : HttpMethod.ofWord? (normalMethod method.stringValue) = some known)
    {file : String} {fields : Fields} :
    ((fetched resolve site url options).endpoint known file).requestBody = some fields ↔
      (known.takesBody = true ∧ Text.trim method.stringChars = method.stringChars ∧
        call.payload? = some object) ∧ object.schema? = some fields := by
  have hcarries : carriesBody (optionsMethod (some options)) = true ↔
      known.takesBody = true ∧ Text.trim method.stringChars = method.stringChars := by
    rw [hoptions.optionsMethod_eq, carriesBody_upcase_iff hknown, Node.stringValue,
      String.toList_ofList]
  simp only [Observation.endpoint, fetched, Option.ite_none_right_eq_some, hcarries,
    hoptions.optionsBody?_eq_some_iff]
  constructor
  · rintro ⟨htakes, ⟨-, htrim⟩, hpayload, hschema⟩
    exact ⟨⟨htakes, htrim, hpayload⟩, hschema⟩
  · rintro ⟨⟨htakes, htrim, hpayload⟩, hschema⟩
    exact ⟨htakes, ⟨htakes, htrim⟩, hpayload, hschema⟩

/-- A call of `fetch` on a URL that sends an object in JSON is found, and its endpoint, if it has
one, has a body exactly if its method takes one, the text of the method has no blanks around it, and
no comment stands before the object.  The body is then the schema of the object. -/
theorem requestBody_isSome_iff (hkind : site.callee.kind = "identifier")
    (htext : site.callee.text = "fetch") (harguments : site.arguments = target :: second :: more)
    (hurl : target.url? resolve = some url)
    (hoptions : second.unwrap.SendsObject method call object) :
    ∃ found, site.observation? resolve = some found ∧ found.url = url ∧
      ∀ file endpoint, found.describe? file = some endpoint →
        (endpoint.requestBody.isSome ↔
          endpoint.method.takesBody = true ∧ Text.trim method.stringChars = method.stringChars ∧
            call.payload? = some object) ∧
        ∀ fields ∈ endpoint.requestBody, object.schema? = some fields := by
  refine ⟨_, observation?_fetch hkind htext harguments hurl hoptions.kind, rfl, ?_⟩
  intro file endpoint hendpoint
  obtain ⟨-, known, hknown, rfl⟩ := Observation.describe?_eq_some_iff.1 hendpoint
  have hnormal : HttpMethod.ofWord? (normalMethod method.stringValue) = some known := by
    rw [← normalMethod_upcase, ← hoptions.optionsMethod_eq]
    exact hknown
  have hschema : object.schema? = some (Node.fieldsOf object.unwrap.namedChildren) := by
    rw [Node.schema?, hoptions.object_kind]
    rfl
  constructor
  · rw [Option.isSome_iff_exists]
    simp only [requestBody_fetched_iff hoptions hnormal, hschema]
    simp [Observation.endpoint]
  · intro fields hfields
    exact ((requestBody_fetched_iff hoptions hnormal).1 hfields).2

end CallSite

namespace Node

/-- The object `{ a: 1 }`. -/
def sentObject : Node :=
  .mk { kind := "object" } [.mk { kind := "pair" }
    [wordNode "property_identifier" (some "key") "a", wordNode "number" (some "value") "1"]]

/-- The text as the value of a property. -/
def methodString (text : String) : Node :=
  .mk { kind := "string", field := some "value" } [wordNode "string_fragment" none text]

/-- The call `JSON.stringify({ a: 1 })` with nodes before the object, as the value of a property. -/
def stringifyCall (before : List Node) : Node :=
  .mk { kind := "call_expression", field := some "value" }
    [.mk { kind := "member_expression", field := some "function" }
      [wordNode "identifier" (some "object") "JSON",
        wordNode "property_identifier" (some "property") "stringify"],
      .mk { kind := "arguments", field := some "arguments" } (before ++ [sentObject])]

/-- The options `{ method: text, body: JSON.stringify({ a: 1 }) }`. -/
def sendingOptions (text : String) (before : List Node) : Node :=
  .mk { kind := "object" } [.mk { kind := "pair" }
      [wordNode "property_identifier" (some "key") "method", methodString text],
    .mk { kind := "pair" }
      [wordNode "property_identifier" (some "key") "body", stringifyCall before]]

/-- The call `fetch('/api/x', options)`. -/
def sendingSite (text : String) (before : List Node) : CallSite where
  callee := wordNode "identifier" (some "function") "fetch"
  arguments := [.mk { kind := "string" } [wordNode "string_fragment" none "/api/x"],
    sendingOptions text before]
  scope := 0
  line := 1

/-- The program that consists of this call. -/
def sendingProgram (text : String) (before : List Node) : Node :=
  .mk { kind := "program" } [.mk { kind := "call_expression" }
    [(sendingSite text before).callee,
      .mk { kind := "arguments", field := some "arguments" } (sendingSite text before).arguments]]

theorem sendingOptions_sends (text : String) :
    (sendingOptions text []).SendsObject (methodString text) (stringifyCall []) sentObject where
  kind := rfl
  method_kind := rfl
  method := by rfl
  body := by rfl
  call_kind := rfl
  stringifies := by decide +kernel
  argument := by rfl
  object_kind := by rfl

theorem requestBody_sendingSite :
    (sendingOptions "post" []).SendsObject (methodString "post") (stringifyCall []) sentObject ∧
      ∃ found e, CallSite.observation? (fun _ => none) (sendingSite "post" []) = some found ∧
        found.describe? "a.ts" = some e ∧ e.method = .post ∧ e.requestBody.isSome := by
  have hsends := sendingOptions_sends "post"
  have hkind : (sendingSite "post" []).callee.kind = "identifier" := rfl
  have htext : (sendingSite "post" []).callee.text = "fetch" := by decide +kernel
  have hurl : (Node.mk { kind := "string" } [wordNode "string_fragment" none "/api/x"]).url?
      (fun _ => none) = some "/api/x" := by
    decide +kernel
  obtain ⟨found, hfound, -, hbody⟩ :=
    CallSite.requestBody_isSome_iff hkind htext rfl hurl hsends
  obtain rfl := Option.some.inj
    ((CallSite.observation?_fetch hkind htext rfl hurl hsends.kind).symm.trans hfound)
  have he : (CallSite.fetched (fun _ => none) (sendingSite "post" []) "/api/x"
      (sendingOptions "post" [])).describe? "a.ts" = some (Observation.endpoint _ .post "a.ts") :=
    Observation.describe?_eq_some_iff.2 ⟨by decide +kernel, .post, by decide +kernel, rfl⟩
  exact ⟨hsends, _, _, hfound, he, rfl, (hbody _ _ he).1.2 ⟨rfl, by decide +kernel, rfl⟩⟩

/-- Blanks around the method take the body from an endpoint whose method takes one. -/
theorem describe?_blankMethod :
    ∃ found e, (sendingProgram " post " []).observations = [found] ∧
      found.describe? "a.ts" = some e ∧ e.method = .post ∧ e.requestBody = none := by
  have he : (Observation.mk .fetch " POST " "/api/x" 1 none none).describe? "a.ts" =
      some (Observation.endpoint _ .post "a.ts") :=
    Observation.describe?_eq_some_iff.2 ⟨by decide +kernel, .post, by decide +kernel, rfl⟩
  exact ⟨_, _, by decide +kernel, he, rfl, rfl⟩

end Node

end RouteCensus
