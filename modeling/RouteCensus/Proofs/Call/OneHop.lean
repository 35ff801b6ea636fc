import Mathlib.Logic.Function.Basic
import RouteCensus.Proofs.Call.Bodies

/-! # Names that a call looks up

A call looks up at most two names, both from its own scope: the one that stands in
the place of its URL, and the one that stands for its payload.  Whatever else is
declared, the same HTTP call is found.  The initialiser of such a name is read as
it stands: if it is a name again, it gives neither a URL nor a body.
-/

namespace RouteCensus

/-- The name that an expression is, wrappers aside. -/
def Node.name? (n : Node) : Option String :=
  if n.unwrap.kind == "identifier" then some n.unwrap.text else none

namespace CallSite

/-- The expression that the body of a request is read from: what `JSON.stringify` is applied to in
the options of a called name, or the second argument of any other call. -/
def payload? (site : CallSite) : Option Node :=
  if site.callee.kind == "identifier" then
    ((optionsObject? site.arguments[1]?).bind fun o => o.property? "body").bind stringified?
  else
    site.arguments[1]?

/-- The names that stand in the places of the URL and of the payload of a call. -/
def names (site : CallSite) : List String :=
  (site.arguments.head?.toList ++ site.payload?.toList).filterMap Node.name?

end CallSite

section Lookups

variable {resolve resolve' : Resolver} {n : Node}

theorem Node.name?_of_kind (h : n.unwrap.kind = "identifier") : n.name? = some n.unwrap.text := by
  simp [name?, h]

theorem Node.kind_of_name? {name : String} (h : n.name? = some name) :
    n.unwrap.kind = "identifier" ∧ n.unwrap.text = name := by
  simpa [name?] using h

theorem Node.urlSource?_congr (h : ∀ name ∈ n.name?, resolve name = resolve' name) :
    n.urlSource? resolve = n.urlSource? resolve' := by
  unfold urlSource?
  split
  · next hkind => rw [h _ (name?_of_kind (beq_iff_eq.1 hkind))]
  · rfl

/-- The URL text of an expression is that of the expression it is read from. -/
theorem Node.url?_eq_urlSource? (resolve : Resolver) (n : Node) :
    n.url? resolve = (n.urlSource? resolve).bind literalUrl? := by
  unfold url? urlSource?
  by_cases hkind : n.unwrap.kind = "identifier"
  · simp only [hkind, beq_self_eq_true, if_true]
    cases resolve n.unwrap.text with
    | none => rfl
    | some init =>
      rw [Option.map_some, Option.filter_some]
      by_cases hinit : init.unwrap.kind = "identifier"
      · simp [hinit]
      · simp [hinit]
  · simp [hkind]

theorem Node.url?_congr (h : ∀ name ∈ n.name?, resolve name = resolve' name) :
    n.url? resolve = n.url? resolve' := by
  rw [url?_eq_urlSource?, url?_eq_urlSource?, urlSource?_congr h]

theorem payloadSchema?_congr (h : ∀ name ∈ n.name?, resolve name = resolve' name) :
    payloadSchema? resolve n = payloadSchema? resolve' n := by
  by_cases hkind : n.unwrap.kind = "identifier"
  · simp only [payloadSchema?, hkind, h _ (Node.name?_of_kind hkind)]
  · simp [payloadSchema?, hkind]

/-- A name for another name has no URL. -/
theorem Node.url?_of_name {name : String} {init : Node} (hn : n.name? = some name)
    (hinit : resolve name = some init) (hname : init.name?.isSome = true) :
    n.url? resolve = none := by
  obtain ⟨hkind, rfl⟩ := kind_of_name? hn
  obtain ⟨other, hother⟩ := Option.isSome_iff_exists.1 hname
  simp [url?, hkind, hinit, (kind_of_name? hother).1]

/-- A name for another name has no schema. -/
theorem payloadSchema?_of_name {name : String} {init : Node} (hn : n.name? = some name)
    (hinit : resolve name = some init) (hname : init.name?.isSome = true) :
    payloadSchema? resolve n = none := by
  obtain ⟨hkind, rfl⟩ := Node.kind_of_name? hn
  obtain ⟨other, hother⟩ := Option.isSome_iff_exists.1 hname
  simp [payloadSchema?, hkind, hinit, Node.schema?, (Node.kind_of_name? hother).1]

end Lookups

namespace CallSite

/-- The URL text of a call, read in the place of its URL. -/
def urlText? (resolve : Resolver) (site : CallSite) : Option String :=
  site.arguments.head?.bind fun target => target.url? resolve

/-- The schema of the payload of a call. -/
def payloadFields? (resolve : Resolver) (site : CallSite) : Option Fields :=
  site.payload?.bind (payloadSchema? resolve)

variable {resolve resolve' : Resolver} {site : CallSite}

/-- A call of `fetch` by what is looked up: its URL and its payload. -/
theorem fetchCall?_eq (resolve : Resolver) (site : CallSite) :
    fetchCall? resolve site =
      if site.callee.kind == "identifier" && site.callee.text == "fetch" then
        (site.urlText? resolve).map fun url =>
          { kind := .fetch
            method := optionsMethod (optionsObject? site.arguments[1]?)
            url := url
            line := site.line
            body := if carriesBody (optionsMethod (optionsObject? site.arguments[1]?)) then
              site.payloadFields? resolve else none }
      else none := by
  unfold fetchCall?
  split
  · next hfetch =>
    have hkind : site.callee.kind = "identifier" := by
      simpa using (Bool.and_eq_true_iff.1 hfetch).1
    cases harguments : site.arguments with
    | nil => simp [urlText?, harguments]
    | cons target more =>
      simp [urlText?, payloadFields?, payload?, optionsBody?, hkind, harguments,
        List.head?_eq_getElem?]
  · rfl

/-- A call of a verb by what is looked up. -/
theorem clientCall?_eq (resolve : Resolver) (site : CallSite) :
    clientCall? resolve site =
      (calledVerb? site.callee).bind fun method => (site.urlText? resolve).map fun url =>
        { kind := .client
          method := method.word
          url := url
          line := site.line
          client := clientName? site.callee
          body := if method.takesBody then site.payloadFields? resolve else none } := by
  unfold clientCall?
  cases hverb : calledVerb? site.callee with
  | none => rfl
  | some method =>
    have hkind : site.callee.kind ≠ "identifier" := by
      intro hkind
      simp [calledVerb?, hkind] at hverb
    cases harguments : site.arguments with
    | nil => simp [urlText?, harguments]
    | cons target more =>
      simp [urlText?, payloadFields?, payload?, hkind, harguments, List.head?_eq_getElem?]

theorem mem_names {n : Node} (hn : n ∈ site.arguments.head? ∨ n ∈ site.payload?) {name : String}
    (hname : name ∈ n.name?) : name ∈ site.names :=
  List.mem_filterMap.2 ⟨n, by simpa using hn, hname⟩

section Agreeing

variable (h : ∀ name ∈ site.names, resolve name = resolve' name)

include h

theorem urlText?_congr : site.urlText? resolve = site.urlText? resolve' :=
  Option.bind_congr fun _ htarget =>
    Node.url?_congr fun name hname => h name (mem_names (.inl htarget) hname)

theorem payloadFields?_congr : site.payloadFields? resolve = site.payloadFields? resolve' :=
  Option.bind_congr fun _ hpayload =>
    payloadSchema?_congr fun name hname => h name (mem_names (.inr hpayload) hname)

theorem fetchCall?_congr : fetchCall? resolve site = fetchCall? resolve' site := by
  rw [fetchCall?_eq, fetchCall?_eq, urlText?_congr h, payloadFields?_congr h]

theorem clientCall?_congr : clientCall? resolve site = clientCall? resolve' site := by
  rw [clientCall?_eq, clientCall?_eq, urlText?_congr h, payloadFields?_congr h]

/-- Where the search breaks off at a call depends on the same names. -/
theorem hasDeepTarget_congr (limit : Nat) :
    (site.target?.any fun target => target.hasDeepUrl limit resolve) =
      site.target?.any fun target => target.hasDeepUrl limit resolve' := by
  unfold target?
  split
  · cases hhead : site.arguments.head? with
    | none => rfl
    | some target =>
      have hsource : target.urlSource? resolve = target.urlSource? resolve' :=
        Node.urlSource?_congr fun name hname => h name (mem_names (.inl hhead) hname)
      simp only [Option.any_some, Node.hasDeepUrl, hsource]
  · rfl

end Agreeing

theorem recognized_of_urlText? (h : site.urlText? resolve = none) :
    fetchCall? resolve site = none ∧ clientCall? resolve site = none := by
  rw [fetchCall?_eq, clientCall?_eq, h]
  simp

theorem body_of_payloadFields? (h : site.payloadFields? resolve = none) {call : Observation}
    (hcall : fetchCall? resolve site = some call ∨ clientCall? resolve site = some call) :
    call.body = none := by
  rw [fetchCall?_eq, clientCall?_eq, h] at hcall
  rcases hcall with hcall | hcall
  · obtain ⟨-, hfound⟩ := Option.ite_none_right_eq_some.1 hcall
    obtain ⟨url, -, rfl⟩ := Option.map_eq_some_iff.1 hfound
    exact ite_self none
  · obtain ⟨method, -, hfound⟩ := Option.bind_eq_some_iff.1 hcall
    obtain ⟨url, -, rfl⟩ := Option.map_eq_some_iff.1 hfound
    exact ite_self none

theorem initOf_of_resolve {t : ScopeTable Node} {scope : Int} {name : String} {init : Option Node}
    (h : t.resolve scope name = .ok init) : t.initOf scope name = init := by
  simp [ScopeTable.initOf, h]

/-- What a call is found to be depends on the table of scopes only through the names in the places
of its URL and of its payload.  Where such a name stands for another name, there is no URL and no
body. -/
theorem recognized_by_names (site : CallSite) (t : ScopeTable Node) :
    (∀ t' : ScopeTable Node,
      (∀ name ∈ site.names, t.resolve site.scope name = t'.resolve site.scope name) →
        fetchCall? (t.initOf site.scope) site = fetchCall? (t'.initOf site.scope) site ∧
        clientCall? (t.initOf site.scope) site = clientCall? (t'.initOf site.scope) site ∧
        ∀ limit, (site.target?.any fun target =>
            target.hasDeepUrl limit (t.initOf site.scope)) =
          site.target?.any fun target => target.hasDeepUrl limit (t'.initOf site.scope)) ∧
    (∀ name, name ∉ site.names → ∀ init,
      fetchCall? (Function.update (t.initOf site.scope) name init) site =
          fetchCall? (t.initOf site.scope) site ∧
        clientCall? (Function.update (t.initOf site.scope) name init) site =
          clientCall? (t.initOf site.scope) site) ∧
    (∀ target ∈ site.arguments.head?, ∀ name ∈ target.name?, ∀ init,
      t.resolve site.scope name = .ok (some init) → init.name?.isSome →
        fetchCall? (t.initOf site.scope) site = none ∧
          clientCall? (t.initOf site.scope) site = none) ∧
    ∀ payload ∈ site.payload?, ∀ name ∈ payload.name?, ∀ init,
      t.resolve site.scope name = .ok (some init) → init.name?.isSome →
        ∀ call, fetchCall? (t.initOf site.scope) site = some call ∨
          clientCall? (t.initOf site.scope) site = some call → call.body = none := by
  refine ⟨fun t' hsame => ?_, fun name hname init => ?_, ?_, ?_⟩
  · have hinit : ∀ name ∈ site.names,
        t.initOf site.scope name = t'.initOf site.scope name := by
      intro name hname
      rw [ScopeTable.initOf, ScopeTable.initOf, hsame name hname]
    exact ⟨fetchCall?_congr hinit, clientCall?_congr hinit, hasDeepTarget_congr hinit⟩
  · have hother : ∀ other ∈ site.names,
        Function.update (t.initOf site.scope) name init other = t.initOf site.scope other := by
      rintro other hmem
      exact Function.update_of_ne (fun heq : other = name => hname (heq ▸ hmem)) _ _
    exact ⟨fetchCall?_congr hother, clientCall?_congr hother⟩
  · intro target htarget name hname init hinit hagain
    apply recognized_of_urlText?
    rw [urlText?, htarget]
    exact Node.url?_of_name hname (initOf_of_resolve hinit) hagain
  · intro payload hpayload name hname init hinit hagain call hcall
    refine body_of_payloadFields? ?_ hcall
    rw [payloadFields?, hpayload]
    exact payloadSchema?_of_name hname (initOf_of_resolve hinit) hagain

/-- The name in the place of an argument. -/
def nameNode (name : String) : Node :=
  Node.wordNode "identifier" none name

/-- The call `fetch(url, { method: 'post', body: JSON.stringify(payload, { a: 1 }) })`. -/
def namedSite : CallSite where
  callee := Node.wordNode "identifier" (some "function") "fetch"
  arguments := [nameNode "url", Node.sendingOptions "post" [nameNode "payload"]]
  scope := 0
  line := 1

/-- A program scope that declares the given names with their initialisers. -/
def constants (bindings : List (String × Node)) : ScopeTable Node :=
  bindings.foldl (fun t b => t.insert 0 { name := b.1, kind := .constant, init := some b.2 }) {}

/-- Other constants and another order change nothing, and a second hop is not made. -/
theorem recognized_namedSite :
    let path := Node.mk { kind := "string" } [Node.wordNode "string_fragment" none "/api/x"]
    let t := constants [("url", path), ("payload", Node.sentObject)]
    let t' := constants [("a", path), ("payload", Node.sentObject), ("url", path)]
    let twice := constants [("url", nameNode "target"), ("target", path)]
    namedSite.names = ["url", "payload"] ∧
      (fetchCall? (t.initOf 0) namedSite).map Observation.url = some "/api/x" ∧
      (fetchCall? (t.initOf 0) namedSite).bind Observation.body =
        some [("a", { name := "a", type := .number })] ∧
      fetchCall? (t.initOf 0) namedSite = fetchCall? (t'.initOf 0) namedSite ∧
      fetchCall? (twice.initOf 0) namedSite = none := by
  intro path t t' twice
  have hnames : namedSite.names = ["url", "payload"] := by decide +kernel
  have hsame : ∀ name ∈ namedSite.names,
      t.resolve namedSite.scope name = t'.resolve namedSite.scope name := by
    intro name hname
    rw [hnames] at hname
    rcases List.mem_cons.1 hname with rfl | hname
    · rfl
    · obtain rfl := List.mem_singleton.1 hname
      rfl
  obtain ⟨hagree, -, -, -⟩ := recognized_by_names namedSite t
  obtain ⟨-, -, hurl, -⟩ := recognized_by_names namedSite twice
  exact ⟨hnames, by decide +kernel, by decide +kernel, (hagree t' hsame).1,
    (hurl (nameNode "url") rfl "url" rfl (nameNode "target") rfl (by decide +kernel)).1⟩

end CallSite

end RouteCensus
