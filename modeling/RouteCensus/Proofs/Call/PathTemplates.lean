import RouteCensus.Proofs.Call.Likeness
import RouteCensus.Proofs.Endpoint.Description
import RouteCensus.Proofs.Expr.Template
import RouteCensus.Proofs.Route.Placeholders

/-! # Calls on a template

The URL of a call is often a template: a path in which some segments are names
between `${` and `}`.  Such a call has an endpoint unless its method is unknown,
and all fixed segments stand in its route.  A name becomes a parameter of the
route, under its own name and in its own place, exactly if it is a word.
-/

namespace RouteCensus

open Route Text.Utf8

/-- A segment as a template has it. -/
def Route.PathSegment.source : PathSegment → List Char
  | literal s _ => s
  | name x => '$' :: '{' :: (x.spelling ++ ['}'])

/-- The text of a template, with both of its marks. -/
def templateText (segments : List PathSegment) : List Char :=
  '\x60' :: (apiPath PathSegment.source segments ++ ['\x60'])

/-- The nodes hold the names of the segments, each at its place.  The first segment stands `place`
bytes behind `start`. -/
inductive Embed (start : Nat) : Nat → List Node → List PathSegment → Prop where
  | nil {place : Nat} : Embed start place [] []
  | literal {place : Nat} {subs : List Node} {segments : List PathSegment} {s : List Char}
    {h : ∀ c ∈ s, isLiteralChar c = true}
    (hrest : Embed start (place + (encode ('/' :: s)).length) subs segments) :
    Embed start place subs (.literal s h :: segments)
  | name {place : Nat} {sub e : Node} {subs : List Node} {segments : List PathSegment} {x : Name}
    (hstart : sub.label.start = start + (place + 1))
    (hstop : sub.label.stop =
      start + (place + (encode ('/' :: (PathSegment.name x).source)).length))
    (hfirst : sub.firstNamed? = some e) (hkind : e.kind = "identifier")
    (htext : e.text.toList = x.spelling)
    (hrest : Embed start (place + (encode ('/' :: (PathSegment.name x).source)).length) subs
      segments) :
    Embed start place (sub :: subs) (.name x :: segments)

/-- A template that is a path with the given segments. -/
structure Node.SpellsPath (n : Node) (segments : List PathSegment) : Prop where
  kind : n.kind = "template_string"
  bytes : n.label.bytes = encode (templateText segments)
  embed : Embed n.label.start (encode "`/api".toList).length n.substitutions segments

theorem textBetween_encode (before s after : List Char) :
    textBetween (encode (before ++ s ++ after)) (encode before).length
      (encode (before ++ s)).length = s := by
  have hbetween : Between (before ++ s ++ after) (encode before).length
      (encode (before ++ s)).length s :=
    ⟨before, after, rfl, rfl, rfl⟩
  rw [textBetween, hbetween.slice, decodeLenient_encode]

theorem templatePiecesFrom_filter (bytes : List UInt8) (base cursor : Nat) (nodes : List Node) :
    templatePiecesFrom bytes base cursor
        (nodes.filter fun n => n.kind == "template_substitution") =
      templatePiecesFrom bytes base cursor nodes := by
  induction nodes generalizing cursor with
  | nil => rfl
  | cons n nodes ih =>
    rw [List.filter_cons, templatePiecesFrom]
    split
    · next hkind => rw [templatePiecesFrom, if_pos hkind, ih]
    · rw [ih]

theorem placeholder_identifier {e : Node} (h : e.kind = "identifier") (position : Nat) :
    placeholder position (some e) = '{' :: (e.text.toList ++ ['}']) := by
  have hwrapper : isWrapperKind e.kind = false := by
    rw [h]
    decide
  simp [placeholder, Node.unwrap_of_not_wrapper hwrapper, h]

/-- The walk over the substitutions of a template gives its path with placeholders.  The text in
front of the cursor is done with; some of the text up to the next segment is still to be given. -/
theorem fillPieces_templatePiecesFrom {start place : Nat} {subs : List Node}
    {segments : List PathSegment} (h : Embed start place subs segments)
    (hsubs : ∀ sub ∈ subs, sub.kind = "template_substitution") (front pending : List Char)
    (hplace : place = (encode (front ++ pending)).length) (count : Nat) :
    fillPieces count (templatePiecesFrom
        (encode (front ++ pending ++
          ((segments.flatMap fun segment => '/' :: segment.source) ++ ['\x60'])))
        start (encode front).length subs) =
      pending ++ segments.flatMap fun segment => '/' :: segment.shown := by
  induction h generalizing front pending count with
  | nil =>
    have hlength : (encode (front ++ pending ++ ['\x60'])).length - 1 =
        (encode (front ++ pending)).length := by
      rw [encode_append, List.length_append]
      rfl
    rw [List.flatMap_nil, List.nil_append, templatePiecesFrom, hlength, textBetween_encode]
    simp [fillPieces]
  | @literal place subs segments s hs hrest ih =>
    have hplace' : place + (encode ('/' :: s)).length =
        (encode (front ++ (pending ++ '/' :: s))).length := by
      rw [hplace, ← List.append_assoc, encode_append (front ++ pending), List.length_append]
    have htail := ih hsubs front (pending ++ '/' :: s) hplace' count
    simpa [PathSegment.source, PathSegment.shown] using htail
  | @name place sub e subs segments x hstart hstop hfirst hkind htext hrest ih =>
    let done := front ++ pending ++ '/' :: (PathSegment.name x).source
    let rest := (segments.flatMap fun segment => '/' :: segment.source) ++ ['\x60']
    have hcut : sub.label.start - start = (encode (front ++ (pending ++ ['/']))).length := by
      rw [hstart, hplace, Nat.add_sub_cancel_left, ← List.append_assoc, encode_append _ ['/'],
        List.length_append]
      rfl
    have hdone : place + (encode ('/' :: (PathSegment.name x).source)).length =
        (encode done).length := by
      rw [hplace, encode_append (front ++ pending), List.length_append]
    have hnext : sub.label.stop - start = (encode done).length := by
      rw [hstop, Nat.add_sub_cancel_left, hdone]
    have htextBefore := textBetween_encode front (pending ++ ['/'])
      ((PathSegment.name x).source ++ rest)
    have hsource : front ++ pending ++ (((PathSegment.name x :: segments).flatMap fun segment =>
        '/' :: segment.source) ++ ['\x60']) = done ++ rest := by
      simp [done, rest]
    have hsource' : front ++ (pending ++ ['/']) ++ ((PathSegment.name x).source ++ rest) =
        done ++ rest := by
      simp [done]
    have hsub := hsubs sub List.mem_cons_self
    have hsubs' : ∀ sub ∈ subs, sub.kind = "template_substitution" :=
      fun other hother => hsubs other (List.mem_cons_of_mem sub hother)
    have htail := ih hsubs' done [] (by rw [List.append_nil]; exact hdone) (count + 1)
    rw [List.append_nil] at htail
    rw [hsource'] at htextBefore
    rw [hsource, templatePiecesFrom, if_pos (by simp [hsub]), hcut, hnext, htextBefore, fillPieces,
      fillPieces, htail, show sub.namedChildren.head? = some e from hfirst,
      placeholder_identifier hkind, htext]
    simp [PathSegment.shown]

namespace Node

variable {n template : Node} {segments : List PathSegment} {resolve : Resolver}

theorem SpellsPath.literalUrl? (h : n.SpellsPath segments) :
    n.literalUrl? = some (String.ofList (apiPath PathSegment.shown segments)) := by
  have hpieces : n.urlPieces? = some n.templatePieces := by
    simp [urlPieces?, isTextual, operandPieces, h.kind]
  have hwalk : n.templatePieces =
      templatePiecesFrom (encode (templateText segments)) n.label.start 1 n.substitutions := by
    rw [templatePieces, substitutions, templatePiecesFrom_filter, h.bytes]
  have hsubs : ∀ sub ∈ n.substitutions, sub.kind = "template_substitution" :=
    fun sub hsub => beq_iff_eq.1 (List.mem_filter.1 hsub).2
  have hfill := fillPieces_templatePiecesFrom h.embed hsubs ['\x60'] "/api".toList rfl 0
  rw [Node.literalUrl?, hpieces, hwalk]
  exact congrArg (fun s => some (String.ofList s)) hfill

/-- The expression is the given one, wrappers aside, or a name for it. -/
def StandsFor (resolve : Resolver) (n inner : Node) : Prop :=
  n.unwrap = inner ∨
    n.unwrap.kind = "identifier" ∧ ∃ init, resolve n.unwrap.text = some init ∧ init.unwrap = inner

theorem SpellsPath.url? (h : template.SpellsPath segments) (hn : n.StandsFor resolve template) :
    n.url? resolve = some (String.ofList (apiPath PathSegment.shown segments)) := by
  rcases hn with rfl | ⟨hkind, init, hinit, rfl⟩
  · simp [Node.url?, h.kind, h.literalUrl?]
  · simp [Node.url?, hkind, hinit, h.kind, h.literalUrl?]

end Node

/-- A call of `fetch`, or of a method that is named like a verb. -/
def CallSite.IsRequest (site : CallSite) : Prop :=
  (site.callee.kind = "identifier" ∧ site.callee.text = "fetch") ∨
    (calledVerb? site.callee).isSome = true

namespace CallSite

variable {resolve : Resolver} {site : CallSite} {target template : Node} {more : List Node}
  {segments : List PathSegment}

theorem exists_observation? {url : String} (hcall : site.IsRequest)
    (harguments : site.arguments = target :: more) (hurl : target.url? resolve = some url) :
    ∃ found, site.observation? resolve = some found ∧ found.url = url := by
  by_cases hfetch : site.callee.kind = "identifier" ∧ site.callee.text = "fetch"
  · simp [CallSite.observation?, fetchCall?, hfetch, harguments, hurl]
  · obtain ⟨verb, hverb⟩ := Option.isSome_iff_exists.1 (hcall.resolve_left hfetch)
    have hnone : fetchCall? resolve site = none := by
      simpa [fetchCall?] using fun hkind htext => absurd ⟨hkind, htext⟩ hfetch
    simp [CallSite.observation?, hnone, clientCall?, hverb, harguments, hurl]

/-- A call on a template is found, and has an endpoint if its method is known.  The route has all
segments in their order.  It has every name as a parameter, and the parameters are the names,
exactly if all names are words. -/
theorem route_of_template (hsegments : segments ≠ []) (htemplate : template.SpellsPath segments)
    (hcall : site.IsRequest) (harguments : site.arguments = target :: more)
    (htarget : target.StandsFor resolve template) :
    ∃ found, site.observation? resolve = some found ∧ ∀ file,
      ((found.describe? file).isSome ↔
        (HttpMethod.ofWord? (normalMethod found.method)).isSome) ∧
      ∀ endpoint, found.describe? file = some endpoint →
        endpoint.route = String.ofList (apiPath PathSegment.routed segments) ∧
        endpoint.pathParams =
          Text.distinct ((segments.flatMap PathSegment.params).map String.ofList) ∧
        ((endpoint.route = String.ofList (apiPath PathSegment.colon segments) ∧
            endpoint.pathParams =
              Text.distinct ((segments.flatMap PathSegment.names).map String.ofList)) ↔
          ∀ x, .name x ∈ segments → x.IsWord) := by
  obtain ⟨found, hfound, hurl⟩ := exists_observation? hcall harguments (htemplate.url? htarget)
  have hchars : found.url.toList = apiPath PathSegment.shown segments := by
    rw [hurl, String.toList_ofList]
  have hroute : Route.ofUrl found.url = String.ofList (apiPath PathSegment.routed segments) := by
    rw [Route.ofUrl, hchars, ofUrlChars_apiPath]
  have hparams : Route.pathParams (Route.ofUrl found.url) =
      Text.distinct ((segments.flatMap PathSegment.params).map String.ofList) := by
    rw [hroute, Route.pathParams, String.toList_ofList, paramsAfter_apiPath]
  have hapi : isApi found.url.toList = true := by
    rw [hchars]
    exact isApi_apiPath _ hsegments
  refine ⟨found, hfound, fun file => ⟨?_, ?_⟩⟩
  · rw [Observation.describe?_eq, if_pos hapi, Option.isSome_map]
  · intro endpoint hendpoint
    obtain ⟨-, method, -, rfl⟩ := Observation.describe?_eq_some_iff.1 hendpoint
    simp only [Observation.endpoint]
    refine ⟨hroute, hparams, ?_, ?_⟩
    · rintro ⟨hsame, -⟩
      rw [hroute, String.ofList_inj, apiPath, apiPath, List.append_cancel_left_eq] at hsame
      exact (segments_eq_iff segments).1 hsame
    · intro hwords
      rw [hparams, flatMap_params hwords, hroute, apiPath, (segments_eq_iff segments).2 hwords]
      exact ⟨rfl, rfl⟩

end CallSite

namespace Node

/-- The names `id` and `$id`. -/
def plainName : Name := ⟨[.char 'i' (by decide), .char 'd' (by decide)], by simp⟩

def dollarName : Name := ⟨.char '$' (by decide) :: plainName.parts, by simp⟩

/-- The segments of `/api/users/${id}/of/${id}`. -/
def repeatedSegments : List PathSegment :=
  [.literal "users".toList (List.all_eq_true.1 (by decide)), .name plainName,
    .literal "of".toList (List.all_eq_true.1 (by decide)), .name plainName]

def substitution (start stop : Nat) (x : Name) : Node :=
  .mk { kind := "template_substitution", start, stop }
    [wordNode "identifier" none (String.ofList x.spelling)]

def pathTemplate (segments : List PathSegment) (subs : List Node) : Node :=
  .mk { kind := "template_string", bytes := encode (templateText segments) } subs

/-- The call `fetch(template)`. -/
def templateSite (template : Node) : CallSite where
  callee := wordNode "identifier" (some "function") "fetch"
  arguments := [template]
  scope := 0
  line := 1

def templateProgram (template : Node) : Node :=
  .mk { kind := "program" } [.mk { kind := "call_expression" }
    [(templateSite template).callee,
      .mk { kind := "arguments", field := some "arguments" } (templateSite template).arguments]]

def repeatedTemplate : Node :=
  pathTemplate repeatedSegments [substitution 12 17 plainName, substitution 21 26 plainName]

def dollarTemplate : Node :=
  pathTemplate [.name dollarName] [substitution 6 12 dollarName]

theorem repeatedTemplate_spellsPath : repeatedTemplate.SpellsPath repeatedSegments where
  kind := rfl
  bytes := rfl
  embed := .literal (.name (by decide) (by decide) rfl rfl (by decide +kernel)
    (.literal (.name (by decide) (by decide) rfl rfl (by decide +kernel) .nil)))

theorem dollarTemplate_spellsPath : dollarTemplate.SpellsPath [.name dollarName] where
  kind := rfl
  bytes := rfl
  embed := .name (by decide) (by decide) rfl rfl (by decide +kernel) .nil

theorem route_repeatedTemplate :
    repeatedTemplate.SpellsPath repeatedSegments ∧ (templateSite repeatedTemplate).IsRequest ∧
      ∃ found endpoint,
        CallSite.observation? (fun _ => none) (templateSite repeatedTemplate) = some found ∧
        found.describe? "a.ts" = some endpoint ∧ endpoint.route = "/api/users/:id/of/:id" ∧
          endpoint.pathParams = ["id"] := by
  have hrequest : (templateSite repeatedTemplate).IsRequest := .inl ⟨rfl, by decide +kernel⟩
  have htarget : repeatedTemplate.StandsFor (fun _ => none) repeatedTemplate := .inl rfl
  obtain ⟨found, hfound, hall⟩ := CallSite.route_of_template (by simp [repeatedSegments])
    repeatedTemplate_spellsPath hrequest rfl htarget
  have hmethod : (CallSite.observation? (fun _ => none) (templateSite repeatedTemplate)).map
      Observation.method = some "GET" := by
    decide +kernel
  have hget : found.method = "GET" := by simpa [hfound] using hmethod
  have hsome : (found.describe? "a.ts").isSome := by
    rw [(hall "a.ts").1, hget]
    decide +kernel
  obtain ⟨endpoint, hendpoint⟩ := Option.isSome_iff_exists.1 hsome
  obtain ⟨hroute, hparams, -⟩ := (hall "a.ts").2 endpoint hendpoint
  exact ⟨repeatedTemplate_spellsPath, hrequest, found, endpoint, hfound, hendpoint,
    hroute.trans (by decide +kernel), hparams.trans (by decide +kernel)⟩

/-- A name with a dollar sign is lost as a parameter. -/
theorem describe?_dollarTemplate :
    dollarTemplate.SpellsPath [.name dollarName] ∧
      ∃ found endpoint, (templateProgram dollarTemplate).observations = [found] ∧
        found.describe? "a.ts" = some endpoint ∧ endpoint.route = "/api/\x7b$id\x7d" ∧
          endpoint.pathParams = [] := by
  have hendpoint : (Observation.mk .fetch "GET" "/api/\x7b$id\x7d" 1 none none).describe? "a.ts" =
      some (Observation.endpoint _ .get "a.ts") :=
    Observation.describe?_eq_some_iff.2 ⟨by decide +kernel, .get, by decide +kernel, rfl⟩
  exact ⟨dollarTemplate_spellsPath, _, _, by decide +kernel, hendpoint, by decide +kernel,
    by decide +kernel⟩

end Node

end RouteCensus
