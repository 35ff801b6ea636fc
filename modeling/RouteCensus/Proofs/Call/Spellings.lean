import RouteCensus.Proofs.Call.OneHop
import RouteCensus.Proofs.Call.PathTemplates
import RouteCensus.Proofs.Expr.Composite

/-! # Two spellings of a URL

A URL that is put together from fixed texts and expressions can be spelled as a
template, with the expressions in substitutions, or as a sum of strings and
expressions.  Both spellings have the same URL text, so calls on them have the
same endpoint.  The walk over a template has no limit, but the operands of a sum
are found by nested calls, so a sum of too many parts breaks the search off.
-/

namespace RouteCensus

open Text.Utf8

namespace Node

/-- The same tree in another place and another role. -/
inductive Moved : Node → Node → Prop where
  | mk {label label' : Label} {children children' : List Node} (kind : label.kind = label'.kind)
    (named : label.named = label'.named) (bytes : label.bytes = label'.bytes)
    (fields : children.map (fun c => c.label.field) = children'.map fun c => c.label.field)
    (each : List.Forall₂ Moved children children') :
    Moved (.mk label children) (.mk label' children')

/-- An expression that is no string, no template and no sum, wrappers aside. -/
structure IsAtom (n : Node) : Prop where
  textual : n.unwrap.isTextual = false
  sum : n.unwrap.isSum = false

namespace Moved

variable {n m : Node}

theorem kind_eq (h : n.Moved m) : n.kind = m.kind := by
  cases h
  assumption

theorem named_eq (h : n.Moved m) : n.named = m.named := by
  cases h
  assumption

theorem text_eq (h : n.Moved m) : n.text = m.text := by
  cases h with
  | mk kind named bytes fields each =>
    exact congrArg (fun b => String.ofList (decodeLenient b)) bytes

theorem firstNamed?_rel (h : n.Moved m) : Option.Rel Moved n.firstNamed? m.firstNamed? := by
  cases h with
  | mk kind named bytes fields each =>
    exact rel_head? (List.rel_filter (fun _ _ hcd => by simp only [hcd.named_eq]) each)

theorem role?_rel (h : n.Moved m) (field : String) :
    Option.Rel Moved (n.role? field) (m.role? field) := by
  cases h with
  | mk kind named bytes fields each =>
    rw [← List.forall₂_eq_eq_eq, List.forall₂_map_left_iff, List.forall₂_map_right_iff] at fields
    have hboth : List.Forall₂ (fun c d : Node => c.Moved d ∧ c.label.field = d.label.field) _ _ :=
      List.Forall₂.mp (fun _ _ hcd hfield => ⟨hcd, hfield⟩) each fields
    exact rel_imp (rel_find? hboth fun c d hcd => by rw [hcd.2]) fun _ _ _ hcd => hcd.1.1

theorem unwrap_rel (h : n.Moved m) : n.unwrap.Moved m.unwrap :=
  Node.unwrap_rel (fun _ _ => kind_eq) (fun _ _ hnm _ => hnm.firstNamed?_rel) h

theorem isSum_eq (h : n.Moved m) : n.isSum = m.isSum := by
  rw [isSum, isSum, h.kind_eq,
    any?_eq (h.role?_rel "operator") fun c d hcd => by rw [hcd.text_eq]]

theorem isAtom (h : n.Moved m) (hn : n.IsAtom) : m.IsAtom where
  textual := by
    rw [isTextual, ← h.unwrap_rel.kind_eq]
    exact hn.textual
  sum := h.unwrap_rel.isSum_eq ▸ hn.sum

theorem placeholder_eq (h : n.unwrap.Moved m.unwrap) (position : Nat) :
    placeholder position (some n) = placeholder position (some m) := by
  simp only [placeholder, Option.map_some, h.kind_eq, h.text_eq]

end Moved

end Node

/-- A part of a URL. -/
inductive UrlPart where
  | literal (s : List Char)
  | embedded (e : Node) (h : e.IsAtom)

namespace UrlPart

def piece : UrlPart → UrlPiece
  | literal s => .text s
  | embedded e _ => .hole (some e)

def isLiteral : UrlPart → Bool
  | literal _ => true
  | embedded _ _ => false

end UrlPart

/-- The text of a URL with the given parts. -/
def urlOf (parts : List UrlPart) : String :=
  String.ofList (fillPieces 0 (parts.map UrlPart.piece))

/-- The bytes spell the parts one after the other, and the nodes are the substitutions for the
embedded expressions, each at its place.  The bytes stand `place` bytes behind `start`. -/
inductive Composes (start : Nat) : Nat → List Node → List UInt8 → List UrlPart → Prop where
  | nil {place : Nat} : Composes start place [] [] []
  | literal {place : Nat} {subs : List Node} {bytes : List UInt8} {parts : List UrlPart}
    {s : List Char} (hrest : Composes start (place + (encode s).length) subs bytes parts) :
    Composes start place subs (encode s ++ bytes) (.literal s :: parts)
  | embedded {place : Nat} {sub e e' : Node} {subs : List Node} {span bytes : List UInt8}
    {parts : List UrlPart} {h : e.IsAtom} (hstart : sub.label.start = start + place)
    (hstop : sub.label.stop = start + (place + span.length)) (hfirst : sub.firstNamed? = some e')
    (hmoved : e.Moved e') (hrest : Composes start (place + span.length) subs bytes parts) :
    Composes start place (sub :: subs) (span ++ bytes) (.embedded e h :: parts)

/-- A template with the given parts between its marks. -/
structure Node.IsTemplateOf (n : Node) (parts : List UrlPart) : Prop where
  kind : n.kind = "template_string"
  composed : ∃ bytes, n.label.bytes = encode ['\x60'] ++ (bytes ++ encode ['\x60']) ∧
    Composes n.label.start 1 n.substitutions bytes parts

/-- An operand of a sum that is the given part: a string of fragments only, or the expression. -/
inductive Node.IsOperandOf : Node → UrlPart → Prop where
  | literal {n : Node} (kind : n.kind = "string")
    (plain : ∀ c ∈ n.children, c.kind ≠ "escape_sequence") :
    IsOperandOf n (.literal ((n.children.filter fun c => c.kind == "string_fragment").flatMap
      fun c => c.text.toList))
  | embedded {n e : Node} {h : e.IsAtom} (hmoved : e.Moved n) : IsOperandOf n (.embedded e h)

/-- A sum of the given parts, nested to the left. -/
inductive Node.IsSumOf : Node → List UrlPart → Prop where
  | single {n : Node} {part : UrlPart} (h : n.IsOperandOf part) : IsSumOf n [part]
  | plus {n left right : Node} {parts : List UrlPart} {part : UrlPart} (hsum : n.isSum = true)
    (hleft : n.role? "left" = some left) (hright : n.role? "right" = some right)
    (hparts : left.IsSumOf parts) (hpart : right.IsOperandOf part) : IsSumOf n (parts ++ [part])

section Templates

theorem textBetween_append (front : List UInt8) (s : List Char) (after : List UInt8) :
    textBetween (front ++ (encode s ++ after)) front.length (front.length + (encode s).length) =
      s := by
  have hslice : ((front ++ (encode s ++ after)).take (front.length + (encode s).length)).drop
      front.length = encode s := by
    rw [← List.append_assoc, ← List.length_append, List.take_left, List.drop_left]
  rw [textBetween, hslice, decodeLenient_encode]

/-- The walk over the substitutions of a template gives the text of its parts.  The bytes in front
of the cursor are done with; the text up to the next part is still to be given. -/
theorem Composes.fillPieces_eq {start place : Nat} {subs : List Node} {bytes : List UInt8}
    {parts : List UrlPart} (h : Composes start place subs bytes parts)
    (hsubs : ∀ sub ∈ subs, sub.kind = "template_substitution") (front : List UInt8)
    (pending : List Char) (hplace : place = front.length + (encode pending).length) (count : Nat) :
    fillPieces count (templatePiecesFrom
        (front ++ (encode pending ++ (bytes ++ encode ['\x60']))) start front.length subs) =
      pending ++ fillPieces count (parts.map UrlPart.piece) := by
  induction h generalizing front pending count with
  | nil =>
    have hlength : (front ++ (encode pending ++ ([] ++ encode ['\x60']))).length - 1 =
        front.length + (encode pending).length := by
      rw [List.nil_append, List.length_append, List.length_append, ← Nat.add_assoc]
      rfl
    rw [templatePiecesFrom, hlength, textBetween_append]
    simp [fillPieces]
  | @literal place subs bytes parts s hrest ih =>
    have hplace' : place + (encode s).length = front.length + (encode (pending ++ s)).length := by
      rw [hplace, encode_append, List.length_append, Nat.add_assoc]
    have htail := ih hsubs front (pending ++ s) hplace' count
    rw [encode_append] at htail
    simpa [UrlPart.piece, fillPieces] using htail
  | @embedded place sub e e' subs span bytes parts hatom hstart hstop hfirst hmoved hrest ih =>
    let done := front ++ (encode pending ++ span)
    have hcut : sub.label.start - start = front.length + (encode pending).length := by
      rw [hstart, Nat.add_sub_cancel_left, hplace]
    have hdone : place + span.length = done.length := by
      simp only [done, List.length_append, hplace]
      omega
    have hnext : sub.label.stop - start = done.length := by
      rw [hstop, Nat.add_sub_cancel_left, hdone]
    have hsource : front ++ (encode pending ++ (span ++ bytes ++ encode ['\x60'])) =
        done ++ (encode [] ++ (bytes ++ encode ['\x60'])) := by
      simp [done, encode]
    have hbefore := textBetween_append front pending (span ++ bytes ++ encode ['\x60'])
    have hsubs' : ∀ other ∈ subs, other.kind = "template_substitution" :=
      fun other hother => hsubs other (List.mem_cons_of_mem sub hother)
    have htail := ih hsubs' done [] hdone (count + 1)
    have hkind := hsubs sub List.mem_cons_self
    rw [templatePiecesFrom, if_pos (by simp [hkind]), hcut, hnext, hbefore, fillPieces, fillPieces,
      hsource, htail, show sub.namedChildren.head? = some e' from hfirst,
      ← Node.Moved.placeholder_eq hmoved.unwrap_rel]
    rfl

theorem Node.IsTemplateOf.literalUrl? {n : Node} {parts : List UrlPart} (h : n.IsTemplateOf parts) :
    n.literalUrl? = some (urlOf parts) := by
  obtain ⟨bytes, hbytes, hcomposes⟩ := h.composed
  have hpieces : n.urlPieces? = some n.templatePieces := by
    simp [urlPieces?, isTextual, operandPieces, h.kind]
  have hwalk : n.templatePieces = templatePiecesFrom
      (encode ['\x60'] ++ (encode [] ++ (bytes ++ encode ['\x60']))) n.label.start 1
        n.substitutions := by
    rw [templatePieces, substitutions, templatePiecesFrom_filter, hbytes]
    rfl
  have hsubs : ∀ sub ∈ n.substitutions, sub.kind = "template_substitution" :=
    fun sub hsub => beq_iff_eq.1 (List.mem_filter.1 hsub).2
  have hfill := hcomposes.fillPieces_eq hsubs (encode ['\x60']) [] rfl 0
  rw [Node.literalUrl?, hpieces, hwalk]
  exact congrArg (fun s => some (String.ofList s)) hfill

end Templates

/-- Expressions whose placeholders are the same wherever they stand. -/
def Node.SamePlaceholder (n m : Node) : Prop :=
  n.unwrap.Moved m.unwrap

theorem fillPieces_of_samePlaceholder (count : Nat) {xs ys : List UrlPiece}
    (h : List.Forall₂ (UrlPiece.Alike Node.SamePlaceholder) xs ys) :
    fillPieces count xs = fillPieces count ys := by
  refine fillPieces_eq_of_alike (fun position x y hxy => ?_) count h
  cases hxy with
  | none => rfl
  | some hab => exact Node.Moved.placeholder_eq hab position

theorem flatMap_stringPart {children : List Node}
    (plain : ∀ c ∈ children, c.kind ≠ "escape_sequence") :
    children.flatMap stringPart =
      (children.filter fun c => c.kind == "string_fragment").flatMap fun c => c.text.toList := by
  induction children with
  | nil => rfl
  | cons c rest ih =>
    have hescape : c.kind ≠ "escape_sequence" := plain c List.mem_cons_self
    rw [List.flatMap_cons, ih fun d hd => plain d (List.mem_cons_of_mem c hd), List.filter_cons]
    by_cases hfragment : c.kind = "string_fragment"
    · simp [stringPart, hfragment]
    · simp [stringPart, hfragment, hescape]

namespace Node

variable {n : Node} {part : UrlPart} {parts : List UrlPart}

theorem IsOperandOf.unwrap_of_literal {s : List Char} (h : n.IsOperandOf (.literal s)) :
    n.unwrap = n ∧ n.kind = "string" ∧ n.stringChars = s := by
  generalize hpart : UrlPart.literal s = part at h
  cases h with
  | embedded _ => cases hpart
  | literal kind plain =>
    cases hpart
    exact ⟨unwrap_of_not_wrapper (by rw [kind]; decide), kind, flatMap_stringPart plain⟩

theorem IsOperandOf.not_sum (h : n.IsOperandOf part) : n.unwrap.isSum = false := by
  cases part with
  | literal s =>
    obtain ⟨hunwrap, hkind, -⟩ := h.unwrap_of_literal
    rw [hunwrap, isSum, hkind]
    rfl
  | embedded e hatom =>
    cases h with
    | embedded hmoved => exact (hmoved.isAtom hatom).sum

theorem IsOperandOf.isTextual_eq (h : n.IsOperandOf part) :
    n.unwrap.isTextual = part.isLiteral := by
  cases part with
  | literal s =>
    obtain ⟨hunwrap, hkind, -⟩ := h.unwrap_of_literal
    rw [hunwrap, isTextual, hkind]
    rfl
  | embedded e hatom =>
    cases h with
    | embedded hmoved => exact (hmoved.isAtom hatom).textual

/-- An operand gives the piece of its part. -/
theorem IsOperandOf.pieces_rel (h : n.IsOperandOf part) :
    List.Forall₂ (UrlPiece.Alike SamePlaceholder) [part.piece] n.unwrap.operandPieces := by
  have htextual := h.isTextual_eq
  cases part with
  | literal s =>
    obtain ⟨hunwrap, hkind, rfl⟩ := h.unwrap_of_literal
    rw [hunwrap, operandPieces, hkind]
    exact .cons (.text _) .nil
  | embedded e hatom =>
    cases h with
    | embedded hmoved =>
      have hsame : e.SamePlaceholder n.unwrap := by
        rw [SamePlaceholder, unwrap_of_bare n.unwrap_bare]
        exact hmoved.unwrap_rel
      have hpieces : n.unwrap.operandPieces = [.hole (some n.unwrap)] := by
        obtain ⟨hstring, htemplate⟩ := Bool.or_eq_false_iff.1 htextual
        rw [operandPieces, hstring, htemplate]
        rfl
      rw [hpieces]
      exact .cons (.hole (.some hsame)) .nil

theorem IsOperandOf.summands_eq (h : n.IsOperandOf part) : n.summands = [n.unwrap] := by
  rw [summands, operands?_of_not_sum h.not_sum]
  rfl

theorem summands_of_sum {left right : Node} (h : n.isSum = true)
    (hleft : n.role? "left" = some left) (hright : n.role? "right" = some right) :
    n.summands = left.summands ++ right.summands := by
  rw [summands, operands?_of_sum h hleft hright]
  rfl

namespace IsSumOf

theorem pieces_rel (h : n.IsSumOf parts) :
    List.Forall₂ (UrlPiece.Alike SamePlaceholder) (parts.map UrlPart.piece)
      (n.summands.flatMap operandPieces) := by
  induction h with
  | single hpart =>
    rw [hpart.summands_eq, List.flatMap_singleton]
    exact hpart.pieces_rel
  | plus hsum hleft hright _ hpart ih =>
    rw [summands_of_sum hsum hleft hright, hpart.summands_eq, List.flatMap_append, List.map_append,
      List.flatMap_singleton]
    exact List.rel_append ih hpart.pieces_rel

theorem any_isTextual (h : n.IsSumOf parts) :
    n.summands.any isTextual = parts.any UrlPart.isLiteral := by
  induction h with
  | single hpart =>
    rw [hpart.summands_eq, List.any_cons, List.any_cons, hpart.isTextual_eq]
    rfl
  | plus hsum hleft hright _ hpart ih =>
    rw [summands_of_sum hsum hleft hright, hpart.summands_eq, List.any_append, List.any_append, ih,
      List.any_cons, List.any_cons, hpart.isTextual_eq]
    rfl

/-- Every part but the first adds a level to a sum. -/
theorem sumDepth_eq (h : n.IsSumOf parts) : n.sumDepth = parts.length := by
  induction h with
  | single hpart => exact sumDepth_of_not_sum hpart.not_sum
  | @plus n left right parts part hsum hleft hright hparts hpart ih =>
    have hpos : 0 < parts.length := by
      cases hparts with
      | single => exact Nat.one_pos
      | plus => simp
    have hright' : right.sumDepth = 1 := sumDepth_of_not_sum hpart.not_sum
    rw [sumDepth_sum hsum, hleft, hright, List.length_append, List.length_singleton]
    simp only [Option.map_some, ih, hright']
    rw [Nat.max_eq_left hpos, Nat.add_comm]

/-- A sum with a literal part is a string or a proper sum. -/
theorem kind_or_isSum (h : n.IsSumOf parts) (hliteral : parts.any UrlPart.isLiteral = true) :
    n.kind = "string" ∧ parts.length = 1 ∨ n.isSum = true := by
  cases h with
  | @single _ part hpart =>
    cases part with
    | literal s => exact .inl ⟨hpart.unwrap_of_literal.2.1, rfl⟩
    | embedded e hatom => cases hliteral
  | plus hsum => exact .inr hsum

theorem kind_mem (h : n.IsSumOf parts) (hliteral : parts.any UrlPart.isLiteral = true) :
    n.kind ∈ ["string", "binary_expression"] := by
  rcases h.kind_or_isSum hliteral with ⟨hstring, -⟩ | hsum
  · rw [hstring]
    decide
  · rw [beq_iff_eq.1 (Bool.and_eq_true_iff.1 hsum).1]
    decide

theorem ne_identifier (h : n.IsSumOf parts) (hliteral : parts.any UrlPart.isLiteral = true) :
    n.kind ≠ "identifier" := by
  have hall : ∀ kind ∈ ["string", "binary_expression"], kind ≠ "identifier" := by decide
  exact hall n.kind (h.kind_mem hliteral)

theorem unwrap_eq (h : n.IsSumOf parts) (hliteral : parts.any UrlPart.isLiteral = true) :
    n.unwrap = n := by
  refine unwrap_of_not_wrapper ?_
  have hall : ∀ kind ∈ ["string", "binary_expression"], isWrapperKind kind = false := by decide
  exact hall n.kind (h.kind_mem hliteral)

theorem literalUrl? (h : n.IsSumOf parts) (hliteral : parts.any UrlPart.isLiteral = true) :
    n.literalUrl? = some (urlOf parts) := by
  have hunwrap := h.unwrap_eq hliteral
  have hname : n.unwrap.kind ≠ "identifier" := by
    rw [hunwrap]
    exact h.ne_identifier hliteral
  have hurl := url?_eq_summands hname fun _ => none
  rw [url?_eq_urlSource?, urlSource?, if_neg (by simpa using hname), Option.bind_some, hunwrap,
    h.any_isTextual, if_pos hliteral] at hurl
  rw [hurl, urlOf, fillPieces_of_samePlaceholder 0 h.pieces_rel]

end IsSumOf

section StandsFor

variable {resolve : Resolver} {inner : Node}

theorem StandsFor.urlSource? (h : n.StandsFor resolve inner) (hname : inner.kind ≠ "identifier") :
    n.urlSource? resolve = some inner := by
  rcases h with rfl | ⟨hkind, init, hinit, rfl⟩
  · exact if_neg (by simpa using hname)
  · simp [Node.urlSource?, hkind, hinit, hname]

theorem StandsFor.url?_eq (h : n.StandsFor resolve inner) (hname : inner.kind ≠ "identifier") :
    n.url? resolve = inner.literalUrl? := by
  rw [url?_eq_urlSource?, h.urlSource? hname, Option.bind_some]

theorem StandsFor.hasDeepUrl_eq (h : n.StandsFor resolve inner) (hname : inner.kind ≠ "identifier")
    (limit : Nat) :
    n.hasDeepUrl limit resolve = (!inner.isTextual && decide (limit < inner.sumDepth)) := by
  rw [hasDeepUrl, h.urlSource? hname, Option.any_some]

theorem IsTemplateOf.ne_identifier (h : inner.IsTemplateOf parts) : inner.kind ≠ "identifier" := by
  rw [h.kind]
  decide

theorem IsTemplateOf.url?_eq (h : inner.IsTemplateOf parts) (hn : n.StandsFor resolve inner) :
    n.url? resolve = some (urlOf parts) := by
  rw [hn.url?_eq h.ne_identifier, h.literalUrl?]

theorem IsTemplateOf.hasDeepUrl_eq (h : inner.IsTemplateOf parts) (hn : n.StandsFor resolve inner)
    (limit : Nat) : n.hasDeepUrl limit resolve = false := by
  rw [hn.hasDeepUrl_eq h.ne_identifier, isTextual, h.kind]
  rfl

theorem IsSumOf.url?_eq (h : inner.IsSumOf parts) (hliteral : parts.any UrlPart.isLiteral = true)
    (hn : n.StandsFor resolve inner) : n.url? resolve = some (urlOf parts) := by
  rw [hn.url?_eq (h.ne_identifier hliteral), h.literalUrl? hliteral]

theorem IsSumOf.hasDeepUrl_iff (h : inner.IsSumOf parts)
    (hliteral : parts.any UrlPart.isLiteral = true) (hn : n.StandsFor resolve inner) {limit : Nat}
    (hlimit : 1 ≤ limit) : n.hasDeepUrl limit resolve = true ↔ limit < parts.length := by
  rw [hn.hasDeepUrl_eq (h.ne_identifier hliteral), h.sumDepth_eq]
  rcases h.kind_or_isSum hliteral with ⟨hstring, hlength⟩ | hsum
  · simp [isTextual, hstring, hlength, Nat.ne_of_gt hlimit]
  · have htextual : inner.isTextual = false :=
      Bool.eq_false_iff.2 fun htextual => by simp [isSum_of_textual htextual] at hsum
    simp [htextual]

end StandsFor

end Node

namespace CallSite

variable {resolve resolve' : Resolver} {site site' : CallSite}

/-- Calls of the same with the same URL and the same payload are the same HTTP call, wherever they
stand. -/
theorem observation?_eq_map (hcallee : site'.callee = site.callee)
    (hmore : site'.arguments[1]? = site.arguments[1]?)
    (hurl : site'.urlText? resolve' = site.urlText? resolve)
    (hpayload : site'.payloadFields? resolve' = site.payloadFields? resolve) :
    site'.observation? resolve' =
      (site.observation? resolve).map fun call => { call with line := site'.line } := by
  have hfetch : fetchCall? resolve' site' =
      (fetchCall? resolve site).map fun call => { call with line := site'.line } := by
    rw [fetchCall?_eq, fetchCall?_eq, hcallee, hmore, hurl, hpayload]
    split
    · rw [Option.map_map]
      rfl
    · rfl
  have hclient : clientCall? resolve' site' =
      (clientCall? resolve site).map fun call => { call with line := site'.line } := by
    rw [clientCall?_eq, clientCall?_eq, hcallee, hurl, hpayload, Option.map_bind]
    refine Option.bind_congr fun method _ => ?_
    rw [Function.comp_apply, Option.map_map]
    rfl
  unfold CallSite.observation?
  rw [hfetch, hclient]
  cases fetchCall? resolve site <;> rfl

end CallSite

/-- The place of a call shows in the place of its endpoint only. -/
theorem Observation.describe?_of_line (call : Observation) (line : Nat) (file file' : String) :
    { call with line }.describe? file' = (call.describe? file).map fun endpoint =>
      { endpoint with sourceFile := file', sourceLine := line } := by
  rw [describe?_eq, describe?_eq]
  dsimp only
  split
  · simp only [Option.map_map, Function.comp_def, endpoint]
  · rfl

/-- A template and a sum of the same parts, one of them a literal, have the same URL text.  Of the
two only the sum breaks the search off, if it has more parts than calls can be nested.  Calls on
them with the same payload have the same endpoint, apart from its place. -/
theorem template_sum_agree {parts : List UrlPart} {template sum : Node}
    (hliteral : parts.any UrlPart.isLiteral = true) (htemplate : template.IsTemplateOf parts)
    (hsum : sum.IsSumOf parts) {resolve resolve' : Resolver} {target target' : Node}
    (htarget : target.StandsFor resolve template) (htarget' : target'.StandsFor resolve' sum) :
    target.url? resolve = some (urlOf parts) ∧ target'.url? resolve' = some (urlOf parts) ∧
    (∀ limit, target.hasDeepUrl limit resolve = false) ∧
    (∀ limit, 1 ≤ limit → (target'.hasDeepUrl limit resolve' = true ↔ limit < parts.length)) ∧
    ∀ (site site' : CallSite) (more : List Node), site'.callee = site.callee →
      site.arguments = target :: more → site'.arguments = target' :: more →
      site'.payloadFields? resolve' = site.payloadFields? resolve → ∀ file file',
        ((site'.observation? resolve').bind fun call => call.describe? file') =
          ((site.observation? resolve).bind fun call => call.describe? file).map fun endpoint =>
            { endpoint with sourceFile := file', sourceLine := site'.line } := by
  have hurl := htemplate.url?_eq htarget
  have hurl' := hsum.url?_eq hliteral htarget'
  refine ⟨hurl, hurl', htemplate.hasDeepUrl_eq htarget,
    fun limit => hsum.hasDeepUrl_iff hliteral htarget', ?_⟩
  intro site site' more hcallee harguments harguments' hpayload file file'
  have htext : site'.urlText? resolve' = site.urlText? resolve := by
    rw [CallSite.urlText?, CallSite.urlText?, harguments, harguments', List.head?_cons,
      List.head?_cons, Option.bind_some, Option.bind_some, hurl, hurl']
  have hmore : site'.arguments[1]? = site.arguments[1]? := by
    rw [harguments, harguments', List.getElem?_cons_succ, List.getElem?_cons_succ]
  rw [CallSite.observation?_eq_map hcallee hmore htext hpayload, Option.bind_map, Option.map_bind]
  exact Option.bind_congr fun call _ => call.describe?_of_line site'.line file file'

namespace Node

/-- A string with a single fragment. -/
def stringNode (field : Option String) (s : List Char) : Node :=
  .mk { kind := "string", field } [.mk { kind := "string_fragment", bytes := encode s } []]

def sumNode (field : Option String) (left right : Node) : Node :=
  .mk { kind := "binary_expression", field }
    [left, .mk { kind := "+", named := false, field := some "operator", bytes := [43] } [], right]

/-- A substitution for an expression, with its place. -/
def embedding (start stop : Nat) (e : Node) : Node :=
  .mk { kind := "template_substitution", start, stop } [e]

theorem isOperandOf_stringNode (field : Option String) (s : List Char) :
    (stringNode field s).IsOperandOf (.literal s) := by
  have htext : (Node.mk { kind := "string_fragment", bytes := encode s } []).text.toList = s := by
    rw [text, String.toList_ofList]
    exact decodeLenient_encode s
  have hpart : (stringNode field s).IsOperandOf _ :=
    .literal rfl (by simp [stringNode, children, kind, label])
  simpa [stringNode, children, kind, label, htext] using hpart

theorem isSumOf_sumNode {left right : Node} {parts : List UrlPart} {part : UrlPart}
    (field : Option String) (hleft : left.label.field = some "left")
    (hright : right.label.field = some "right") (hparts : left.IsSumOf parts)
    (hpart : right.IsOperandOf part) : (sumNode field left right).IsSumOf (parts ++ [part]) := by
  have hlabel : ∀ label children, (Node.mk label children).label = label := fun _ _ => rfl
  have hplus : (Node.mk
      { kind := "+", named := false, field := some "operator", bytes := [43] } []).text = "+" := by
    decide +kernel
  refine .plus ?_ ?_ ?_ hparts hpart
  · simp [isSum, sumNode, kind, role?, children, hlabel, hleft, hplus]
  · simp [sumNode, role?, children, hleft]
  · simp [sumNode, role?, children, hlabel, hleft, hright]

theorem isAtom_wordNode {field : Option String} {name : String} :
    (wordNode "identifier" field name).IsAtom :=
  ⟨rfl, rfl⟩

theorem moved_wordNode (kind : String) (field field' : Option String) (text : String) :
    (wordNode kind field text).Moved (wordNode kind field' text) :=
  .mk rfl rfl rfl rfl .nil

/-- The expression `a.b`. -/
def memberNode (field : Option String) : Node :=
  .mk { kind := "member_expression", field, bytes := encode "a.b".toList }
    [wordNode "identifier" (some "object") "a", .mk { kind := ".", named := false } [],
      wordNode "property_identifier" (some "property") "b"]

theorem isAtom_memberNode : (memberNode none).IsAtom :=
  ⟨rfl, rfl⟩

theorem moved_memberNode (field : Option String) : (memberNode none).Moved (memberNode field) :=
  .mk rfl rfl rfl rfl (.cons (moved_wordNode _ _ _ _) (.cons (.mk rfl rfl rfl rfl .nil)
    (.cons (moved_wordNode _ _ _ _) .nil)))

/-- Texts with and without several bytes to a character, an empty text, expressions without a text
between them, and an expression that is no name. -/
def mixedParts : List UrlPart :=
  [.literal "/api/é/".toList, .embedded (memberNode none) isAtom_memberNode, .literal [],
    .embedded (wordNode "identifier" none "id") isAtom_wordNode,
    .embedded (wordNode "identifier" none "id") isAtom_wordNode, .literal "x".toList]

def mixedTemplate : Node :=
  .mk { kind := "template_string", start := 7, bytes :=
      encode "`/api/é/$\x7ba.b\x7d$\x7bid\x7d$\x7bid\x7dx`".toList }
    [embedding 16 22 (memberNode none), embedding 22 27 (wordNode "identifier" none "id"),
      embedding 27 32 (wordNode "identifier" none "id")]

def mixedSum : Node :=
  sumNode none (sumNode (some "left") (sumNode (some "left") (sumNode (some "left")
    (sumNode (some "left") (stringNode (some "left") "/api/é/".toList)
      (memberNode (some "right"))) (stringNode (some "right") []))
        (wordNode "identifier" (some "right") "id")) (wordNode "identifier" (some "right") "id"))
          (stringNode (some "right") "x".toList)

theorem mixedTemplate_isTemplateOf : mixedTemplate.IsTemplateOf mixedParts where
  kind := rfl
  composed := by
    have hname := moved_wordNode "identifier" none none "id"
    refine ⟨encode "/api/é/".toList ++ (encode "$\x7ba.b\x7d".toList ++ (encode [] ++
      (encode "$\x7bid\x7d".toList ++ (encode "$\x7bid\x7d".toList ++ (encode "x".toList ++ []))))),
      by decide +kernel, ?_⟩
    exact .literal (.embedded (by decide) (by decide) rfl (moved_memberNode none) (.literal
      (.embedded (by decide) (by decide) rfl hname (.embedded (by decide) (by decide) rfl hname
        (.literal .nil)))))

theorem mixedSum_isSumOf : mixedSum.IsSumOf mixedParts := by
  have hname := moved_wordNode "identifier" none (some "right") "id"
  have hpath := IsSumOf.single (isOperandOf_stringNode (some "left") "/api/é/".toList)
  have hmember := isSumOf_sumNode (some "left") rfl rfl hpath
    (.embedded (h := isAtom_memberNode) (moved_memberNode (some "right")))
  have hempty := isSumOf_sumNode (some "left") rfl rfl hmember
    (isOperandOf_stringNode (some "right") [])
  have hid := IsOperandOf.embedded (h := isAtom_wordNode) hname
  have hfirst := isSumOf_sumNode (some "left") rfl rfl hempty hid
  have hsecond := isSumOf_sumNode (some "left") rfl rfl hfirst hid
  exact isSumOf_sumNode none rfl rfl hsecond (isOperandOf_stringNode (some "right") "x".toList)

/-- A name for the sum has the URL of the template, and the call on it the same endpoint. -/
theorem mixedSpellings_agree :
    let resolve : Resolver := fun _ => some mixedSum
    let target := wordNode "identifier" none "url"
    mixedTemplate.IsTemplateOf mixedParts ∧ mixedSum.IsSumOf mixedParts ∧
      mixedTemplate.url? resolve = some "/api/é/\x7bparam1\x7d\x7bid\x7d\x7bid\x7dx" ∧
      target.url? resolve = some "/api/é/\x7bparam1\x7d\x7bid\x7d\x7bid\x7dx" ∧
      target.hasDeepUrl 6 resolve = false ∧
      ((CallSite.observation? resolve (templateSite target)).bind fun call =>
          call.describe? "b.ts") =
        ((CallSite.observation? resolve (templateSite mixedTemplate)).bind fun call =>
          call.describe? "a.ts").map fun endpoint =>
            { endpoint with sourceFile := "b.ts", sourceLine := 1 } := by
  intro resolve target
  have htemplate : mixedTemplate.StandsFor resolve mixedTemplate := .inl rfl
  have hsum : target.StandsFor resolve mixedSum := .inr ⟨rfl, mixedSum, rfl, rfl⟩
  obtain ⟨hurl, hurl', -, hdeep, hsites⟩ := template_sum_agree (by decide)
    mixedTemplate_isTemplateOf mixedSum_isSumOf htemplate hsum
  have hparts : urlOf mixedParts = "/api/é/\x7bparam1\x7d\x7bid\x7d\x7bid\x7dx" := by
    decide +kernel
  rw [hparts] at hurl hurl'
  have hshallow : target.hasDeepUrl 6 resolve = false :=
    Bool.eq_false_iff.2 fun h => absurd ((hdeep 6 (by decide)).1 h) (by decide)
  exact ⟨mixedTemplate_isTemplateOf, mixedSum_isSumOf, hurl, hurl', hshallow,
    hsites (templateSite mixedTemplate) (templateSite target) [] rfl rfl rfl rfl "a.ts" "b.ts"⟩

/-- A literal and a name that is repeated. -/
def longParts (n : Nat) : List UrlPart :=
  .literal "/api/".toList ::
    List.replicate n (.embedded (wordNode "identifier" none "a") isAtom_wordNode)

def longChain : Nat → Node
  | 0 => stringNode (some "left") "/api/".toList
  | n + 1 => sumNode (some "left") (longChain n) (wordNode "identifier" (some "right") "a")

/-- Substitutions for a name, one after the other. -/
def embeddings (place : Nat) : Nat → List Node
  | 0 => []
  | n + 1 =>
    embedding place (place + 4) (wordNode "identifier" none "a") :: embeddings (place + 4) n

def longTemplate (n : Nat) : Node :=
  .mk { kind := "template_string", bytes := encode ['\x60'] ++ (encode "/api/".toList ++
      (List.replicate n (encode "$\x7ba\x7d".toList)).flatten ++ encode ['\x60']) }
    (embeddings 6 n)

theorem isSumOf_longChain (n : Nat) : (longChain n).IsSumOf (longParts n) := by
  induction n with
  | zero => exact .single (isOperandOf_stringNode _ _)
  | succ n ih =>
    have hfield : (longChain n).label.field = some "left" := by cases n <;> rfl
    rw [longParts, List.replicate_succ', ← List.cons_append]
    exact isSumOf_sumNode _ hfield rfl ih (.embedded (moved_wordNode _ _ _ _))

theorem composes_embeddings (place n : Nat) :
    Composes 0 place (embeddings place n) (List.replicate n (encode "$\x7ba\x7d".toList)).flatten
      (List.replicate n (.embedded (wordNode "identifier" none "a") isAtom_wordNode)) := by
  induction n generalizing place with
  | zero => exact .nil
  | succ n ih =>
    rw [List.replicate_succ, List.replicate_succ, List.flatten_cons]
    exact .embedded (Nat.zero_add _).symm (Nat.zero_add _).symm rfl (moved_wordNode _ _ _ _)
      (ih (place + 4))

theorem isTemplateOf_longTemplate (n : Nat) : (longTemplate n).IsTemplateOf (longParts n) where
  kind := rfl
  composed := by
    have hsubs : ∀ place, (embeddings place n).filter
        (fun sub => sub.kind == "template_substitution") = embeddings place n := by
      induction n with
      | zero => exact fun _ => rfl
      | succ n ih => exact fun place => congrArg (List.cons _) (ih (place + 4))
    refine ⟨_, rfl, ?_⟩
    rw [substitutions, longTemplate, children, hsubs]
    exact .literal (composes_embeddings 6 n)

theorem hasDeepUrl_longChain {limit n : Nat} (hlimit : 1 ≤ limit) (h : limit ≤ n)
    (resolve : Resolver) : (longChain n).hasDeepUrl limit resolve = true := by
  have hsum := isSumOf_longChain n
  rw [hsum.hasDeepUrl_iff rfl (.inl (hsum.unwrap_eq rfl)) hlimit, longParts, List.length_cons,
    List.length_replicate]
  omega

theorem tooDeep_longChain {limit n : Nat} (hlimit : 1 ≤ limit) (h : limit ≤ n) :
    (templateProgram (longChain n)).tooDeep limit = true := by
  have hsite : callSite? ScopeTable.program (.mk { kind := "call_expression" }
      [wordNode "identifier" (some "function") "fetch",
        .mk { kind := "arguments", field := some "arguments" } [longChain n]]) =
      some (templateSite (longChain n)) := by
    cases n <;> rfl
  have hfetch : (wordNode "identifier" (some "function") "fetch").text = "fetch" := by
    decide +kernel
  have htarget : (templateSite (longChain n)).target? = some (longChain n) := by
    rw [CallSite.target?, templateSite, hfetch]
    rfl
  refine Bool.or_eq_true_iff.2 (.inr (List.any_eq_true.2 ⟨templateSite (longChain n), ?_, ?_⟩))
  · refine List.mem_append_right _ (List.mem_append_left _ (List.mem_append_left _ ?_))
    exact Option.mem_toList.2 hsite
  · rw [htarget, Option.any_some]
    exact hasDeepUrl_longChain hlimit h _

/-- The sum of many parts breaks the search off, the template of the same parts does not. -/
theorem tooDeep_thousandParts :
    (longTemplate 1499).IsTemplateOf (longParts 1499) ∧ (longChain 1499).IsSumOf (longParts 1499) ∧
      (longTemplate 1499).url? (fun _ => none) = some (urlOf (longParts 1499)) ∧
      (longTemplate 1499).hasDeepUrl 985 (fun _ => none) = false ∧
      (templateProgram (longChain 1499)).tooDeep 985 = true := by
  have htemplate := isTemplateOf_longTemplate 1499
  have hself : (longTemplate 1499).StandsFor (fun _ => none) (longTemplate 1499) := .inl rfl
  exact ⟨htemplate, isSumOf_longChain 1499, htemplate.url?_eq hself,
    htemplate.hasDeepUrl_eq hself _, tooDeep_longChain (by decide) (by decide)⟩

end Node

end RouteCensus
