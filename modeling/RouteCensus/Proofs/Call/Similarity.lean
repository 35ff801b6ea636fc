import Mathlib.Data.List.Forall2
import RouteCensus.Call.Nesting
import RouteCensus.Proofs.Expr.Leaves

/-! # Similar expressions

Two expressions of different trees may be written differently and still be the
same to the readers of calls.  A relation between nodes is a similarity if
related nodes show the readers the same inside their wrappers, with related nodes
in their places.  Then related expressions have the same URL and the same schema,
and calls with related arguments are the same HTTP call.
-/

namespace RouteCensus

/-- Relates the same fixed text, or related embedded expressions. -/
inductive UrlPiece.Alike (R : Node → Node → Prop) : UrlPiece → UrlPiece → Prop where
  | text (s : List Char) : Alike R (.text s) (.text s)
  | hole {expr expr' : Option Node} (h : Option.Rel R expr expr') :
    Alike R (.hole expr) (.hole expr')

/-- Members of object literals that give the same field. -/
structure Node.AlikeMember (R : Node → Node → Prop) (n m : Node) : Prop where
  kind : n.kind = m.kind
  key : n.kind = "pair" → n.pairKey? = m.pairKey?
  value : n.kind = "pair" → Option.Rel R (n.role? "value") (m.role? "value")
  name : n.kind = "shorthand_property_identifier" → n.text = m.text

/-- Nodes without wrappers that show the readers of expressions the same. -/
structure Node.Resembles (R : Node → Node → Prop) (n m : Node) : Prop where
  kind : n.kind = m.kind
  name : n.kind = "identifier" → n.text = m.text
  isSum : n.isSum = m.isSum
  side : n.isSum = true → ∀ role ∈ ["left", "right"], Option.Rel R (n.role? role) (m.role? role)
  string : n.kind = "string" → n.stringChars = m.stringChars
  template : n.kind = "template_string" →
    List.Forall₂ (UrlPiece.Alike R) n.templatePieces m.templatePieces
  members : n.kind = "object" →
    List.Forall₂ (Node.AlikeMember R) n.namedChildren m.namedChildren

structure Similarity (R : Node → Node → Prop) : Prop where
  unwrap {n m : Node} : R n m → R n.unwrap m.unwrap
  resembles {n m : Node} : R n m → n.unwrap.Resembles R m.unwrap
  stringified {n m : Node} : R n m → Option.Rel R (stringified? n) (stringified? m)

section Related

variable {α β γ δ : Type} {R : α → β → Prop} {S : γ → δ → Prop}

theorem rel_head? {xs : List α} {ys : List β} (h : List.Forall₂ R xs ys) :
    Option.Rel R xs.head? ys.head? := by
  cases h with
  | nil => exact .none
  | cons h _ => exact .some h

theorem rel_filter_mem {p : α → Bool} {q : β → Bool} {xs : List α} {ys : List β}
    (h : List.Forall₂ R xs ys) (hpq : ∀ x y, R x y → p x = q y) :
    List.Forall₂ (fun x y => R x y ∧ p x = true) (xs.filter p) (ys.filter q) := by
  induction h with
  | nil => exact .nil
  | @cons x y _ _ hxy _ ih =>
    rw [List.filter_cons, List.filter_cons, ← hpq x y hxy]
    cases hx : p x with
    | true => exact .cons ⟨hxy, hx⟩ ih
    | false => exact ih

theorem rel_find? {p : α → Bool} {q : β → Bool} {xs : List α} {ys : List β}
    (h : List.Forall₂ R xs ys) (hpq : ∀ x y, R x y → p x = q y) :
    Option.Rel (fun x y => R x y ∧ p x = true) (xs.find? p) (ys.find? q) := by
  rw [← List.head?_filter, ← List.head?_filter]
  exact rel_head? (rel_filter_mem h hpq)

theorem rel_imp {S : α → β → Prop} {x : Option α} {y : Option β} (h : Option.Rel R x y)
    (hRS : ∀ a b, x = some a → R a b → S a b) : Option.Rel S x y := by
  cases h with
  | none => exact .none
  | some h => exact .some (hRS _ _ rfl h)

theorem rel_map? {x : Option α} {y : Option β} (h : Option.Rel R x y) {f : α → γ} {g : β → δ}
    (hfg : ∀ a b, R a b → S (f a) (g b)) : Option.Rel S (x.map f) (y.map g) := by
  cases h with
  | none => exact .none
  | some h => exact .some (hfg _ _ h)

theorem rel_bind? {x : Option α} {y : Option β} (h : Option.Rel R x y) {f : α → Option γ}
    {g : β → Option δ} (hfg : ∀ a b, R a b → Option.Rel S (f a) (g b)) :
    Option.Rel S (x.bind f) (y.bind g) := by
  cases h with
  | none => exact .none
  | some h => exact hfg _ _ h

theorem map?_eq {x : Option α} {y : Option β} (h : Option.Rel R x y) {f : α → γ} {g : β → γ}
    (hfg : ∀ a b, R a b → f a = g b) : x.map f = y.map g := by
  cases h with
  | none => rfl
  | some h => exact congrArg some (hfg _ _ h)

theorem bind?_eq {x : Option α} {y : Option β} (h : Option.Rel R x y) {f : α → Option γ}
    {g : β → Option γ} (hfg : ∀ a b, R a b → f a = g b) : x.bind f = y.bind g := by
  cases h with
  | none => rfl
  | some h => exact hfg _ _ h

theorem flatMap_eq {xs : List α} {ys : List β} (h : List.Forall₂ R xs ys) {f : α → List γ}
    {g : β → List γ} (hfg : ∀ a b, R a b → f a = g b) : xs.flatMap f = ys.flatMap g := by
  induction h with
  | nil => rfl
  | cons hab _ ih => rw [List.flatMap_cons, List.flatMap_cons, hfg _ _ hab, ih]

theorem filterMap_eq {xs : List α} {ys : List β} (h : List.Forall₂ R xs ys) {f : α → Option γ}
    {g : β → Option γ} (hfg : ∀ a b, R a b → f a = g b) : xs.filterMap f = ys.filterMap g := by
  induction h with
  | nil => rfl
  | cons hab _ ih => rw [List.filterMap_cons, List.filterMap_cons, hfg _ _ hab, ih]

theorem isSome_eq {x : Option α} {y : Option β} (h : Option.Rel R x y) : x.isSome = y.isSome := by
  cases h <;> rfl

theorem any?_eq {x : Option α} {y : Option β} (h : Option.Rel R x y) {p : α → Bool} {q : β → Bool}
    (hpq : ∀ a b, R a b → p a = q b) : x.any p = y.any q := by
  cases h with
  | none => rfl
  | some h => exact hpq _ _ h

end Related

namespace Node

/-- What is inside related wrappers is related. -/
theorem unwrap_rel {R : Node → Node → Prop} (hkind : ∀ n m, R n m → n.kind = m.kind)
    (hinner : ∀ n m, R n m → isWrapperKind n.kind = true →
      Option.Rel R n.firstNamed? m.firstNamed?)
    {n m : Node} (h : R n m) : R n.unwrap m.unwrap := by
  induction n using induction_wrappers generalizing m with
  | bare n hbare =>
    have hbare' : m.Bare := by
      cases hwrapper : isWrapperKind n.kind with
      | false => exact .inl (hkind n m h ▸ hwrapper)
      | true =>
        have hrel := hinner n m h hwrapper
        rw [hbare.resolve_left (by simp [hwrapper])] at hrel
        generalize hinner' : m.firstNamed? = inner' at hrel
        cases hrel
        exact .inr hinner'
    rwa [unwrap_of_bare hbare, unwrap_of_bare hbare']
  | strip n k hwrapper hk ih =>
    have hrel := hinner n m h hwrapper
    rw [hk] at hrel
    generalize hk' : m.firstNamed? = inner' at hrel
    cases hrel with
    | some hrel =>
      rw [unwrap_of_firstNamed? hwrapper hk, unwrap_of_firstNamed? (hkind n m h ▸ hwrapper) hk']
      exact ih hrel

/-- A sum has operands if both its sides are there. -/
theorem operands?_sum {n : Node} (h : n.isSum = true) :
    n.operands? = (n.role? "left").bind fun left => (n.role? "right").map fun right =>
      left.summands ++ right.summands := by
  have hwrapper : isWrapperKind n.kind = false := not_wrapper_of_isSum h
  cases n with
  | mk label children =>
    have hleft : sideOperands? "left" children = ((mk label children).role? "left").map summands :=
      sideOperands?_eq "left" children
    have hright : sideOperands? "right" children =
        ((mk label children).role? "right").map summands :=
      sideOperands?_eq "right" children
    rw [operands?, show isWrapperKind label.kind = false from hwrapper, h, hleft, hright]
    cases (mk label children).role? "left" <;> cases (mk label children).role? "right" <;> rfl

end Node

/-- Pieces with the same texts and the same placeholders fill in to the same text. -/
theorem fillPieces_eq_of_alike {R : Node → Node → Prop}
    (hR : ∀ position {x y}, Option.Rel R x y → placeholder position x = placeholder position y)
    (count : Nat) {xs ys : List UrlPiece} (hxy : List.Forall₂ (UrlPiece.Alike R) xs ys) :
    fillPieces count xs = fillPieces count ys := by
  induction hxy generalizing count with
  | nil => rfl
  | cons hpiece _ ih =>
    cases hpiece with
    | text s => rw [fillPieces, fillPieces, ih]
    | hole hexpr => rw [fillPieces, fillPieces, ih, hR _ hexpr]

namespace Similarity

variable {R : Node → Node → Prop} {n m : Node}

theorem fieldType_eq (h : Similarity R) {x y : Option Node} (hxy : Option.Rel R x y) :
    Node.fieldType x = Node.fieldType y := by
  cases hxy with
  | none => rfl
  | some hnm => simp only [Node.fieldType, Option.map_some, (h.resembles hnm).kind]

theorem memberField?_eq (h : Similarity R) (hnm : n.AlikeMember R m) :
    n.memberField? = m.memberField? := by
  unfold Node.memberField?
  rw [← hnm.kind]
  by_cases hpair : n.kind = "pair"
  · rw [hnm.key hpair, h.fieldType_eq (hnm.value hpair)]
    simp [hpair]
  · by_cases hshort : n.kind = "shorthand_property_identifier"
    · simp [hshort, hnm.name hshort]
    · simp [hpair, hshort]

theorem schema?_eq (h : Similarity R) (hnm : R n m) : n.schema? = m.schema? := by
  have hres := h.resembles hnm
  unfold Node.schema?
  rw [← hres.kind]
  by_cases hobject : n.unwrap.kind = "object"
  · have hfields : n.unwrap.namedChildren.filterMap Node.memberField? =
        m.unwrap.namedChildren.filterMap Node.memberField? :=
      filterMap_eq (hres.members hobject) fun a b hab => h.memberField?_eq hab
    simp only [hobject, beq_self_eq_true, if_true, Node.fieldsOf, hfields]
  · simp [hobject]

/-- The same property of related object literals has related values. -/
theorem property?_rel (h : n.Resembles R m) (hobject : n.kind = "object") (name : String) :
    Option.Rel R (n.property? name) (m.property? name) := by
  unfold Node.property?
  rw [List.find?_filter, List.find?_filter]
  refine rel_bind? (rel_find? (h.members hobject) ?_) ?_
  · intro a b hab
    rw [← hab.kind]
    by_cases hpair : a.kind = "pair"
    · rw [hab.key hpair]
    · simp [hpair]
  · rintro a b ⟨hab, hfound⟩
    simp only [decide_eq_true_eq, beq_iff_eq] at hfound
    exact hab.value hfound.1

theorem optionsObject?_rel (h : Similarity R) {x y : Option Node} (hxy : Option.Rel R x y) :
    Option.Rel (fun a b => a.Resembles R b ∧ a.kind = "object") (optionsObject? x)
      (optionsObject? y) := by
  cases hxy with
  | none => exact .none
  | @some a b hab =>
    have hres := h.resembles hab
    simp only [optionsObject?, Option.map_some, Option.filter_some, ← hres.kind]
    by_cases hobject : a.unwrap.kind = "object"
    · simp only [hobject, beq_self_eq_true, if_true]
      exact .some ⟨hres, hobject⟩
    · rw [beq_eq_false_iff_ne.2 hobject]
      exact .none

section Options

variable {x y : Option Node}

theorem optionsMethod_eq (h : Similarity R)
    (hxy : Option.Rel (fun a b => a.Resembles R b ∧ a.kind = "object") x y) :
    optionsMethod x = optionsMethod y := by
  have hvalue := rel_bind? hxy fun a b hab => property?_rel hab.1 hab.2 "method"
  unfold optionsMethod
  generalize (x.bind fun o => o.property? "method") = value,
    (y.bind fun o => o.property? "method") = value' at hvalue ⊢
  cases hvalue with
  | none => rfl
  | @some a b hab =>
    have hres := h.resembles hab
    simp only [Option.map_some, ← hres.kind, Node.stringValue]
    by_cases hstring : a.unwrap.kind = "string"
    · rw [hres.string hstring]
    · simp [hstring]

variable {resolve resolve' : Resolver}

theorem payloadSchema?_eq (h : Similarity R)
    (hresolve : ∀ name, Option.Rel R (resolve name) (resolve' name)) (hnm : R n m) :
    payloadSchema? resolve n = payloadSchema? resolve' m := by
  have hres := h.resembles hnm
  unfold payloadSchema?
  simp only [← hres.kind]
  by_cases hobject : n.unwrap.kind = "object"
  · simp only [hobject, beq_self_eq_true, if_true]
    exact h.schema?_eq (h.unwrap hnm)
  · by_cases hname : n.unwrap.kind = "identifier"
    · simp only [hname, ← hres.name hname]
      exact bind?_eq (hresolve _) fun a b hab => h.schema?_eq hab
    · simp [hobject, hname]

theorem optionsBody?_eq (h : Similarity R)
    (hresolve : ∀ name, Option.Rel R (resolve name) (resolve' name))
    (hxy : Option.Rel (fun a b => a.Resembles R b ∧ a.kind = "object") x y) :
    optionsBody? resolve x = optionsBody? resolve' y := by
  have hvalue := rel_bind? hxy fun a b hab => property?_rel hab.1 hab.2 "body"
  have hargument := rel_bind? hvalue fun a b hab => h.stringified hab
  exact bind?_eq hargument fun a b hab => h.payloadSchema?_eq hresolve hab

end Options

/-- Related expressions have related summands, as these are without wrappers. -/
theorem summands_rel (h : Similarity R) (hnm : R n m) :
    Option.Rel (List.Forall₂ fun a b => R a b ∧ a.Resembles R b) n.operands? m.operands? ∧
      List.Forall₂ (fun a b => R a b ∧ a.Resembles R b) n.summands m.summands := by
  induction n using Node.induction_unwrap generalizing m with
  | step n ih =>
    have hres := h.resembles hnm
    have hoperands : Option.Rel (List.Forall₂ fun a b => R a b ∧ a.Resembles R b) n.operands?
        m.operands? := by
      cases hsum : n.unwrap.isSum with
      | false =>
        rw [Node.operands?_of_not_sum hsum, Node.operands?_of_not_sum (hres.isSum.symm.trans hsum)]
        exact .none
      | true =>
        rw [← n.operands?_unwrap, ← m.operands?_unwrap, Node.operands?_sum hsum,
          Node.operands?_sum (hres.isSum.symm.trans hsum)]
        have hside : ∀ role ∈ ["left", "right"],
            Option.Rel (fun c d => List.Forall₂ (fun a b => R a b ∧ a.Resembles R b) c.summands
              d.summands) (n.unwrap.role? role) (m.unwrap.role? role) := by
          intro role hrole
          refine rel_imp (hres.side hsum role hrole) fun a b ha hab => ?_
          exact (ih a (Node.mem_children_of_role? ha) hab).2
        refine rel_bind? (hside "left" (by simp)) fun left left' hleft => ?_
        refine rel_map? (hside "right" (by simp)) fun right right' hright => ?_
        exact List.rel_append hleft hright
    refine ⟨hoperands, ?_⟩
    unfold Node.summands
    generalize n.operands? = operands, m.operands? = operands' at hoperands ⊢
    cases hoperands with
    | none => exact .cons ⟨h.unwrap hnm, hres⟩ .nil
    | some hlists => exact hlists

theorem operandPieces_rel (hnm : R n m) (h : n.Resembles R m) :
    List.Forall₂ (UrlPiece.Alike R) n.operandPieces m.operandPieces := by
  unfold Node.operandPieces
  rw [← h.kind]
  by_cases hstring : n.kind = "string"
  · simp only [hstring, beq_self_eq_true, if_true, h.string hstring]
    exact .cons (.text _) .nil
  · by_cases htemplate : n.kind = "template_string"
    · simp only [htemplate]
      exact h.template htemplate
    · simp only [beq_eq_false_iff_ne.2 hstring, beq_eq_false_iff_ne.2 htemplate]
      exact .cons (.hole (.some hnm)) .nil

theorem placeholder_eq (h : Similarity R) (position : Nat) {x y : Option Node}
    (hxy : Option.Rel R x y) : placeholder position x = placeholder position y := by
  cases hxy with
  | none => rfl
  | @some a b hab =>
    have hres := h.resembles hab
    simp only [placeholder, Option.map_some, ← hres.kind]
    by_cases hname : a.unwrap.kind = "identifier"
    · rw [hres.name hname]
    · simp [hname]

theorem fillPieces_eq (h : Similarity R) (count : Nat) {xs ys : List UrlPiece}
    (hxy : List.Forall₂ (UrlPiece.Alike R) xs ys) : fillPieces count xs = fillPieces count ys :=
  fillPieces_eq_of_alike h.placeholder_eq count hxy

theorem isTextual_eq (h : n.Resembles R m) : n.isTextual = m.isTextual := by
  unfold Node.isTextual
  rw [h.kind]

theorem literalUrl?_eq (h : Similarity R) (hnm : R n m) :
    n.unwrap.literalUrl? = m.unwrap.literalUrl? := by
  have hres := h.resembles hnm
  have hpieces : Option.Rel (List.Forall₂ (UrlPiece.Alike R)) n.unwrap.urlPieces?
      m.unwrap.urlPieces? := by
    unfold Node.urlPieces?
    rw [← isTextual_eq hres]
    cases n.unwrap.isTextual with
    | true => exact .some (operandPieces_rel (h.unwrap hnm) hres)
    | false =>
      have hoperands := (h.summands_rel (h.unwrap hnm)).1
      generalize n.unwrap.operands? = operands, m.unwrap.operands? = operands' at hoperands ⊢
      cases hoperands with
      | none => exact .none
      | @some xs ys hlists =>
        have hany : xs.any Node.isTextual = ys.any Node.isTextual := by
          induction hlists with
          | nil => rfl
          | cons hab _ ih => rw [List.any_cons, List.any_cons, isTextual_eq hab.2, ih]
        simp only [Bool.false_eq_true, if_false, hany]
        split
        · exact .some (List.rel_flatMap hlists fun _ _ hab => operandPieces_rel hab.1 hab.2)
        · exact .none
  exact map?_eq hpieces fun xs ys hxy => congrArg String.ofList (h.fillPieces_eq 0 hxy)

section Resolved

variable {resolve resolve' : Resolver}

theorem url?_eq (h : Similarity R)
    (hresolve : ∀ name, Option.Rel R (resolve name) (resolve' name)) (hnm : R n m) :
    n.url? resolve = m.url? resolve' := by
  have hres := h.resembles hnm
  unfold Node.url?
  simp only [← hres.kind]
  by_cases hname : n.unwrap.kind = "identifier"
  · simp only [hname, beq_self_eq_true, if_true, ← hres.name hname]
    have hinit := hresolve n.unwrap.text
    generalize resolve n.unwrap.text = init, resolve' n.unwrap.text = init' at hinit ⊢
    cases hinit with
    | none => rfl
    | some hab => simp only [Option.map_some, (h.resembles hab).kind, h.literalUrl?_eq hab]
  · simp only [beq_eq_false_iff_ne.2 hname]
    exact h.literalUrl?_eq hnm

theorem sumDepth_eq (h : Similarity R) (hnm : R n m) : n.sumDepth = m.sumDepth := by
  induction n using Node.induction_unwrap generalizing m with
  | step n ih =>
    have hres := h.resembles hnm
    cases hsum : n.unwrap.isSum with
    | false =>
      rw [Node.sumDepth_of_not_sum hsum, Node.sumDepth_of_not_sum (hres.isSum.symm.trans hsum)]
    | true =>
      have hside : ∀ role ∈ ["left", "right"],
          (n.unwrap.role? role).map Node.sumDepth = (m.unwrap.role? role).map Node.sumDepth := by
        intro role hrole
        refine map?_eq (rel_imp (hres.side hsum role hrole) fun a b ha hab => ?_) fun _ _ hab => hab
        exact ih a (Node.mem_children_of_role? ha) hab
      rw [← n.sumDepth_unwrap, ← m.sumDepth_unwrap, Node.sumDepth_sum hsum,
        Node.sumDepth_sum (hres.isSum.symm.trans hsum), hside "left" (by simp),
        hside "right" (by simp)]

theorem urlSource?_rel (h : Similarity R)
    (hresolve : ∀ name, Option.Rel R (resolve name) (resolve' name)) (hnm : R n m) :
    Option.Rel (fun a b => R a b ∧ a.Resembles R b) (n.urlSource? resolve)
      (m.urlSource? resolve') := by
  have hres := h.resembles hnm
  unfold Node.urlSource?
  simp only [← hres.kind]
  by_cases hname : n.unwrap.kind = "identifier"
  · simp only [hname, beq_self_eq_true, if_true, ← hres.name hname]
    have hinit := hresolve n.unwrap.text
    generalize resolve n.unwrap.text = init, resolve' n.unwrap.text = init' at hinit ⊢
    cases hinit with
    | none => exact .none
    | some hab =>
      simp only [Option.map_some, Option.filter_some, (h.resembles hab).kind]
      split
      · exact .some ⟨h.unwrap hab, h.resembles hab⟩
      · exact .none
  · simp only [beq_eq_false_iff_ne.2 hname]
    exact .some ⟨h.unwrap hnm, hres⟩

theorem hasDeepUrl_eq (h : Similarity R)
    (hresolve : ∀ name, Option.Rel R (resolve name) (resolve' name)) (hnm : R n m) (limit : Nat) :
    n.hasDeepUrl limit resolve = m.hasDeepUrl limit resolve' := by
  have hsource := h.urlSource?_rel hresolve hnm
  unfold Node.hasDeepUrl
  generalize n.urlSource? resolve = source, m.urlSource? resolve' = source' at hsource ⊢
  cases hsource with
  | none => rfl
  | some hab => simp only [Option.any_some, isTextual_eq hab.2, h.sumDepth_eq hab.1]

end Resolved

end Similarity

/-- Call sites that call the same, with related arguments. -/
structure CallSite.Resembles (R : Node → Node → Prop) (site site' : CallSite) : Prop where
  isFetch : (site.callee.kind == "identifier" && site.callee.text == "fetch") =
    (site'.callee.kind == "identifier" && site'.callee.text == "fetch")
  verb : calledVerb? site.callee = calledVerb? site'.callee
  arguments : List.Forall₂ R site.arguments site'.arguments

/-- An observation with the line and the client of a call site. -/
def CallSite.mark (site : CallSite) (o : Observation) : Observation :=
  { o with
    line := site.line
    client := match o.kind with
      | .fetch => none
      | .client => clientName? site.callee }

namespace Similarity

variable {R : Node → Node → Prop} {site site' : CallSite} {resolve resolve' : Resolver}

theorem fetchCall?_eq (h : Similarity R)
    (hresolve : ∀ name, Option.Rel R (resolve name) (resolve' name))
    (hsite : site.Resembles R site') :
    fetchCall? resolve' site' = (fetchCall? resolve site).map site'.mark := by
  unfold fetchCall?
  rw [← hsite.isFetch]
  split
  · have harguments := hsite.arguments
    generalize site.arguments = xs, site'.arguments = ys at harguments ⊢
    cases harguments with
    | nil => rfl
    | cons htarget hmore =>
      have hoptions := h.optionsObject?_rel (rel_head? hmore)
      simp only [h.url?_eq hresolve htarget, h.optionsMethod_eq hoptions,
        h.optionsBody?_eq hresolve hoptions, Option.map_map]
      rfl
  · rfl

theorem clientCall?_eq (h : Similarity R)
    (hresolve : ∀ name, Option.Rel R (resolve name) (resolve' name))
    (hsite : site.Resembles R site') :
    clientCall? resolve' site' = (clientCall? resolve site).map site'.mark := by
  unfold clientCall?
  rw [← hsite.verb]
  have harguments := hsite.arguments
  generalize site.arguments = xs, site'.arguments = ys at harguments ⊢
  cases calledVerb? site.callee with
  | none => rfl
  | some method =>
    cases harguments with
    | nil => rfl
    | cons htarget hmore =>
      have hbody := bind?_eq (rel_head? hmore) fun a b hab => h.payloadSchema?_eq hresolve hab
      simp only [h.url?_eq hresolve htarget, hbody, Option.map_map]
      rfl

/-- Call sites that resemble each other are the same HTTP call, up to line and client. -/
theorem observation_eq (h : Similarity R)
    (hresolve : ∀ name, Option.Rel R (resolve name) (resolve' name))
    (hsite : site.Resembles R site') {found : Option Observation}
    (hfound : site.observation? resolve = found) : site'.observation? resolve' = found.map site'.mark := by
  subst hfound
  unfold CallSite.observation?
  rw [h.fetchCall?_eq hresolve hsite, h.clientCall?_eq hresolve hsite]
  cases fetchCall? resolve site <;> rfl

/-- The mark of another site changes nothing if it has the same line and client. -/
theorem mark_observation (hline : site.line = site'.line)
    (hclient : (calledVerb? site.callee).isSome = true →
      clientName? site.callee = clientName? site'.callee)
    {found : Option Observation} (hfound : site.observation? resolve = found) :
    found.map site'.mark = found := by
  subst hfound
  have hfetch : (fetchCall? resolve site).map site'.mark = fetchCall? resolve site := by
    unfold fetchCall?
    split
    · split
      · rfl
      · simp only [Option.map_map, Function.comp_def, CallSite.mark, hline]
    · rfl
  have hcall : (clientCall? resolve site).map site'.mark = clientCall? resolve site := by
    unfold clientCall?
    split
    · rename_i hverb harguments
      simp only [Option.map_map, Function.comp_def, CallSite.mark, hline, hclient (by simp [hverb])]
    · rfl
  unfold CallSite.observation?
  cases hfirst : fetchCall? resolve site with
  | none => exact hcall
  | some o =>
    rw [hfirst] at hfetch
    exact hfetch

theorem hasDeepTarget_eq (h : Similarity R)
    (hresolve : ∀ name, Option.Rel R (resolve name) (resolve' name))
    (hsite : site.Resembles R site') (limit : Nat) :
    (site.target?.any fun target => target.hasDeepUrl limit resolve) =
      site'.target?.any fun target => target.hasDeepUrl limit resolve' := by
  unfold CallSite.target?
  rw [hsite.isFetch, hsite.verb]
  split
  · have hhead := rel_head? hsite.arguments
    generalize site.arguments.head? = x, site'.arguments.head? = y at hhead ⊢
    cases hhead with
    | none => rfl
    | some hab => exact h.hasDeepUrl_eq hresolve hab limit
  · rfl

end Similarity

end RouteCensus
