import RouteCensus.Proofs.Scope.Rearrangement

/-! # Trees that correspond

Two trees may be written differently and still have the same HTTP calls.  A
correspondence has two relations between their nodes: nodes that are kept are of
the same kind and show the same words, and nodes that are dressed are kept inside
their wrappers.  The parts of kept nodes that are taken out of wrappers before
they are read need only be dressed.  Corresponding programs have corresponding
calls: the frames around them are rearranged, and the calls resemble each other.
-/

namespace RouteCensus

/-- Kinds of nodes that are read by their own text. -/
def isWordKind (kind : String) : Bool :=
  ["identifier", "shorthand_property_identifier", "shorthand_property_identifier_pattern",
    "property_identifier", "private_property_identifier", "number", "string_fragment",
    "escape_sequence"].contains kind

/-- Roles of nodes that are read by their text, with the kinds of their parents. -/
def wordRoles : List (String × String) :=
  [("binary_expression", "operator"), ("member_expression", "property"),
    ("import_specifier", "name"), ("import_specifier", "alias"), ("lexical_declaration", "kind"),
    ("for_in_statement", "kind")] ++ titledKinds.map fun kind => (kind, "name")

/-- Kinds of nodes whose children are all read as they are. -/
def listKinds : List String :=
  ["string", "object", "import_statement", "import_clause", "namespace_import", "named_imports"]

/-- Roles of nodes that are read as they are, with the kinds of their parents. -/
def partRoles : List (String × String) :=
  [("pair", "key"), ("call_expression", "function"), ("call_expression", "arguments"),
    ("variable_declarator", "name")]

/-- Roles of nodes that are taken out of their wrappers before they are read. -/
def valueRoles : List (String × String) :=
  [("binary_expression", "left"), ("binary_expression", "right"), ("pair", "value"),
    ("variable_declarator", "value")]

def SameText (n m : Node) : Prop :=
  n.text = m.text

theorem textOf_eq {x y : Option Node} (h : Option.Rel SameText x y) : textOf x = textOf y := by
  cases h with
  | none => rfl
  | some h => exact h

/-- What an observation says of the request, wherever it was found. -/
def Observation.request (o : Observation) : CallKind × String × String × Option Fields :=
  (o.kind, o.method, o.url, o.body)

namespace Node

/-- Whether a call is one of `JSON.stringify`. -/
def stringifies (n : Node) : Bool :=
  (n.role? "function").any fun callee =>
    callee.kind == "member_expression" && textOf (callee.role? "object") == "JSON" &&
      textOf (callee.role? "property") == "stringify"

/-- The node that `JSON.stringify` is taken to be applied to. -/
def payload? (n : Node) : Option Node :=
  (n.role? "arguments").bind firstNamed?

/-- Kinds of nodes that declare names by patterns. -/
def declaresByPattern (kind : String) : Bool :=
  isFunctionKind kind || ["catch_clause", "for_in_statement", "variable_declarator"].contains kind

/-- Nodes with related parts declare names by related patterns. -/
theorem patterns_rel {K : Node → Node → Prop} {T : List Node → List Node → Prop} {n m : Node}
    (hkind : n.kind = m.kind)
    (hroles : declaresByPattern n.kind = true → ∀ field, field ≠ "value" →
      Option.Rel K (n.role? field) (m.role? field))
    (hkinds : ∀ c d, K c d → c.kind = d.kind) (hnone : T [] []) (hone : ∀ c d, K c d → T [c] [d])
    (hlist : ∀ c d, K c d → T c.namedChildren d.namedChildren) : T n.patterns m.patterns := by
  unfold patterns
  rw [← hkind]
  by_cases hfunction : isFunctionKind n.kind = true
  · have hdeclares : declaresByPattern n.kind = true := by simp [declaresByPattern, hfunction]
    have hsingle := hroles hdeclares "parameter" (by decide)
    have hmany := hroles hdeclares "parameters" (by decide)
    rw [if_pos hfunction, if_pos hfunction]
    generalize n.role? "parameter" = x, m.role? "parameter" = x' at hsingle ⊢
    generalize n.role? "parameters" = y, m.role? "parameters" = y' at hmany ⊢
    cases hsingle with
    | some hcd => exact hone _ _ hcd
    | none =>
      cases hmany with
      | none => exact hnone
      | some hcd => exact hlist _ _ hcd
  have htoList : ∀ {x y : Option Node}, Option.Rel K x y → T x.toList y.toList := by
    rintro _ _ (hcd | -)
    · exact hone _ _ hcd
    · exact hnone
  rw [if_neg hfunction, if_neg hfunction]
  by_cases hcatch : n.kind = "catch_clause"
  · rw [hcatch] at hroles ⊢
    exact htoList (hroles (by decide) "parameter" (by decide))
  by_cases hloop : n.kind = "for_in_statement"
  · rw [hloop] at hroles ⊢
    simp only [isSome_eq (hroles (by decide) "kind" (by decide))]
    cases (m.role? "kind").isSome with
    | true => exact htoList (hroles (by decide) "left" (by decide))
    | false => exact hnone
  by_cases hdeclarator : n.kind = "variable_declarator"
  · rw [hdeclarator] at hroles ⊢
    have hname := hroles (by decide) "name" (by decide)
    generalize n.role? "name" = x, m.role? "name" = y at hname ⊢
    cases hname with
    | none => exact hnone
    | @some c d hcd =>
      by_cases hidentifier : c.kind = "identifier"
      · simpa [hidentifier, ← hkinds c d hcd] using hnone
      · simpa [hidentifier, ← hkinds c d hcd] using hone c d hcd
  · simpa [hcatch, hloop, hdeclarator] using hnone

/-- The names that the patterns of a node bind. -/
def patternNames (n : Node) : List String :=
  n.patterns.flatMap boundNames

theorem parameterNames_eq_patternNames {n : Node} (h : isFunctionKind n.kind = true) :
    n.parameterNames = n.patternNames := by
  rw [parameterNames_eq, patternNames, patterns, if_pos h]
  cases n.role? "parameter" with
  | some single => simp
  | none => cases n.role? "parameters" <;> simp

theorem patternNames_of_catch {n : Node} (h : n.kind = "catch_clause") :
    n.patternNames = (n.role? "parameter").toList.flatMap boundNames := by
  rw [patternNames, patterns, h]
  rfl

theorem patternNames_of_loop {n : Node} (h : n.kind = "for_in_statement")
    (hkeyword : (n.role? "kind").isSome = true) :
    n.patternNames = (n.role? "left").toList.flatMap boundNames := by
  rw [patternNames, patterns, h, hkeyword]
  rfl

theorem patternNames_of_declarator {n name : Node} (h : n.kind = "variable_declarator")
    (hname : n.role? "name" = some name) (hpattern : name.kind ≠ "identifier") :
    n.patternNames = name.boundNames := by
  have hpatterns : n.patterns = [name].filter fun name => name.kind != "identifier" := by
    rw [patterns, h, hname]
    rfl
  rw [patternNames, hpatterns, List.filter_cons_of_pos (by simp [hpattern])]
  simp

end Node

theorem stringified?_eq (n : Node) :
    stringified? n =
      if n.unwrap.kind == "call_expression" && n.unwrap.stringifies then n.unwrap.payload?
      else none := by
  unfold stringified? Node.stringifies
  by_cases hkind : n.unwrap.kind = "call_expression"
  · simp only [hkind, beq_self_eq_true, if_true, Bool.true_and]
    cases n.unwrap.role? "function" <;> rfl
  · simp only [beq_eq_false_iff_ne.2 hkind, Bool.false_and]
    rfl

/-- What the relations between the nodes of two trees must keep.  The children of a kept node are
kept ones, of which the walk over the tree sees the same as of the children that are there. -/
structure Correspondence (free : Bool) (K D : Node → Node → Prop) : Prop where
  dressed {n m : Node} : K n m → D n m
  unwrap {n m : Node} : D n m → K n.unwrap m.unwrap
  kind {n m : Node} : K n m → n.kind = m.kind
  named {n m : Node} : K n m → n.named = m.named
  text {n m : Node} : K n m → isWordKind n.kind = true → n.text = m.text
  children {n m : Node} : K n m → n.kind ∈ listKinds → List.Forall₂ K n.children m.children
  part {n m : Node} {field : String} : K n m → (n.kind, field) ∈ partRoles →
    Option.Rel K (n.role? field) (m.role? field)
  value {n m : Node} {field : String} : K n m → (n.kind, field) ∈ valueRoles →
    Option.Rel D (n.role? field) (m.role? field)
  word {n m : Node} {field : String} : K n m → (n.kind, field) ∈ wordRoles →
    Option.Rel SameText (n.role? field) (m.role? field)
  keyword {n m : Node} : K n m → n.kind = "lexical_declaration" →
    Option.Rel SameText n.children.head? m.children.head?
  bound {n m : Node} : K n m → Rearranged free Eq n.patternNames m.patternNames
  below {n m : Node} : K n m → ∃ kept, Rearranged free K n.children kept ∧
    kept.flatMap (Node.sends (some m)) = m.children.flatMap (Node.sends (some m)) ∧
    ∀ frames, kept.flatMap (Node.callsIn (some m) frames) =
      m.children.flatMap (Node.callsIn (some m) frames)
  template {n m : Node} : K n m → n.kind = "template_string" →
    List.Forall₂ (UrlPiece.Alike D) n.templatePieces m.templatePieces
  stringifies {n m : Node} : K n m → n.kind = "call_expression" → n.stringifies = m.stringifies
  payload {n m : Node} : K n m → n.kind = "call_expression" → n.stringifies = true →
    Option.Rel D n.payload? m.payload?
  arguments {n m : Node} : K n m → n.kind = "arguments" →
    List.Forall₂ D (n.namedChildren.filter fun a => a.kind != "comment")
      (m.namedChildren.filter fun a => a.kind != "comment")

namespace Correspondence

variable {free : Bool} {K D : Node → Node → Prop} {n m : Node}

theorem namedChildren (h : Correspondence free K D) (hnm : K n m) (hkind : n.kind ∈ listKinds) :
    List.Forall₂ K n.namedChildren m.namedChildren :=
  List.rel_filter (fun _ _ hcd => by simp only [h.named hcd]) (h.children hnm hkind)

/-- The named children of a kind, which are kept ones. -/
theorem ofKind_rel (h : Correspondence free K D) (hnm : K n m) (hlist : n.kind ∈ listKinds)
    (kind : String) :
    List.Forall₂ (fun c d => K c d ∧ c.kind = kind) (n.namedChildren.filter fun c => c.kind == kind)
      (m.namedChildren.filter fun c => c.kind == kind) := by
  refine (rel_filter_mem (h.namedChildren hnm hlist) fun c d hcd => by rw [h.kind hcd]).imp ?_
  exact fun c d hcd => ⟨hcd.1, beq_iff_eq.1 hcd.2⟩

theorem stringChars_eq (h : Correspondence free K D) (hnm : K n m) (hkind : n.kind = "string") :
    n.stringChars = m.stringChars := by
  refine flatMap_eq (h.children hnm (by rw [hkind]; decide)) fun c d hcd => ?_
  unfold stringPart
  rw [← h.kind hcd]
  by_cases hfragment : c.kind = "string_fragment"
  · rw [h.text hcd (by rw [hfragment]; decide)]
  · by_cases hescape : c.kind = "escape_sequence"
    · rw [h.text hcd (by rw [hescape]; decide)]
    · simp [hfragment, hescape]

theorem isSum_eq (h : Correspondence free K D) (hnm : K n m) : n.isSum = m.isSum := by
  unfold Node.isSum
  rw [← h.kind hnm]
  by_cases hkind : n.kind = "binary_expression"
  · have hoperator : Option.Rel SameText (n.role? "operator") (m.role? "operator") :=
      h.word hnm (by rw [hkind]; decide)
    rw [any?_eq hoperator fun c d hcd => congrArg (· == "+") hcd]
  · rw [beq_eq_false_iff_ne.2 hkind, Bool.false_and, Bool.false_and]

theorem pairKey?_eq (h : Correspondence free K D) (hnm : K n m) (hkind : n.kind = "pair") :
    n.pairKey? = m.pairKey? := by
  have hkey : Option.Rel K (n.role? "key") (m.role? "key") := h.part hnm (by rw [hkind]; decide)
  refine bind?_eq hkey fun c d hcd => ?_
  unfold Node.keyText? Node.stringValue
  rw [← h.kind hcd]
  by_cases hstring : c.kind = "string"
  · rw [h.stringChars_eq hcd hstring]
    simp [hstring]
  · split
    · rename_i hword
      rw [h.text hcd]
      simp only [List.contains_iff_mem, List.mem_cons, List.not_mem_nil, or_false] at hword
      rcases hword with hword | hword | hword | hword <;> rw [hword] <;> decide
    · simp [hstring]

theorem alikeMember (h : Correspondence free K D) (hnm : K n m) : n.AlikeMember D m where
  kind := h.kind hnm
  key := h.pairKey?_eq hnm
  value hkind := h.value hnm (by rw [hkind]; decide)
  name hkind := h.text hnm (by rw [hkind]; decide)

theorem resembles (h : Correspondence free K D) (hnm : K n m) : n.Resembles D m where
  kind := h.kind hnm
  name hkind := h.text hnm (by rw [hkind]; decide)
  isSum := h.isSum_eq hnm
  side hsum role hrole := by
    unfold Node.isSum at hsum
    have hkind : n.kind = "binary_expression" := by simpa using (Bool.and_eq_true_iff.1 hsum).1
    have hall : ∀ role ∈ ["left", "right"], ("binary_expression", role) ∈ valueRoles := by decide
    exact h.value hnm (hkind ▸ hall role hrole)
  string := h.stringChars_eq hnm
  template := h.template hnm
  members hkind := (h.namedChildren hnm (by rw [hkind]; decide)).imp fun _ _ => h.alikeMember

theorem stringified?_rel (h : Correspondence free K D) (hnm : D n m) :
    Option.Rel D (stringified? n) (stringified? m) := by
  have hcall := h.unwrap hnm
  rw [stringified?_eq, stringified?_eq, ← h.kind hcall]
  by_cases hkind : n.unwrap.kind = "call_expression"
  · rw [← h.stringifies hcall hkind, beq_iff_eq.2 hkind, Bool.true_and]
    split
    · rename_i hstringifies
      exact h.payload hcall hkind hstringifies
    · exact .none
  · rw [beq_eq_false_iff_ne.2 hkind, Bool.false_and, Bool.false_and]
    exact .none

/-- Dressed expressions are similar. -/
theorem similarity (h : Correspondence free K D) : Similarity D where
  unwrap hnm := h.dressed (h.unwrap hnm)
  resembles hnm := h.resembles (h.unwrap hnm)
  stringified := h.stringified?_rel

/-- Kept nodes import the same single names. -/
theorem specifierNames_eq (h : Correspondence free K D) (hnm : K n m) (hkind : n.kind ∈ listKinds) :
    ((n.namedChildren.filter fun k => k.kind == "import_specifier").filterMap fun spec =>
      ((spec.role? "alias").or (spec.role? "name")).map Node.text) =
    (m.namedChildren.filter fun k => k.kind == "import_specifier").filterMap fun spec =>
      ((spec.role? "alias").or (spec.role? "name")).map Node.text := by
  refine filterMap_eq (h.ofKind_rel hnm hkind "import_specifier") fun c d hcd => ?_
  obtain ⟨hcd, hkind⟩ := hcd
  have halias : (c.role? "alias").map Node.text = (d.role? "alias").map Node.text :=
    map?_eq (h.word hcd (by rw [hkind]; decide)) fun _ _ htext => htext
  have hname : (c.role? "name").map Node.text = (d.role? "name").map Node.text :=
    map?_eq (h.word hcd (by rw [hkind]; decide)) fun _ _ htext => htext
  rw [Option.map_or, Option.map_or, halias, hname]

/-- Kept nodes import the same whole modules. -/
theorem namespaceNames_eq (h : Correspondence free K D) (hnm : K n m) (hkind : n.kind ∈ listKinds) :
    (n.namedChildren.filter fun k => k.kind == "identifier").map Node.text =
      (m.namedChildren.filter fun k => k.kind == "identifier").map Node.text := by
  rw [← List.filterMap_eq_map]
  refine filterMap_eq (h.ofKind_rel hnm hkind "identifier") fun c d hcd => ?_
  exact congrArg some (h.text hcd.1 (by rw [hcd.2]; decide))

theorem importedNames_eq (h : Correspondence free K D) (hnm : K n m) :
    ScopeTable.importedNames n = ScopeTable.importedNames m := by
  unfold ScopeTable.importedNames
  rw [← h.kind hnm]
  by_cases hname : n.kind = "identifier"
  · rw [h.text hnm (by rw [hname]; decide)]
    simp [hname]
  · by_cases hspace : n.kind = "namespace_import"
    · rw [h.namespaceNames_eq hnm (by rw [hspace]; decide)]
      simp [hspace]
    · by_cases hnamed : n.kind = "named_imports"
      · rw [h.specifierNames_eq hnm (by rw [hnamed]; decide)]
        simp [hnamed]
      · simp [hname, hspace, hnamed]

theorem declarationKeyword_eq (h : Correspondence free K D) {parent parent' : Option Node}
    (hparent : Option.Rel K parent parent') :
    declarationKeyword parent = declarationKeyword parent' := by
  cases hparent with
  | none => rfl
  | @some p q hpq =>
    unfold declarationKeyword
    simp only [← h.kind hpq]
    by_cases hlexical : p.kind = "lexical_declaration"
    · have hword : Option.Rel SameText (p.role? "kind") (q.role? "kind") :=
        h.word hpq (by rw [hlexical]; decide)
      have hfirst := textOf_eq (h.keyword hpq hlexical)
      generalize p.role? "kind" = x, q.role? "kind" = y at hword ⊢
      cases hword with
      | @some word word' hword =>
        have htext : word.text = word'.text := hword
        simp only [htext]
      | none => simp only [hfirst]
    · rw [beq_eq_false_iff_ne.2 hlexical]
      rfl

theorem opensScope_eq (h : Correspondence free K D) {parent parent' : Option Node}
    (hparent : Option.Rel K parent parent') (hnm : K n m) :
    opensScope parent n = opensScope parent' m := by
  unfold opensScope
  rw [h.kind hnm, any?_eq hparent fun p q hpq => by rw [h.kind hpq]]

theorem catches_eq (h : Correspondence free K D) {parent parent' : Option Node}
    (hparent : Option.Rel K parent parent') (hnm : K n m) :
    n.catches parent = m.catches parent' := by
  funext reach
  cases reach with
  | near => exact h.opensScope_eq hparent hnm
  | function => exact congrArg isFunctionKind (h.kind hnm)
  | program => rfl

/-- Kept declarators declare the same plain name, or the same names by a pattern. -/
theorem declared_rel (h : Correspondence free K D) (hnm : K n m)
    (hkind : n.kind = "variable_declarator") :
    Option.Rel (fun a b => a.kind = b.kind ∧ (a.kind = "identifier" → a.text = b.text) ∧
      Rearranged free Eq a.boundNames b.boundNames) (n.role? "name") (m.role? "name") := by
  have hname : Option.Rel K (n.role? "name") (m.role? "name") := h.part hnm (by rw [hkind]; decide)
  have hbound := h.bound hnm
  cases hn : n.role? "name" with
  | none =>
    rw [hn] at hname
    generalize m.role? "name" = y at hname
    cases hname
    exact .none
  | some a =>
    cases hm : m.role? "name" with
    | none =>
      rw [hn, hm] at hname
      cases hname
    | some b =>
      rw [hn, hm] at hname
      cases hname with
      | some hab =>
        have htext : a.kind = "identifier" → a.text = b.text :=
          fun hword => h.text hab (by rw [hword]; decide)
        refine .some ⟨h.kind hab, htext, ?_⟩
        by_cases hword : a.kind = "identifier"
        · rw [Node.boundNames_eq a, Node.boundNames_eq b, ← h.kind hab, hword, htext hword]
          exact rel_refl rfl
        · rwa [Node.patternNames_of_declarator hkind hn hword, Node.patternNames_of_declarator
            (h.kind hnm ▸ hkind) hm (h.kind hab ▸ hword)] at hbound

theorem declaresLike (h : Correspondence free K D) {parent parent' : Option Node}
    (hparent : Option.Rel K parent parent') (hnm : K n m) :
    n.DeclaresLike free D parent parent' m where
  kind := h.kind hnm
  title hkind := h.word hnm (List.mem_append_right _ (List.mem_map.2 ⟨n.kind, hkind, rfl⟩))
  parameters hkind := by
    rw [Node.parameterNames_eq_patternNames hkind,
      Node.parameterNames_eq_patternNames (h.kind hnm ▸ hkind)]
    exact h.bound hnm
  caught hkind := by
    rw [← Node.patternNames_of_catch hkind, ← Node.patternNames_of_catch (h.kind hnm ▸ hkind)]
    exact h.bound hnm
  loop hkind := by
    have hkeyword : Option.Rel SameText (n.role? "kind") (m.role? "kind") :=
      h.word hnm (by rw [hkind]; decide)
    refine ⟨hkeyword, fun hsome => ?_⟩
    rw [← Node.patternNames_of_loop hkind hsome, ← Node.patternNames_of_loop (h.kind hnm ▸ hkind)
      (isSome_eq hkeyword ▸ hsome)]
    exact h.bound hnm
  keyword _ := h.declarationKeyword_eq hparent
  declared := h.declared_rel hnm
  value hkind := h.value hnm (by rw [hkind]; decide)
  imported hkind := by
    refine flatMap_eq (h.ofKind_rel hnm (by rw [hkind]; decide) "import_clause") fun c d hcd => ?_
    exact flatMap_eq (h.namedChildren hcd.1 (by rw [hcd.2]; decide)) fun _ _ => h.importedNames_eq

/-- What the children of kept nodes send out is alike if what kept children send out is. -/
theorem sendsBelow_rel (h : Correspondence free K D) (hnm : K n m)
    (hsends : ∀ c ∈ n.children, ∀ d, K c d →
      Rearranged free (Sent.Alike D) (c.sends (some n)) (d.sends (some m))) :
    Rearranged free (Sent.Alike D) (n.children.flatMap (Node.sends (some n)))
      (m.children.flatMap (Node.sends (some m))) := by
  obtain ⟨kept, hkept, hsame, -⟩ := h.below hnm
  rw [← hsame]
  exact hkept.flatMap hsends

/-- Corresponding trees send like declarations out to the scopes around. -/
theorem sends_rel (h : Correspondence free K D) {parent parent' : Option Node}
    (hparent : Option.Rel K parent parent') (hnm : K n m) :
    Rearranged free (Sent.Alike D) (n.sends parent) (m.sends parent') := by
  induction n using Node.induction_children generalizing m parent parent' with
  | step n ih =>
    have hbelow := h.sendsBelow_rel hnm fun c hc d hcd => ih c hc (.some hnm) hcd
    rw [Node.sends_eq, Node.sends_eq, ← h.named hnm]
    split
    · exact (h.declaresLike hparent hnm).gives_rel.append
        (escaped_rel (h.catches_eq hparent hnm) hbelow)
    · exact .nil

theorem frame_rel (h : Correspondence free K D) {parent parent' : Option Node}
    (hparent : Option.Rel K parent parent') (hnm : K n m) :
    Rearranged free (Binding.Alike D) (n.frame parent) (m.frame parent') := by
  have hbelow := h.sendsBelow_rel hnm fun c _ d hcd => h.sends_rel (.some hnm) hcd
  rw [Node.frame_eq, Node.frame_eq]
  exact (h.declaresLike hparent hnm).headBindings_rel.append
    (caught_rel (h.catches_eq hparent hnm) hbelow)

/-- Corresponding trees in rearranged frames have like calls. -/
theorem callsIn_rel (h : Correspondence free K D) {parent parent' : Option Node}
    {frames frames' : List Frame} (hparent : Option.Rel K parent parent')
    (hframes : List.Forall₂ (Rearranged free (Binding.Alike D)) frames frames') (hnm : K n m) :
    Rearranged free (FramedCall.Alike free K D) (n.callsIn parent frames)
      (m.callsIn parent' frames') := by
  induction n using Node.induction_children generalizing m parent parent' frames frames' with
  | step n ih =>
    have hinner : List.Forall₂ (Rearranged free (Binding.Alike D))
        (if opensScope parent n then n.frame parent :: frames else frames)
        (if opensScope parent' m then m.frame parent' :: frames' else frames') := by
      rw [← h.opensScope_eq hparent hnm]
      split
      · exact .cons (h.frame_rel hparent hnm) hframes
      · exact hframes
    obtain ⟨kept, hkept, -, hsame⟩ := h.below hnm
    rw [Node.callsIn_eq, Node.callsIn_eq, ← h.named hnm, ← h.kind hnm, ← hsame]
    split
    · refine .append (rel_ite (fun _ => ?_) fun _ => .nil)
        (hkept.flatMap fun c hc d hcd => ih c hc (.some hnm) hinner hcd)
      exact .of_forall₂ (.cons ⟨hnm, hframes⟩ .nil)
    · exact .nil

theorem framedCalls_rel (h : Correspondence free K D) (hnm : K n m) :
    Rearranged free (FramedCall.Alike free K D) n.framedCalls m.framedCalls := by
  refine h.callsIn_rel .none (.cons ?_ .nil) hnm
  exact (h.sends_rel .none hnm).map fun _ _ hst => hst.binding

theorem isFetch_eq (h : Correspondence free K D) (hnm : K n m) :
    (n.kind == "identifier" && n.text == "fetch") =
      (m.kind == "identifier" && m.text == "fetch") := by
  rw [← h.kind hnm]
  by_cases hname : n.kind = "identifier"
  · rw [h.text hnm (by rw [hname]; decide)]
  · rw [beq_eq_false_iff_ne.2 hname, Bool.false_and, Bool.false_and]

theorem calledVerb?_eq (h : Correspondence free K D) (hnm : K n m) :
    calledVerb? n = calledVerb? m := by
  unfold calledVerb?
  rw [← h.kind hnm]
  by_cases hmember : n.kind = "member_expression"
  · have hproperty : Option.Rel SameText (n.role? "property") (m.role? "property") :=
      h.word hnm (by rw [hmember]; decide)
    rw [bind?_eq hproperty fun a b hab => congrArg (HttpMethod.ofVerb? <| Text.downcase ·) hab]
  · rw [beq_eq_false_iff_ne.2 hmember]
    rfl

/-- Kept call expressions are call sites that resemble each other. -/
theorem callSite?_rel (h : Correspondence free K D) (hnm : K n m) :
    Option.Rel (fun site site' => site.Resembles D site' ∧ K site.callee site'.callee ∧
      site.line = n.line ∧ site'.line = m.line) (callSite? 0 n) (callSite? 0 m) := by
  unfold callSite?
  rw [← h.kind hnm]
  by_cases hkind : n.kind = "call_expression"
  · have hcallee : Option.Rel K (n.role? "function") (m.role? "function") :=
      h.part hnm (by rw [hkind]; decide)
    have hlist : Option.Rel K (n.role? "arguments") (m.role? "arguments") :=
      h.part hnm (by rw [hkind]; decide)
    generalize n.role? "function" = x, m.role? "function" = x' at hcallee ⊢
    generalize n.role? "arguments" = y, m.role? "arguments" = y' at hlist ⊢
    rw [if_pos (beq_iff_eq.2 hkind), if_pos (beq_iff_eq.2 hkind)]
    cases hcallee with
    | none => exact .none
    | some hcallee =>
      cases hlist with
      | none => exact .none
      | @some list list' hlist =>
        simp only [← h.kind hlist]
        by_cases harguments : list.kind = "arguments"
        · rw [if_pos (beq_iff_eq.2 harguments), if_pos (beq_iff_eq.2 harguments)]
          have hfetch := h.isFetch_eq hcallee
          have hverb := h.calledVerb?_eq hcallee
          exact .some ⟨⟨hfetch, hverb, h.arguments hlist harguments⟩, hcallee, rfl, rfl⟩
        · rw [beq_eq_false_iff_ne.2 harguments]
          exact .none
  · rw [beq_eq_false_iff_ne.2 hkind]
    exact .none

section Calls

variable {c d : FramedCall}

/-- Corresponding calls are the same HTTP call, if names are resolved alike. -/
theorem observed?_request (h : Correspondence free K D) (hcd : c.Alike free K D d)
    (hnodup : free = true → ∀ frame ∈ c.frames, (frame.map Binding.name).Nodup) :
    d.observed?.map Observation.request = c.observed?.map Observation.request := by
  have hresolve := resolveIn_rel hcd.frames hnodup
  have hsite := h.callSite?_rel hcd.node
  unfold FramedCall.observed?
  generalize callSite? 0 c.node = x, callSite? 0 d.node = y at hsite ⊢
  cases hsite with
  | none => rfl
  | some hsite =>
    simp only [Option.bind_some, h.similarity.observation_eq hresolve hsite.1 rfl, Option.map_map]
    rfl

/-- Corresponding calls with the same lines and clients are observed in the same way. -/
theorem observed?_eq (h : Correspondence free K D) (hcd : c.Alike free K D d)
    (hnodup : free = true → ∀ frame ∈ c.frames, (frame.map Binding.name).Nodup)
    (hline : c.node.line = d.node.line)
    (hclient : ∀ n m, K n m → n.kind = "member_expression" → clientName? n = clientName? m) :
    d.observed? = c.observed? := by
  have hresolve := resolveIn_rel hcd.frames hnodup
  have hsite := h.callSite?_rel hcd.node
  unfold FramedCall.observed?
  generalize callSite? 0 c.node = x, callSite? 0 d.node = y at hsite ⊢
  cases hsite with
  | none => rfl
  | @some site site' hsite =>
    obtain ⟨hresembles, hcallee, hsiteLine, hsiteLine'⟩ := hsite
    rw [Option.bind_some, Option.bind_some, h.similarity.observation_eq hresolve hresembles rfl]
    have hlines := hsiteLine.trans (hline.trans hsiteLine'.symm)
    refine Similarity.mark_observation hlines (fun hverb => ?_) rfl
    refine hclient _ _ hcallee ?_
    unfold calledVerb? at hverb
    split at hverb
    · rename_i hkind
      exact beq_iff_eq.1 hkind
    · cases hverb

theorem hasDeepUrl_eq (h : Correspondence free K D) (hcd : c.Alike free K D d)
    (hnodup : free = true → ∀ frame ∈ c.frames, (frame.map Binding.name).Nodup) (limit : Nat) :
    c.hasDeepUrl limit = d.hasDeepUrl limit :=
  any?_eq (h.callSite?_rel hcd.node) fun _ _ hsite =>
    h.similarity.hasDeepTarget_eq (resolveIn_rel hcd.frames hnodup) hsite.1 limit

end Calls

section Programs

variable (h : Correspondence false K D) (hnm : K n m)

include h hnm

/-- Corresponding programs with their statements in order have the same requests. -/
theorem requests_eq :
    m.observations.map Observation.request = n.observations.map Observation.request := by
  rw [Node.observations_eq_framedCalls, Node.observations_eq_framedCalls, List.map_filterMap,
    List.map_filterMap]
  symm
  exact filterMap_eq (h.framedCalls_rel hnm).forall₂ fun c d hcd =>
    (h.observed?_request hcd nofun).symm

/-- The search for the calls of corresponding programs breaks off at the same URLs. -/
theorem anyDeepUrl_eq (limit : Nat) :
    n.framedCalls.any (FramedCall.hasDeepUrl limit) =
      m.framedCalls.any (FramedCall.hasDeepUrl limit) :=
  (h.framedCalls_rel hnm).any_eq fun _ _ _ hcd => h.hasDeepUrl_eq hcd nofun limit

end Programs

end Correspondence

end RouteCensus
