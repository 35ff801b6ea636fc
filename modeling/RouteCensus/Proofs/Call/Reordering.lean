import RouteCensus.Proofs.Call.Likeness

/-! # Statements may stand in any order

A declaration counts for the whole of its scope.  So the statements of a program
and of its blocks can be put in another order, at any depth, and the same HTTP
calls are found, as long as no scope declares a name twice: of two declarations of
one name the first would count.
-/

namespace RouteCensus

/-- Kinds of nodes whose children are statements. -/
def isSequenceKind (kind : String) : Bool :=
  kind == "program" || kind == "statement_block"

/-- The same tree but for the order of statements, in this node and below. -/
inductive Node.Reordered : Node → Node → Prop where
  | mk {label : Label} {children moved children' : List Node}
    (each : List.Forall₂ Node.Reordered children moved)
    (order : moved = children' ∨ isSequenceKind label.kind = true ∧ moved.Perm children') :
    Reordered (.mk label children) (.mk label children')

theorem Node.Reordered.refl (n : Node) : n.Reordered n := by
  induction n using induction_children with
  | step n ih =>
    cases n with
    | mk label children => exact .mk (List.forall₂_same.2 ih) (.inl rfl)

/-- What a call is applied to are arguments in brackets or a template, not statements. -/
def Node.AppliesArguments (n : Node) : Prop :=
  n.kind = "call_expression" → ((n.role? "arguments").all fun list =>
    list.kind == "arguments" || list.kind == "template_string") = true

instance (n : Node) : Decidable n.AppliesArguments :=
  inferInstanceAs (Decidable (_ → _))

structure Node.Shuffled (n m : Node) : Prop where
  reordered : n.Reordered m
  applies : n.Every AppliesArguments

theorem not_sequence_of_plain {kind : String} (h : isPlainKind kind = true) :
    isSequenceKind kind = false := by
  rw [isSequenceKind, Bool.or_eq_false_iff, beq_eq_false_iff_ne, beq_eq_false_iff_ne]
  constructor <;> rintro rfl <;> exact absurd h (by decide)

namespace Node.Shuffled

variable {n m : Node}

theorem label_eq (h : n.Shuffled m) : n.label = m.label := by
  cases h.reordered
  rfl

theorem kind_eq (h : n.Shuffled m) : n.kind = m.kind :=
  congrArg Label.kind h.label_eq

theorem named_eq (h : n.Shuffled m) : n.named = m.named :=
  congrArg Label.named h.label_eq

theorem text_eq (h : n.Shuffled m) : n.text = m.text := by
  unfold text
  rw [h.label_eq]

theorem children_rel (h : n.Shuffled m) :
    Rearranged (isSequenceKind n.kind) Shuffled n.children m.children := by
  obtain ⟨hreordered, happlies⟩ := h
  cases hreordered with
  | mk each order =>
    exact ⟨_, forall₂_imp_of_mem each fun c hc d _ hcd => ⟨hcd, happlies.child hc⟩, order⟩

/-- Only statements change places. -/
theorem children (h : n.Shuffled m) (hkind : isSequenceKind n.kind = false) :
    List.Forall₂ Shuffled n.children m.children := by
  have hrel := h.children_rel
  rw [hkind] at hrel
  exact hrel.forall₂

theorem namedChildren (h : n.Shuffled m) (hkind : isSequenceKind n.kind = false) :
    List.Forall₂ Shuffled n.namedChildren m.namedChildren :=
  List.rel_filter (fun _ _ hcd => by simp only [hcd.named_eq]) (h.children hkind)

theorem role?_rel (h : n.Shuffled m) (hkind : isSequenceKind n.kind = false) (field : String) :
    Option.Rel Shuffled (n.role? field) (m.role? field) :=
  rel_imp (rel_find? (h.children hkind) fun c d hcd => by rw [hcd.label_eq]) fun _ _ _ hcd => hcd.1

theorem sameText_role? (h : n.Shuffled m) (hkind : isSequenceKind n.kind = false) (field : String) :
    Option.Rel SameText (n.role? field) (m.role? field) :=
  rel_imp (h.role?_rel hkind field) fun _ _ _ hcd => hcd.text_eq

theorem templatePiecesFrom_rel (bytes : List UInt8) (base cursor : Nat) {xs ys : List Node}
    (h : List.Forall₂ Shuffled xs ys) :
    List.Forall₂ (UrlPiece.Alike Shuffled) (templatePiecesFrom bytes base cursor xs)
      (templatePiecesFrom bytes base cursor ys) := by
  induction h generalizing cursor with
  | nil => exact .cons (.text _) .nil
  | @cons c d _ _ hcd _ ih =>
    rw [templatePiecesFrom, templatePiecesFrom, ← hcd.kind_eq, ← hcd.label_eq]
    by_cases hkind : c.kind = "template_substitution"
    · have hhead := rel_head? (hcd.namedChildren (by rw [hkind]; decide))
      simp only [hkind, beq_self_eq_true, if_true]
      exact .cons (.text _) (.cons (.hole hhead) (ih _))
    · simp only [beq_eq_false_iff_ne.2 hkind]
      exact ih cursor

theorem stringifies_eq (h : n.Shuffled m) (hkind : n.kind = "call_expression") :
    n.stringifies = m.stringifies := by
  refine any?_eq (h.role?_rel (by rw [hkind]; decide) "function") fun c d hcd => ?_
  rw [← hcd.kind_eq]
  by_cases hmember : c.kind = "member_expression"
  · rw [textOf_eq (hcd.sameText_role? (by rw [hmember]; decide) "object"),
      textOf_eq (hcd.sameText_role? (by rw [hmember]; decide) "property")]
  · simp only [beq_eq_false_iff_ne.2 hmember, Bool.false_and]

theorem payload_rel (h : n.Shuffled m) (hkind : n.kind = "call_expression") :
    Option.Rel Shuffled n.payload? m.payload? := by
  have hlist : Option.Rel (fun a b => a.Shuffled b ∧ isSequenceKind a.kind = false)
      (n.role? "arguments") (m.role? "arguments") := by
    refine rel_imp (h.role?_rel (by rw [hkind]; decide) "arguments") fun a b ha hab => ⟨hab, ?_⟩
    have hform := h.applies.self hkind
    rw [ha, Option.all_some, Bool.or_eq_true, beq_iff_eq, beq_iff_eq] at hform
    rcases hform with hlist | hlist <;> rw [hlist] <;> decide
  exact rel_bind? hlist fun a b hab => rel_head? (hab.1.namedChildren hab.2)

end Node.Shuffled

/-- Reordered trees are alike, up to the order of statements. -/
theorem shuffled_likeness : Likeness true Node.Shuffled where
  kind h := h.kind_eq
  named h := h.named_eq
  text h _ := h.text_eq
  children h hkind := h.children (not_sequence_of_plain hkind)
  role h hkind := h.role?_rel (not_sequence_of_plain hkind)
  word h hword := h.sameText_role? (not_sequence_of_plain (isPlainKind_of_word hword)) _
  keyword h hkind :=
    rel_imp (rel_head? (h.children (by rw [hkind]; decide))) fun _ _ _ hcd => hcd.text_eq
  below h := .of_rearranged (h.children_rel.weaken fun _ => rfl)
  inner h hkind := by
    refine rel_head? (h.namedChildren ?_)
    rw [isSequenceKind, Bool.or_eq_false_iff, beq_eq_false_iff_ne, beq_eq_false_iff_ne]
    constructor <;> intro hsequence <;> rw [hsequence] at hkind <;> exact absurd hkind (by decide)
  template h hkind := by
    unfold Node.templatePieces
    rw [← h.label_eq]
    exact Node.Shuffled.templatePiecesFrom_rel _ _ _ (h.children (by rw [hkind]; decide))
  stringifies h hkind := h.stringifies_eq hkind
  payload h hkind _ := h.payload_rel hkind
  arguments h hkind := List.rel_filter (fun _ _ hcd => by simp only [hcd.kind_eq])
    (h.namedChildren (by rw [hkind]; decide))

theorem Node.Shuffled.hasDeepPattern_eq {n m : Node} (h : n.Shuffled m) {limit : Nat}
    (hlimit : 1 ≤ limit) : n.hasDeepPattern limit = m.hasDeepPattern limit := by
  rw [Bool.eq_iff_iff]
  constructor
  · exact shuffled_likeness.hasDeepPattern_right hlimit h
  · exact shuffled_likeness.hasDeepPattern_left 0
      (fun h d hd _ => .inr (h.children_rel.exists_left hd)) hlimit h

/-- If no scope declares a name twice, no frame around a call has one twice. -/
theorem nodup_of_framedCalls {root : Node}
    (h : (root.declarations.map fun d => (d.home, d.binding.name)).Nodup) {call : FramedCall}
    (hcall : call ∈ root.framedCalls) : ∀ frame ∈ call.frames, (frame.map Binding.name).Nodup := by
  rw [root.framedCalls_eq_spots, List.mem_map] at hcall
  obtain ⟨s, -, rfl⟩ := hcall
  intro frame hframe
  obtain ⟨home, -, rfl⟩ := List.mem_map.1 hframe
  unfold boundIn
  rw [List.Nodup, List.pairwise_map, List.pairwise_filterMap]
  rw [List.Nodup, List.pairwise_map] at h
  refine h.imp fun {d e} hne b hb c hc heq => hne ?_
  obtain ⟨hd, hb⟩ := Option.ite_none_right_eq_some.1 hb
  obtain ⟨he, hc⟩ := Option.ite_none_right_eq_some.1 hc
  rw [hd, he, Option.some.inj hb, Option.some.inj hc, heq]

/-- Putting the statements of a program and of its blocks in another order, where no scope declares
a name twice, gives the same HTTP calls in another order, and however many calls can be nested, the
search for them breaks off in neither program or in both. -/
theorem Node.observations_reordered {root root' : Node} (h : root.Reordered root')
    (happlies : root.Every AppliesArguments)
    (hdistinct : (root.declarations.map fun d => (d.home, d.binding.name)).Nodup) :
    (∀ limit, 1 ≤ limit → root'.tooDeep limit = root.tooDeep limit) ∧
      root'.observations.Perm root.observations := by
  have hroot : root.Shuffled root' := ⟨h, happlies⟩
  have hlike := shuffled_likeness
  have hcalls := hlike.framedCalls_rel hroot
  have hnodup : ∀ call ∈ root.framedCalls, true = true →
      ∀ frame ∈ call.frames, (frame.map Binding.name).Nodup :=
    fun call hcall _ => nodup_of_framedCalls hdistinct hcall
  constructor
  · intro limit hlimit
    rw [tooDeep_eq_framedCalls, tooDeep_eq_framedCalls, hroot.hasDeepPattern_eq hlimit,
      hcalls.any_eq fun c hc d hcd => hlike.hasDeepUrl_eq hcd (hnodup c hc) _]
  · obtain ⟨middle, hmiddle, hperm⟩ := hcalls.perm
    have hobserved : root.framedCalls.filterMap FramedCall.observed? =
        middle.filterMap FramedCall.observed? := by
      refine filterMap_eq (forall₂_imp_of_mem hmiddle fun c hc d _ hcd => ?_) fun _ _ heq => heq
      refine (hlike.observed?_eq hcd (hnodup c hc) ?_ ?_).symm
      · exact congrArg (fun label => label.row + 1) hcd.node.label_eq
      · intro a b hab hmember
        unfold clientName?
        rw [textOf_eq (hab.sameText_role? (by rw [hmember]; decide) "object")]
    rw [observations_eq_framedCalls, observations_eq_framedCalls, hobserved]
    exact hperm.symm.filterMap _

namespace Node

/-- The statement `fetch(url)`. -/
def urlUse : Node :=
  .mk { kind := "expression_statement" } [.mk { kind := "call_expression" }
    [wordNode "identifier" (some "function") "fetch",
      .mk { kind := "arguments", field := some "arguments" } [wordNode "identifier" none "url"]]]

/-- The statement `const url = '/api/a'`. -/
def urlDeclaration : Node :=
  .mk { kind := "lexical_declaration" } [wordNode "const" (some "kind") "const",
    .mk { kind := "variable_declarator" } [wordNode "identifier" (some "name") "url",
      .mk { kind := "string", field := some "value" } [wordNode "string_fragment" none "/api/a"]]]

/-- A function with the given statements. -/
def functionOf (statements : List Node) : Node :=
  .mk { kind := "program" } [.mk { kind := "function_declaration" }
    [wordNode "identifier" (some "name") "load", .mk { kind := "statement_block" } statements]]

theorem observations_functionOf :
    (functionOf [urlUse, urlDeclaration]).observations.map Observation.url = ["/api/a"] ∧
      (functionOf [urlDeclaration, urlUse]).tooDeep 9 = false ∧
      (functionOf [urlDeclaration, urlUse]).observations.Perm
        (functionOf [urlUse, urlDeclaration]).observations := by
  have hmoved : (functionOf [urlUse, urlDeclaration]).Reordered
      (functionOf [urlDeclaration, urlUse]) := by
    refine .mk (.cons (.mk (.cons (.refl _) (.cons ?_ .nil)) (.inl rfl)) .nil) (.inl rfl)
    exact .mk (.cons (.refl _) (.cons (.refl _) .nil)) (.inr ⟨by decide, .swap _ _ _⟩)
  have happlies : (functionOf [urlUse, urlDeclaration]).Every AppliesArguments := by decide +kernel
  have hdistinct : ((functionOf [urlUse, urlDeclaration]).declarations.map fun d =>
      (d.home, d.binding.name)).Nodup := by decide +kernel
  obtain ⟨hdeep, hperm⟩ := observations_reordered hmoved happlies hdistinct
  have hshallow : (functionOf [urlUse, urlDeclaration]).tooDeep 9 = false := by decide +kernel
  exact ⟨by decide +kernel, (hdeep 9 (by decide)).trans hshallow, hperm⟩

end Node

end RouteCensus
