import RouteCensus.Proofs.Call.Comments

/-! # Wrapped expressions

Arguments, operands, embedded expressions and the values of declarations and of
properties may be put into brackets, casts and non-null marks, to any depth.  The
readers of calls take them out again in all these places, so the HTTP calls of a
program stay the same.  There is one exception: the names of a pattern are looked
for in all expressions in it, also in the type of a cast.
-/

namespace RouteCensus

/-- Kinds of nodes that are calls, declare names or open a scope. -/
def isSurveyedKind (kind : String) : Bool :=
  isFunctionKind kind || isBlockKind kind ||
    ["call_expression", "variable_declarator", "class_declaration", "abstract_class_declaration",
      "import_statement"].contains kind

/-- Kinds of nodes that some children of may be put into wrappers. -/
def holdsWrappers (kind : String) : Bool :=
  ["arguments", "template_substitution", "binary_expression", "variable_declarator",
    "pair"].contains kind

/-- Whether a child in a role may be put into wrappers. -/
def takesWrapper (kind : String) (field : Option String) : Bool :=
  kind == "arguments" || kind == "template_substitution" ||
    valueRoles.any fun entry => entry.1 == kind && some entry.2 == field

/-- Kinds of parents under which names are declared and scopes opened as under no parent. -/
def isNeutralKind (kind : String) : Bool :=
  !isFunctionKind kind && !(["variable_declaration", "lexical_declaration"].contains kind)

theorem holdsWrappers_of_takes {kind : String} {field : Option String}
    (h : takesWrapper kind field = true) : holdsWrappers kind = true := by
  rw [takesWrapper, Bool.or_eq_true, Bool.or_eq_true, beq_iff_eq, beq_iff_eq, List.any_eq_true] at h
  rcases h with (rfl | rfl) | ⟨entry, hentry, h⟩
  · decide
  · decide
  · have hall : ∀ entry ∈ valueRoles, holdsWrappers entry.1 = true := by decide
    rw [Bool.and_eq_true, beq_iff_eq] at h
    exact h.1 ▸ hall entry hentry

theorem isNeutralKind_of_holds {kind : String} (h : holdsWrappers kind = true) :
    isNeutralKind kind = true := by
  rw [holdsWrappers, List.contains_iff_mem] at h
  have hall : ∀ kind ∈ ["arguments", "template_substitution", "binary_expression",
      "variable_declarator", "pair"], isNeutralKind kind = true := by decide
  exact hall kind h

theorem takesWrapper_of_declares {kind field : String} (h : Node.declaresByPattern kind = true)
    (hfield : field ≠ "value") : takesWrapper kind (some field) = false := by
  have hlists : Node.declaresByPattern "arguments" = false ∧
      Node.declaresByPattern "template_substitution" = false := by decide
  have hroles : ∀ entry ∈ valueRoles, Node.declaresByPattern entry.1 = true →
      entry.2 = "value" := by decide
  rw [Bool.eq_false_iff]
  intro htakes
  rw [takesWrapper, Bool.or_eq_true, Bool.or_eq_true, beq_iff_eq, beq_iff_eq,
    List.any_eq_true] at htakes
  rcases htakes with (rfl | rfl) | ⟨entry, hentry, htakes⟩
  · exact absurd (hlists.1.symm.trans h) Bool.false_ne_true
  · exact absurd (hlists.2.symm.trans h) Bool.false_ne_true
  · rw [Bool.and_eq_true, beq_iff_eq, beq_iff_eq, Option.some_inj] at htakes
    obtain ⟨rfl, rfl⟩ := htakes
    exact hfield (hroles entry hentry h)

theorem forall_wrapperKind {P : String → Prop} {kind : String} (h : isWrapperKind kind = true)
    (hall : ∀ other ∈ ["parenthesized_expression", "as_expression", "satisfies_expression",
      "non_null_expression"], P other) : P kind := by
  rw [isWrapperKind, List.contains_iff_mem] at h
  exact hall kind h

theorem of_wrapperKind {kind : String} (h : isWrapperKind kind = true) :
    isNeutralKind kind = true ∧ isSurveyedKind kind = false ∧ holdsWrappers kind = false :=
  forall_wrapperKind (P := fun kind => isNeutralKind kind = true ∧ isSurveyedKind kind = false ∧
    holdsWrappers kind = false) h (by decide)

theorem forall₂_comp {α β γ : Type} {R : α → β → Prop} {S : β → γ → Prop} {xs : List α}
    {ys : List β} {zs : List γ} (h : List.Forall₂ R xs ys) (h' : List.Forall₂ S ys zs) :
    List.Forall₂ (fun x z => ∃ y, R x y ∧ S y z) xs zs := by
  induction h generalizing zs with
  | nil =>
    cases h'
    exact .nil
  | cons hxy _ ih =>
    cases h' with
    | cons hyz hrest => exact .cons ⟨_, hxy, hyz⟩ (ih hrest)

namespace Node

section Walk

variable {n p : Node}

theorem opensScope_of_neutral (h : isNeutralKind p.kind = true) (n : Node) :
    opensScope (some p) n = opensScope none n := by
  have hfunction : isFunctionKind p.kind = false := by
    rw [isNeutralKind, Bool.and_eq_true, Bool.not_eq_true'] at h
    exact h.1
  simp [opensScope, hfunction]

theorem declarationKeyword_of_neutral (h : isNeutralKind p.kind = true) :
    declarationKeyword (some p) = declarationKeyword none := by
  rw [isNeutralKind, Bool.and_eq_true, Bool.not_eq_true', Bool.not_eq_true'] at h
  have hkinds : p.kind ≠ "variable_declaration" ∧ p.kind ≠ "lexical_declaration" := by
    simpa using h.2
  simp [declarationKeyword, hkinds]

theorem catches_of_neutral (h : isNeutralKind p.kind = true) (n : Node) :
    n.catches (some p) = n.catches none := by
  funext reach
  cases reach with
  | near => exact opensScope_of_neutral h n
  | function => rfl
  | program => rfl

theorem sends_of_neutral (h : isNeutralKind p.kind = true) (n : Node) :
    n.sends (some p) = n.sends none := by
  rw [sends_eq, sends_eq, catches_of_neutral h]
  unfold gives
  rw [declarationKeyword_of_neutral h]

theorem callsIn_of_neutral (h : isNeutralKind p.kind = true) (frames : List Frame) (n : Node) :
    n.callsIn (some p) frames = n.callsIn none frames := by
  rw [callsIn_eq, callsIn_eq, frame_eq, frame_eq, catches_of_neutral h, opensScope_of_neutral h]

theorem gives_of_unsurveyed (h : isSurveyedKind n.kind = false) (parent : Option Node) :
    n.gives parent = [] := by
  have hne : ∀ kind, isSurveyedKind kind = true → (n.kind == kind) = false := by
    rintro kind hkind
    rw [beq_eq_false_iff_ne]
    rintro rfl
    exact absurd (h.symm.trans hkind) Bool.false_ne_true
  unfold gives
  rw [hne "function_declaration" (by decide), hne "generator_function_declaration" (by decide),
    hne "for_in_statement" (by decide), hne "variable_declarator" (by decide),
    hne "class_declaration" (by decide), hne "abstract_class_declaration" (by decide),
    hne "import_statement" (by decide)]
  rfl

theorem opensScope_of_unsurveyed (h : isSurveyedKind n.kind = false) (parent : Option Node) :
    opensScope parent n = false := by
  rw [isSurveyedKind, Bool.or_eq_false_iff, Bool.or_eq_false_iff] at h
  rw [opensScope, h.1.1, h.1.2]
  rfl

theorem catches_of_unsurveyed (h : isSurveyedKind n.kind = false) (parent : Option Node)
    (reach : Reach) : n.catches parent reach = false := by
  cases reach with
  | near => exact opensScope_of_unsurveyed h parent
  | function =>
    rw [isSurveyedKind, Bool.or_eq_false_iff, Bool.or_eq_false_iff] at h
    exact h.1.1
  | program => rfl

/-- A node that is no declaration and no scope passes on what its children send. -/
theorem sends_of_unsurveyed (h : isSurveyedKind n.kind = false) (hnamed : n.named = true)
    (parent : Option Node) : n.sends parent = n.children.flatMap (sends (some n)) := by
  rw [sends_eq, if_pos hnamed, gives_of_unsurveyed h]
  simp [catches_of_unsurveyed h]

theorem callsIn_of_unsurveyed (h : isSurveyedKind n.kind = false) (hnamed : n.named = true)
    (parent : Option Node) (frames : List Frame) :
    n.callsIn parent frames = n.children.flatMap (callsIn (some n) frames) := by
  have hcall : n.kind ≠ "call_expression" := by
    intro hkind
    rw [hkind] at h
    exact absurd h (by decide)
  rw [callsIn_eq, if_pos hnamed, opensScope_of_unsurveyed h]
  simp [hcall]

theorem sends_of_unnamed (h : n.named = false) (parent : Option Node) : n.sends parent = [] := by
  rw [sends_eq, h]
  rfl

theorem callsIn_of_unnamed (h : n.named = false) (parent : Option Node) (frames : List Frame) :
    n.callsIn parent frames = [] := by
  rw [callsIn_eq, h]
  rfl

/-- In a pattern, the names below a wrapper are looked for with one more call. -/
theorem patternDepth_of_wrapper (h : isWrapperKind n.kind = true) :
    n.patternDepth = 1 + deepest n.namedChildren := by
  obtain ⟨hword, hrole, hbinds⟩ := forall_wrapperKind (P := fun kind =>
    (kind == "identifier" || kind == "shorthand_property_identifier_pattern") = false ∧
      patternRole? kind = none ∧ bindsNothing kind = false) h (by decide)
  rw [patternDepth_eq, hword, hrole, hbinds]
  rfl

end Walk

/-- A tree without calls, declarations and scopes. -/
def Inert (n : Node) : Prop :=
  n.Every fun m => isSurveyedKind m.kind = false

instance (n : Node) : Decidable n.Inert :=
  inferInstanceAs (Decidable (n.Every _))

theorem Inert.sends_eq {n : Node} (h : n.Inert) (parent : Option Node) : n.sends parent = [] := by
  induction n using induction_children generalizing parent with
  | step n ih =>
    cases hnamed : n.named with
    | false => exact sends_of_unnamed hnamed parent
    | true =>
      rw [sends_of_unsurveyed h.self hnamed, List.flatMap_eq_nil_iff]
      exact fun c hc => ih c hc (h.child hc) _

theorem Inert.callsIn_eq {n : Node} (h : n.Inert) (parent : Option Node) (frames : List Frame) :
    n.callsIn parent frames = [] := by
  induction n using induction_children generalizing parent with
  | step n ih =>
    cases hnamed : n.named with
    | false => exact callsIn_of_unnamed hnamed parent frames
    | true =>
      rw [callsIn_of_unsurveyed h.self hnamed, List.flatMap_eq_nil_iff]
      exact fun c hc => ih c hc (h.child hc) _

/-- The first node is the second one in wrappers, which hold it as their first named child and
nothing that matters besides. -/
inductive Wraps : Node → Node → Prop where
  | bare (n : Node) : Wraps n n
  | wrap {n inner core : Node} {before after : List Node} (kind : isWrapperKind n.kind = true)
    (named : n.named = true) (holds : n.children = before ++ inner :: after)
    (first : ∀ c ∈ before, c.named = false) (expression : inner.named = true)
    (comment : inner.kind ≠ "comment") (rest : ∀ c ∈ after, c.Inert) (h : inner.Wraps core) :
    Wraps n core

namespace Wraps

variable {n core : Node}

theorem unwrap_eq (h : n.Wraps core) : n.unwrap = core.unwrap := by
  induction h with
  | bare => rfl
  | @wrap n inner core before after kind _ holds first expression _ _ _ ih =>
    have hbefore : before.filter named = [] :=
      List.filter_eq_nil_iff.2 fun c hc => by simp [first c hc]
    have hfirst : n.firstNamed? = some inner := by
      rw [firstNamed?, namedChildren, holds, List.filter_append, hbefore, List.nil_append,
        List.filter_cons_of_pos expression, List.head?_cons]
    rw [unwrap_of_firstNamed? kind hfirst, ih]

theorem named_eq (h : n.Wraps core) : n.named = core.named := by
  induction h with
  | bare => rfl
  | wrap _ named _ _ expression _ _ _ ih => exact named.trans (expression.symm.trans ih)

/-- Only expressions are put into wrappers. -/
theorem comment_iff (h : n.Wraps core) : n.kind = "comment" ↔ core.kind = "comment" := by
  induction h with
  | bare => rfl
  | wrap kind _ _ _ _ comment _ _ ih =>
    refine iff_of_false (fun hkind => ?_) (ih.not.1 comment)
    rw [hkind] at kind
    exact absurd kind (by decide)

theorem every {P : Node → Prop} (h : n.Wraps core) (hn : n.Every P) : core.Every P := by
  induction h with
  | bare => exact hn
  | wrap _ _ holds _ _ _ _ _ ih => exact ih (hn.child (by simp [holds]))

/-- Of a wrapper only the expression in it is seen, where unnamed and inert nodes are not. -/
theorem flatMap_eq {β : Type} {g : Node → List β} {inner : Node} {before after : List Node}
    (holds : n.children = before ++ inner :: after) (hbefore : ∀ c ∈ before, g c = [])
    (hafter : ∀ c ∈ after, g c = []) : n.children.flatMap g = g inner := by
  rw [holds, List.flatMap_append, List.flatMap_cons, List.flatMap_eq_nil_iff.2 hbefore,
    List.flatMap_eq_nil_iff.2 hafter, List.nil_append, List.append_nil]

/-- A wrapper sends out what the expression in it does. -/
theorem sends_eq (h : n.Wraps core) : n.sends none = core.sends none := by
  induction h with
  | bare => rfl
  | wrap kind named holds first _ _ rest _ ih =>
    rw [sends_of_unsurveyed (of_wrapperKind kind).2.1 named, flatMap_eq holds
      (fun c hc => sends_of_unnamed (first c hc) _) (fun c hc => (rest c hc).sends_eq _),
      sends_of_neutral (of_wrapperKind kind).1, ih]

/-- The calls in a wrapper are those in the expression in it. -/
theorem callsIn_eq (h : n.Wraps core) (frames : List Frame) :
    n.callsIn none frames = core.callsIn none frames := by
  induction h with
  | bare => rfl
  | wrap kind named holds first _ _ rest _ ih =>
    rw [callsIn_of_unsurveyed (of_wrapperKind kind).2.1 named, flatMap_eq holds
      (fun c hc => callsIn_of_unnamed (first c hc) _ _) (fun c hc => (rest c hc).callsIn_eq _ _),
      callsIn_of_neutral (of_wrapperKind kind).1, ih]

theorem patternDepth_le (h : n.Wraps core) : core.patternDepth ≤ n.patternDepth := by
  induction h with
  | bare => exact le_rfl
  | @wrap n inner core before after kind _ holds _ expression _ _ _ ih =>
    have hinner : inner ∈ n.namedChildren := List.mem_filter.2 ⟨by simp [holds], expression⟩
    have hle : inner.patternDepth ≤ deepest n.namedChildren := deepest_le_iff.1 le_rfl inner hinner
    rw [patternDepth_of_wrapper kind]
    omega

theorem deepPattern_of_core {limit : Nat} (h : n.Wraps core)
    (hdeep : core.hasDeepPattern limit = true) : n.hasDeepPattern limit = true := by
  induction h with
  | bare => exact hdeep
  | @wrap n inner core before after _ named holds _ _ _ _ _ ih =>
    have hinner : n.children.any (hasDeepPattern limit) = true :=
      List.any_eq_true.2 ⟨inner, by simp [holds], ih hdeep⟩
    rw [hasDeepPattern_eq, named, hinner, Bool.or_true, Bool.and_true]

end Wraps

/-- A child is an expression or, in places that take wrappers, in wrappers. -/
def PlacedAs (kind : String) (core child : Node) : Prop :=
  core = child ∨ takesWrapper kind child.label.field = true ∧ child.Wraps core

/-- The second tree is the first one with wrappers around expressions.  A node without a wrapper in
it keeps its bytes, and so do the fixed parts of a template.  Unless wrappers may stand `anywhere`,
patterns bind the names that they bound before. -/
inductive Wrapped (anywhere : Bool) : Node → Node → Prop where
  | mk {label label' : Label} {children cores children' : List Node}
    (kind : label.kind = label'.kind) (named : label.named = label'.named)
    (each : List.Forall₂ (Wrapped anywhere) children cores)
    (placed : List.Forall₂ (PlacedAs label.kind) cores children')
    (fields : children.map (fun c => c.label.field) = children'.map fun c => c.label.field)
    (names : anywhere = false →
      (Node.mk label children).patternNames = (Node.mk label' children').patternNames)
    -- With as many nodes below as before, nothing was wrapped.
    (bytes : sizeAll children = sizeAll children' → label.bytes = label'.bytes)
    (fixed : label.kind = "template_string" →
      (Node.mk label children).fixedBytes = (Node.mk label' children').fixedBytes) :
    Wrapped anywhere (.mk label children) (.mk label' children')

/-- The nodes that are read by their text where a node is read. -/
def wordsRead (n : Node) : List Node :=
  (if isWordKind n.kind then [n] else []) ++
  (wordRoles.filter fun entry => entry.1 == n.kind).flatMap (fun entry =>
    (n.role? entry.2).toList) ++
  (if n.kind == "lexical_declaration" then n.children.head?.toList else []) ++
  (n.role? "object").toList.filter fun child => child.text == "JSON"

/-- A tree with no room for wrappers. -/
def IsSolid (n : Node) : Prop :=
  n.Every fun m => holdsWrappers m.kind = false

instance (n : Node) : Decidable n.IsSolid :=
  inferInstanceAs (Decidable (n.Every _))

/-- What is read by its text has no room for wrappers. -/
def ReadsSolid (n : Node) : Prop :=
  ∀ m ∈ n.wordsRead, m.IsSolid

instance (n : Node) : Decidable n.ReadsSolid :=
  inferInstanceAs (Decidable (∀ m ∈ n.wordsRead, m.IsSolid))

theorem PlacedAs.eq {kind : String} {core child : Node} (h : PlacedAs kind core child)
    (htakes : takesWrapper kind child.label.field = false) : core = child :=
  h.resolve_right fun hwraps => absurd (htakes.symm.trans hwraps.1) Bool.false_ne_true

theorem PlacedAs.wraps {kind : String} {core child : Node} (h : PlacedAs kind core child) :
    child.Wraps core := by
  rcases h with rfl | ⟨-, h⟩
  · exact .bare _
  · exact h

theorem takesWrapper_of_not_holds {kind : String} (h : holdsWrappers kind = false)
    (field : Option String) : takesWrapper kind field = false :=
  Bool.eq_false_iff.2 fun htakes =>
    absurd (h.symm.trans (holdsWrappers_of_takes htakes)) Bool.false_ne_true

theorem eq_of_placed {kind : String} {cores children : List Node}
    (h : List.Forall₂ (PlacedAs kind) cores children) (hholds : holdsWrappers kind = false) :
    cores = children := by
  rw [← List.forall₂_eq_eq_eq]
  exact h.imp fun _ _ hplaced => hplaced.eq (takesWrapper_of_not_holds hholds _)

namespace Wrapped

variable {anywhere : Bool} {n m : Node}

theorem kind_eq (h : n.Wrapped anywhere m) : n.kind = m.kind := by
  cases h
  assumption

theorem named_eq (h : n.Wrapped anywhere m) : n.named = m.named := by
  cases h
  assumption

theorem size_eq (h : n.Wrapped anywhere m) (hsolid : n.IsSolid ∨ m.IsSolid) : n.size = m.size := by
  induction n using induction_children generalizing m with
  | step n ih =>
    have hholds : holdsWrappers n.kind = false :=
      hsolid.elim (fun hn => hn.self) fun hm => h.kind_eq ▸ hm.self
    cases h with
    | mk kind named each placed fields names bytes fixed =>
      obtain rfl := eq_of_placed placed hholds
      rw [size, size, sizeAll_eq (forall₂_imp_of_mem each fun c hc d hd hcd => ?_)]
      exact ih c hc hcd (hsolid.imp (fun hn => hn.child hc) fun hm => hm.child hd)

theorem text_eq (h : n.Wrapped anywhere m) (hsolid : n.IsSolid ∨ m.IsSolid) :
    n.text = m.text := by
  have hsize := h.size_eq hsolid
  cases h with
  | mk kind named each placed fields names bytes fixed =>
    rw [size, size, Nat.add_left_cancel_iff] at hsize
    exact congrArg (fun bytes => String.ofList (Text.Utf8.decodeLenient bytes)) (bytes hsize)

end Wrapped

/-- A tree and the same tree with wrappers, both read by solid words. -/
structure Kept (n m : Node) : Prop where
  wrapped : n.Wrapped false m
  words : n.Every ReadsSolid
  words' : m.Every ReadsSolid

/-- A tree, and the same tree in wrappers. -/
def Dressed (n m : Node) : Prop :=
  ∃ core, n.Kept core ∧ m.Wraps core

namespace Kept

variable {n m : Node}

theorem kind_eq (h : n.Kept m) : n.kind = m.kind :=
  h.wrapped.kind_eq

theorem named_eq (h : n.Kept m) : n.named = m.named :=
  h.wrapped.named_eq

theorem text_eq (h : n.Kept m) (hsolid : n.IsSolid ∨ m.IsSolid) : n.text = m.text :=
  h.wrapped.text_eq hsolid

theorem dressed (h : n.Kept m) : n.Dressed m :=
  ⟨m, h, .bare m⟩

/-- The expressions that stand in the second tree where the children of the first one did. -/
theorem exists_cores (h : n.Kept m) : ∃ cores : List Node, List.Forall₂ Kept n.children cores ∧
    List.Forall₂ (PlacedAs n.kind) cores m.children ∧
    n.children.map (fun c => c.label.field) = m.children.map fun c => c.label.field := by
  obtain ⟨hwrapped, hn, hm⟩ := h
  cases hwrapped with
  | mk kind named each placed fields =>
    refine ⟨_, forall₂_imp_of_mem each fun c hc core hcore hwrapped => ⟨hwrapped, hn.child hc, ?_⟩,
      placed, fields⟩
    obtain ⟨child, hchild, hplaced⟩ := exists_of_forall₂ placed hcore
    exact hplaced.wraps.every (hm.child hchild)

/-- Children in the same role, dressed, and without wrappers where none are taken. -/
theorem children_rel (h : n.Kept m) :
    List.Forall₂ (fun c d => c.Dressed d ∧ c.label.field = d.label.field ∧
      (takesWrapper n.kind d.label.field = false → c.Kept d)) n.children m.children := by
  obtain ⟨cores, hcores, hplaced, hfields⟩ := h.exists_cores
  rw [← List.forall₂_eq_eq_eq, List.forall₂_map_left_iff, List.forall₂_map_right_iff] at hfields
  refine List.Forall₂.mp (fun c d hcomp hfield => ?_) (forall₂_comp hcores hplaced) hfields
  obtain ⟨core, hkept, hplaced⟩ := hcomp
  exact ⟨⟨core, hkept, hplaced.wraps⟩, hfield, fun htakes => hplaced.eq htakes ▸ hkept⟩

end Kept

namespace Dressed

variable {n m : Node}

theorem named_eq (h : n.Dressed m) : n.named = m.named := by
  obtain ⟨core, hkept, hwraps⟩ := h
  rw [hkept.named_eq, hwraps.named_eq]

theorem comment_iff (h : n.Dressed m) : n.kind = "comment" ↔ m.kind = "comment" := by
  obtain ⟨core, hkept, hwraps⟩ := h
  rw [hkept.kind_eq, hwraps.comment_iff]

end Dressed

namespace Kept

variable {n m : Node}

theorem children_kept (h : n.Kept m) (hholds : holdsWrappers n.kind = false) :
    List.Forall₂ Kept n.children m.children :=
  h.children_rel.imp fun _ _ hcd => hcd.2.2 (takesWrapper_of_not_holds hholds _)

theorem role?_rel (h : n.Kept m) (field : String) :
    Option.Rel (fun c d => c.Dressed d ∧ (takesWrapper n.kind (some field) = false → c.Kept d))
      (n.role? field) (m.role? field) := by
  refine rel_imp (rel_find? h.children_rel fun c d hcd => by rw [hcd.2.1]) fun c d hc hcd => ?_
  obtain ⟨⟨hdressed, hfield, hkept⟩, hfound⟩ := hcd
  rw [beq_iff_eq.1 hfound] at hfield
  exact ⟨hdressed, fun htakes => hkept (hfield ▸ htakes)⟩

theorem role?_dressed (h : n.Kept m) (field : String) :
    Option.Rel Dressed (n.role? field) (m.role? field) :=
  rel_imp (h.role?_rel field) fun _ _ _ hcd => hcd.1

theorem role?_kept (h : n.Kept m) {field : String}
    (htakes : takesWrapper n.kind (some field) = false) :
    Option.Rel Kept (n.role? field) (m.role? field) :=
  rel_imp (h.role?_rel field) fun _ _ _ hcd => hcd.2 htakes

theorem namedChildren_rel (h : n.Kept m) :
    List.Forall₂ Dressed n.namedChildren m.namedChildren :=
  List.rel_filter (fun _ _ hcd => by simp only [hcd.named_eq])
    (h.children_rel.imp fun _ _ hcd => hcd.1)

theorem firstNamed?_dressed (h : n.Kept m) : Option.Rel Dressed n.firstNamed? m.firstNamed? :=
  rel_head? h.namedChildren_rel

theorem firstNamed?_kept (h : n.Kept m) (hholds : holdsWrappers n.kind = false) :
    Option.Rel Kept n.firstNamed? m.firstNamed? :=
  rel_head? (List.rel_filter (fun _ _ hcd => by simp only [hcd.named_eq]) (h.children_kept hholds))

theorem unwrap_kept (h : n.Kept m) : n.unwrap.Kept m.unwrap :=
  unwrap_rel (fun _ _ => kind_eq)
    (fun _ _ hnm hkind => hnm.firstNamed?_kept (of_wrapperKind hkind).2.2) h

theorem text_of_word (h : n.Kept m) (hkind : isWordKind n.kind = true) : n.text = m.text :=
  h.text_eq (.inl (h.words.self n (by simp [wordsRead, hkind])))

theorem sameText_role? (h : n.Kept m) {field : String} (hword : (n.kind, field) ∈ wordRoles) :
    Option.Rel SameText (n.role? field) (m.role? field) := by
  have hall : ∀ entry ∈ wordRoles, takesWrapper entry.1 (some entry.2) = false := by decide
  refine rel_imp (h.role?_kept (hall _ hword)) fun c d hc hcd => hcd.text_eq (.inl ?_)
  refine h.words.self c
    (List.mem_append_left _ (List.mem_append_left _ (List.mem_append_right _ ?_)))
  exact List.mem_flatMap.2 ⟨_, List.mem_filter.2 ⟨hword, beq_self_eq_true _⟩, by simp [hc]⟩

theorem sameText_head? (h : n.Kept m) (hkind : n.kind = "lexical_declaration") :
    Option.Rel SameText n.children.head? m.children.head? := by
  have hchildren := h.children_kept (by rw [hkind]; decide)
  refine rel_imp (rel_head? hchildren) fun c d hc hcd => hcd.text_eq (.inl ?_)
  exact h.words.self c (by simp [wordsRead, hkind, hc])

/-- Whether an object is `JSON` can be seen in both trees. -/
theorem isJson_eq (h : n.Kept m) (hkind : n.kind = "member_expression") :
    (textOf (n.role? "object") == "JSON") = (textOf (m.role? "object") == "JSON") := by
  have hrel : Option.Rel Kept (n.role? "object") (m.role? "object") :=
    h.role?_kept (by rw [hkind]; decide)
  have hsolid : ∀ k : Node, k.Every ReadsSolid → ∀ c, k.role? "object" = some c →
      c.text = "JSON" → c.IsSolid := by
    intro k hk c hc htext
    exact hk.self c (by simp [wordsRead, hc, htext])
  have hn := hsolid n h.words
  have hm := hsolid m h.words'
  generalize n.role? "object" = x, m.role? "object" = y at hrel hn hm ⊢
  cases hrel with
  | none => rfl
  | @some c d hcd =>
    rw [Bool.eq_iff_iff, beq_iff_eq, beq_iff_eq]
    constructor
    · intro hc
      exact (hcd.text_eq (.inl (hn c rfl hc))).symm.trans hc
    · intro hd
      exact (hcd.text_eq (.inr (hm d rfl hd))).trans hd

theorem stringifies_eq (h : n.Kept m) (hkind : n.kind = "call_expression") :
    n.stringifies = m.stringifies := by
  refine any?_eq (h.role?_kept (by rw [hkind]; decide)) fun c d hcd => ?_
  rw [← hcd.kind_eq]
  by_cases hmember : c.kind = "member_expression"
  · rw [hcd.isJson_eq hmember, textOf_eq (hcd.sameText_role? (by rw [hmember]; decide))]
  · simp only [beq_eq_false_iff_ne.2 hmember, Bool.false_and]

theorem templatePieces_rel (h : n.Kept m) (hkind : n.kind = "template_string") :
    List.Forall₂ (UrlPiece.Alike Dressed) n.templatePieces m.templatePieces := by
  have hchildren := h.children_kept (by rw [hkind]; decide)
  obtain ⟨hwrapped, -, -⟩ := h
  cases hwrapped with
  | mk _ _ _ _ _ _ _ fixed =>
    exact templatePiecesFrom_rel (fun _ _ hcd => hcd.kind_eq)
      (fun _ _ hcd _ => hcd.firstNamed?_dressed) hchildren (fixed hkind)

theorem patternNames_eq (h : n.Kept m) : n.patternNames = m.patternNames := by
  obtain ⟨hwrapped, -, -⟩ := h
  cases hwrapped with
  | mk _ _ _ _ _ names => exact names rfl

/-- Of a child in wrappers the walk over a tree sees the expression. -/
theorem walk_eq (h : n.Kept m) {core child : Node} (hplaced : PlacedAs n.kind core child) :
    core.sends (some m) = child.sends (some m) ∧
      ∀ frames, core.callsIn (some m) frames = child.callsIn (some m) frames := by
  rcases hplaced with rfl | ⟨htakes, hwraps⟩
  · exact ⟨rfl, fun _ => rfl⟩
  · have hneutral : isNeutralKind m.kind = true :=
      h.kind_eq ▸ isNeutralKind_of_holds (holdsWrappers_of_takes htakes)
    simp only [sends_of_neutral hneutral, callsIn_of_neutral hneutral, hwraps.sends_eq,
      hwraps.callsIn_eq, implies_true, and_self]

theorem patterns_dressed (h : n.Kept m) : List.Forall₂ Dressed n.patterns m.patterns :=
  patterns_rel h.kind_eq
    (fun hdeclares _ hfield => h.role?_kept (takesWrapper_of_declares hdeclares hfield))
    (fun _ _ => kind_eq) .nil (fun _ _ hcd => .cons hcd.dressed .nil) fun _ _ => namedChildren_rel

/-- Wrappers do not make a pattern shallower. -/
theorem patternDepth_le (h : n.Kept m) : n.patternDepth ≤ m.patternDepth := by
  induction n using induction_children generalizing m with
  | step n ih =>
    have hbelow : ∀ c ∈ n.children, ∀ d, c.Dressed d → c.patternDepth ≤ d.patternDepth := by
      rintro c hc d ⟨core, hkept, hwraps⟩
      exact (ih c hc hkept).trans hwraps.patternDepth_le
    rw [patternDepth_eq n, patternDepth_eq m, ← h.kind_eq]
    split
    · exact le_rfl
    cases patternRole? n.kind with
    | some role =>
      have hrel := rel_imp (h.role?_dressed role) fun c d hc hcd =>
        hbelow c (mem_children_of_role? hc) d hcd
      simp only
      generalize n.role? role = x, m.role? role = y at hrel ⊢
      cases hrel with
      | none => exact le_rfl
      | some hcd => simpa using hcd
    | none =>
      have hdeepest : deepest n.namedChildren ≤ deepest m.namedChildren := by
        rw [deepest_le_iff]
        intro c hc
        obtain ⟨d, hd, hcd⟩ := exists_of_forall₂ h.namedChildren_rel hc
        exact (hbelow c (List.mem_filter.1 hc).1 d hcd).trans (deepest_le_iff.1 le_rfl d hd)
      simp only
      split
      · exact le_rfl
      · omega

/-- A pattern that is too deep stays too deep in wrappers. -/
theorem deepPattern {limit : Nat} (h : n.Kept m) (hdeep : n.hasDeepPattern limit = true) :
    m.hasDeepPattern limit = true := by
  induction n using induction_children generalizing m with
  | step n ih =>
    rw [hasDeepPattern_eq, Bool.and_eq_true, Bool.or_eq_true, List.any_eq_true,
      List.any_eq_true] at hdeep ⊢
    refine ⟨h.named_eq ▸ hdeep.1, hdeep.2.imp ?_ ?_⟩
    · rintro ⟨p, hp, hlimit⟩
      obtain ⟨q, hq, core, hkept, hwraps⟩ := exists_of_forall₂ h.patterns_dressed hp
      have hle : p.patternDepth ≤ q.patternDepth :=
        hkept.patternDepth_le.trans hwraps.patternDepth_le
      exact ⟨q, hq, decide_eq_true ((of_decide_eq_true hlimit).trans_le hle)⟩
    · rintro ⟨c, hc, hdeep⟩
      obtain ⟨d, hd, ⟨core, hkept, hwraps⟩, -⟩ := exists_of_forall₂ h.children_rel hc
      exact ⟨d, hd, hwraps.deepPattern_of_core (ih c hc hkept hdeep)⟩

end Kept

end Node

/-- Wrapped trees correspond. -/
theorem kept_correspondence : Correspondence false Node.Kept Node.Dressed where
  dressed h := h.dressed
  unwrap h := by
    obtain ⟨core, hkept, hwraps⟩ := h
    rw [hwraps.unwrap_eq]
    exact hkept.unwrap_kept
  kind h := h.kind_eq
  named h := h.named_eq
  text h hkind := h.text_of_word hkind
  children h hkind := by
    have hall : ∀ kind ∈ listKinds, holdsWrappers kind = false := by decide
    exact h.children_kept (hall _ hkind)
  part h hfield := by
    have hall : ∀ entry ∈ partRoles, takesWrapper entry.1 (some entry.2) = false := by decide
    exact h.role?_kept (hall _ hfield)
  value h _ := h.role?_dressed _
  word h hword := h.sameText_role? hword
  keyword h hkind := h.sameText_head? hkind
  bound h := rel_refl h.patternNames_eq
  below h := by
    obtain ⟨cores, hcores, hplaced, -⟩ := h.exists_cores
    exact ⟨cores, .of_forall₂ hcores, flatMap_eq hplaced fun _ _ hchild => (h.walk_eq hchild).1,
      fun frames => flatMap_eq hplaced fun _ _ hchild => (h.walk_eq hchild).2 frames⟩
  template h hkind := h.templatePieces_rel hkind
  stringifies h hkind := h.stringifies_eq hkind
  payload h hkind _ :=
    rel_bind? (h.role?_kept (by rw [hkind]; decide)) fun _ _ hlist => hlist.firstNamed?_dressed
  arguments h _ :=
    List.rel_filter (fun _ _ hcd => by simp [hcd.comment_iff]) h.namedChildren_rel

/-- Wrappers around arguments, operands, embedded expressions and values leave the requests of a
program as they are, if patterns bind the names they bound before.  However many calls can be
nested, the search for them breaks off where it did, and where a pattern is too deep with its
wrappers. -/
theorem Node.requests_wrapped {root root' : Node} (h : root.Wrapped false root')
    (hwords : root.Every ReadsSolid) (hwords' : root'.Every ReadsSolid) :
    root'.observations.map Observation.request = root.observations.map Observation.request ∧
      ∀ limit, root'.tooDeep limit = (root.tooDeep limit || root'.hasDeepPattern limit) := by
  have hroot : root.Kept root' := ⟨h, hwords, hwords'⟩
  refine ⟨kept_correspondence.requests_eq hroot, fun limit => ?_⟩
  rw [tooDeep_eq_framedCalls, tooDeep_eq_framedCalls, kept_correspondence.anyDeepUrl_eq hroot]
  cases hpattern : root.hasDeepPattern limit with
  | false => rw [Bool.false_or, Bool.or_comm]
  | true => rw [hroot.deepPattern hpattern, Bool.true_or, Bool.true_or]

namespace Node

theorem Wrapped.refl {anywhere : Bool} (n : Node) : n.Wrapped anywhere n := by
  induction n using induction_children with
  | step n ih =>
    cases n with
    | mk label children =>
      exact .mk rfl rfl (List.forall₂_same.2 ih) (List.forall₂_same.2 fun _ _ => .inl rfl) rfl
        (fun _ => rfl) (fun _ => rfl) fun _ => rfl

/-- Wrappers below a node that is no template. -/
theorem Wrapped.within {anywhere : Bool} {label : Label} {children cores children' : List Node}
    (htemplate : label.kind ≠ "template_string")
    (each : List.Forall₂ (Wrapped anywhere) children cores)
    (placed : List.Forall₂ (PlacedAs label.kind) cores children')
    (fields : children.map (fun c => c.label.field) = children'.map fun c => c.label.field)
    (names : anywhere = false →
      (Node.mk label children).patternNames = (Node.mk label children').patternNames) :
    (Node.mk label children).Wrapped anywhere (Node.mk label children') :=
  .mk rfl rfl each placed fields names (fun _ => rfl) fun hkind => absurd hkind htemplate

/-- A word in another role. -/
theorem wrapped_wordNode {anywhere : Bool} (kind : String) (field field' : Option String)
    (text : String) : (wordNode kind field text).Wrapped anywhere (wordNode kind field' text) :=
  .mk rfl rfl .nil .nil rfl (fun _ => rfl) (fun _ => rfl) fun _ => rfl

/-- An expression with a cast to a type. -/
def castNode (field : Option String) (inner type : Node) : Node :=
  .mk { kind := "as_expression", field } [inner, .mk { kind := "as", named := false } [], type]

theorem castNode_wraps {field : Option String} {inner core type : Node}
    (hnamed : inner.named = true) (hcomment : inner.kind ≠ "comment") (htype : type.Inert)
    (h : inner.Wraps core) : (castNode field inner type).Wraps core := by
  have hkind : isWrapperKind "as_expression" = true := by decide
  have hholds : (castNode field inner type).children =
      [] ++ inner :: [.mk { kind := "as", named := false } [], type] := rfl
  refine .wrap hkind rfl hholds (by simp) hnamed hcomment ?_ h
  intro c hc
  rcases List.mem_cons.1 hc with rfl | hc
  · decide
  · obtain rfl := List.mem_singleton.1 hc
    exact htype

/-- Brackets around an expression. -/
def bracketNode (field : Option String) (inner : Node) : Node :=
  .mk { kind := "parenthesized_expression", field }
    [.mk { kind := "(", named := false } [], inner, .mk { kind := ")", named := false } []]

theorem bracketNode_wraps {field : Option String} {inner core : Node} (hnamed : inner.named = true)
    (hcomment : inner.kind ≠ "comment") (h : inner.Wraps core) :
    (bracketNode field inner).Wraps core := by
  have hkind : isWrapperKind "parenthesized_expression" = true := by decide
  have hholds : (bracketNode field inner).children =
      [.mk { kind := "(", named := false } []] ++ inner ::
        [.mk { kind := ")", named := false } []] := rfl
  refine .wrap hkind rfl hholds ?_ hnamed hcomment ?_ h
  · intro c hc
    obtain rfl := List.mem_singleton.1 hc
    rfl
  · intro c hc
    obtain rfl := List.mem_singleton.1 hc
    decide

/-- The sum of `'/api/'` and an operand. -/
def pathSum (field : Option String) (operand : Node) : Node :=
  .mk { kind := "binary_expression", field }
    [.mk { kind := "string", field := some "left" } [wordNode "string_fragment" none "/api/"],
      wordNode "+" (some "operator") "+", operand]

def argumentList (argument : Node) : Node :=
  .mk { kind := "arguments", field := some "arguments" } [argument]

theorem argumentList_wrapped {anywhere : Bool} {argument core child : Node}
    (h : argument.Wrapped anywhere core) (hwraps : child.Wraps core)
    (hfield : argument.label.field = child.label.field) :
    (argumentList argument).Wrapped anywhere (argumentList child) :=
  .within (by decide) (.cons h .nil) (.cons (.inr ⟨rfl, hwraps⟩) .nil) (by simp [hfield])
    fun _ => rfl

/-- Children as they are. -/
theorem placed_self (kind : String) (children : List Node) :
    List.Forall₂ (PlacedAs kind) children children :=
  List.forall₂_same.2 fun _ _ => .inl rfl

/-- Wrappers around the operand of a sum, which may get another role. -/
theorem pathSum_wrapped {anywhere : Bool} {operand core child : Node} (field field' : Option String)
    (h : operand.Wrapped anywhere core) (hwraps : child.Wraps core)
    (hfield : operand.label.field = some "right") (hfield' : child.label.field = some "right") :
    (pathSum field operand).Wrapped anywhere (pathSum field' child) := by
  have htakes : takesWrapper "binary_expression" child.label.field = true := by
    rw [hfield']
    decide
  have htemplate : "binary_expression" ≠ "template_string" := by decide
  exact .mk rfl rfl (.cons (.refl _) (.cons (.refl _) (.cons h .nil)))
    (.cons (.inl rfl) (.cons (.inl rfl) (.cons (.inr ⟨htakes, hwraps⟩) .nil)))
    (by simp [hfield, hfield']) (fun _ => rfl) (fun _ => rfl) fun hkind => absurd hkind htemplate

/-- Wrappers around the value of a declaration and in the arguments of a call. -/
theorem fetchingProgram_wrapped {anywhere : Bool} {value core child list list' : Node}
    (hvalue : value.Wrapped anywhere core) (hwraps : child.Wraps core)
    (hfield : value.label.field = some "value") (hfield' : child.label.field = some "value")
    (hlist : list.Wrapped anywhere list') (hlists : list.label.field = list'.label.field) :
    (fetchingProgram value list).Wrapped anywhere (fetchingProgram child list') := by
  refine .within (by decide) (.cons ?_ (.cons ?_ .nil)) (placed_self _ _) rfl fun _ => rfl
  · refine .within (by decide) (.cons (.refl _) (.cons ?_ .nil)) (placed_self _ _) rfl fun _ => rfl
    refine .within (by decide) (.cons (.refl _) (.cons hvalue .nil))
      (.cons (.inl rfl) (.cons (.inr ⟨?_, hwraps⟩) .nil)) ?_ fun _ => rfl
    · rw [hfield']
      decide
    · simp [hfield, hfield']
  · refine .within (by decide) (.cons ?_ .nil) (placed_self _ _) rfl fun _ => rfl
    refine .within (by decide) (.cons (.refl _) (.cons hlist .nil)) (placed_self _ _) ?_
      fun _ => rfl
    simp [hlists]

/-- Wrappers change nothing in `const url = ('/api/' + (id as T)); fetch((url))`. -/
theorem requests_bracketed :
    let id := wordNode "identifier" (some "right") "id"
    let url := wordNode "identifier" none "url"
    let cast := castNode none (wordNode "identifier" none "id")
      (wordNode "type_identifier" none "T")
    let plain := fetchingProgram (pathSum (some "value") id) (argumentList url)
    let wrapped := fetchingProgram
      (bracketNode (some "value") (pathSum none (bracketNode (some "right") cast)))
      (argumentList (bracketNode none url))
    plain.Wrapped false wrapped ∧ plain.observations.map Observation.url = ["/api/\x7bid\x7d"] ∧
      wrapped.observations.map Observation.request = plain.observations.map Observation.request ∧
      wrapped.tooDeep 9 = plain.tooDeep 9 := by
  intro id url cast plain wrapped
  have hcast : (bracketNode (some "right") cast).Wraps (wordNode "identifier" none "id") :=
    bracketNode_wraps rfl (by decide) (castNode_wraps rfl (by decide) (by decide) (.bare _))
  have hsum : (pathSum (some "value") id).Wrapped false
      (pathSum none (bracketNode (some "right") cast)) :=
    pathSum_wrapped _ _ (wrapped_wordNode _ _ _ _) hcast rfl rfl
  have hurl : (argumentList url).Wrapped false (argumentList (bracketNode none url)) :=
    argumentList_wrapped (.refl _) (bracketNode_wraps rfl (by decide) (.bare _)) rfl
  have hwrapped : plain.Wrapped false wrapped :=
    fetchingProgram_wrapped hsum (bracketNode_wraps rfl (by decide) (.bare _)) rfl rfl hurl rfl
  obtain ⟨hrequests, hdeep⟩ := requests_wrapped hwrapped (by decide +kernel) (by decide +kernel)
  have hshallow : wrapped.hasDeepPattern 9 = false := by decide +kernel
  have hsame := hdeep 9
  rw [hshallow, Bool.or_false] at hsame
  exact ⟨hwrapped, by decide +kernel, hrequests, hsame⟩

/-- The program `const [a[f(argument)]] = b; const url = ('/api/a'); fetch(url)`. -/
def subscriptProgram (argument : Node) : Node :=
  .mk { kind := "program" } (.mk { kind := "lexical_declaration" }
    [wordNode "const" (some "kind") "const", .mk { kind := "variable_declarator" }
      [.mk { kind := "array_pattern", field := some "name" } [.mk { kind := "subscript_expression" }
        [wordNode "identifier" (some "object") "a",
          .mk { kind := "call_expression", field := some "index" }
            [wordNode "identifier" (some "function") "f", argumentList argument]]],
        wordNode "identifier" (some "value") "b"]] ::
    (fetchingProgram (bracketedValue [] []) (urlArguments [])).children)

theorem subscriptProgram_wrapped {argument core child : Node}
    (h : argument.Wrapped true core) (hwraps : child.Wraps core)
    (hfield : argument.label.field = child.label.field) :
    (subscriptProgram argument).Wrapped true (subscriptProgram child) := by
  refine .within (by decide) (.cons ?_ (.cons (.refl _) (.cons (.refl _) .nil))) (placed_self _ _)
    rfl nofun
  refine .within (by decide) (.cons (.refl _) (.cons ?_ .nil)) (placed_self _ _) rfl nofun
  refine .within (by decide) (.cons ?_ (.cons (.refl _) .nil)) (placed_self _ _) rfl nofun
  refine .within (by decide) (.cons ?_ .nil) (placed_self _ _) rfl nofun
  refine .within (by decide) (.cons (.refl _) (.cons ?_ .nil)) (placed_self _ _) rfl nofun
  refine .within (by decide) (.cons (.refl _) (.cons ?_ .nil)) (placed_self _ _) rfl nofun
  exact argumentList_wrapped h hwraps hfield

/-- The type of a cast in a pattern is taken for a name that the pattern binds, which hides the URL:
`const [a[f(x as typeof url)]] = b; const url = ('/api/a'); fetch(url)`. -/
theorem observations_castInPattern :
    let x := wordNode "identifier" none "x"
    let cast := castNode none x (.mk { kind := "type_query" } [wordNode "identifier" none "url"])
    (subscriptProgram x).Wrapped true (subscriptProgram cast) ∧
      (subscriptProgram x).Every ReadsSolid ∧ (subscriptProgram cast).Every ReadsSolid ∧
      (subscriptProgram x).observations.map Observation.url = ["/api/a"] ∧
      (subscriptProgram cast).tooDeep 9 = false ∧
      (subscriptProgram cast).observations.map Observation.url = [] := by
  intro x cast
  have hcast : cast.Wraps x := castNode_wraps rfl (by decide) (by decide) (.bare _)
  exact ⟨subscriptProgram_wrapped (.refl _) hcast rfl, by decide +kernel, by decide +kernel,
    by decide +kernel, by decide +kernel, by decide +kernel⟩

end Node

end RouteCensus
