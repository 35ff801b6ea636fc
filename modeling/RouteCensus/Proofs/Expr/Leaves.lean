import RouteCensus.Call.Nesting

/-! # Leaves of a sum

What stands inside the wrappers of an expression, and the leaves of a sum in
source order, said as relations.  Both are relative to a choice of the node that
a wrapper holds.  The readers of a URL choose the first named node, which is the
expression itself as long as no comment stands before it.  A sum nests at most as
many calls as it has leaves.
-/

namespace RouteCensus

namespace Node

def firstNamed? (n : Node) : Option Node :=
  n.namedChildren.head?

mutual

/-- The nodes of a tree in pre-order. -/
def nodes : Node → List Node
  | mk label children => mk label children :: nodesAmong children

def nodesAmong : List Node → List Node
  | [] => []
  | n :: rest => n.nodes ++ nodesAmong rest

end

/-- A property of every node of a tree. -/
def Every (P : Node → Prop) (n : Node) : Prop :=
  ∀ m ∈ n.nodes, P m

instance (P : Node → Prop) [DecidablePred P] (n : Node) : Decidable (n.Every P) :=
  inferInstanceAs (Decidable (∀ m ∈ n.nodes, P m))

theorem nodesAmong_eq (ns : List Node) : nodesAmong ns = ns.flatMap nodes := by
  induction ns with
  | nil => rfl
  | cons n ns ih => rw [nodesAmong, ih, List.flatMap_cons]

theorem nodes_eq (n : Node) : n.nodes = n :: n.children.flatMap nodes := by
  cases n with
  | mk label children => rw [nodes, nodesAmong_eq]; rfl

theorem mem_nodesAmong {m child : Node} {children : List Node} (hchild : child ∈ children)
    (h : m ∈ child.nodes) :
    m ∈ nodesAmong children := by
  induction children with
  | nil => cases hchild
  | cons first rest ih =>
    rw [nodesAmong, List.mem_append]
    cases hchild with
    | head => exact .inl h
    | tail _ hrest => exact .inr (ih hrest)

theorem Every.self {P : Node → Prop} {n : Node} (h : n.Every P) : P n := by
  cases n with
  | mk label children => exact h _ (by rw [nodes]; exact List.mem_cons_self)

theorem Every.child {P : Node → Prop} {n child : Node} (h : n.Every P)
    (hchild : child ∈ n.children) :
    child.Every P := by
  cases n with
  | mk label children =>
    intro m hm
    apply h
    rw [nodes]
    exact List.mem_cons_of_mem _ (mem_nodesAmong hchild hm)

/-- Induction over a tree from the children to their parent. -/
theorem induction_children {P : Node → Prop}
    (step : ∀ n : Node, (∀ child ∈ n.children, P child) → P n) (n : Node) :
    P n :=
  step n fun child _ => induction_children step child
termination_by sizeOf n
decreasing_by
  cases n with
  | mk label children =>
    have hlt : sizeOf child < sizeOf children := List.sizeOf_lt_of_mem ‹_›
    simp only [mk.sizeOf_spec]
    omega

theorem size_eq_children (n : Node) : n.size = 1 + sizeAll n.children := by
  cases n with
  | mk label children => rw [size]; rfl

theorem sizeAll_append (ns ms : List Node) : sizeAll (ns ++ ms) = sizeAll ns + sizeAll ms := by
  induction ns with
  | nil => simp [sizeAll]
  | cons n ns ih => rw [List.cons_append, sizeAll, sizeAll, ih, Nat.add_assoc]

theorem mem_children_of_firstNamed? {n child : Node} (h : n.firstNamed? = some child) :
    child ∈ n.children :=
  (List.mem_filter.1 (List.mem_of_mem_head? h)).1

theorem mem_children_of_role? {n child : Node} {field : String} (h : n.role? field = some child) :
    child ∈ n.children :=
  List.mem_of_find?_eq_some h

end Node

/-- The node inside all wrappers of another.  A wrapper that holds nothing stays. -/
inductive Unwraps (inner? : Node → Option Node) : Node → Node → Prop where
  | stop {n : Node} (h : isWrapperKind n.kind = false ∨ inner? n = none) : Unwraps inner? n n
  | strip {n m e : Node} (hn : isWrapperKind n.kind = true) (hm : inner? n = some m)
    (h : Unwraps inner? m e) :
    Unwraps inner? n e

/-- The leaves of an expression in source order: sums are opened, through wrappers around them, and
every leaf is taken out of its wrappers. -/
inductive Leaves (inner? : Node → Option Node) : Node → List Node → Prop where
  | leaf {n e : Node} (h : Unwraps inner? n e) (he : e.isSum = false) : Leaves inner? n [e]
  | sum {n e left right : Node} {lefts rights : List Node} (h : Unwraps inner? n e)
    (he : e.isSum = true) (hleft : e.role? "left" = some left)
    (hright : e.role? "right" = some right) (hlefts : Leaves inner? left lefts)
    (hrights : Leaves inner? right rights) : Leaves inner? n (lefts ++ rights)

namespace Node

/-- Both operands of a sum are there. -/
def HasOperands (n : Node) : Prop :=
  n.isSum = true → (n.role? "left").isSome ∧ (n.role? "right").isSome

instance (n : Node) : Decidable n.HasOperands :=
  inferInstanceAs (Decidable (_ → _))

def substitutions (n : Node) : List Node :=
  n.children.filter fun child => child.kind == "template_substitution"

/-- The nodes on the way through the wrappers of a node, from the node itself on. -/
inductive Passes : Node → Node → Prop where
  | self (n : Node) : Passes n n
  | strip {n k m : Node} (hn : isWrapperKind n.kind = true) (hk : n.firstNamed? = some k)
    (h : Passes k m) : Passes n m

/-- The nodes that the URL of a node is read from: wrappers, sums with their operands, templates
with their substitutions, and wrappers inside these. -/
inductive Reads : Node → Node → Prop where
  | pass {n m : Node} (h : Passes n m) : Reads n m
  | operand {n k m : Node} (hsum : n.unwrap.isSum = true)
    (hk : n.unwrap.role? "left" = some k ∨ n.unwrap.role? "right" = some k) (h : Reads k m) :
    Reads n m
  | substitution {n sub : Node} (hkind : n.unwrap.kind = "template_string")
    (hsub : sub ∈ n.unwrap.substitutions) :
    Reads n sub
  | embedded {n sub k m : Node} (hkind : n.unwrap.kind = "template_string")
    (hsub : sub ∈ n.unwrap.substitutions)
    (hk : sub.firstNamed? = some k) (h : Passes k m) : Reads n m

/-- There is no wrapper to take off: at most one around nothing. -/
def Bare (n : Node) : Prop :=
  isWrapperKind n.kind = false ∨ n.firstNamed? = none

/-- A choice of what a node holds that is its first named node, if it is a wrapper or a
substitution. -/
def Holds (inner? : Node → Option Node) (n : Node) : Prop :=
  isWrapperKind n.kind = true ∨ n.kind = "template_substitution" → inner? n = n.firstNamed?

theorem isSum_of_wrapper {n : Node} (h : isWrapperKind n.kind = true) : n.isSum = false := by
  rw [isSum, Bool.and_eq_false_iff]
  refine .inl (beq_eq_false_iff_ne.2 fun hkind => ?_)
  rw [hkind] at h
  exact absurd h (by decide)

theorem not_wrapper_of_isSum {n : Node} (h : n.isSum = true) : isWrapperKind n.kind = false := by
  cases hwrapper : isWrapperKind n.kind with
  | false => rfl
  | true =>
    rw [isSum_of_wrapper hwrapper] at h
    cases h

theorem unwrapFirst_eq (whole : Node) (children : List Node) :
    unwrapFirst whole children = ((children.filter named).head?.map unwrap).getD whole := by
  induction children with
  | nil => rw [unwrapFirst]; rfl
  | cons child rest ih =>
    rw [unwrapFirst, List.filter_cons, ih]
    cases child.named <;> rfl

theorem unwrap_of_wrapper {n : Node} (h : isWrapperKind n.kind = true) :
    n.unwrap = (n.firstNamed?.map unwrap).getD n := by
  cases n with
  | mk label children =>
    rw [unwrap, show isWrapperKind label.kind = true from h, if_pos rfl, unwrapFirst_eq]
    rfl

theorem unwrap_of_not_wrapper {n : Node} (h : isWrapperKind n.kind = false) : n.unwrap = n := by
  cases n with
  | mk label children =>
    rw [unwrap, show isWrapperKind label.kind = false from h]
    rfl

theorem operandsOfFirst?_eq (children : List Node) :
    operandsOfFirst? children = (children.filter named).head?.bind operands? := by
  induction children with
  | nil => rw [operandsOfFirst?]; rfl
  | cons child rest ih =>
    rw [operandsOfFirst?, List.filter_cons, ih]
    cases child.named <;> rfl

/-- The operands of a sum, or the one expression inside the wrappers. -/
def summands (n : Node) : List Node :=
  n.operands?.getD [n.unwrap]

theorem sideOperands?_eq (role : String) (children : List Node) :
    sideOperands? role children =
      (children.find? fun child => child.label.field == some role).map summands := by
  induction children with
  | nil => rw [sideOperands?]; rfl
  | cons child rest ih =>
    rw [sideOperands?, List.find?_cons, ih]
    cases child.label.field == some role with
    | false => rfl
    | true =>
      rw [if_pos rfl, Option.map_some, summands]
      cases child.operands? <;> rfl

theorem operands?_of_wrapper {n : Node} (h : isWrapperKind n.kind = true) :
    n.operands? = n.firstNamed?.bind operands? := by
  cases n with
  | mk label children =>
    rw [operands?, show isWrapperKind label.kind = true from h, if_pos rfl, operandsOfFirst?_eq]
    rfl

theorem operands?_of_sum {n left right : Node} (h : n.isSum = true)
    (hleft : n.role? "left" = some left) (hright : n.role? "right" = some right) :
    n.operands? = some (left.summands ++ right.summands) := by
  have hwrapper : isWrapperKind n.kind = false := not_wrapper_of_isSum h
  cases n with
  | mk label children =>
    have hl : sideOperands? "left" children = some left.summands :=
      (sideOperands?_eq "left" children).trans (congrArg (Option.map summands) hleft)
    have hr : sideOperands? "right" children = some right.summands :=
      (sideOperands?_eq "right" children).trans (congrArg (Option.map summands) hright)
    rw [operands?, show isWrapperKind label.kind = false from hwrapper, h, hl, hr]
    rfl

theorem operands?_of_other {n : Node} (hwrapper : isWrapperKind n.kind = false)
    (h : n.isSum = false) :
    n.operands? = none := by
  cases n with
  | mk label children =>
    rw [operands?, show isWrapperKind label.kind = false from hwrapper, h]
    rfl

theorem unwrap_of_bare {n : Node} (h : n.Bare) : n.unwrap = n := by
  cases hwrapper : isWrapperKind n.kind with
  | false => exact unwrap_of_not_wrapper hwrapper
  | true =>
    have hnone := h.resolve_left (by simp [hwrapper])
    rw [unwrap_of_wrapper hwrapper, hnone]
    rfl

theorem unwrap_of_firstNamed? {n m : Node} (hwrapper : isWrapperKind n.kind = true)
    (h : n.firstNamed? = some m) : n.unwrap = m.unwrap := by
  rw [unwrap_of_wrapper hwrapper, h]
  rfl

/-- Induction from the inside of the wrappers of a node to the node. -/
theorem induction_wrappers {P : Node → Prop} (bare : ∀ n : Node, n.Bare → P n)
    (strip : ∀ n m : Node, isWrapperKind n.kind = true → n.firstNamed? = some m → P m → P n)
    (n : Node) : P n := by
  induction n using induction_children with
  | step n ih =>
    cases hwrapper : isWrapperKind n.kind with
    | false => exact bare n (.inl hwrapper)
    | true =>
      cases hinner : n.firstNamed? with
      | none => exact bare n (.inr hinner)
      | some m => exact strip n m hwrapper hinner (ih m (mem_children_of_firstNamed? hinner))

theorem unwrap_bare (n : Node) : n.unwrap.Bare := by
  induction n using induction_wrappers with
  | bare n h => rwa [unwrap_of_bare h]
  | strip n m hwrapper hinner ih => rwa [unwrap_of_firstNamed? hwrapper hinner]

/-- Induction over a tree from the operands of a sum, inside its wrappers, to the sum. -/
theorem induction_unwrap {P : Node → Prop}
    (step : ∀ n : Node, (∀ child ∈ n.unwrap.children, P child) → P n) (n : Node) : P n := by
  have hinside : ∀ n : Node, ∀ child ∈ n.unwrap.children, P child := by
    intro n
    induction n using induction_children with
    | step n ih =>
      intro child hchild
      cases hwrapper : isWrapperKind n.kind with
      | false =>
        rw [unwrap_of_not_wrapper hwrapper] at hchild
        exact step child (ih child hchild)
      | true =>
        cases hinner : n.firstNamed? with
        | none =>
          rw [unwrap_of_bare (.inr hinner)] at hchild
          exact step child (ih child hchild)
        | some m =>
          rw [unwrap_of_firstNamed? hwrapper hinner] at hchild
          exact ih m (mem_children_of_firstNamed? hinner) child hchild
  exact step n (hinside n)

theorem passes_unwrap (n : Node) : n.Passes n.unwrap := by
  induction n using induction_wrappers with
  | bare n h =>
    rw [unwrap_of_bare h]
    exact .self n
  | strip n m hwrapper hinner ih =>
    rw [unwrap_of_firstNamed? hwrapper hinner]
    exact .strip hwrapper hinner ih

theorem operands?_unwrap (n : Node) : n.unwrap.operands? = n.operands? := by
  induction n using induction_wrappers with
  | bare n h => rw [unwrap_of_bare h]
  | strip n m hwrapper hinner ih =>
    rw [unwrap_of_firstNamed? hwrapper hinner, ih, operands?_of_wrapper hwrapper, hinner]
    rfl

theorem operands?_of_not_sum {n : Node} (h : n.unwrap.isSum = false) : n.operands? = none := by
  rw [← operands?_unwrap]
  cases hwrapper : isWrapperKind n.unwrap.kind with
  | false => exact operands?_of_other hwrapper h
  | true =>
    have hbare := n.unwrap_bare.resolve_left (by simp [hwrapper])
    rw [operands?_of_wrapper hwrapper, hbare]
    rfl

theorem Passes.trans {n m k : Node} (h : n.Passes m) (h' : m.Passes k) : n.Passes k := by
  induction h with
  | self => exact h'
  | strip hn hk _ ih => exact .strip hn hk (ih h')

theorem Passes.unwrap_eq {n m : Node} (h : n.Passes m) : m.unwrap = n.unwrap := by
  induction h with
  | self => rfl
  | strip hn hk _ ih => exact ih.trans (unwrap_of_firstNamed? hn hk).symm

/-- What is read of a node inside the wrappers of another is read of the other. -/
theorem Passes.reads {n m k : Node} (hm : n.Passes m) (h : m.Reads k) : n.Reads k := by
  have hunwrap := hm.unwrap_eq
  cases h with
  | pass h => exact .pass (hm.trans h)
  | operand hsum hk h => exact .operand (hunwrap ▸ hsum) (hunwrap ▸ hk) h
  | substitution hkind hsub => exact .substitution (hunwrap ▸ hkind) (hunwrap ▸ hsub)
  | embedded hkind hsub hk h => exact .embedded (hunwrap ▸ hkind) (hunwrap ▸ hsub) hk h

theorem Every.passes {P : Node → Prop} {n m : Node} (h : n.Every P) (hm : n.Passes m) :
    m.Every P := by
  induction hm with
  | self => exact h
  | strip _ hk _ ih => exact ih (h.child (mem_children_of_firstNamed? hk))

theorem Every.unwrap {P : Node → Prop} {n : Node} (h : n.Every P) : n.unwrap.Every P :=
  h.passes n.passes_unwrap

/-- A property of every node of a tree holds of the trees that are read. -/
theorem Every.reads {P : Node → Prop} {n m : Node} (h : n.Every P) (hm : n.Reads m) :
    m.Every P := by
  induction hm with
  | pass hm => exact h.passes hm
  | operand _ hk _ ih =>
    rcases hk with hk | hk
    · exact ih (h.unwrap.child (mem_children_of_role? hk))
    · exact ih (h.unwrap.child (mem_children_of_role? hk))
  | substitution _ hsub => exact h.unwrap.child (List.mem_filter.1 hsub).1
  | embedded _ hsub hk hm =>
    have hsubs := h.unwrap.child (List.mem_filter.1 hsub).1
    exact (hsubs.child (mem_children_of_firstNamed? hk)).passes hm

end Node

section Spec

variable {inner? : Node → Option Node}

theorem Node.unwraps_unwrap {n : Node} (h : ∀ m, n.Passes m → m.Holds inner?) :
    Unwraps inner? n n.unwrap := by
  induction n using Node.induction_wrappers with
  | bare n hbare =>
    rw [Node.unwrap_of_bare hbare]
    cases hwrapper : isWrapperKind n.kind with
    | false => exact .stop (.inl hwrapper)
    | true =>
      have hnone := hbare.resolve_left (by simp [hwrapper])
      exact .stop (.inr ((h n (.self n) (.inl hwrapper)).trans hnone))
  | strip n m hwrapper hinner ih =>
    rw [Node.unwrap_of_firstNamed? hwrapper hinner]
    exact .strip hwrapper ((h n (.self n) (.inl hwrapper)).trans hinner)
      (ih fun k hk => h k (.strip hwrapper hinner hk))

theorem Unwraps.eq_unwrap {n e : Node} (h : Unwraps Node.firstNamed? n e) : e = n.unwrap := by
  induction h with
  | stop h => exact (Node.unwrap_of_bare h).symm
  | strip hn hm _ ih => exact ih.trans (Node.unwrap_of_firstNamed? hn hm).symm

theorem Unwraps.unique {n e e' : Node} (h : Unwraps inner? n e) (h' : Unwraps inner? n e') :
    e = e' := by
  induction h with
  | stop h =>
    cases h' with
    | stop _ => rfl
    | strip hn hm _ => simp [hn, hm] at h
  | strip hn hm _ ih =>
    cases h' with
    | stop h' => simp [hn, hm] at h'
    | strip _ hm' h' =>
      obtain rfl := Option.some.inj (hm.symm.trans hm')
      exact ih h'

theorem Leaves.unique {n : Node} {leaves leaves' : List Node} (h : Leaves inner? n leaves)
    (h' : Leaves inner? n leaves') : leaves = leaves' := by
  induction h generalizing leaves' with
  | leaf h he =>
    cases h' with
    | leaf h' _ => rw [h.unique h']
    | sum h' he' _ _ _ _ =>
      obtain rfl := h.unique h'
      exact absurd (he.symm.trans he') Bool.false_ne_true
  | sum h he hleft hright _ _ ihleft ihright =>
    cases h' with
    | leaf h' he' =>
      obtain rfl := h.unique h'
      exact absurd (he'.symm.trans he) Bool.false_ne_true
    | sum h' _ hleft' hright' hlefts hrights =>
      obtain rfl := h.unique h'
      obtain rfl := Option.some.inj (hleft.symm.trans hleft')
      obtain rfl := Option.some.inj (hright.symm.trans hright')
      rw [ihleft hlefts, ihright hrights]

/-- The summands of an expression are its leaves. -/
theorem Node.leaves_summands {n : Node} (hholds : ∀ m, n.Reads m → m.Holds inner?)
    (hsums : n.Every Node.HasOperands) : Leaves inner? n n.summands := by
  induction n using Node.induction_unwrap with
  | step n ih =>
    have hunwraps := Node.unwraps_unwrap fun m hm => hholds m (.pass hm)
    cases hsum : n.unwrap.isSum with
    | false =>
      rw [Node.summands, Node.operands?_of_not_sum hsum]
      exact .leaf hunwraps hsum
    | true =>
      obtain ⟨hl, hr⟩ := hsums.unwrap.self hsum
      obtain ⟨left, hleft⟩ := Option.isSome_iff_exists.1 hl
      obtain ⟨right, hright⟩ := Option.isSome_iff_exists.1 hr
      have hmleft := Node.mem_children_of_role? hleft
      have hmright := Node.mem_children_of_role? hright
      have hlefts := ih left hmleft (fun k hk => hholds k (.operand hsum (.inl hleft) hk))
        (hsums.unwrap.child hmleft)
      have hrights := ih right hmright (fun k hk => hholds k (.operand hsum (.inr hright) hk))
        (hsums.unwrap.child hmright)
      rw [Node.summands, ← Node.operands?_unwrap, Node.operands?_of_sum hsum hleft hright]
      exact .sum hunwraps hsum hleft hright hlefts hrights

theorem Leaves.eq_summands {n : Node} {leaves : List Node} (h : Leaves Node.firstNamed? n leaves) :
    leaves = n.summands := by
  induction h with
  | leaf h he =>
    obtain rfl := h.eq_unwrap
    rw [Node.summands, Node.operands?_of_not_sum he]
    rfl
  | sum h he hleft hright _ _ ihleft ihright =>
    obtain rfl := h.eq_unwrap
    rw [Node.summands, ← Node.operands?_unwrap, Node.operands?_of_sum he hleft hright, ihleft,
      ihright]
    rfl

theorem Leaves.every {P : Node → Prop} {n : Node} {leaves : List Node}
    (h : Leaves Node.firstNamed? n leaves) (hn : n.Every P) : ∀ e ∈ leaves, e.Every P := by
  induction h with
  | leaf h he =>
    obtain rfl := h.eq_unwrap
    intro e hmem
    obtain rfl := List.mem_singleton.1 hmem
    exact hn.unwrap
  | sum h he hleft hright _ _ ihleft ihright =>
    obtain rfl := h.eq_unwrap
    intro e hmem
    rcases List.mem_append.1 hmem with hmem | hmem
    · exact ihleft (hn.unwrap.child (Node.mem_children_of_role? hleft)) e hmem
    · exact ihright (hn.unwrap.child (Node.mem_children_of_role? hright)) e hmem

/-- What is read of a leaf is read of the whole. -/
theorem Leaves.reads {n e m : Node} {leaves : List Node} (h : Leaves Node.firstNamed? n leaves)
    (he : e ∈ leaves) (hm : e.Reads m) : n.Reads m := by
  induction h with
  | leaf h _ =>
    obtain rfl := h.eq_unwrap
    obtain rfl := List.mem_singleton.1 he
    exact (Node.passes_unwrap _).reads hm
  | sum h hsum hleft hright _ _ ihleft ihright =>
    obtain rfl := h.eq_unwrap
    rcases List.mem_append.1 he with he | he
    · exact .operand hsum (.inl hleft) (ihleft he)
    · exact .operand hsum (.inr hright) (ihright he)

/-- A leaf has no wrapper to take off. -/
theorem Leaves.unwrap_eq {n e : Node} {leaves : List Node} (h : Leaves Node.firstNamed? n leaves)
    (he : e ∈ leaves) :
    e.unwrap = e := by
  induction h with
  | leaf h _ =>
    obtain rfl := h.eq_unwrap
    obtain rfl := List.mem_singleton.1 he
    exact Node.unwrap_of_bare (Node.unwrap_bare _)
  | sum _ _ _ _ _ _ ihleft ihright =>
    rcases List.mem_append.1 he with he | he
    · exact ihleft he
    · exact ihright he

end Spec

section Depth

namespace Node

theorem sumDepthOfFirst_eq (children : List Node) :
    sumDepthOfFirst children = ((children.filter named).head?.map sumDepth).getD 1 := by
  induction children with
  | nil => rw [sumDepthOfFirst]; rfl
  | cons child rest ih =>
    rw [sumDepthOfFirst, List.filter_cons, ih]
    cases child.named <;> rfl

theorem sideDepth?_eq (role : String) (children : List Node) :
    sideDepth? role children =
      (children.find? fun child => child.label.field == some role).map sumDepth := by
  induction children with
  | nil => rw [sideDepth?]; rfl
  | cons child rest ih =>
    rw [sideDepth?, List.find?_cons, ih]
    cases child.label.field == some role <;> rfl

theorem sumDepth_of_wrapper {n : Node} (h : isWrapperKind n.kind = true) :
    n.sumDepth = (n.firstNamed?.map sumDepth).getD 1 := by
  cases n with
  | mk label children =>
    rw [sumDepth, show isWrapperKind label.kind = true from h, if_pos rfl, sumDepthOfFirst_eq]
    rfl

/-- Wrappers cost no depth. -/
theorem sumDepth_unwrap (n : Node) : n.unwrap.sumDepth = n.sumDepth := by
  induction n using induction_wrappers with
  | bare n h => rw [unwrap_of_bare h]
  | strip n m hwrapper hinner ih =>
    rw [unwrap_of_firstNamed? hwrapper hinner, ih, sumDepth_of_wrapper hwrapper, hinner]
    rfl

/-- The depth of a sum by the depths of its sides. -/
theorem sumDepth_sum {n : Node} (h : n.isSum = true) :
    n.sumDepth = match (n.role? "left").map sumDepth, (n.role? "right").map sumDepth with
      | some left, some right => 1 + max left right
      | some left, none => 1 + left
      | none, _ => 1 := by
  have hwrapper : isWrapperKind n.kind = false := not_wrapper_of_isSum h
  cases n with
  | mk label children =>
    rw [sumDepth, show isWrapperKind label.kind = false from hwrapper, h, sideDepth?_eq,
      sideDepth?_eq]
    rfl

theorem sumDepth_of_not_sum {n : Node} (h : n.unwrap.isSum = false) : n.sumDepth = 1 := by
  rw [← sumDepth_unwrap]
  cases hwrapper : isWrapperKind n.unwrap.kind with
  | false =>
    cases hn : n.unwrap with
    | mk label children =>
      rw [hn] at h hwrapper
      rw [sumDepth, show isWrapperKind label.kind = false from hwrapper, h]
      rfl
  | true =>
    rw [sumDepth_of_wrapper hwrapper, n.unwrap_bare.resolve_left (by simp [hwrapper])]
    rfl

end Node

theorem Leaves.ne_nil {inner? : Node → Option Node} {n : Node} {leaves : List Node}
    (h : Leaves inner? n leaves) :
    leaves ≠ [] := by
  induction h with
  | leaf h he => exact List.cons_ne_nil _ _
  | sum _ _ _ _ _ _ ihleft _ => exact List.append_ne_nil_of_left_ne_nil ihleft _

/-- Every sum on a level has a leaf on its other side. -/
theorem Leaves.sumDepth_le {n : Node} {leaves : List Node} (h : Leaves Node.firstNamed? n leaves) :
    n.sumDepth ≤ leaves.length := by
  induction h with
  | leaf h he =>
    rw [h.eq_unwrap] at he
    rw [Node.sumDepth_of_not_sum he]
    exact Nat.le_refl 1
  | @sum n e left right lefts rights h he hleft hright hlefts hrights ihleft ihright =>
    have hl := List.length_pos_iff.2 hlefts.ne_nil
    have hr := List.length_pos_iff.2 hrights.ne_nil
    obtain rfl := h.eq_unwrap
    rw [← n.sumDepth_unwrap, Node.sumDepth_sum he, hleft, hright, List.length_append]
    change 1 + max left.sumDepth right.sumDepth ≤ lefts.length + rights.length
    omega

end Depth

end RouteCensus
