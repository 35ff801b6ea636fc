import RouteCensus.Call.Nesting
import RouteCensus.Proofs.Expr.Leaves
import RouteCensus.Proofs.Scope.Declarations

/-! # Patterns by their nodes

The names that a pattern binds and its depth, by the role or the named children
of its node instead of a search through the list of children.  The walk over a
program breaks off exactly if a pattern at one of its spots goes too deep.
-/

namespace RouteCensus

namespace Node

theorem boundNamesInRole_eq (role : String) (children : List Node) :
    boundNamesInRole role children =
      (children.find? fun child => child.label.field == some role).toList.flatMap boundNames := by
  induction children with
  | nil => rw [boundNamesInRole]; rfl
  | cons child rest ih =>
    rw [boundNamesInRole, List.find?_cons, ih]
    cases child.label.field == some role <;> simp

theorem boundNamesInAll_eq (children : List Node) :
    boundNamesInAll children = (children.filter named).flatMap boundNames := by
  induction children with
  | nil => rw [boundNamesInAll]; rfl
  | cons child rest ih =>
    rw [boundNamesInAll, List.filter_cons, ih]
    cases child.named <;> simp

theorem boundNames_eq (n : Node) :
    n.boundNames =
      if n.kind == "identifier" || n.kind == "shorthand_property_identifier_pattern" then [n.text]
      else match patternRole? n.kind with
        | some role => (n.role? role).toList.flatMap boundNames
        | none => if bindsNothing n.kind then [] else n.namedChildren.flatMap boundNames := by
  cases n with
  | mk label children => rw [boundNames, boundNamesInAll_eq]; simp only [boundNamesInRole_eq]; rfl

theorem parameterNames_eq (n : Node) :
    n.parameterNames = match n.role? "parameter" with
      | some single => single.boundNames
      | none => (n.role? "parameters").toList.flatMap fun list =>
          list.namedChildren.flatMap boundNames := by
  unfold parameterNames
  cases n.role? "parameter" with
  | some _ => rfl
  | none =>
    cases n.role? "parameters" with
    | none => rfl
    | some list => simp [boundNamesInAll_eq, namedChildren]

theorem patternDepthInRole_eq (role : String) (children : List Node) :
    patternDepthInRole role children =
      ((children.find? fun child => child.label.field == some role).map patternDepth).getD 1 := by
  induction children with
  | nil => rw [patternDepthInRole]; rfl
  | cons child rest ih =>
    rw [patternDepthInRole, List.find?_cons, ih]
    cases child.label.field == some role <;> rfl

/-- The largest of the depths of the given patterns. -/
def deepest (patterns : List Node) : Nat :=
  (patterns.map patternDepth).foldr max 0

theorem deepest_cons (p : Node) (rest : List Node) :
    deepest (p :: rest) = max p.patternDepth (deepest rest) := rfl

theorem deepest_le_iff {patterns : List Node} {depth : Nat} :
    deepest patterns ≤ depth ↔ ∀ p ∈ patterns, p.patternDepth ≤ depth := by
  unfold deepest
  induction patterns with
  | nil => simp
  | cons p rest ih => rw [List.map_cons, List.foldr_cons, Nat.max_le, ih, List.forall_mem_cons]

theorem patternDepthInAll_eq (children : List Node) :
    patternDepthInAll children = deepest (children.filter named) := by
  induction children with
  | nil => rw [patternDepthInAll]; rfl
  | cons child rest ih =>
    rw [patternDepthInAll, List.filter_cons, ih]
    cases child.named <;> rfl

theorem patternDepth_eq (n : Node) :
    n.patternDepth =
      if n.kind == "identifier" || n.kind == "shorthand_property_identifier_pattern" then 1
      else match patternRole? n.kind with
        | some role => 1 + ((n.role? role).map patternDepth).getD 1
        | none => if bindsNothing n.kind then 1 else 1 + deepest n.namedChildren := by
  cases n with
  | mk label children =>
    rw [patternDepth, patternDepthInAll_eq]; simp only [patternDepthInRole_eq]; rfl

theorem hasDeepPatternAmong_eq (limit : Nat) (children : List Node) :
    hasDeepPatternAmong limit children = children.any (hasDeepPattern limit) := by
  induction children with
  | nil => rw [hasDeepPatternAmong]; rfl
  | cons child rest ih => rw [hasDeepPatternAmong, ih, List.any_cons]

theorem hasDeepPattern_eq (limit : Nat) (n : Node) :
    n.hasDeepPattern limit = (n.named &&
      (n.patterns.any (fun p => decide (limit < p.patternDepth)) ||
        n.children.any (hasDeepPattern limit))) := by
  cases n with
  | mk label children => rw [hasDeepPattern, hasDeepPatternAmong_eq]; rfl

/-- A pattern at a spot of the program goes deeper than the limit. -/
def HoldsDeepPattern (limit : Nat) (root : Node) : Prop :=
  ∃ s ∈ root.spots, ∃ p ∈ s.node.patterns, limit < p.patternDepth

instance (limit : Nat) (root : Node) : Decidable (root.HoldsDeepPattern limit) :=
  inferInstanceAs (Decidable (∃ s ∈ root.spots, ∃ p ∈ s.node.patterns, limit < p.patternDepth))

end Node

mutual

theorem Node.hasDeepPattern_iff_spotsFrom (limit : Nat) (place : Place)
    (around : List (Place × Node)) : ∀ n : Node, n.hasDeepPattern limit = true ↔
      ∃ s ∈ n.spotsFrom place around, ∃ p ∈ s.node.patterns, limit < p.patternDepth
  | .mk label children => by
    rw [Node.hasDeepPattern, Node.spotsFrom]
    cases label.named with
    | false => simp
    | true =>
      simp only [Bool.true_and, Bool.or_eq_true, List.any_eq_true, decide_eq_true_eq, if_true,
        List.mem_cons, exists_eq_or_imp]
      rw [hasDeepPatternAmong_iff_spotsAmong limit place 0 ((place, .mk label children) :: around)
        children]

theorem hasDeepPatternAmong_iff_spotsAmong (limit : Nat) (place : Place) (first : Nat)
    (around : List (Place × Node)) : ∀ children : List Node,
      Node.hasDeepPatternAmong limit children = true ↔
        ∃ s ∈ spotsAmong place first around children,
          ∃ p ∈ s.node.patterns, limit < p.patternDepth
  | [] => by simp [Node.hasDeepPatternAmong, spotsAmong]
  | child :: rest => by
    rw [Node.hasDeepPatternAmong, spotsAmong, Bool.or_eq_true,
      Node.hasDeepPattern_iff_spotsFrom limit (place ++ [first]) around child,
      hasDeepPatternAmong_iff_spotsAmong limit place (first + 1) around rest]
    simp only [List.mem_append, or_and_right, exists_or]

end

theorem Node.hasDeepPattern_iff (limit : Nat) (root : Node) :
    root.hasDeepPattern limit = true ↔ root.HoldsDeepPattern limit :=
  root.hasDeepPattern_iff_spotsFrom limit [] []

theorem Node.callSitesWithin_eq (limit : Nat) (root : Node) :
    root.callSitesWithin limit =
      if root.HoldsDeepPattern limit then .error .tooDeep else .ok root.callSites := by
  rw [callSitesWithin]
  simp only [root.hasDeepPattern_iff limit]

end RouteCensus
