import RouteCensus.Proofs.Call.Correspondence

/-! # Trees that are alike

A relation between trees is a likeness if related nodes are of the same kind, show
the same words, and have related nodes in their roles and among their children, up
to comments and, if the likeness is free, up to the order of statements.  Like
trees correspond, so like programs have like calls.  Their patterns are as deep, up
to comments in them.
-/

namespace RouteCensus

/-- Kinds of nodes that hold statements or an expression between brackets. -/
def bracketKinds : List String :=
  ["program", "statement_block", "arguments", "parenthesized_expression", "template_substitution"]

def isPlainKind (kind : String) : Bool :=
  !bracketKinds.contains kind

theorem isPlainKind_of {p : String → Bool} {kind : String} (hkind : p kind = true)
    (hbrackets : ∀ other ∈ bracketKinds, p other = false) : isPlainKind kind = true := by
  rw [isPlainKind, Bool.not_eq_true', Bool.eq_false_iff, ne_eq, List.contains_iff_mem]
  intro hmem
  exact absurd (hkind.symm.trans (hbrackets kind hmem)) (by decide)

theorem isPlainKind_of_word {kind field : String} (h : (kind, field) ∈ wordRoles) :
    isPlainKind kind = true := by
  have hall : ∀ entry ∈ wordRoles, isPlainKind entry.1 = true := by decide
  exact hall (kind, field) h

/-- A comment, which has no role in its parent. -/
structure Node.IsComment (n : Node) : Prop where
  kind : n.kind = "comment"
  field : n.label.field = none
  leaf : n.children = []

namespace Node

/-- A node without children that shows a text. -/
def wordNode (kind : String) (field : Option String) (text : String) : Node :=
  .mk { kind := kind, field := field, bytes := Text.Utf8.encode text.toList } []

variable {n : Node}

theorem boundNames_comment (h : n.IsComment) : n.boundNames = [] := by
  rw [boundNames_eq, h.kind, namedChildren, h.leaf]
  rfl

theorem patternDepth_comment (h : n.IsComment) : n.patternDepth = 1 := by
  rw [patternDepth_eq, h.kind, namedChildren, h.leaf]
  rfl

theorem hasDeepPattern_comment (h : n.IsComment) (limit : Nat) :
    n.hasDeepPattern limit = false := by
  rw [hasDeepPattern_eq, h.leaf, patterns, h.kind]
  exact Bool.and_false _

theorem sends_comment (h : n.IsComment) (parent : Option Node) : n.sends parent = [] := by
  rw [sends_eq, h.leaf]
  simp [gives, h.kind]

theorem callsIn_comment (h : n.IsComment) (parent : Option Node) (frames : List Frame) :
    n.callsIn parent frames = [] := by
  rw [callsIn_eq, h.leaf]
  simp [h.kind]

end Node

/-- The second list is the first one with comments put in. -/
inductive Interspersed : List Node → List Node → Prop where
  | nil : Interspersed [] []
  | keep {n : Node} {xs ys : List Node} (h : Interspersed xs ys) : Interspersed (n :: xs) (n :: ys)
  | comment {n : Node} {xs ys : List Node} (hn : n.IsComment) (h : Interspersed xs ys) :
    Interspersed xs (n :: ys)

namespace Interspersed

variable {xs ys : List Node}

theorem refl (xs : List Node) : Interspersed xs xs := by
  induction xs with
  | nil => exact .nil
  | cons _ _ ih => exact .keep ih

theorem filter (h : Interspersed xs ys) (p : Node → Bool) :
    Interspersed (xs.filter p) (ys.filter p) := by
  induction h with
  | nil => exact .nil
  | keep h ih =>
    rw [List.filter_cons, List.filter_cons]
    split
    · exact .keep ih
    · exact ih
  | comment hn h ih =>
    rw [List.filter_cons]
    split
    · exact .comment hn ih
    · exact ih

theorem flatMap_eq {β : Type} {g : Node → List β} (h : Interspersed xs ys)
    (hcomment : ∀ n : Node, n.IsComment → g n = []) : xs.flatMap g = ys.flatMap g := by
  induction h with
  | nil => rfl
  | keep h ih => rw [List.flatMap_cons, List.flatMap_cons, ih]
  | comment hn h ih => rw [List.flatMap_cons, hcomment _ hn, ih, List.nil_append]

theorem mem (h : Interspersed xs ys) {n : Node} (hn : n ∈ xs) : n ∈ ys := by
  induction h with
  | nil => cases hn
  | keep h ih =>
    rcases List.mem_cons.1 hn with rfl | hn
    · exact List.mem_cons_self
    · exact List.mem_cons_of_mem _ (ih hn)
  | comment _ h ih => exact List.mem_cons_of_mem _ (ih hn)

theorem comment_or_mem (h : Interspersed xs ys) {n : Node} (hn : n ∈ ys) :
    n.IsComment ∨ n ∈ xs := by
  induction h with
  | nil => cases hn
  | keep h ih =>
    rcases List.mem_cons.1 hn with rfl | hn
    · exact .inr List.mem_cons_self
    · exact (ih hn).imp_right (List.mem_cons_of_mem _)
  | comment hcomment h ih =>
    rcases List.mem_cons.1 hn with rfl | hn
    · exact .inl hcomment
    · exact ih hn

end Interspersed

/-- Lists of nodes with related elements, comments aside. -/
def Matched (free : Bool) (R : Node → Node → Prop) (xs ys : List Node) : Prop :=
  ∃ kept, Rearranged free R xs kept ∧ Interspersed kept ys

namespace Matched

variable {free : Bool} {R : Node → Node → Prop} {xs ys : List Node}

theorem of_rearranged (h : Rearranged free R xs ys) : Matched free R xs ys :=
  ⟨ys, h, .refl ys⟩

/-- What is collected from matched lists is rearranged, if comments contribute nothing. -/
theorem flatMap {α β : Type} {T : α → β → Prop} {f : Node → List α} {g : Node → List β}
    (h : Matched free R xs ys) (hcomment : ∀ d : Node, d.IsComment → g d = [])
    (hfg : ∀ c ∈ xs, ∀ d, R c d → Rearranged free T (f c) (g d)) :
    Rearranged free T (xs.flatMap f) (ys.flatMap g) := by
  obtain ⟨kept, hkept, hys⟩ := h
  rw [← hys.flatMap_eq hcomment]
  exact hkept.flatMap hfg

theorem filter {p : Node → Bool} (h : Matched free R xs ys) (hp : ∀ c d, R c d → p c = p d) :
    Matched free R (xs.filter p) (ys.filter p) := by
  obtain ⟨kept, hkept, hys⟩ := h
  exact ⟨kept.filter p, (hkept.filter hp).imp_of_mem fun _ _ _ hcd => hcd.1, hys.filter p⟩

theorem exists_right (h : Matched free R xs ys) {c : Node} (hc : c ∈ xs) : ∃ d ∈ ys, R c d := by
  obtain ⟨kept, hkept, hys⟩ := h
  obtain ⟨d, hd, hcd⟩ := hkept.exists_right hc
  exact ⟨d, hys.mem hd, hcd⟩

theorem exists_left (h : Matched free R xs ys) {d : Node} (hd : d ∈ ys) :
    d.IsComment ∨ ∃ c ∈ xs, R c d := by
  obtain ⟨kept, hkept, hys⟩ := h
  exact (hys.comment_or_mem hd).imp_right hkept.exists_left

end Matched

/-- What a relation between the nodes of two trees must keep. -/
structure Likeness (free : Bool) (R : Node → Node → Prop) : Prop where
  kind {n m : Node} : R n m → n.kind = m.kind
  named {n m : Node} : R n m → n.named = m.named
  text {n m : Node} : R n m → isWordKind n.kind = true → n.text = m.text
  children {n m : Node} : R n m → isPlainKind n.kind = true → List.Forall₂ R n.children m.children
  role {n m : Node} : R n m → isPlainKind n.kind = true → ∀ field,
    Option.Rel R (n.role? field) (m.role? field)
  word {n m : Node} {field : String} : R n m → (n.kind, field) ∈ wordRoles →
    Option.Rel SameText (n.role? field) (m.role? field)
  keyword {n m : Node} : R n m → n.kind = "lexical_declaration" →
    Option.Rel SameText n.children.head? m.children.head?
  below {n m : Node} : R n m → Matched free R n.children m.children
  inner {n m : Node} : R n m → isWrapperKind n.kind = true →
    Option.Rel R n.firstNamed? m.firstNamed?
  template {n m : Node} : R n m → n.kind = "template_string" →
    List.Forall₂ (UrlPiece.Alike R) n.templatePieces m.templatePieces
  stringifies {n m : Node} : R n m → n.kind = "call_expression" → n.stringifies = m.stringifies
  payload {n m : Node} : R n m → n.kind = "call_expression" → n.stringifies = true →
    Option.Rel R n.payload? m.payload?
  arguments {n m : Node} : R n m → n.kind = "arguments" →
    List.Forall₂ R (n.namedChildren.filter fun a => a.kind != "comment")
      (m.namedChildren.filter fun a => a.kind != "comment")

namespace Likeness

variable {free : Bool} {R : Node → Node → Prop} {n m : Node}

theorem named_matched (h : Likeness free R) (hnm : R n m) :
    Matched free R n.namedChildren m.namedChildren :=
  (h.below hnm).filter fun _ _ => h.named

theorem boundNames_rel (h : Likeness free R) (hnm : R n m) :
    Rearranged free Eq n.boundNames m.boundNames := by
  induction n using Node.induction_children generalizing m with
  | step n ih =>
    rw [Node.boundNames_eq n, Node.boundNames_eq m, ← h.kind hnm]
    split
    · rename_i hname
      rw [Bool.or_eq_true, beq_iff_eq, beq_iff_eq] at hname
      rw [h.text hnm (by rcases hname with hname | hname <;> rw [hname] <;> decide)]
      exact rel_refl rfl
    · cases hrole : Node.patternRole? n.kind with
      | some role =>
        have hkind : isPlainKind n.kind = true :=
          isPlainKind_of (p := fun kind => (Node.patternRole? kind).isSome) (by simp [hrole])
            (by decide)
        refine (rel_toList (h.role hnm hkind role)).flatMap fun c hc d hcd => ?_
        exact ih c (Node.mem_children_of_role? (Option.mem_toList.1 hc)) hcd
      | none =>
        simp only
        split
        · exact .nil
        · exact (h.named_matched hnm).flatMap (fun _ => Node.boundNames_comment)
            fun c hc d hcd => ih c (List.mem_filter.1 hc).1 hcd

/-- Like nodes declare names by like patterns, comments aside. -/
theorem patterns_matched (h : Likeness free R) (hnm : R n m) :
    Matched free R n.patterns m.patterns :=
  Node.patterns_rel (h.kind hnm)
    (fun hdeclares field _ => h.role hnm (isPlainKind_of hdeclares (by decide)) field)
    (fun _ _ => h.kind) (.of_rearranged .nil)
    (fun _ _ hcd => .of_rearranged (.of_forall₂ (.cons hcd .nil))) fun _ _ => h.named_matched

theorem patternNames_rel (h : Likeness free R) (hnm : R n m) :
    Rearranged free Eq n.patternNames m.patternNames :=
  (h.patterns_matched hnm).flatMap (fun _ => Node.boundNames_comment) fun _ _ _ => h.boundNames_rel

/-- Like trees correspond. -/
theorem correspondence (h : Likeness free R) : Correspondence free R R where
  dressed := id
  unwrap hnm := Node.unwrap_rel (fun _ _ => h.kind) (fun _ _ => h.inner) hnm
  kind := h.kind
  named := h.named
  text := h.text
  children hnm hkind := by
    have hall : ∀ kind ∈ listKinds, isPlainKind kind = true := by decide
    exact h.children hnm (hall _ hkind)
  part hnm hfield := by
    have hall : ∀ entry ∈ partRoles, isPlainKind entry.1 = true := by decide
    exact h.role hnm (hall _ hfield) _
  value hnm hfield := by
    have hall : ∀ entry ∈ valueRoles, isPlainKind entry.1 = true := by decide
    exact h.role hnm (hall _ hfield) _
  word := h.word
  keyword := h.keyword
  bound := h.patternNames_rel
  below hnm := by
    obtain ⟨kept, hkept, hchildren⟩ := h.below hnm
    exact ⟨kept, hkept, hchildren.flatMap_eq fun _ hc => Node.sends_comment hc _,
      fun _ => hchildren.flatMap_eq fun _ hc => Node.callsIn_comment hc _ _⟩
  template := h.template
  stringifies := h.stringifies
  payload := h.payload
  arguments := h.arguments

theorem framedCalls_rel (h : Likeness free R) (hnm : R n m) :
    Rearranged free (FramedCall.Alike free R R) n.framedCalls m.framedCalls :=
  h.correspondence.framedCalls_rel hnm

section Calls

variable {c d : FramedCall}

theorem observed?_request (h : Likeness free R) (hcd : c.Alike free R R d)
    (hnodup : free = true → ∀ frame ∈ c.frames, (frame.map Binding.name).Nodup) :
    d.observed?.map Observation.request = c.observed?.map Observation.request :=
  h.correspondence.observed?_request hcd hnodup

theorem observed?_eq (h : Likeness free R) (hcd : c.Alike free R R d)
    (hnodup : free = true → ∀ frame ∈ c.frames, (frame.map Binding.name).Nodup)
    (hline : c.node.line = d.node.line)
    (hclient : ∀ n m, R n m → n.kind = "member_expression" → clientName? n = clientName? m) :
    d.observed? = c.observed? :=
  h.correspondence.observed?_eq hcd hnodup hline hclient

theorem hasDeepUrl_eq (h : Likeness free R) (hcd : c.Alike free R R d)
    (hnodup : free = true → ∀ frame ∈ c.frames, (frame.map Binding.name).Nodup) (limit : Nat) :
    c.hasDeepUrl limit = d.hasDeepUrl limit :=
  h.correspondence.hasDeepUrl_eq hcd hnodup limit

end Calls

end Likeness

/-- A pattern that is too deep in one tree is too deep in another, if related patterns are and all
patterns but comments have a related one there. -/
theorem Node.hasDeepPattern_of {Q : Node → Node → Prop} {limit limit' : Nat} (hlimit : 1 ≤ limit)
    (hnamed : ∀ {n m}, Q n m → n.named = m.named)
    (hchildren : ∀ {n m}, Q n m → ∀ c ∈ n.children, c.IsComment ∨ ∃ d ∈ m.children, Q c d)
    (hpatterns : ∀ {n m}, Q n m → ∀ c ∈ n.patterns, c.IsComment ∨ ∃ d ∈ m.patterns, Q c d)
    (hdepth : ∀ {n m}, Q n m → limit < n.patternDepth → limit' < m.patternDepth)
    {n m : Node} (hnm : Q n m) (h : n.hasDeepPattern limit = true) :
    m.hasDeepPattern limit' = true := by
  induction n using induction_children generalizing m with
  | step n ih =>
    rw [hasDeepPattern_eq, Bool.and_eq_true, Bool.or_eq_true, List.any_eq_true,
      List.any_eq_true] at h ⊢
    refine ⟨hnamed hnm ▸ h.1, h.2.imp ?_ ?_⟩
    · rintro ⟨p, hp, hdeep⟩
      rw [decide_eq_true_eq] at hdeep
      rcases hpatterns hnm p hp with hcomment | ⟨q, hq, hpq⟩
      · have hone : p.patternDepth = 1 := patternDepth_comment hcomment
        omega
      · exact ⟨q, hq, decide_eq_true (hdepth hpq hdeep)⟩
    · rintro ⟨c, hc, hdeep⟩
      rcases hchildren hnm c hc with hcomment | ⟨d, hd, hcd⟩
      · rw [hasDeepPattern_comment hcomment] at hdeep
        cases hdeep
      · exact ⟨d, hd, ih c hc hcd hdeep⟩

namespace Likeness

variable {free : Bool} {R : Node → Node → Prop} {n m : Node} {slack : Nat}

/-- A comment among no other nodes makes a pattern deeper, by one. -/
theorem deepest_within (h : Likeness free R)
    (hslack : ∀ {n m}, R n m → ∀ d ∈ m.children, d.IsComment → 1 ≤ slack ∨ ∃ c ∈ n.children, R c d)
    (hnm : R n m) (hdepth : ∀ c ∈ n.children, ∀ d, R c d →
      c.patternDepth ≤ d.patternDepth ∧ d.patternDepth ≤ c.patternDepth + slack) :
    Node.deepest n.namedChildren ≤ Node.deepest m.namedChildren ∧
      Node.deepest m.namedChildren ≤ Node.deepest n.namedChildren + slack := by
  constructor
  · rw [Node.deepest_le_iff]
    intro c hc
    obtain ⟨d, hd, hcd⟩ := (h.named_matched hnm).exists_right hc
    exact (hdepth c (List.mem_filter.1 hc).1 d hcd).1.trans (Node.deepest_le_iff.1 le_rfl d hd)
  · rw [Node.deepest_le_iff]
    intro d hd
    obtain ⟨hd, hnamed⟩ := List.mem_filter.1 hd
    have hrelated : (∃ c ∈ n.children, R c d) →
        d.patternDepth ≤ Node.deepest n.namedChildren + slack := by
      rintro ⟨c, hc, hcd⟩
      have hle := Node.deepest_le_iff.1 le_rfl c (List.mem_filter.2 ⟨hc, h.named hcd ▸ hnamed⟩)
      exact (hdepth c hc d hcd).2.trans (Nat.add_le_add_right hle slack)
    rcases (h.below hnm).exists_left hd with hcomment | hd'
    · rcases hslack hnm d hd hcomment with hone | hd'
      · rw [Node.patternDepth_comment hcomment]
        exact hone.trans (Nat.le_add_left _ _)
      · exact hrelated hd'
    · exact hrelated hd'

theorem patternDepth_within (h : Likeness free R)
    (hslack : ∀ {n m}, R n m → ∀ d ∈ m.children, d.IsComment → 1 ≤ slack ∨ ∃ c ∈ n.children, R c d)
    (hnm : R n m) :
    n.patternDepth ≤ m.patternDepth ∧ m.patternDepth ≤ n.patternDepth + slack := by
  induction n using Node.induction_children generalizing m with
  | step n ih =>
    rw [Node.patternDepth_eq n, Node.patternDepth_eq m, ← h.kind hnm]
    split
    · exact ⟨le_rfl, Nat.le_add_right _ _⟩
    · cases hrole : Node.patternRole? n.kind with
      | some role =>
        have hplain : isPlainKind n.kind = true :=
          isPlainKind_of (p := fun kind => (Node.patternRole? kind).isSome) (by simp [hrole])
            (by decide)
        have hrel := rel_imp (h.role hnm hplain role) fun c d hc hcd =>
          ih c (Node.mem_children_of_role? hc) hcd
        simp only
        generalize n.role? role = x, m.role? role = y at hrel ⊢
        cases hrel with
        | none => exact ⟨le_rfl, Nat.le_add_right _ _⟩
        | some hcd =>
          simp only [Option.map_some, Option.getD_some]
          omega
      | none =>
        have hwithin := h.deepest_within hslack hnm fun c hc d hcd => ih c hc hcd
        simp only
        split
        · exact ⟨le_rfl, Nat.le_add_right _ _⟩
        · omega

/-- A pattern that is too deep has a like one. -/
theorem hasDeepPattern_right (h : Likeness free R) {limit : Nat} (hlimit : 1 ≤ limit) (hnm : R n m)
    (hdeep : n.hasDeepPattern limit = true) : m.hasDeepPattern limit = true := by
  refine Node.hasDeepPattern_of hlimit h.named
    (fun hnm c hc => .inr ((h.below hnm).exists_right hc))
    (fun hnm c hc => .inr ((h.patterns_matched hnm).exists_right hc)) (fun hnm hlt => ?_) hnm hdeep
  exact hlt.trans_le (h.patternDepth_within (fun _ _ _ _ => .inl le_rfl) hnm).1

theorem hasDeepPattern_left (h : Likeness free R) (slack : Nat)
    (hslack : ∀ {n m}, R n m → ∀ d ∈ m.children, d.IsComment → 1 ≤ slack ∨ ∃ c ∈ n.children, R c d)
    {limit : Nat} (hlimit : 1 ≤ limit) (hnm : R n m)
    (hdeep : m.hasDeepPattern (limit + slack) = true) : n.hasDeepPattern limit = true := by
  refine Node.hasDeepPattern_of (Q := flip R) (Nat.le_add_right_of_le hlimit)
    (fun hnm => (h.named hnm).symm) (fun hnm d hd => (h.below hnm).exists_left hd)
    (fun hnm d hd => (h.patterns_matched hnm).exists_left hd) (fun hnm hlt => ?_) hnm hdeep
  have hwithin := (h.patternDepth_within hslack hnm).2
  omega

end Likeness

end RouteCensus
