import Mathlib.Data.List.Perm.Basic
import RouteCensus.Proofs.Call.Similarity
import RouteCensus.Proofs.Scope.Frames
import RouteCensus.Proofs.Scope.Pattern

/-! # Frames of like trees

Two trees may declare the same names with related initialisers, in the same order
or in another one.  Their frames are then rearrangements of each other, and a name
is resolved to related initialisers: always if the order is kept, and otherwise if
no frame has a name twice.
-/

namespace RouteCensus

section Lists

variable {α β γ δ : Type} {free : Bool} {S : α → β → Prop} {T : γ → δ → Prop}

/-- Lists with related elements, in the same order or, if `free`, in any order. -/
def Rearranged (free : Bool) (S : α → β → Prop) (xs : List α) (ys : List β) : Prop :=
  ∃ zs, List.Forall₂ S xs zs ∧ (zs = ys ∨ free = true ∧ zs.Perm ys)

theorem forall₂_imp_of_mem {U : α → β → Prop} {xs : List α} {ys : List β}
    (h : List.Forall₂ S xs ys) (hSU : ∀ x ∈ xs, ∀ y ∈ ys, S x y → U x y) :
    List.Forall₂ U xs ys := by
  induction h with
  | nil => exact .nil
  | cons hxy _ ih =>
    refine .cons (hSU _ List.mem_cons_self _ List.mem_cons_self hxy) (ih fun x hx y hy => ?_)
    exact hSU x (List.mem_cons_of_mem _ hx) y (List.mem_cons_of_mem _ hy)

theorem exists_of_forall₂ {xs : List α} {ys : List β} (h : List.Forall₂ S xs ys) {x : α}
    (hx : x ∈ xs) : ∃ y ∈ ys, S x y := by
  induction h with
  | nil => cases hx
  | cons hxy _ ih =>
    rcases List.mem_cons.1 hx with rfl | hx
    · exact ⟨_, List.mem_cons_self, hxy⟩
    · obtain ⟨y, hy, hxy⟩ := ih hx
      exact ⟨y, List.mem_cons_of_mem _ hy, hxy⟩

namespace Rearranged

variable {xs xs' : List α} {ys ys' : List β}

theorem of_forall₂ (h : List.Forall₂ S xs ys) : Rearranged free S xs ys :=
  ⟨ys, h, .inl rfl⟩

theorem nil : Rearranged free S [] [] :=
  of_forall₂ .nil

theorem perm (h : Rearranged free S xs ys) : ∃ zs, List.Forall₂ S xs zs ∧ zs.Perm ys := by
  obtain ⟨zs, hzs, rfl | ⟨-, hperm⟩⟩ := h
  · exact ⟨_, hzs, .refl _⟩
  · exact ⟨zs, hzs, hperm⟩

theorem forall₂ (h : Rearranged false S xs ys) : List.Forall₂ S xs ys := by
  obtain ⟨_, hzs, rfl | ⟨hfree, -⟩⟩ := h
  · exact hzs
  · cases hfree

theorem weaken {most : Bool} (h : Rearranged free S xs ys) (hfree : free = true → most = true) :
    Rearranged most S xs ys := by
  obtain ⟨zs, hzs, hys⟩ := h
  exact ⟨zs, hzs, hys.imp_right fun ⟨hf, hperm⟩ => ⟨hfree hf, hperm⟩⟩

theorem imp_of_mem {U : α → β → Prop} (h : Rearranged free S xs ys)
    (hSU : ∀ x ∈ xs, ∀ y, S x y → U x y) : Rearranged free U xs ys := by
  obtain ⟨zs, hzs, hys⟩ := h
  exact ⟨zs, forall₂_imp_of_mem hzs fun x hx y _ => hSU x hx y, hys⟩

theorem append (h : Rearranged free S xs ys) (h' : Rearranged free S xs' ys') :
    Rearranged free S (xs ++ xs') (ys ++ ys') := by
  cases free with
  | false => exact of_forall₂ (List.rel_append h.forall₂ h'.forall₂)
  | true =>
    obtain ⟨zs, hzs, hys⟩ := h.perm
    obtain ⟨zs', hzs', hys'⟩ := h'.perm
    exact ⟨zs ++ zs', List.rel_append hzs hzs', .inr ⟨rfl, hys.append hys'⟩⟩

theorem flatMap {f : α → List γ} {g : β → List δ} (h : Rearranged free S xs ys)
    (hfg : ∀ x ∈ xs, ∀ y, S x y → Rearranged free T (f x) (g y)) :
    Rearranged free T (xs.flatMap f) (ys.flatMap g) := by
  obtain ⟨zs, hzs, hys⟩ := h
  have hflat : Rearranged free T (xs.flatMap f) (zs.flatMap g) := by
    clear hys
    induction hzs with
    | nil => exact nil
    | cons hxy _ ih =>
      exact (hfg _ List.mem_cons_self _ hxy).append
        (ih fun x hx => hfg x (List.mem_cons_of_mem _ hx))
  rcases hys with rfl | ⟨hfree, hperm⟩
  · exact hflat
  · subst hfree
    obtain ⟨ws, hws, hzs⟩ := hflat.perm
    exact ⟨ws, hws, .inr ⟨rfl, hzs.trans (hperm.flatMap_right g)⟩⟩

theorem filterMap {f : α → Option γ} {g : β → Option δ} (h : Rearranged free S xs ys)
    (hfg : ∀ x y, S x y → Option.Rel T (f x) (g y)) :
    Rearranged free T (xs.filterMap f) (ys.filterMap g) := by
  obtain ⟨zs, hzs, hys⟩ := h
  refine ⟨zs.filterMap g, List.rel_filterMap (fun x y hxy => hfg x y hxy) hzs, ?_⟩
  rcases hys with rfl | ⟨hfree, hperm⟩
  · exact .inl rfl
  · exact .inr ⟨hfree, hperm.filterMap g⟩

theorem map {f : α → γ} {g : β → δ} (h : Rearranged free S xs ys)
    (hfg : ∀ x y, S x y → T (f x) (g y)) : Rearranged free T (xs.map f) (ys.map g) := by
  rw [← List.filterMap_eq_map, ← List.filterMap_eq_map]
  exact h.filterMap fun x y hxy => .some (hfg x y hxy)

theorem filter {p : α → Bool} {q : β → Bool} (h : Rearranged free S xs ys)
    (hpq : ∀ x y, S x y → p x = q y) :
    Rearranged free (fun x y => S x y ∧ p x = true) (xs.filter p) (ys.filter q) := by
  rw [← List.filterMap_eq_filter, ← List.filterMap_eq_filter]
  refine h.filterMap fun x y hxy => ?_
  simp only [Option.guard, ← hpq x y hxy]
  split
  · rename_i hx
    exact .some ⟨hxy, hx⟩
  · exact .none

theorem exists_right (h : Rearranged free S xs ys) {x : α} (hx : x ∈ xs) : ∃ y ∈ ys, S x y := by
  obtain ⟨zs, hzs, hperm⟩ := h.perm
  obtain ⟨z, hz, hxz⟩ := exists_of_forall₂ hzs hx
  exact ⟨z, hperm.mem_iff.1 hz, hxz⟩

theorem exists_left (h : Rearranged free S xs ys) {y : β} (hy : y ∈ ys) : ∃ x ∈ xs, S x y := by
  obtain ⟨zs, hzs, hperm⟩ := h.perm
  exact exists_of_forall₂ (S := flip S) hzs.flip (hperm.mem_iff.2 hy)

theorem any_eq {p : α → Bool} {q : β → Bool} (h : Rearranged free S xs ys)
    (hpq : ∀ x ∈ xs, ∀ y, S x y → p x = q y) : xs.any p = ys.any q := by
  rw [Bool.eq_iff_iff, List.any_eq_true, List.any_eq_true]
  constructor
  · rintro ⟨x, hx, hp⟩
    obtain ⟨y, hy, hxy⟩ := h.exists_right hx
    exact ⟨y, hy, hpq x hx y hxy ▸ hp⟩
  · rintro ⟨y, hy, hq⟩
    obtain ⟨x, hx, hxy⟩ := h.exists_left hy
    exact ⟨x, hx, (hpq x hx y hxy).symm ▸ hq⟩

end Rearranged

/-- Looking up a key does not depend on the order if no key comes twice. -/
theorem find?_eq_of_perm {key : α → String} {xs ys : List α} (h : xs.Perm ys)
    (hnodup : (xs.map key).Nodup) (name : String) :
    (xs.find? fun x => key x == name) = ys.find? fun x => key x == name := by
  induction h with
  | nil => rfl
  | cons x _ ih =>
    rw [List.find?_cons, List.find?_cons, ih (List.nodup_cons.1 hnodup).2]
  | swap x y l =>
    have hne : key y ≠ key x := by
      simp only [List.map_cons, List.nodup_cons, List.mem_cons, not_or] at hnodup
      exact hnodup.1.1
    rw [List.find?_cons, List.find?_cons, List.find?_cons, List.find?_cons]
    by_cases hx : key x = name
    · have hy : key y ≠ name := fun hy => hne (hy.trans hx.symm)
      rw [beq_iff_eq.2 hx, beq_eq_false_iff_ne.2 hy]
    · rw [beq_eq_false_iff_ne.2 hx]
  | trans h₁ _ ih₁ ih₂ =>
    rw [ih₁ hnodup, ih₂ ((h₁.map key).nodup_iff.1 hnodup)]

end Lists

/-- The same name, declared in the same way, with related initialisers. -/
structure Binding.Alike (R : Node → Node → Prop) (b c : Binding Node) : Prop where
  name : b.name = c.name
  kind : b.kind = c.kind
  init : Option.Rel R b.init c.init

structure Sent.Alike (R : Node → Node → Prop) (s t : Sent) : Prop where
  reach : s.reach = t.reach
  binding : s.binding.Alike R t.binding

/-- Calls of two trees, the nodes related by `K` and the frames around them rearranged, with
initialisers related by `D`. -/
structure FramedCall.Alike (free : Bool) (K D : Node → Node → Prop) (c d : FramedCall) : Prop where
  node : K c.node d.node
  frames : List.Forall₂ (Rearranged free (Binding.Alike D)) c.frames d.frames

/-- Kinds of nodes that declare their own name. -/
def titledKinds : List String :=
  ["function_declaration", "generator_function_declaration", "class_declaration",
    "abstract_class_declaration"]

/-- Nodes that declare the same names, with related initialisers. -/
structure Node.DeclaresLike (free : Bool) (R : Node → Node → Prop) (parent parent' : Option Node)
    (n m : Node) : Prop where
  kind : n.kind = m.kind
  title : n.kind ∈ titledKinds →
    Option.Rel (fun a b => a.text = b.text) (n.role? "name") (m.role? "name")
  parameters : isFunctionKind n.kind = true →
    Rearranged free Eq n.parameterNames m.parameterNames
  caught : n.kind = "catch_clause" → Rearranged free Eq
    ((n.role? "parameter").toList.flatMap boundNames)
    ((m.role? "parameter").toList.flatMap boundNames)
  loop : n.kind = "for_in_statement" →
    Option.Rel (fun a b => a.text = b.text) (n.role? "kind") (m.role? "kind") ∧
    ((n.role? "kind").isSome = true →
      Rearranged free Eq ((n.role? "left").toList.flatMap boundNames)
        ((m.role? "left").toList.flatMap boundNames))
  keyword : n.kind = "variable_declarator" →
    declarationKeyword parent = declarationKeyword parent'
  declared : n.kind = "variable_declarator" →
    Option.Rel (fun a b => a.kind = b.kind ∧ (a.kind = "identifier" → a.text = b.text) ∧
      Rearranged free Eq a.boundNames b.boundNames) (n.role? "name") (m.role? "name")
  value : n.kind = "variable_declarator" → Option.Rel R (n.role? "value") (m.role? "value")
  imported : n.kind = "import_statement" →
    ((n.namedChildren.filter fun n => n.kind == "import_clause").flatMap fun clause =>
      clause.namedChildren.flatMap ScopeTable.importedNames) =
    (m.namedChildren.filter fun n => n.kind == "import_clause").flatMap fun clause =>
      clause.namedChildren.flatMap ScopeTable.importedNames

section Declarations

variable {free : Bool} {R : Node → Node → Prop}

theorem plainBindings_rel (kind : BindingKind) {names names' : List String}
    (h : Rearranged free Eq names names') :
    Rearranged free (Binding.Alike R) (plainBindings kind names) (plainBindings kind names') :=
  h.map fun _ _ hname => ⟨hname, rfl, .none⟩

theorem sent_rel (reach : Reach) {bs cs : List (Binding Node)}
    (h : Rearranged free (Binding.Alike R) bs cs) :
    Rearranged free (Sent.Alike R) (bs.map (Sent.mk reach)) (cs.map (Sent.mk reach)) :=
  h.map fun _ _ hbinding => ⟨rfl, hbinding⟩

theorem rel_ite {α β : Type} {S : α → β → Prop} {c : Prop} [Decidable c] {xs xs' : List α}
    {ys ys' : List β} (h : c → Rearranged free S xs ys) (h' : ¬c → Rearranged free S xs' ys') :
    Rearranged free S (if c then xs else xs') (if c then ys else ys') := by
  by_cases hc : c
  · rw [if_pos hc, if_pos hc]
    exact h hc
  · rw [if_neg hc, if_neg hc]
    exact h' hc

theorem rel_refl {names names' : List String} (h : names = names') :
    Rearranged free Eq names names' := by
  subst h
  exact .of_forall₂ (List.forall₂_same.2 fun _ _ => rfl)

theorem rel_toList {α β : Type} {S : α → β → Prop} {x : Option α} {y : Option β}
    (h : Option.Rel S x y) : Rearranged free S x.toList y.toList := by
  cases h with
  | none => exact .nil
  | some h => exact .of_forall₂ (.cons h .nil)

namespace Node.DeclaresLike

variable {parent parent' : Option Node} {n m : Node}

theorem headBindings_rel (h : n.DeclaresLike free R parent parent' m) :
    Rearranged free (Binding.Alike R) n.headBindings m.headBindings := by
  unfold headBindings
  rw [← h.kind]
  refine .append (.append ?_ ?_) ?_
  · exact rel_ite (fun hf => plainBindings_rel _ (h.parameters hf)) fun _ => .nil
  · refine rel_ite (fun hcatch => ?_) fun _ => .nil
    exact plainBindings_rel _ (h.caught (by simpa using hcatch))
  · refine rel_ite (fun hloop => ?_) fun _ => .nil
    obtain ⟨hkeyword, hleft⟩ := h.loop (by simpa using hloop)
    refine (rel_toList hkeyword).flatMap fun word hmem word' hword => ?_
    rw [← hword]
    split
    · exact .nil
    · exact plainBindings_rel _ (hleft (Option.isSome_of_mem (Option.mem_toList.1 hmem)))

theorem gives_rel (h : n.DeclaresLike free R parent parent' m) :
    Rearranged free (Sent.Alike R) (n.gives parent) (m.gives parent') := by
  unfold gives
  rw [← h.kind]
  refine .append (.append (.append (.append ?_ ?_) ?_) ?_) ?_
  · refine rel_ite (fun hfunction => ?_) fun _ => .nil
    have hkind : n.kind ∈ titledKinds := by
      rw [Bool.or_eq_true, beq_iff_eq, beq_iff_eq] at hfunction
      rcases hfunction with hkind | hkind <;> rw [hkind] <;> decide
    exact sent_rel _ (plainBindings_rel _ ((rel_toList (h.title hkind)).map fun _ _ => id))
  · refine rel_ite (fun hloop => ?_) fun _ => .nil
    obtain ⟨hkeyword, hleft⟩ := h.loop (by simpa using hloop)
    refine (rel_toList hkeyword).flatMap fun word hmem word' hword => ?_
    rw [← hword]
    split
    · have hnames := hleft (Option.isSome_of_mem (Option.mem_toList.1 hmem))
      exact sent_rel _ (plainBindings_rel _ hnames)
    · exact .nil
  · refine rel_ite (fun hdeclarator => ?_) fun _ => .nil
    have hkind : n.kind = "variable_declarator" := by simpa using hdeclarator
    rw [← h.keyword hkind]
    refine (rel_toList (h.declared hkind)).flatMap fun name _ name' hname => ?_
    obtain ⟨hsame, htext, hbound⟩ := hname
    rw [← hsame]
    by_cases hplain : name.kind = "identifier"
    · simp only [hplain, beq_self_eq_true, if_true]
      exact .of_forall₂ (.cons ⟨rfl, htext hplain, rfl, h.value hkind⟩ .nil)
    · simp only [beq_eq_false_iff_ne.2 hplain]
      exact sent_rel _ (plainBindings_rel _ hbound)
  · refine rel_ite (fun hclass => ?_) fun _ => .nil
    have hkind : n.kind ∈ titledKinds := by
      rw [Bool.or_eq_true, beq_iff_eq, beq_iff_eq] at hclass
      rcases hclass with hkind | hkind <;> rw [hkind] <;> decide
    exact sent_rel _ (plainBindings_rel _ ((rel_toList (h.title hkind)).map fun _ _ => id))
  · refine rel_ite (fun himport => ?_) fun _ => .nil
    exact sent_rel _ (plainBindings_rel _ (rel_refl (h.imported (by simpa using himport))))

end Node.DeclaresLike

/-- What a node catches from below is rearranged if what comes from below is. -/
theorem caught_rel {parent parent' : Option Node} {n m : Node} {sent sent' : List Sent}
    (hcatches : n.catches parent = m.catches parent')
    (h : Rearranged free (Sent.Alike R) sent sent') :
    Rearranged free (Binding.Alike R)
      ((sent.filter fun s => n.catches parent s.reach).map Sent.binding)
      ((sent'.filter fun s => m.catches parent' s.reach).map Sent.binding) := by
  refine (h.filter fun s t hst => ?_).map fun s t hst => hst.1.binding
  rw [hcatches, hst.reach]

theorem escaped_rel {parent parent' : Option Node} {n m : Node} {sent sent' : List Sent}
    (hcatches : n.catches parent = m.catches parent')
    (h : Rearranged free (Sent.Alike R) sent sent') :
    Rearranged free (Sent.Alike R) (sent.filter fun s => !n.catches parent s.reach)
      (sent'.filter fun s => !m.catches parent' s.reach) := by
  refine (h.filter fun s t hst => ?_).imp_of_mem fun s _ t hst => hst.1
  rw [hcatches, hst.reach]

/-- Bindings of one name in rearranged frames have related initialisers, if the order is kept or no
name comes twice. -/
theorem binding_rel {frame frame' : Frame} (h : Rearranged free (Binding.Alike R) frame frame')
    (hnodup : free = true → (frame.map Binding.name).Nodup) (name : String) :
    Option.Rel (Binding.Alike R) (frame.find? fun b => b.name == name)
      (frame'.find? fun b => b.name == name) := by
  obtain ⟨middle, hmiddle, hframe⟩ := h
  have hfind : (middle.find? fun b => b.name == name) = frame'.find? fun b => b.name == name := by
    rcases hframe with rfl | ⟨hfree, hperm⟩
    · rfl
    · have hnames : frame.map Binding.name = middle.map Binding.name := by
        rw [← List.forall₂_eq_eq_eq, List.forall₂_map_left_iff, List.forall₂_map_right_iff]
        exact hmiddle.imp fun _ _ hbc => hbc.name
      exact find?_eq_of_perm hperm (hnames ▸ hnodup hfree) name
  rw [← hfind]
  refine rel_imp (rel_find? hmiddle fun b c hbc => by rw [hbc.name]) fun _ _ _ hbc => hbc.1

theorem resolveIn_rel {frames frames' : List Frame}
    (h : List.Forall₂ (Rearranged free (Binding.Alike R)) frames frames')
    (hnodup : free = true → ∀ frame ∈ frames, (frame.map Binding.name).Nodup) (name : String) :
    Option.Rel R (resolveIn frames name) (resolveIn frames' name) := by
  have hfound : Option.Rel (Binding.Alike R)
      (frames.findSome? fun frame => frame.find? fun b => b.name == name)
      (frames'.findSome? fun frame => frame.find? fun b => b.name == name) := by
    induction h with
    | nil => exact .none
    | @cons frame frame' _ _ hframe _ ih =>
      have hhere := binding_rel hframe (fun hfree => hnodup hfree frame List.mem_cons_self) name
      rw [List.findSome?_cons, List.findSome?_cons]
      generalize (frame.find? fun b => b.name == name) = b,
        (frame'.find? fun b => b.name == name) = c at hhere ⊢
      cases hhere with
      | none => exact ih fun hfree f hf => hnodup hfree f (List.mem_cons_of_mem _ hf)
      | some hbc => exact .some hbc
  exact rel_bind? hfound fun b c hbc => hbc.init

end Declarations

end RouteCensus
