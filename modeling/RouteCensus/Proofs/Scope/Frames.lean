import RouteCensus.Call.Nesting
import RouteCensus.Proofs.Scope.Resolution

/-! # Frames

The scopes of a program, read off its tree from the inside out and without
places.  A node sends the declarations that do not stay with it to a scope around
it, and a scope node keeps those that belong to its scope: they are its frame,
together with the names in its own head.  A call then stands in the frames of the
scopes around it.  These are the declarations that the places of the program give
to these scopes, so what a call looks up depends on its frames only.
-/

namespace RouteCensus

/-- The names that are declared in one scope, in source order. -/
abbrev Frame := List (Binding Node)

/-- How far out a declaration goes from the node that makes it. -/
inductive Reach where
  | near
  | function
  | program
  deriving DecidableEq, Repr

structure Sent where
  reach : Reach
  binding : Binding Node

/-- Names without initialisers. -/
def plainBindings (kind : BindingKind) (names : List String) : List (Binding Node) :=
  names.map fun name => { name := name, kind := kind }

namespace Node

/-- The names that a function, a catch clause or a loop declares in its own scope. -/
def headBindings (n : Node) : Frame :=
  (if isFunctionKind n.kind then plainBindings .parameter n.parameterNames else []) ++
  (if n.kind == "catch_clause" then
    plainBindings .lexical ((n.role? "parameter").toList.flatMap boundNames)
  else []) ++
  (if n.kind == "for_in_statement" then
    (n.role? "kind").toList.flatMap fun keyword =>
      if keyword.text == "var" then []
      else plainBindings .lexical ((n.role? "left").toList.flatMap boundNames)
  else [])

/-- What a node itself declares in the scopes around it. -/
def gives (parent : Option Node) (n : Node) : List Sent :=
  (if n.kind == "function_declaration" || n.kind == "generator_function_declaration" then
    (plainBindings .function ((n.role? "name").toList.map text)).map (Sent.mk .near)
  else []) ++
  (if n.kind == "for_in_statement" then
    (n.role? "kind").toList.flatMap fun keyword =>
      if keyword.text == "var" then
        (plainBindings .hoisted ((n.role? "left").toList.flatMap boundNames)).map
          (Sent.mk .function)
      else []
  else []) ++
  (if n.kind == "variable_declarator" then
    let keyword := declarationKeyword parent
    let reach := if keyword == "var" then Reach.function else .near
    (n.role? "name").toList.flatMap fun name =>
      if name.kind == "identifier" then
        [⟨reach, { name := name.text, kind := bindingKindOf keyword, init := n.role? "value" }⟩]
      else
        (plainBindings (bindingKindOf keyword) name.boundNames).map (Sent.mk reach)
  else []) ++
  (if n.kind == "class_declaration" || n.kind == "abstract_class_declaration" then
    (plainBindings .classLike ((n.role? "name").toList.map text)).map (Sent.mk .near)
  else []) ++
  (if n.kind == "import_statement" then
    (plainBindings .imported
      ((n.namedChildren.filter fun n => n.kind == "import_clause").flatMap fun clause =>
        clause.namedChildren.flatMap ScopeTable.importedNames)).map (Sent.mk .program)
  else [])

/-- Whether a declaration from below a node belongs to the scope of the node. -/
def catches (parent : Option Node) (n : Node) : Reach → Bool
  | .near => opensScope parent n
  | .function => isFunctionKind n.kind
  | .program => false

mutual

/-- What a tree declares in the scopes around it, in pre-order. -/
def sends (parent : Option Node) : Node → List Sent
  | mk label children =>
    if label.named then
      (mk label children).gives parent ++
        (sendsAmong (mk label children) children).filter fun s =>
          !(mk label children).catches parent s.reach
    else
      []

def sendsAmong (parent : Node) : List Node → List Sent
  | [] => []
  | child :: rest => child.sends (some parent) ++ sendsAmong parent rest

end

/-- The declarations in the scope that a node opens. -/
def frame (parent : Option Node) (n : Node) : Frame :=
  n.headBindings ++
    ((sendsAmong n n.children).filter fun s => n.catches parent s.reach).map Sent.binding

/-- The declarations in the scope of the program as a whole. -/
def programFrame (root : Node) : Frame :=
  (root.sends none).map Sent.binding

end Node

/-- A call expression in the frames around it, the nearest first. -/
structure FramedCall where
  node : Node
  frames : List Frame

namespace Node

mutual

/-- The call expressions of a tree that stands in the given frames, in pre-order. -/
def callsIn (parent : Option Node) (frames : List Frame) : Node → List FramedCall
  | mk label children =>
    if label.named then
      (if label.kind == "call_expression" then [⟨mk label children, frames⟩] else []) ++
        callsAmong (mk label children)
          (if opensScope parent (mk label children) then (mk label children).frame parent :: frames
            else frames) children
    else
      []

def callsAmong (parent : Node) (frames : List Frame) : List Node → List FramedCall
  | [] => []
  | child :: rest => child.callsIn (some parent) frames ++ callsAmong parent frames rest

end

/-- The call expressions of a program, each in its frames. -/
def framedCalls (root : Node) : List FramedCall :=
  root.callsIn none [root.programFrame]

theorem sendsAmong_eq (parent : Node) (children : List Node) :
    sendsAmong parent children = children.flatMap (sends (some parent)) := by
  induction children with
  | nil => rw [sendsAmong]; rfl
  | cons child rest ih => rw [sendsAmong, ih, List.flatMap_cons]

theorem sends_eq (parent : Option Node) (n : Node) :
    n.sends parent = if n.named then
      n.gives parent ++
        (n.children.flatMap (sends (some n))).filter fun s => !n.catches parent s.reach
      else [] := by
  cases n with
  | mk label children => rw [sends, sendsAmong_eq]; rfl

theorem frame_eq (parent : Option Node) (n : Node) :
    n.frame parent = n.headBindings ++
      ((n.children.flatMap (sends (some n))).filter fun s => n.catches parent s.reach).map
        Sent.binding := by
  rw [frame, sendsAmong_eq]

theorem callsAmong_eq (parent : Node) (frames : List Frame) (children : List Node) :
    callsAmong parent frames children = children.flatMap (callsIn (some parent) frames) := by
  induction children with
  | nil => rw [callsAmong]; rfl
  | cons child rest ih => rw [callsAmong, ih, List.flatMap_cons]

theorem callsIn_eq (parent : Option Node) (frames : List Frame) (n : Node) :
    n.callsIn parent frames = if n.named then
      (if n.kind == "call_expression" then [⟨n, frames⟩] else []) ++
        n.children.flatMap (callsIn (some n)
          (if opensScope parent n then n.frame parent :: frames else frames))
      else [] := by
  cases n with
  | mk label children => rw [callsIn, callsAmong_eq]; rfl

end Node

/-- The initialiser of a name: of its first binding in the nearest frame that has one. -/
def resolveIn (frames : List Frame) (name : String) : Option Node :=
  (frames.findSome? fun frame => frame.find? fun b => b.name == name).bind Binding.init

/-- What is declared in one scope. -/
def boundIn (declarations : List Declaration) (home : Home) : Frame :=
  declarations.filterMap fun d => if d.home = home then some d.binding else none

/-- What arrives in one scope, if the reaches go to the given scopes. -/
def received (goes : Reach → Home) (sent : List Sent) (home : Home) : Frame :=
  sent.filterMap fun s => if goes s.reach = home then some s.binding else none

theorem boundIn_append (ds es : List Declaration) (home : Home) :
    boundIn (ds ++ es) home = boundIn ds home ++ boundIn es home :=
  List.filterMap_append

@[simp] theorem boundIn_nil (home : Home) : boundIn [] home = [] := rfl

theorem boundIn_ite (c : Prop) [Decidable c] (ds es : List Declaration) (home : Home) :
    boundIn (if c then ds else es) home = if c then boundIn ds home else boundIn es home :=
  apply_ite (boundIn · home) c ds es

theorem boundIn_flatMap {α : Type} (xs : List α) (f : α → List Declaration) (home : Home) :
    boundIn (xs.flatMap f) home = xs.flatMap fun x => boundIn (f x) home :=
  List.filterMap_flatMap ..

theorem boundIn_singleton (d : Declaration) (home : Home) :
    boundIn [d] home = if d.home = home then [d.binding] else [] := by
  unfold boundIn
  split <;> simp [*]

@[simp] theorem received_nil (goes : Reach → Home) (home : Home) : received goes [] home = [] := rfl

theorem received_ite (goes : Reach → Home) (c : Prop) [Decidable c] (xs ys : List Sent)
    (home : Home) :
    received goes (if c then xs else ys) home =
      if c then received goes xs home else received goes ys home :=
  apply_ite (received goes · home) c xs ys

theorem received_flatMap {α : Type} (goes : Reach → Home) (xs : List α) (f : α → List Sent)
    (home : Home) :
    received goes (xs.flatMap f) home = xs.flatMap fun x => received goes (f x) home :=
  List.filterMap_flatMap ..

theorem received_singleton (goes : Reach → Home) (s : Sent) (home : Home) :
    received goes [s] home = if goes s.reach = home then [s.binding] else [] := by
  unfold received
  split <;> simp [*]

theorem received_append (goes : Reach → Home) (xs ys : List Sent) (home : Home) :
    received goes (xs ++ ys) home = received goes xs home ++ received goes ys home :=
  List.filterMap_append

theorem boundIn_plain (target home : Home) (kind : BindingKind) (names : List String) :
    boundIn (Declaration.plain target kind names) home =
      if target = home then plainBindings kind names else [] := by
  unfold boundIn Declaration.plain plainBindings
  rw [List.filterMap_map]
  by_cases h : target = home
  · rw [if_pos h, ← List.filterMap_eq_map]
    exact List.filterMap_congr fun name _ => by simp [h]
  · rw [if_neg h]
    exact List.filterMap_eq_nil_iff.2 fun name _ => by simp [h]

theorem received_mk (goes : Reach → Home) (reach : Reach) (bindings : List (Binding Node))
    (home : Home) :
    received goes (bindings.map (Sent.mk reach)) home =
      if goes reach = home then bindings else [] := by
  unfold received
  rw [List.filterMap_map]
  by_cases h : goes reach = home
  · rw [if_pos h]
    refine (List.filterMap_congr fun b _ => ?_).trans List.filterMap_some
    simp [h]
  · rw [if_neg h]
    exact List.filterMap_eq_nil_iff.2 fun b _ => by simp [h]

/-- Nothing arrives in a scope that no reach goes to. -/
theorem received_eq_nil {goes : Reach → Home} {home : Home} (h : ∀ reach, goes reach ≠ home)
    (sent : List Sent) : received goes sent home = [] :=
  List.filterMap_eq_nil_iff.2 fun s _ => if_neg (h s.reach)

theorem Declaration.first?_eq_find? (declarations : List Declaration) (home : Home)
    (name : String) :
    Declaration.first? declarations home name =
      (boundIn declarations home).find? fun b => b.name == name := by
  unfold Declaration.first? boundIn
  induction declarations with
  | nil => rfl
  | cons d rest ih =>
    rw [List.find?_cons, List.filterMap_cons]
    by_cases hhome : d.home = home
    · cases hname : d.binding.name == name with
      | false => simpa [hhome, hname] using ih
      | true => simp [hhome, hname]
    · rw [beq_eq_false_iff_ne.2 hhome, if_neg hhome]
      exact ih

/-- The scopes that the reaches go to from inside the given nodes. -/
def goesTo (around : List (Place × Node)) : Reach → Home
  | .near => (scopeNodes around).head?.map ScopeNode.place
  | .function => ((scopeNodes around).find? ScopeNode.isFunction).map ScopeNode.place
  | .program => none

theorem goesTo_cons (place : Place) (n : Node) (around : List (Place × Node)) (reach : Reach) :
    goesTo ((place, n) :: around) reach =
      if n.catches (around.head?.map Prod.snd) reach then some place else goesTo around reach := by
  cases hopens : opensScope (around.head?.map Prod.snd) n with
  | false =>
    have hf : isFunctionKind n.kind = false := by
      unfold opensScope at hopens
      exact (Bool.or_eq_false_iff.1 hopens).1
    cases reach <;> simp [goesTo, scopeNodes, Node.catches, hopens, hf]
  | true =>
    cases hf : isFunctionKind n.kind <;> cases reach <;>
      simp [goesTo, scopeNodes, Node.catches, hopens, hf]

/-- Whoever makes a reach go to a scope stands around. -/
theorem mem_around_of_goesTo {around : List (Place × Node)} {reach : Reach} {place : Place}
    (h : goesTo around reach = some place) : ∃ n, (place, n) ∈ around := by
  induction around with
  | nil => cases reach <;> cases h
  | cons first outer ih =>
    rw [goesTo_cons] at h
    split at h
    · cases h
      exact ⟨first.2, List.mem_cons_self⟩
    · obtain ⟨n, hn⟩ := ih h
      exact ⟨n, List.mem_cons_of_mem _ hn⟩

namespace Spot

variable (s : Spot)

/-- A spot declares in its own scope what stands in its head. -/
theorem boundIn_own (h : ∀ reach, goesTo s.around reach ≠ some s.place) :
    boundIn s.declarations (some s.place) = s.node.headBindings := by
  have hnear : s.home ≠ some s.place := h .near
  have hfunction : s.functionHome ≠ some s.place := h .function
  have heither : ∀ keyword : String,
      (if keyword == "var" then s.functionHome else s.home) ≠ some s.place := by
    intro keyword
    split
    · exact hfunction
    · exact hnear
  have hnone : ∀ names : List Node, names.flatMap (fun _ => ([] : Frame)) = [] := by simp
  simp only [declarations, functionName, parameters, catchParameter, loopVariables, declarator,
    className, imports, Node.headBindings, boundIn_append, boundIn_ite, boundIn_plain,
    boundIn_flatMap, boundIn_nil, boundIn_singleton, hnear, hfunction, heither, ite_self, if_false,
    if_true, reduceCtorEq, List.nil_append, List.append_nil, hnone]

/-- A spot declares in other scopes what its node sends there. -/
theorem boundIn_other {home : Home} (h : some s.place ≠ home) :
    boundIn s.declarations home = received (goesTo s.around) (s.node.gives s.parent) home := by
  have hnear : goesTo s.around .near = s.home := rfl
  have hfunction : goesTo s.around .function = s.functionHome := rfl
  have hprogram : goesTo s.around .program = none := rfl
  simp only [declarations, functionName, parameters, catchParameter, loopVariables, declarator,
    className, imports, Node.gives, boundIn_append, boundIn_ite, boundIn_plain, boundIn_flatMap,
    boundIn_nil, boundIn_singleton, received_append, received_ite, received_mk, received_flatMap,
    received_nil, received_singleton, hnear, hfunction, hprogram, h, apply_ite (goesTo s.around),
    ite_self, if_false, List.append_nil]

end Spot

section Sends

variable {place : Place} {around : List (Place × Node)} {home : Home}

/-- From the children of a node, other scopes receive what the node does not catch. -/
theorem received_escaped (n : Node) (h : some place ≠ home) (sent : List Sent) :
    received (goesTo ((place, n) :: around)) sent home =
      received (goesTo around)
        (sent.filter fun s => !n.catches (around.head?.map Prod.snd) s.reach) home := by
  unfold received
  rw [List.filterMap_filter]
  refine List.filterMap_congr fun s _ => ?_
  rw [goesTo_cons]
  cases n.catches (around.head?.map Prod.snd) s.reach <;> simp [h]

/-- From its children a node receives what it catches. -/
theorem received_caught (n : Node) (h : ∀ reach, goesTo around reach ≠ some place)
    (sent : List Sent) :
    received (goesTo ((place, n) :: around)) sent (some place) =
      (sent.filter fun s => n.catches (around.head?.map Prod.snd) s.reach).map Sent.binding := by
  unfold received
  rw [← List.filterMap_eq_map, List.filterMap_filter]
  refine List.filterMap_congr fun s _ => ?_
  rw [goesTo_cons]
  cases n.catches (around.head?.map Prod.snd) s.reach <;> simp [h]

end Sends

mutual

/-- A tree declares in a scope outside of it what it sends there. -/
theorem Node.boundIn_spotsFrom {place : Place} {around : List (Place × Node)} {home : Home} :
    ∀ n : Node, (∀ p, place <+: p → some p ≠ home) →
      boundIn ((n.spotsFrom place around).flatMap Spot.declarations) home =
        received (goesTo around) (n.sends (around.head?.map Prod.snd)) home
  | .mk label children, houtside => by
    unfold Node.spotsFrom Node.sends
    split
    · have hplace : some place ≠ home := houtside place List.prefix_rfl
      rw [List.flatMap_cons, boundIn_append, received_append,
        Spot.boundIn_other ⟨place, .mk label children, around⟩ hplace, ← received_escaped _ hplace,
        boundIn_spotsAmong children fun k _ p hp =>
          houtside p ((List.prefix_append place [k]).trans hp)]
      rfl
    · rfl

theorem boundIn_spotsAmong {place : Place} {first : Nat} {parent : Node}
    {outer : List (Place × Node)} {home : Home} :
    ∀ children : List Node, (∀ k ≥ first, ∀ p, place ++ [k] <+: p → some p ≠ home) →
      boundIn ((spotsAmong place first ((place, parent) :: outer) children).flatMap
          Spot.declarations) home =
        received (goesTo ((place, parent) :: outer)) (Node.sendsAmong parent children) home
  | [], _ => rfl
  | child :: rest, houtside => by
    rw [spotsAmong, Node.sendsAmong, List.flatMap_append, boundIn_append, received_append,
      Node.boundIn_spotsFrom child (houtside first le_rfl),
      boundIn_spotsAmong rest fun k hk => houtside k (by omega)]
    rfl

end

/-- No reach goes in to a place that is at least as deep as the nodes around. -/
theorem goesTo_ne {around : List (Place × Node)} {depth : Nat} {place : Place}
    (haround : ∀ x ∈ around, x.1.length < depth) (hdepth : depth ≤ place.length) (reach : Reach) :
    goesTo around reach ≠ some place := by
  intro h
  obtain ⟨n, hn⟩ := mem_around_of_goesTo h
  have hlt := haround _ hn
  simp only at hlt
  omega

mutual

/-- The declarations in the scope at a spot are the frame of its node. -/
theorem Node.boundIn_place {place : Place} {around : List (Place × Node)}
    (haround : ∀ x ∈ around, x.1.length < place.length) :
    ∀ (n : Node), ∀ s ∈ n.spotsFrom place around,
      boundIn ((n.spotsFrom place around).flatMap Spot.declarations) (some s.place) =
        s.node.frame s.parent
  | .mk label children, s, hs => by
    unfold Node.spotsFrom at hs ⊢
    split at hs
    · rename_i hnamed
      rw [if_pos hnamed, List.flatMap_cons, boundIn_append]
      have hdeeper : ∀ x ∈ (place, Node.mk label children) :: around,
          x.1.length < place.length + 1 := by
        intro x hx
        rcases List.mem_cons.1 hx with rfl | hx
        · simp
        · have := haround x hx
          omega
      rcases List.mem_cons.1 hs with rfl | hs
      · rw [Spot.boundIn_own _ (goesTo_ne haround le_rfl),
          boundIn_spotsAmong children, received_caught _ (goesTo_ne haround le_rfl)]
        · rfl
        · intro k _ p hp heq
          cases heq
          have hlength : (place ++ [k]).length ≤ place.length := hp.length_le
          rw [List.length_append, List.length_singleton] at hlength
          omega
      · obtain ⟨k, -, hk⟩ := place_prefix_of_mem_spotsAmong hs
        have hlength := hk.length_le
        rw [List.length_append, List.length_singleton] at hlength
        have hne : some place ≠ some s.place := by
          intro heq
          rw [← Option.some.inj heq] at hlength
          omega
        rw [Spot.boundIn_other ⟨place, .mk label children, around⟩ hne,
          received_eq_nil (goesTo_ne haround (by omega)), List.nil_append]
        exact boundIn_place_among hdeeper children s hs
    · cases hs

theorem boundIn_place_among {place : Place} {first : Nat} {parent : Node}
    {outer : List (Place × Node)}
    (haround : ∀ x ∈ (place, parent) :: outer, x.1.length < place.length + 1) :
    ∀ (children : List Node), ∀ s ∈ spotsAmong place first ((place, parent) :: outer) children,
      boundIn ((spotsAmong place first ((place, parent) :: outer) children).flatMap
        Spot.declarations) (some s.place) = s.node.frame s.parent
  | [], _, hs => by cases hs
  | child :: rest, s, hs => by
    have hlength : ∀ k, (place ++ [k]).length = place.length + 1 := by simp
    rw [spotsAmong] at hs ⊢
    rw [List.flatMap_append, boundIn_append]
    rcases List.mem_append.1 hs with hs | hs
    · have hplace := Node.place_prefix_of_mem_spotsFrom hs
      rw [boundIn_spotsAmong rest, received_eq_nil, List.append_nil]
      · exact Node.boundIn_place (by simpa only [hlength] using haround) child s hs
      · exact goesTo_ne haround (hlength first ▸ hplace.length_le)
      · intro k hk p hp heq
        exact place_ne_of_prefix (by omega) hplace hp (Option.some.inj heq).symm
    · obtain ⟨k, hk, hplace⟩ := place_prefix_of_mem_spotsAmong hs
      rw [Node.boundIn_spotsFrom child, received_eq_nil, List.nil_append]
      · exact boundIn_place_among haround rest s hs
      · exact goesTo_ne haround (hlength k ▸ hplace.length_le)
      · intro p hp heq
        exact place_ne_of_prefix (by omega) hp hplace (Option.some.inj heq)

end

/-- The scopes around, from the nearest one out to the program. -/
def homesOf (around : List (Place × Node)) : List Home :=
  (scopeNodes around).map (fun scope => some scope.place) ++ [none]

theorem homesOf_cons (place : Place) (n : Node) (around : List (Place × Node)) :
    homesOf ((place, n) :: around) =
      if opensScope (around.head?.map Prod.snd) n then some place :: homesOf around
      else homesOf around := by
  unfold homesOf
  rw [scopeNodes]
  split <;> rfl

mutual

/-- The calls of a tree stand in the frames of the scopes around their spots. -/
theorem Node.callsIn_eq_spots {scope : Home → Frame} {place : Place}
    {around : List (Place × Node)} :
    ∀ n : Node, (∀ s ∈ n.spotsFrom place around, scope (some s.place) = s.node.frame s.parent) →
      n.callsIn (around.head?.map Prod.snd) ((homesOf around).map scope) =
        ((n.spotsFrom place around).filter fun s => s.node.kind == "call_expression").map fun s =>
          ⟨s.node, s.homes.map scope⟩
  | .mk label children, hscope => by
    unfold Node.spotsFrom at hscope ⊢
    unfold Node.callsIn
    split at hscope
    · rename_i hnamed
      have hframe : scope (some place) =
          (Node.mk label children).frame (around.head?.map Prod.snd) :=
        hscope _ List.mem_cons_self
      have hframes : (if opensScope (around.head?.map Prod.snd) (.mk label children) then
            (Node.mk label children).frame (around.head?.map Prod.snd) :: (homesOf around).map scope
          else (homesOf around).map scope) =
          (homesOf ((place, .mk label children) :: around)).map scope := by
        rw [homesOf_cons, ← hframe]
        split <;> rfl
      rw [if_pos hnamed, if_pos hnamed, hframes, List.filter_cons,
        callsAmong_eq_spots children fun s hs => hscope s (List.mem_cons_of_mem _ hs)]
      by_cases hcall : (Node.mk label children).kind == "call_expression"
      · rw [if_pos hcall]
        exact congrArg (· ++ _) (if_pos hcall)
      · rw [if_neg hcall]
        exact congrArg (· ++ _) (if_neg hcall)
    · rename_i hnamed
      simp [hnamed]

theorem callsAmong_eq_spots {scope : Home → Frame} {place : Place} {first : Nat} {parent : Node}
    {outer : List (Place × Node)} :
    ∀ children : List Node, (∀ s ∈ spotsAmong place first ((place, parent) :: outer) children,
        scope (some s.place) = s.node.frame s.parent) →
      Node.callsAmong parent ((homesOf ((place, parent) :: outer)).map scope) children =
        ((spotsAmong place first ((place, parent) :: outer) children).filter fun s =>
          s.node.kind == "call_expression").map fun s => ⟨s.node, s.homes.map scope⟩
  | [], _ => rfl
  | child :: rest, hscope => by
    rw [spotsAmong] at hscope
    rw [Node.callsAmong, spotsAmong, List.filter_append, List.map_append,
      ← Node.callsIn_eq_spots child fun s hs => hscope s (List.mem_append_left _ hs),
      ← callsAmong_eq_spots rest fun s hs => hscope s (List.mem_append_right _ hs)]
    rfl

end

namespace Node

variable (root : Node)

/-- Every call of a program stands in the frames that the places of the program give to the scopes
around it. -/
theorem framedCalls_eq_spots :
    root.framedCalls =
      (root.spots.filter fun s => s.node.kind == "call_expression").map fun s =>
        ⟨s.node, s.homes.map (boundIn root.declarations)⟩ := by
  have hprogram : boundIn root.declarations none = root.programFrame := by
    refine (root.boundIn_spotsFrom fun p _ => by simp).trans ?_
    unfold received programFrame
    rw [← List.filterMap_eq_map]
    refine List.filterMap_congr fun s _ => ?_
    cases s.reach <;> rfl
  rw [framedCalls, ← hprogram]
  have hframes : ∀ s ∈ root.spotsFrom [] [],
      boundIn root.declarations (some s.place) = s.node.frame s.parent :=
    root.boundIn_place (by simp)
  exact Node.callsIn_eq_spots root hframes

theorem lookup_eq_resolveIn {site : CallSite} {s : Spot} {j : Nat} (hscope : site.scope = j)
    (hj : ([[]] ++ root.spots.filterMap Spot.opened)[j]? = some s.scopes) :
    root.callSites.1.initOf site.scope = resolveIn (s.homes.map (boundIn root.declarations)) := by
  funext name
  have hlookup : root.callSites.1.lookup site.scope name =
      .ok ((s.homes.map (boundIn root.declarations)).findSome? fun frame =>
        frame.find? fun b => b.name == name) := by
    rw [hscope, root.callSites_surveyed.represents.lookup_eq hj, List.findSome?_map,
      s.findSome?_homes]
    simp only [Function.comp_def, Declaration.first?_eq_find?]
    rfl
  unfold ScopeTable.initOf ScopeTable.resolve
  rw [hlookup]
  rfl

end Node

theorem callSite?_eq_none {s : Spot} (h : s.isCall = false) (scope : Int) :
    callSite? scope s.node = none := by
  have hsites := callSite?_tellsOf s scope
  simp only [List.filter_cons, h, List.filter_nil] at hsites
  simpa using hsites

theorem CallSite.TellsOf.callSite?_eq {site : CallSite} {s : Spot} (h : site.TellsOf s)
    (hcall : s.isCall = true) (scope : Int) :
    callSite? scope s.node = some { site with scope := scope } := by
  have hsites := callSite?_tellsOf s scope
  cases hsite : callSite? scope s.node with
  | none => simp [hcall, hsite] at hsites
  | some other =>
    simp only [List.filter_cons, hcall, if_true, List.filter_nil, hsite, Option.toList_some,
      List.forall₂_cons, List.forall₂_nil_left_iff, and_true, true_and] at hsites
    obtain ⟨hother, rfl⟩ := hsites
    have hcallee := hother.callee.symm.trans h.callee
    have harguments := hother.arguments.symm.trans h.arguments
    have hline := hother.line.trans h.line.symm
    cases other
    cases site
    simp_all

namespace Node

variable (root : Node)

/-- The call sites of a program with what they can look up, by their frames. -/
theorem callSites_eq_framedCalls :
    (root.callSites.2.map fun site =>
        ({ site with scope := 0 }, root.callSites.1.initOf site.scope)) =
      root.framedCalls.filterMap fun call =>
        (callSite? 0 call.node).map fun site => (site, resolveIn call.frames) := by
  have hcalls : ∀ spots : List Spot,
      (spots.filter fun s => s.node.kind == "call_expression").filterMap (fun s =>
        (callSite? 0 s.node).map fun site =>
          (site, resolveIn (s.homes.map (boundIn root.declarations)))) =
      (spots.filter Spot.isCall).filterMap fun s => (callSite? 0 s.node).map fun site =>
          (site, resolveIn (s.homes.map (boundIn root.declarations))) := by
    intro spots
    rw [List.filterMap_filter, List.filterMap_filter]
    refine List.filterMap_congr fun s _ => ?_
    cases hcall : s.isCall with
    | false => simp [callSite?_eq_none hcall]
    | true =>
      have hkind : (s.node.kind == "call_expression") = true := by
        unfold Spot.isCall at hcall
        exact (Bool.and_eq_true_iff.1 (Bool.and_eq_true_iff.1 hcall).1).1
      rw [if_pos hkind]
      rfl
  have hsites := (List.forall₂_and_left _ _).2
    ⟨fun s hs => (List.mem_filter.1 hs).2, root.callSites_surveyed.sites⟩
  rw [framedCalls_eq_spots, List.filterMap_map, ← List.filterMap_eq_map]
  refine Eq.trans ?_ (hcalls root.spots).symm
  rw [eq_comm, ← List.forall₂_eq_eq_eq]
  refine List.rel_filterMap ?_ hsites
  rintro s site ⟨hcall, htells, j, hscope, hj⟩
  simp only [Function.comp_apply, htells.callSite?_eq hcall, root.lookup_eq_resolveIn hscope hj]
  exact .some rfl

end Node

namespace FramedCall

/-- The HTTP call that a call expression is in its frames. -/
def observed? (call : FramedCall) : Option Observation :=
  (callSite? 0 call.node).bind fun site => site.observation? (resolveIn call.frames)

/-- Whether the search breaks off at the URL of a call expression in its frames. -/
def hasDeepUrl (limit : Nat) (call : FramedCall) : Bool :=
  (callSite? 0 call.node).any fun site => site.target?.any fun target =>
    target.hasDeepUrl limit (resolveIn call.frames)

end FramedCall

namespace Node

variable (root : Node)

/-- The observations of a program, by the frames of its calls. -/
theorem observations_eq_framedCalls :
    root.observations = root.framedCalls.filterMap FramedCall.observed? := by
  have hcalls := congrArg (List.filterMap fun x : CallSite × Resolver => CallSite.observation? x.2 x.1)
    root.callSites_eq_framedCalls
  rw [List.filterMap_map, List.filterMap_filterMap] at hcalls
  refine hcalls.trans (List.filterMap_congr fun call _ => ?_)
  unfold FramedCall.observed?
  cases callSite? 0 call.node <;> rfl

/-- Whether the search breaks off, by the frames of the calls. -/
theorem tooDeep_eq_framedCalls (limit : Nat) :
    root.tooDeep limit = (root.hasDeepPattern limit ||
      root.framedCalls.any (FramedCall.hasDeepUrl limit)) := by
  have hcalls := congrArg (List.any · fun x : CallSite × Resolver =>
      x.1.target?.any fun target => target.hasDeepUrl limit x.2)
    root.callSites_eq_framedCalls
  rw [List.any_map, List.any_filterMap] at hcalls
  refine congrArg (_ || ·) (hcalls.trans (congrArg _ (funext fun call => ?_)))
  unfold FramedCall.hasDeepUrl
  cases callSite? 0 call.node <;> rfl

end Node

end RouteCensus
