import RouteCensus.Proofs.Scope.Pattern
import RouteCensus.Proofs.Scope.Simulation

/-! # Names mean what their scopes declare

A survey of a tree meets its spots in pre-order, and its table represents all
their scopes and declarations.  The scope of a call site is the one around the
spot of the call, so that every name looked up from there has its meaning at
that spot.
-/

namespace RouteCensus

mutual

theorem Node.place_prefix_of_mem_spotsFrom {place : Place} {around : List (Place × Node)} :
    ∀ {n : Node} {s : Spot}, s ∈ n.spotsFrom place around → place <+: s.place
  | .mk label children, s, hs => by
    unfold Node.spotsFrom at hs
    split at hs
    · rcases List.mem_cons.1 hs with rfl | hs
      · exact List.prefix_rfl
      · obtain ⟨k, -, hk⟩ := place_prefix_of_mem_spotsAmong hs
        exact (List.prefix_append place [k]).trans hk
    · simp at hs

theorem place_prefix_of_mem_spotsAmong {place : Place} {first : Nat}
    {around : List (Place × Node)} :
    ∀ {children : List Node} {s : Spot}, s ∈ spotsAmong place first around children →
      ∃ k ≥ first, place ++ [k] <+: s.place
  | [], s, hs => by simp [spotsAmong] at hs
  | child :: rest, s, hs => by
    unfold spotsAmong at hs
    rcases List.mem_append.1 hs with hs | hs
    · exact ⟨first, le_rfl, Node.place_prefix_of_mem_spotsFrom hs⟩
    · obtain ⟨k, hk, hpre⟩ := place_prefix_of_mem_spotsAmong hs
      exact ⟨k, by omega, hpre⟩

end

/-- Places below different children of a node are different. -/
theorem place_ne_of_prefix {place p q : Place} {j k : Nat} (hjk : j < k) (hp : place ++ [j] <+: p)
    (hq : place ++ [k] <+: q) : p ≠ q := by
  rintro rfl
  have hsame := (List.prefix_of_prefix_length_le hp hq (by simp)).eq_of_length (by simp)
  simp at hsame
  omega

mutual

theorem Node.spotsFrom_places_nodup (place : Place) (around : List (Place × Node)) :
    ∀ n : Node, ((n.spotsFrom place around).map Spot.place).Nodup
  | .mk label children => by
    unfold Node.spotsFrom
    split
    · rw [List.map_cons, List.nodup_cons]
      refine ⟨?_, spotsAmong_places_nodup place 0 _ children⟩
      intro hmem
      obtain ⟨s, hs, hplace⟩ := List.mem_map.1 hmem
      obtain ⟨k, -, hk⟩ := place_prefix_of_mem_spotsAmong hs
      have hlen := hk.length_le
      simp only [hplace, List.length_append, List.length_singleton] at hlen
      omega
    · simp

theorem spotsAmong_places_nodup (place : Place) (first : Nat) (around : List (Place × Node)) :
    ∀ children : List Node, ((spotsAmong place first around children).map Spot.place).Nodup
  | [] => by simp [spotsAmong]
  | child :: rest => by
    rw [spotsAmong, List.map_append, List.nodup_append]
    refine ⟨Node.spotsFrom_places_nodup _ _ child,
      spotsAmong_places_nodup place (first + 1) around rest, ?_⟩
    intro p hp q hq
    obtain ⟨s, hs, rfl⟩ := List.mem_map.1 hp
    obtain ⟨s', hs', rfl⟩ := List.mem_map.1 hq
    obtain ⟨k, hk, hpre⟩ := place_prefix_of_mem_spotsAmong hs'
    exact place_ne_of_prefix (by omega) (Node.place_prefix_of_mem_spotsFrom hs) hpre

end

/-- What a survey of the given spots leaves: a table that represents them too, and their calls, each
with the position of the scope around it. -/
structure Surveyed (r : ScopeTable Node × List CallSite) (chains : List Chain)
    (known : List Declaration) (spots : List Spot) : Prop where
  represents : Represents r.1 (chains ++ spots.filterMap Spot.opened)
    (known ++ spots.flatMap Spot.declarations)
  sites : List.Forall₂ (fun s site => CallSite.TellsOf site s ∧
    ∃ j : Nat, site.scope = j ∧ (chains ++ spots.filterMap Spot.opened)[j]? = some s.scopes)
    (spots.filter Spot.isCall) r.2

theorem callSite?_tellsOf (s : Spot) (scope : Int) :
    List.Forall₂ (fun s' site => s' = s ∧ CallSite.TellsOf site s ∧ site.scope = scope)
      ([s].filter Spot.isCall) (callSite? scope s.node).toList := by
  unfold callSite?
  by_cases hkind : s.node.kind = "call_expression"
  · cases hcallee : s.node.role? "function" with
    | none => simp [Spot.isCall, hcallee]
    | some callee =>
      cases harguments : s.node.role? "arguments" with
      | none => simp [Spot.isCall, harguments]
      | some arguments =>
        by_cases hlist : arguments.kind = "arguments"
        · have htells : CallSite.TellsOf
              { callee := callee
                arguments := arguments.namedChildren.filter fun a => a.kind != "comment"
                scope := scope
                line := s.node.line } s := ⟨hcallee, by simp [harguments], rfl⟩
          simpa [Spot.isCall, hkind, hcallee, harguments, hlist] using htells
        · simp [Spot.isCall, harguments, hlist]
  · simp [Spot.isCall, hkind]

theorem Spot.filterMap_opened_singleton (s : Spot) :
    [s].filterMap Spot.opened = s.opened.toList := by
  cases hs : s.opened <;> simp [hs]

theorem Surveyed.single {t : ScopeTable Node} {chains : List Chain} {known : List Declaration}
    {i : Nat} (s : Spot) (h : Represents t chains known) (hi : chains[i]? = some s.scopes)
    (hfresh : some s.place ∉ chains.map Chain.home) :
    Surveyed ((t.enter s.parent i s.node).1, (callSite? i s.node).toList) chains known [s] where
  represents := by
    rw [s.filterMap_opened_singleton]
    simpa using (h.enter s hi hfresh).represents
  sites := by
    refine (callSite?_tellsOf s i).imp ?_
    rintro _ site ⟨rfl, htells, hscope⟩
    refine ⟨htells, i, hscope, ?_⟩
    rw [List.getElem?_append_left (List.getElem?_eq_some_iff.1 hi).1]
    exact hi

theorem Surveyed.append {t : ScopeTable Node} {chains : List Chain} {known : List Declaration}
    {spots more : List Spot} {here after : List CallSite} {t' : ScopeTable Node}
    (h : Surveyed (t, here) chains known spots)
    (h' : Surveyed (t', after) (chains ++ spots.filterMap Spot.opened)
      (known ++ spots.flatMap Spot.declarations) more) :
    Surveyed (t', here ++ after) chains known (spots ++ more) where
  represents := by simpa using h'.represents
  sites := by
    rw [List.filter_append]
    refine List.rel_append (h.sites.imp ?_) (by simpa using h'.sites)
    rintro s site ⟨htells, j, hscope, hj⟩
    refine ⟨htells, j, hscope, ?_⟩
    rw [List.filterMap_append, ← List.append_assoc,
      List.getElem?_append_left (List.getElem?_eq_some_iff.1 hj).1]
    exact hj

/-- A place that is new stays new while other places are surveyed. -/
theorem fresh_append {chains : List Chain} {spots more : List Spot}
    (hfresh : ∀ s ∈ spots ++ more, some s.place ∉ chains.map Chain.home)
    (hnodup : ((spots ++ more).map Spot.place).Nodup) :
    ∀ s ∈ more, some s.place ∉ (chains ++ spots.filterMap Spot.opened).map Chain.home := by
  intro s hs hmem
  rw [List.map_append, List.mem_append] at hmem
  rcases hmem with hmem | hmem
  · exact hfresh s (List.mem_append_right _ hs) hmem
  · obtain ⟨chain, hchain, hhome⟩ := List.mem_map.1 hmem
    obtain ⟨s', hs', hopened⟩ := List.mem_filterMap.1 hchain
    have hplace : s'.place = s.place := by
      unfold Spot.opened at hopened
      split at hopened
      · cases hopened
        exact Option.some.inj hhome
      · cases hopened
    rw [List.map_append, List.nodup_append] at hnodup
    exact hnodup.2.2 _ (List.mem_map_of_mem hs') _ (List.mem_map_of_mem hs) hplace

mutual

/-- Surveying a tree adds its scopes and declarations in pre-order and finds its calls. -/
theorem Node.survey_spotsFrom {chains : List Chain} {known : List Declaration} {t : ScopeTable Node}
    {i : Nat} {place : Place} {around : List (Place × Node)} (h : Represents t chains known)
    (hi : chains[i]? = some (scopeNodes around)) :
    ∀ n : Node, (∀ s ∈ n.spotsFrom place around, some s.place ∉ chains.map Chain.home) →
      Surveyed (n.survey (around.head?.map Prod.snd) i t) chains known (n.spotsFrom place around)
  | .mk label children, hfresh => by
    cases hnamed : label.named with
    | false =>
      unfold Node.survey Node.spotsFrom
      simp only [hnamed]
      exact ⟨by simpa using h, by simp⟩
    | true =>
      have hspots : (Node.mk label children).spotsFrom place around =
          [⟨place, .mk label children, around⟩] ++
            spotsAmong place 0 ((place, .mk label children) :: around) children := by
        simp [Node.spotsFrom, hnamed]
      have hnodup := Node.spotsFrom_places_nodup place around (.mk label children)
      rw [hspots] at hfresh hnodup ⊢
      have hhead := hfresh ⟨place, .mk label children, around⟩ (by simp)
      have hone := Surveyed.single ⟨place, .mk label children, around⟩ h hi hhead
      obtain ⟨j, hj, hinner⟩ := (h.enter ⟨place, .mk label children, around⟩ hi hhead).inner_at
      rw [← Spot.filterMap_opened_singleton] at hinner
      have hbelow :=
        surveyAll_spotsAmong hone.represents hinner children 0 (fresh_append hfresh hnodup)
      have hsurvey : (Node.mk label children).survey (around.head?.map Prod.snd) i t =
          ((surveyAll (.mk label children) j (t.enter (around.head?.map Prod.snd) i (.mk label children)).1 children).1,
            (callSite? i (.mk label children)).toList ++
              (surveyAll (.mk label children) j
                (t.enter (around.head?.map Prod.snd) i (.mk label children)).1 children).2) := by
        rw [Node.survey, ← hj]
        simp only [hnamed, ite_true]
        rfl
      rw [hsurvey]
      exact hone.append hbelow

theorem surveyAll_spotsAmong {chains : List Chain} {known : List Declaration} {t : ScopeTable Node}
    {i : Nat}
    {place : Place} {parent : Node} {outer : List (Place × Node)} (h : Represents t chains known)
    (hi : chains[i]? = some (scopeNodes ((place, parent) :: outer))) :
    ∀ (children : List Node) (first : Nat),
      (∀ s ∈ spotsAmong place first ((place, parent) :: outer) children,
        some s.place ∉ chains.map Chain.home) →
      Surveyed (surveyAll parent i t children) chains known
        (spotsAmong place first ((place, parent) :: outer) children)
  | [], first, _ => by
    unfold surveyAll spotsAmong
    exact ⟨by simpa using h, by simp⟩
  | child :: rest, first, hfresh => by
    have hnodup := spotsAmong_places_nodup place first ((place, parent) :: outer) (child :: rest)
    rw [spotsAmong] at hfresh hnodup ⊢
    have hchild := Node.survey_spotsFrom h hi child fun s hs => hfresh s (List.mem_append_left _ hs)
    have hinner : (chains ++ (child.spotsFrom (place ++ [first])
          ((place, parent) :: outer)).filterMap Spot.opened)[i]? =
        some (scopeNodes ((place, parent) :: outer)) := by
      rw [List.getElem?_append_left (List.getElem?_eq_some_iff.1 hi).1]
      exact hi
    have hrest :=
      surveyAll_spotsAmong hchild.represents hinner rest (first + 1) (fresh_append hfresh hnodup)
    rw [surveyAll]
    exact hchild.append hrest

end

/-- The whole survey of a program represents all its scopes and declarations. -/
theorem Node.callSites_surveyed (root : Node) : Surveyed root.callSites [[]] [] root.spots := by
  have hprogram : ([[]] : List Chain)[0]? = some (scopeNodes []) := rfl
  refine Node.survey_spotsFrom .start hprogram root ?_
  intro s _
  simp [Chain.home]

theorem Spot.findSome?_homes {β : Type} (s : Spot) (f : Home → Option β) :
    s.homes.findSome? f = s.scopes.tails.findSome? fun chain => f (Chain.home chain) := by
  unfold Spot.homes
  induction s.scopes with
  | nil => rfl
  | cons scope outer ih =>
    simp only [List.map_cons, List.cons_append, List.findSome?_cons, List.tails_cons, ih]
    rfl

/-- Every name looked up from a call site has its meaning at the spot of the call: of the scopes
around the call, the nearest that declares the name at all, and there the first declaration in
pre-order.  The call sites are those of the calls of the tree, in pre-order.  They are not found
where a pattern goes deeper than calls can be nested. -/
theorem Node.lookup_callSites (root : Node) :
    List.Forall₂ (fun s site => CallSite.TellsOf site s ∧
        ∀ name, root.callSites.1.lookup site.scope name = .ok (root.meaning? s name))
      (root.spots.filter Spot.isCall) root.callSites.2 ∧
    ∀ limit, root.callSitesWithin limit =
      if root.HoldsDeepPattern limit then .error .tooDeep else .ok root.callSites := by
  have hsurveyed := root.callSites_surveyed
  refine ⟨hsurveyed.sites.imp ?_, fun limit => root.callSitesWithin_eq limit⟩
  rintro s site ⟨htells, j, hscope, hj⟩
  refine ⟨htells, fun name => ?_⟩
  rw [hscope, hsurveyed.represents.lookup_eq hj, Node.meaning?, s.findSome?_homes]
  rfl

end RouteCensus
