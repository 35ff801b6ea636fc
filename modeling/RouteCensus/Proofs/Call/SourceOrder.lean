import RouteCensus.Call.Nesting
import RouteCensus.Proofs.Expr.Template
import RouteCensus.Proofs.Scope.Resolution

/-! # Calls are found once and in source order

A place in a tree is the list of child numbers on the way to it, and pre-order is
the lexicographic order of places.  The call sites of a program are those of the
calls that are reached through named nodes, in this order, and every call gives
at most one observation.  Where the spans of children lie in order inside the
span of their parent, pre-order is the order of first bytes, so that the lines of
the observations never decrease.
-/

namespace RouteCensus

/-- A node is reached from another through named nodes, at the given place. -/
inductive Node.Reaches : Node → Place → Node → Prop where
  | here {n : Node} (named : n.named = true) : Reaches n [] n
  | down {n child m : Node} {k : Nat} {place : Place} (named : n.named = true)
    (nth : n.children[k]? = some child) (h : Reaches child place m) : Reaches n (k :: place) m

/-- A call with a callee and a list of arguments. -/
def Node.IsCall (n : Node) : Prop :=
  n.kind = "call_expression" ∧ (∃ callee, n.role? "function" = some callee) ∧
    ∃ arguments, n.role? "arguments" = some arguments ∧ arguments.kind = "arguments"

theorem Spot.isCall_iff (s : Spot) : s.isCall = true ↔ s.node.IsCall := by
  simp only [Spot.isCall, Node.IsCall, Bool.and_eq_true, beq_iff_eq, and_assoc,
    Option.isSome_iff_exists, Option.any_eq_true]

mutual

/-- The spots of a tree are the nodes that are reached in it. -/
theorem Node.mem_spotsFrom_iff (around : List (Place × Node)) (m : Node) :
    ∀ (n : Node) (place rest : Place),
      (∃ s ∈ n.spotsFrom place around, s.place = place ++ rest ∧ s.node = m) ↔ n.Reaches rest m
  | .mk label children, place, rest => by
    cases hnamed : label.named with
    | false =>
      have hnone : (Node.mk label children).spotsFrom place around = [] := by
        simp [Node.spotsFrom, hnamed]
      rw [hnone]
      constructor
      · rintro ⟨s, hs, -⟩
        cases hs
      · intro h
        have hnot : (Node.mk label children).named = false := hnamed
        cases h with
        | here named => rw [hnot] at named; cases named
        | down named => rw [hnot] at named; cases named
    | true =>
      have hspots : (Node.mk label children).spotsFrom place around =
          ⟨place, .mk label children, around⟩ ::
            spotsAmong place 0 ((place, .mk label children) :: around) children := by
        simp [Node.spotsFrom, hnamed]
      rw [hspots]
      cases rest with
      | nil =>
        constructor
        · rintro ⟨s, hs, hplace, rfl⟩
          rcases List.mem_cons.1 hs with rfl | hs
          · exact .here hnamed
          · obtain ⟨k, -, hk⟩ := place_prefix_of_mem_spotsAmong hs
            have hlength := hk.length_le
            rw [hplace, List.length_append, List.length_append] at hlength
            simp only [List.length_singleton, List.length_nil] at hlength
            omega
        · intro h
          cases h
          exact ⟨_, List.mem_cons_self, by simp, rfl⟩
      | cons k rest =>
        have hbelow := mem_spotsAmong_iff ((place, .mk label children) :: around) m
          children place 0 k rest
        constructor
        · rintro ⟨s, hs, hplace, hnode⟩
          rcases List.mem_cons.1 hs with rfl | hs
          · simp at hplace
          · obtain ⟨i, child, hi, hchild, h⟩ := hbelow.1 ⟨s, hs, hplace, hnode⟩
            rw [Nat.zero_add] at hi
            exact .down hnamed (hi ▸ hchild) h
        · intro h
          cases h with
          | down named nth h =>
            obtain ⟨s, hs, hs'⟩ := hbelow.2 ⟨k, _, (Nat.zero_add k).symm, nth, h⟩
            exact ⟨s, List.mem_cons_of_mem _ hs, hs'⟩

theorem mem_spotsAmong_iff (around : List (Place × Node)) (m : Node) :
    ∀ (children : List Node) (place : Place) (first k : Nat) (rest : Place),
      (∃ s ∈ spotsAmong place first around children, s.place = place ++ k :: rest ∧ s.node = m) ↔
        ∃ i child, k = first + i ∧ children[i]? = some child ∧ child.Reaches rest m
  | [], place, first, k, rest => by simp [spotsAmong]
  | child :: others, place, first, k, rest => by
    have hhead := Node.mem_spotsFrom_iff around m child (place ++ [first]) rest
    have htail := mem_spotsAmong_iff around m others place (first + 1) k rest
    rw [spotsAmong]
    constructor
    · rintro ⟨s, hs, hplace, hnode⟩
      rcases List.mem_append.1 hs with hs | hs
      · -- The spot lies below this child, so the next number on its way is the child's.
        obtain ⟨tail, htail⟩ := Node.place_prefix_of_mem_spotsFrom hs
        rw [hplace, List.append_assoc, List.append_cancel_left_eq, List.singleton_append,
          List.cons.injEq] at htail
        obtain ⟨rfl, rfl⟩ := htail
        refine ⟨0, child, rfl, rfl, hhead.1 ⟨s, hs, ?_, hnode⟩⟩
        rw [hplace, List.append_assoc, List.singleton_append]
      · obtain ⟨i, c, hi, hc, h⟩ := htail.1 ⟨s, hs, hplace, hnode⟩
        exact ⟨i + 1, c, by omega, hc, h⟩
    · rintro ⟨i, c, hi, hc, h⟩
      cases i with
      | zero =>
        obtain rfl : child = c := Option.some.inj hc
        obtain ⟨s, hs, hplace, hnode⟩ := hhead.2 h
        refine ⟨s, List.mem_append_left _ hs, ?_, hnode⟩
        rw [hplace, hi, List.append_assoc, List.singleton_append, Nat.add_zero]
      | succ i =>
        obtain ⟨s, hs, hs'⟩ := htail.2 ⟨i, c, by omega, hc, h⟩
        exact ⟨s, List.mem_append_right _ hs, hs'⟩

end

/-- Of two nodes below different children of a node, the one below the earlier child comes first. -/
theorem place_lt_of_prefix {place p q : Place} {j k : Nat} (hjk : j < k) (hp : place ++ [j] <+: p)
    (hq : place ++ [k] <+: q) : p < q := by
  obtain ⟨p', rfl⟩ := hp
  obtain ⟨q', rfl⟩ := hq
  rw [List.append_assoc, List.append_assoc]
  exact List.append_left_lt (List.cons_lt_cons_iff.2 (.inl hjk))

theorem lt_of_concat_prefix {place q : Place} {k : Nat} (hq : place ++ [k] <+: q) : place < q := by
  obtain ⟨q', rfl⟩ := hq
  have h : place ++ [] < place ++ ([k] ++ q') := List.append_left_lt (List.nil_lt_cons k q')
  rwa [List.append_nil, ← List.append_assoc] at h

mutual

theorem Node.spotsFrom_pairwise_lt (place : Place) (around : List (Place × Node)) :
    ∀ n : Node, (n.spotsFrom place around).Pairwise fun s s' => s.place < s'.place
  | .mk label children => by
    unfold Node.spotsFrom
    split
    · refine List.pairwise_cons.2 ⟨?_, spotsAmong_pairwise_lt place 0 _ children⟩
      intro s hs
      obtain ⟨k, -, hk⟩ := place_prefix_of_mem_spotsAmong hs
      exact lt_of_concat_prefix hk
    · exact List.Pairwise.nil

theorem spotsAmong_pairwise_lt (place : Place) (first : Nat) (around : List (Place × Node)) :
    ∀ children : List Node,
      (spotsAmong place first around children).Pairwise fun s s' => s.place < s'.place
  | [] => by
    rw [spotsAmong]
    exact List.Pairwise.nil
  | child :: rest => by
    rw [spotsAmong, List.pairwise_append]
    refine ⟨Node.spotsFrom_pairwise_lt _ _ child,
      spotsAmong_pairwise_lt place (first + 1) around rest, ?_⟩
    intro s hs s' hs'
    obtain ⟨k, hk, hpre⟩ := place_prefix_of_mem_spotsAmong hs'
    exact place_lt_of_prefix (by omega) (Node.place_prefix_of_mem_spotsFrom hs) hpre

end

/-- The line of a node is that of its first byte, and the spans of its children lie in order inside
its own. -/
def Node.Placed (source : List UInt8) (n : Node) : Prop :=
  n.label.row = (source.take n.label.start).count 0x0A ∧
    Ordered n.label.start n.label.stop n.children

instance (source : List UInt8) (n : Node) : Decidable (n.Placed source) :=
  inferInstanceAs (Decidable (_ ∧ _))

mutual

/-- The spans of all nodes of a tree lie inside the span of its root. -/
theorem Node.within_of_mem_spotsFrom {source : List UInt8} {place : Place}
    {around : List (Place × Node)} : ∀ {n : Node}, n.Every (Node.Placed source) →
      ∀ s ∈ n.spotsFrom place around, n.label.start ≤ s.node.label.start ∧
        s.node.label.start ≤ s.node.label.stop ∧ s.node.label.stop ≤ n.label.stop
  | .mk label children, h, s, hs => by
    unfold Node.spotsFrom at hs
    split at hs
    · rcases List.mem_cons.1 hs with rfl | hs
      · exact ⟨Nat.le_refl _, h.self.2.le, Nat.le_refl _⟩
      · exact within_of_mem_spotsAmong (fun child hchild => h.child hchild) h.self.2 s hs
    · cases hs

theorem within_of_mem_spotsAmong {source : List UInt8} {place : Place} {number : Nat}
    {around : List (Place × Node)} {first last : Nat} :
    ∀ {children : List Node}, (∀ child ∈ children, child.Every (Node.Placed source)) →
      Ordered first last children →
        ∀ s ∈ spotsAmong place number around children, first ≤ s.node.label.start ∧
          s.node.label.start ≤ s.node.label.stop ∧ s.node.label.stop ≤ last
  | [], _, _, s, hs => by
    rw [spotsAmong] at hs
    cases hs
  | child :: rest, h, hordered, s, hs => by
    obtain ⟨hfirst, hspan, hrest⟩ := hordered
    rw [spotsAmong, List.mem_append] at hs
    rcases hs with hs | hs
    · have hwithin := Node.within_of_mem_spotsFrom (h child List.mem_cons_self) s hs
      have hlast := hrest.le
      omega
    · have hwithin := within_of_mem_spotsAmong
        (fun c hc => h c (List.mem_cons_of_mem child hc)) hrest s hs
      omega

end

mutual

/-- In pre-order the first bytes of the nodes never go back. -/
theorem Node.spotsFrom_pairwise_start {source : List UInt8} (place : Place)
    (around : List (Place × Node)) : ∀ n : Node, n.Every (Node.Placed source) →
      (n.spotsFrom place around).Pairwise fun s s' => s.node.label.start ≤ s'.node.label.start
  | .mk label children, h => by
    have hchildren := fun child (hchild : child ∈ children) => h.child hchild
    unfold Node.spotsFrom
    split
    · refine List.pairwise_cons.2
        ⟨?_, spotsAmong_pairwise_start place 0 _ children hchildren h.self.2⟩
      intro s hs
      exact (within_of_mem_spotsAmong hchildren h.self.2 s hs).1
    · exact List.Pairwise.nil

theorem spotsAmong_pairwise_start {source : List UInt8} (place : Place) (number : Nat)
    (around : List (Place × Node)) {first last : Nat} :
    ∀ children : List Node, (∀ child ∈ children, child.Every (Node.Placed source)) →
      Ordered first last children → (spotsAmong place number around children).Pairwise
        fun s s' => s.node.label.start ≤ s'.node.label.start
  | [], _, _ => by
    rw [spotsAmong]
    exact List.Pairwise.nil
  | child :: rest, h, hordered => by
    have hothers := fun c (hc : c ∈ rest) => h c (List.mem_cons_of_mem child hc)
    rw [spotsAmong, List.pairwise_append]
    refine ⟨Node.spotsFrom_pairwise_start _ _ child (h child List.mem_cons_self),
      spotsAmong_pairwise_start place (number + 1) around rest hothers hordered.2.2, ?_⟩
    intro s hs s' hs'
    have hbefore := Node.within_of_mem_spotsFrom (h child List.mem_cons_self) s hs
    have hafter := within_of_mem_spotsAmong hothers hordered.2.2 s' hs'
    omega

end

mutual

theorem Node.every_of_mem_spotsFrom {P : Node → Prop} {place : Place}
    {around : List (Place × Node)} : ∀ {n : Node}, n.Every P →
      ∀ s ∈ n.spotsFrom place around, s.node.Every P
  | .mk label children, h, s, hs => by
    unfold Node.spotsFrom at hs
    split at hs
    · rcases List.mem_cons.1 hs with rfl | hs
      · exact h
      · exact every_of_mem_spotsAmong (fun child hchild => h.child hchild) s hs
    · cases hs

theorem every_of_mem_spotsAmong {P : Node → Prop} {place : Place} {number : Nat}
    {around : List (Place × Node)} : ∀ {children : List Node},
      (∀ child ∈ children, child.Every P) →
        ∀ s ∈ spotsAmong place number around children, s.node.Every P
  | [], _, s, hs => by
    rw [spotsAmong] at hs
    cases hs
  | child :: rest, h, s, hs => by
    rw [spotsAmong, List.mem_append] at hs
    rcases hs with hs | hs
    · exact Node.every_of_mem_spotsFrom (h child List.mem_cons_self) s hs
    · exact every_of_mem_spotsAmong (fun c hc => h c (List.mem_cons_of_mem child hc)) s hs

end

/-- In pre-order the lines of the nodes never go back. -/
theorem Node.spots_pairwise_line {source : List UInt8} {root : Node}
    (h : root.Every (Node.Placed source)) :
    root.spots.Pairwise fun s s' => s.node.line ≤ s'.node.line := by
  refine (Node.spotsFrom_pairwise_start [] [] root h).imp_of_mem ?_
  intro s s' hs hs' hstart
  rw [Node.line, Node.line, (Node.every_of_mem_spotsFrom h s hs).self.1,
    (Node.every_of_mem_spotsFrom h s' hs').self.1]
  exact Nat.succ_le_succ ((List.take_sublist_take_left hstart).count_le _)

/-- The line of an observation is that of its call. -/
theorem CallSite.line_of_observation? {resolve : Resolver} {site : CallSite} {o : Observation}
    (h : site.observation? resolve = some o) : o.line = site.line := by
  unfold CallSite.observation? at h
  split at h
  · next call hfetch =>
    obtain rfl := Option.some.inj h
    unfold fetchCall? at hfetch
    split at hfetch
    · split at hfetch
      · cases hfetch
      · obtain ⟨url, -, rfl⟩ := Option.map_eq_some_iff.1 hfetch
        rfl
    · cases hfetch
  · unfold clientCall? at h
    split at h
    · obtain ⟨url, -, rfl⟩ := Option.map_eq_some_iff.1 h
      rfl
    · cases h

/-- A call of a program: where it stands, its call site, and the HTTP call that it is, if any. -/
structure FoundCall where
  spot : Spot
  site : CallSite
  observation : Option Observation

/-- Whether the URL of a call goes deeper than `limit`. -/
def FoundCall.hasDeepUrl (limit : Nat) (table : ScopeTable Node) (c : FoundCall) : Bool :=
  c.site.target?.any fun target => target.hasDeepUrl limit (table.initOf c.site.scope)

/-- The calls of a program with what was found at each of them. -/
def Node.foundCalls (root : Node) : List FoundCall :=
  ((root.spots.filter Spot.isCall).zip root.callSites.2).map fun (spot, site) =>
    { spot, site, observation := site.observation? (root.callSites.1.initOf site.scope) }

namespace Node

variable (root : Node)

theorem length_calls : (root.spots.filter Spot.isCall).length = root.callSites.2.length :=
  root.callSites_surveyed.sites.length_eq

theorem map_spot_foundCalls :
    root.foundCalls.map FoundCall.spot = root.spots.filter Spot.isCall := by
  rw [foundCalls, List.map_map]
  exact List.map_fst_zip root.length_calls.le

theorem map_site_foundCalls : root.foundCalls.map FoundCall.site = root.callSites.2 := by
  rw [foundCalls, List.map_map]
  exact List.map_snd_zip root.length_calls.ge

theorem observation_of_foundCalls {c : FoundCall} (hc : c ∈ root.foundCalls) :
    c.observation = c.site.observation? (root.callSites.1.initOf c.site.scope) := by
  obtain ⟨⟨spot, site⟩, -, rfl⟩ := List.mem_map.1 hc
  rfl

theorem filterMap_observation_foundCalls :
    root.foundCalls.filterMap FoundCall.observation = root.observations := by
  have hobservations : root.observations = root.callSites.2.filterMap fun site =>
      site.observation? (root.callSites.1.initOf site.scope) := rfl
  rw [hobservations, ← root.map_site_foundCalls, List.filterMap_map]
  apply List.filterMap_congr
  intro c hc
  exact root.observation_of_foundCalls hc

theorem foundCalls_tellsOf {c : FoundCall} (hc : c ∈ root.foundCalls) :
    c.site.TellsOf c.spot := by
  obtain ⟨⟨spot, site⟩, hmem, rfl⟩ := List.mem_map.1 hc
  exact ((List.forall₂_iff_zip.1 root.callSites_surveyed.sites).2 hmem).1

theorem line_of_foundCalls {c : FoundCall} (hc : c ∈ root.foundCalls) {o : Observation}
    (ho : c.observation = some o) : o.line = c.spot.node.line := by
  rw [root.observation_of_foundCalls hc] at ho
  rw [CallSite.line_of_observation? ho, (root.foundCalls_tellsOf hc).line]

theorem exists_mem_spots_iff (place : Place) (n : Node) :
    (∃ s ∈ root.spots, s.place = place ∧ s.node = n) ↔ root.Reaches place n :=
  mem_spotsFrom_iff [] n root [] place

theorem holdsDeepPattern_iff_reaches (limit : Nat) :
    root.HoldsDeepPattern limit ↔
      ∃ place n, root.Reaches place n ∧ ∃ p ∈ n.patterns, limit < p.patternDepth := by
  constructor
  · rintro ⟨s, hs, hpattern⟩
    exact ⟨s.place, s.node, (root.exists_mem_spots_iff _ _).1 ⟨s, hs, rfl, rfl⟩, hpattern⟩
  · rintro ⟨place, n, hreaches, hpattern⟩
    obtain ⟨s, hs, -, rfl⟩ := (root.exists_mem_spots_iff place n).2 hreaches
    exact ⟨s, hs, hpattern⟩

theorem tooDeep_iff_foundCalls (limit : Nat) :
    root.tooDeep limit = true ↔ root.HoldsDeepPattern limit ∨
      ∃ c ∈ root.foundCalls, c.hasDeepUrl limit root.callSites.1 = true := by
  rw [tooDeep, Bool.or_eq_true, root.hasDeepPattern_iff, ← root.map_site_foundCalls, List.any_map,
    List.any_eq_true]
  rfl

/-- The call sites of a program are those of the calls that are reached through named nodes, each of
them once and in pre-order, and the observations are what these calls give, one after the other.
In a tree that is placed on a source, the lines of the observations never decrease.  The call sites
are not found where a pattern goes deeper than calls can be nested, nor are the observations where the
URL of a call does. -/
theorem observations_in_preorder :
    ∃ calls : List FoundCall,
      (∀ place n, (∃ c ∈ calls, c.spot.place = place ∧ c.spot.node = n) ↔
        root.Reaches place n ∧ n.IsCall) ∧
      (calls.Pairwise fun c c' => c.spot.place < c'.spot.place) ∧
      calls.map FoundCall.site = root.callSites.2 ∧
      calls.filterMap FoundCall.observation = root.observations ∧
      (∀ c ∈ calls, c.site.TellsOf c.spot ∧
        c.observation = c.site.observation? (root.callSites.1.initOf c.site.scope)) ∧
      (∀ source, root.Every (Placed source) →
        root.observations.Pairwise fun o o' => o.line ≤ o'.line) ∧
      ∀ limit,
        (root.HoldsDeepPattern limit ↔
          ∃ place n, root.Reaches place n ∧ ∃ p ∈ n.patterns, limit < p.patternDepth) ∧
        (root.callSitesWithin limit =
          if root.HoldsDeepPattern limit then .error .tooDeep else .ok root.callSites) ∧
        root.observationsWithin limit =
          if root.HoldsDeepPattern limit ∨
              ∃ c ∈ calls, c.hasDeepUrl limit root.callSites.1 = true then .error .tooDeep
          else .ok root.observations := by
  refine ⟨root.foundCalls, ?_, ?_, root.map_site_foundCalls,
    root.filterMap_observation_foundCalls, ?_, ?_, fun limit => ⟨?_, ?_, ?_⟩⟩
  · intro place n
    rw [← root.exists_mem_spots_iff]
    constructor
    · rintro ⟨c, hc, rfl, rfl⟩
      have hspot : c.spot ∈ root.spots.filter Spot.isCall :=
        root.map_spot_foundCalls ▸ List.mem_map_of_mem hc
      rw [List.mem_filter, Spot.isCall_iff] at hspot
      exact ⟨⟨c.spot, hspot.1, rfl, rfl⟩, hspot.2⟩
    · rintro ⟨⟨s, hs, rfl, rfl⟩, hcall⟩
      have hspot : s ∈ root.foundCalls.map FoundCall.spot := by
        rw [root.map_spot_foundCalls]
        exact List.mem_filter.2 ⟨hs, s.isCall_iff.2 hcall⟩
      obtain ⟨c, hc, rfl⟩ := List.mem_map.1 hspot
      exact ⟨c, hc, rfl, rfl⟩
  · rw [← List.pairwise_map (f := FoundCall.spot) (R := fun s s' => s.place < s'.place),
      root.map_spot_foundCalls]
    exact (spotsFrom_pairwise_lt [] [] root).filter _
  · intro c hc
    exact ⟨root.foundCalls_tellsOf hc, root.observation_of_foundCalls hc⟩
  · intro source hplaced
    have hlines : root.foundCalls.Pairwise fun c c' => c.spot.node.line ≤ c'.spot.node.line := by
      rw [← List.pairwise_map (f := FoundCall.spot) (R := fun s s' => s.node.line ≤ s'.node.line),
        root.map_spot_foundCalls]
      exact (spots_pairwise_line hplaced).filter _
    rw [← root.filterMap_observation_foundCalls, List.pairwise_filterMap]
    refine hlines.imp_of_mem ?_
    intro c c' hc hc' hle o ho o' ho'
    rw [root.line_of_foundCalls hc ho, root.line_of_foundCalls hc' ho']
    exact Int.ofNat_le.2 hle
  · exact root.holdsDeepPattern_iff_reaches limit
  · exact root.callSitesWithin_eq limit
  · rw [observationsWithin]
    simp only [root.tooDeep_iff_foundCalls limit]

/-- A call in the arguments of another, on the line after it. -/
def nestedSource : String := "fetch('/a',\nb.get('/c'))"

def nestedCalls : Node :=
  let source := Text.Utf8.encode nestedSource.toList
  let node kind field start stop children :=
    Node.mk { kind, field, start, stop, row := (source.take start).count 0x0A
              bytes := (source.take stop).drop start } children
  let string start stop :=
    node "string" none start stop [node "string_fragment" none (start + 1) (stop - 1) []]
  node "program" none 0 25 [node "call_expression" none 0 25
    [node "identifier" (some "function") 0 5 [],
      node "arguments" (some "arguments") 5 25 [string 6 10,
        node "call_expression" none 12 24
          [node "member_expression" (some "function") 12 17
            [node "identifier" (some "object") 12 13 [],
              node "property_identifier" (some "property") 14 17 []],
            node "arguments" (some "arguments") 17 24 [string 18 22]]]]]

theorem observations_nestedCalls :
    nestedCalls.Every (Placed (Text.Utf8.encode nestedSource.toList)) ∧
      nestedCalls.observations.map (fun o => (o.url, o.line)) = [("/a", 1), ("/c", 2)] ∧
      nestedCalls.observations.Pairwise fun o o' => o.line ≤ o'.line := by
  have hplaced : nestedCalls.Every (Placed (Text.Utf8.encode nestedSource.toList)) := by
    decide +kernel
  obtain ⟨_, _, _, _, _, _, hlines, -⟩ := nestedCalls.observations_in_preorder
  exact ⟨hplaced, by decide +kernel, hlines _ hplaced⟩

end Node

end RouteCensus
