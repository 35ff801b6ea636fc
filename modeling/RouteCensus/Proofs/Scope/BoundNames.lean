import RouteCensus.Json.Reader
import RouteCensus.Proofs.Call.Likeness

/-! # The names that a pattern binds

Binding patterns have a grammar of their own: names, objects and arrays of patterns
with keys, holes and a rest, defaults, and parameters with a type.  What a pattern
binds is read from its tree in source order, and nothing is read from a key, a
default, a type or a comment.  Each name is taken as it is spelled, so an escape in
it stays, and the name `undefined` is passed over where the parser takes it for a
value.  But for these two the names that are read are those that the pattern binds.
-/

namespace RouteCensus

/-- The number that hexadecimal digits stand for. -/
def hexNumber? (digits : List Char) : Option Nat :=
  digits.foldlM (fun n d => (Json.hexDigit? d).map (16 * n + ·)) 0

/-- How a character of a name is written: by itself, or as `\uXXXX` or `\u{X…}`. -/
inductive NameUnit where
  | plain (c : Char) (h : c ≠ '\\')
  | escape (c : Char) (digits : List Char) (h : hexNumber? digits = some c.toNat)
    (hlength : digits.length = 4)
  | longEscape (c : Char) (digits : List Char) (h : hexNumber? digits = some c.toNat)

namespace NameUnit

def spelling : NameUnit → List Char
  | plain c _ => [c]
  | escape _ digits _ _ => '\\' :: 'u' :: digits
  | longEscape _ digits _ => '\\' :: 'u' :: '{' :: (digits ++ ['}'])

def char : NameUnit → Char
  | plain c _ => c
  | escape c _ _ _ => c
  | longEscape c _ _ => c

def isPlain : NameUnit → Bool
  | plain _ _ => true
  | escape _ _ _ _ => false
  | longEscape _ _ _ => false

end NameUnit

/-- A name in a binding position.  For `undefined` the parser has a kind of node of its own, which
it uses wherever the grammar of values has a name. -/
inductive BindingName where
  | written (units : List NameUnit)
  | undefined

namespace BindingName

/-- The name itself. -/
def value : BindingName → String
  | written units => String.ofList (units.map NameUnit.char)
  | undefined => "undefined"

/-- The text that is read for a name. -/
def read? : BindingName → Option String
  | written units => some (String.ofList (units.flatMap NameUnit.spelling))
  | undefined => none

/-- The name is written without escapes, and not as the parser's `undefined`. -/
def isPlain : BindingName → Bool
  | written units => units.all NameUnit.isPlain
  | undefined => false

end BindingName

section Reading

theorem NameUnit.length_spelling (u : NameUnit) :
    1 ≤ u.spelling.length ∧ (u.isPlain = false → 2 ≤ u.spelling.length) := by
  cases u <;> simp [spelling, isPlain]

theorem length_le_flatMap_spelling (units : List NameUnit) :
    units.length ≤ (units.flatMap NameUnit.spelling).length := by
  induction units with
  | nil => simp
  | cons u units ih =>
    have hu := u.length_spelling.1
    rw [List.flatMap_cons, List.length_append, List.length_cons]
    omega

/-- An escape is longer than the character it stands for. -/
theorem flatMap_spelling_eq_iff (units : List NameUnit) :
    units.flatMap NameUnit.spelling = units.map NameUnit.char ↔
      units.all NameUnit.isPlain = true := by
  constructor
  · intro h
    rw [List.all_eq_true]
    intro u hu
    obtain ⟨before, after, rfl⟩ := List.append_of_mem hu
    have hlength := congrArg List.length h
    simp only [List.flatMap_append, List.flatMap_cons, List.length_append, List.length_map,
      List.length_cons] at hlength
    have hbefore := length_le_flatMap_spelling before
    have hafter := length_le_flatMap_spelling after
    cases hplain : u.isPlain with
    | true => rfl
    | false =>
      have hlong := u.length_spelling.2 hplain
      omega
  · intro h
    induction units with
    | nil => rfl
    | cons u units ih =>
      rw [List.all_cons, Bool.and_eq_true] at h
      rw [List.flatMap_cons, List.map_cons, ih h.2]
      cases u with
      | plain c _ => rfl
      | escape c digits _ _ => exact absurd h.1 Bool.false_ne_true
      | longEscape c digits _ => exact absurd h.1 Bool.false_ne_true

/-- The texts that are read are the names exactly if all of them are plain. -/
theorem filterMap_read?_eq_iff (names : List BindingName) :
    names.filterMap BindingName.read? = names.map BindingName.value ↔
      ∀ x ∈ names, x.isPlain = true := by
  induction names with
  | nil => simp
  | cons x names ih =>
    rw [List.map_cons, List.forall_mem_cons]
    cases x with
    | written units =>
      have hread : (BindingName.written units).read? =
          some (String.ofList (units.flatMap NameUnit.spelling)) := rfl
      rw [List.filterMap_cons_some hread, List.cons.injEq, ih, BindingName.value,
        String.ofList_inj, flatMap_spelling_eq_iff]
      rfl
    | undefined =>
      rw [List.filterMap_cons_none rfl]
      constructor
      · intro h
        have hlength := congrArg List.length h
        have hle := List.length_filterMap_le BindingName.read? names
        rw [List.length_cons, List.length_map] at hlength
        omega
      · rintro ⟨h, -⟩
        cases h

end Reading

/-- The grammar of binding patterns.  Keys, defaults and types are arbitrary trees. -/
inductive BindingPattern where
  | name (x : BindingName)
  | object (members : List BindingPattern)
  | array (elements : List BindingPattern)
  /-- The name of a member of an object that is its key, too. -/
  | shorthand (units : List NameUnit)
  | pair (key : Node) (target : BindingPattern)
  | rest (target : BindingPattern)
  /-- A place of an array that is left out. -/
  | hole
  | withDefault (target : BindingPattern) (value : Node)
  | parameter (target : BindingPattern) (type value : Option Node)

namespace BindingPattern

mutual

/-- The names that a pattern binds, in source order. -/
def names : BindingPattern → List BindingName
  | name x => [x]
  | object members => namesAmong members
  | array elements => namesAmong elements
  | shorthand units => [.written units]
  | pair _ target => target.names
  | rest target => target.names
  | hole => []
  | withDefault target _ => target.names
  | parameter target _ _ => target.names

def namesAmong : List BindingPattern → List BindingName
  | [] => []
  | p :: ps => p.names ++ namesAmong ps

end

mutual

/-- How deep the patterns in a pattern are nested. -/
def levels : BindingPattern → Nat
  | name _ => 1
  | object members => 1 + levelsAmong members
  | array elements => 1 + levelsAmong elements
  | shorthand _ => 1
  | pair _ target => 1 + target.levels
  | rest target => 1 + target.levels
  | hole => 0
  | withDefault target _ => 1 + target.levels
  | parameter target _ _ => 1 + target.levels

def levelsAmong : List BindingPattern → Nat
  | [] => 0
  | p :: ps => max p.levels (levelsAmong ps)

end

/-- Trees of patterns in their order, with tokens and comments among them.  A hole has no tree. -/
inductive Among (R : BindingPattern → Node → Prop) : List BindingPattern → List Node → Prop where
  | nil : Among R [] []
  | hole {ps : List BindingPattern} {ns : List Node} (h : Among R ps ns) : Among R (hole :: ps) ns
  | part {p : BindingPattern} {n : Node} {ps : List BindingPattern} {ns : List Node}
    (hnamed : n.named = true) (hn : R p n) (h : Among R ps ns) : Among R (p :: ps) (n :: ns)
  | token {n : Node} {ps : List BindingPattern} {ns : List Node} (hn : n.named = false)
    (h : Among R ps ns) : Among R ps (n :: ns)
  | comment {n : Node} {ps : List BindingPattern} {ns : List Node}
    (hkind : n.kind = "comment" ∨ n.kind = "html_comment") (hleaf : n.children = [])
    (h : Among R ps ns) : Among R ps (n :: ns)

/-- The tree of a pattern. -/
inductive IsTree : BindingPattern → Node → Prop where
  | name {units : List NameUnit} {n : Node} (hkind : n.kind = "identifier")
    (htext : n.text = String.ofList (units.flatMap NameUnit.spelling)) :
    IsTree (.name (.written units)) n
  | undefined {n : Node} (hkind : n.kind = "undefined") (hleaf : n.children = []) :
    IsTree (.name .undefined) n
  | object {members : List BindingPattern} {n : Node} (hkind : n.kind = "object_pattern")
    (h : Among IsTree members n.children) : IsTree (.object members) n
  | array {elements : List BindingPattern} {n : Node} (hkind : n.kind = "array_pattern")
    (h : Among IsTree elements n.children) : IsTree (.array elements) n
  | shorthand {units : List NameUnit} {n : Node}
    (hkind : n.kind = "shorthand_property_identifier_pattern")
    (htext : n.text = String.ofList (units.flatMap NameUnit.spelling)) :
    IsTree (.shorthand units) n
  | pair {key : Node} {target : BindingPattern} {n t : Node} (hkind : n.kind = "pair_pattern")
    (hkey : n.role? "key" = some key) (hvalue : n.role? "value" = some t)
    (h : IsTree target t) : IsTree (.pair key target) n
  | rest {target : BindingPattern} {n : Node} (hkind : n.kind = "rest_pattern")
    (h : Among IsTree [target] n.children) : IsTree (.rest target) n
  | withDefault {target : BindingPattern} {value : Node} {n t : Node}
    (hkind : n.kind = "assignment_pattern" ∨ n.kind = "object_assignment_pattern")
    (hleft : n.role? "left" = some t) (hright : n.role? "right" = some value)
    (h : IsTree target t) : IsTree (.withDefault target value) n
  | parameter {target : BindingPattern} {type value : Option Node} {n t : Node}
    (hkind : n.kind = "required_parameter" ∨ n.kind = "optional_parameter")
    (hpattern : n.role? "pattern" = some t) (htype : n.role? "type" = type)
    (hvalue : n.role? "value" = value) (h : IsTree target t) :
    IsTree (.parameter target type value) n

/-- The parameters of a function: one without brackets, or those of its list. -/
inductive AreParameters (f : Node) : List BindingPattern → Prop where
  | single {p : BindingPattern} {n : Node} (hsingle : f.role? "parameter" = some n)
    (h : IsTree p n) : AreParameters f [p]
  | list {ps : List BindingPattern} {list : Node} (hsingle : f.role? "parameter" = none)
    (hlist : f.role? "parameters" = some list) (h : Among IsTree ps list.children) :
    AreParameters f ps

theorem namesAmong_eq (ps : List BindingPattern) : namesAmong ps = ps.flatMap names := by
  induction ps with
  | nil => rw [namesAmong]; rfl
  | cons p ps ih => rw [namesAmong, ih, List.flatMap_cons]

/-- What is read for the names of a pattern. -/
def texts (p : BindingPattern) : List String :=
  p.names.filterMap BindingName.read?

theorem texts_among (ps : List BindingPattern) :
    (namesAmong ps).filterMap BindingName.read? = ps.flatMap texts := by
  rw [namesAmong_eq, List.filterMap_flatMap]
  rfl

/-- What a walk over the tree of a pattern finds. -/
structure Found (p : BindingPattern) (n : Node) : Prop where
  boundNames : n.boundNames = p.texts
  levels_le : p.levels ≤ n.patternDepth
  -- an object or array may hold nothing but a comment, which is visited, too
  depth_le : n.patternDepth ≤ p.levels + 1

section Walk

variable {n : Node}

/-- The kinds of the nodes that are a name themselves. -/
def isNameKind (kind : String) : Bool :=
  kind == "identifier" || kind == "shorthand_property_identifier_pattern"

/-- The kinds of the nodes that are looked through for patterns, child by child. -/
def isGroupKind (kind : String) : Bool :=
  !isNameKind kind && (Node.patternRole? kind).isNone && !Node.bindsNothing kind

theorem patternRole?_of_isNameKind {kind : String} (h : isNameKind kind = true) :
    Node.patternRole? kind = none := by
  simp only [isNameKind, Bool.or_eq_true, beq_iff_eq] at h
  rcases h with rfl | rfl <;> rfl

theorem walk_of_name (hname : isNameKind n.kind = true) :
    n.boundNames = [n.text] ∧ n.patternDepth = 1 := by
  unfold isNameKind at hname
  rw [Node.boundNames_eq, Node.patternDepth_eq, hname]
  exact ⟨rfl, rfl⟩

theorem walk_of_role {role : String} {t : Node} (hkind : Node.patternRole? n.kind = some role)
    (hrole : n.role? role = some t) :
    n.boundNames = t.boundNames ∧ n.patternDepth = 1 + t.patternDepth := by
  have hname : ¬ isNameKind n.kind = true := fun h => by
    rw [patternRole?_of_isNameKind h] at hkind
    cases hkind
  unfold isNameKind at hname
  rw [Node.boundNames_eq, Node.patternDepth_eq, if_neg hname, if_neg hname, hkind]
  simp [hrole]

theorem walk_of_group (hkind : isGroupKind n.kind = true) :
    n.boundNames = (n.children.filter Node.named).flatMap Node.boundNames ∧
      n.patternDepth = 1 + Node.deepest (n.children.filter Node.named) := by
  simp only [isGroupKind, isNameKind, Bool.and_eq_true, Bool.not_eq_true',
    Option.isNone_iff_eq_none] at hkind
  obtain ⟨⟨hname, hrole⟩, hbinds⟩ := hkind
  rw [Node.boundNames_eq, Node.patternDepth_eq, hname, hrole, hbinds]
  exact ⟨rfl, rfl⟩

/-- A node that holds nothing is visited in vain. -/
theorem walk_of_leaf (hkind : isGroupKind n.kind = true) (hleaf : n.children = []) :
    n.boundNames = [] ∧ n.patternDepth = 1 := by
  obtain ⟨hnames, hdepth⟩ := walk_of_group hkind
  rw [hnames, hdepth, hleaf]
  exact ⟨rfl, rfl⟩

theorem walk_of_comment (hkind : n.kind = "comment" ∨ n.kind = "html_comment")
    (hleaf : n.children = []) : n.boundNames = [] ∧ n.patternDepth = 1 := by
  rcases hkind with hkind | hkind <;> exact walk_of_leaf (by rw [hkind]; rfl) hleaf

end Walk

/-- The walk over nodes one after the other finds what it finds in those of patterns. -/
theorem Among.found {R : BindingPattern → Node → Prop} {ps : List BindingPattern} {ns : List Node}
    (h : Among R ps ns) (hfound : ∀ n ∈ ns, ∀ p, R p n → Found p n) :
    (ns.filter Node.named).flatMap Node.boundNames = ps.flatMap texts ∧
      levelsAmong ps ≤ Node.deepest (ns.filter Node.named) ∧
      Node.deepest (ns.filter Node.named) ≤ levelsAmong ps + 1 := by
  induction h with
  | nil => exact ⟨rfl, Nat.zero_le _, Nat.zero_le _⟩
  | hole h ih =>
    obtain ⟨hnames, hle, hge⟩ := ih hfound
    rw [List.flatMap_cons, levelsAmong, levels, Nat.zero_max]
    exact ⟨hnames, hle, hge⟩
  | @part p n ps ns hnamed hn h ih =>
    obtain ⟨hnames, hle, hge⟩ := ih fun m hm => hfound m (List.mem_cons_of_mem _ hm)
    have hp := hfound n List.mem_cons_self p hn
    rw [List.filter_cons_of_pos hnamed, List.flatMap_cons, List.flatMap_cons, hnames, hp.boundNames,
      Node.deepest_cons, levelsAmong]
    have hple := hp.levels_le
    have hpge := hp.depth_le
    exact ⟨rfl, by omega, by omega⟩
  | @token n ps ns hn h ih =>
    rw [List.filter_cons_of_neg (by simp [hn])]
    exact ih fun m hm => hfound m (List.mem_cons_of_mem _ hm)
  | @comment n ps ns hkind hleaf h ih =>
    obtain ⟨hnames, hle, hge⟩ := ih fun m hm => hfound m (List.mem_cons_of_mem _ hm)
    obtain ⟨hnone, hone⟩ := walk_of_comment hkind hleaf
    cases hnamed : n.named with
    | false =>
      rw [List.filter_cons_of_neg (by simp [hnamed])]
      exact ⟨hnames, hle, hge⟩
    | true =>
      rw [List.filter_cons_of_pos hnamed, List.flatMap_cons, hnone, Node.deepest_cons, hone]
      exact ⟨hnames, by omega, by omega⟩

theorem Found.of_leaf {p : BindingPattern} {n : Node} (hlevels : p.levels = 1)
    (hnames : n.boundNames = p.texts) (hdepth : n.patternDepth = 1) : Found p n :=
  ⟨hnames, by omega, by omega⟩

/-- A pattern that holds others one after the other is walked as they are. -/
theorem Found.of_among {R : BindingPattern → Node → Prop} {p : BindingPattern}
    {ps : List BindingPattern} {n : Node} (hkind : isGroupKind n.kind = true)
    (hnames : p.names = namesAmong ps) (hlevels : p.levels = 1 + levelsAmong ps)
    (h : Among R ps n.children) (hfound : ∀ m ∈ n.children, ∀ p, R p m → Found p m) :
    Found p n := by
  obtain ⟨htexts, hle, hge⟩ := h.found hfound
  obtain ⟨hn, hdepth⟩ := walk_of_group hkind
  constructor
  · rw [hn, htexts, texts, hnames, texts_among]
  · omega
  · omega

/-- A pattern around one other is walked as that one. -/
theorem Found.of_role {p target : BindingPattern} {n t : Node} {role : String}
    (hkind : Node.patternRole? n.kind = some role) (hrole : n.role? role = some t)
    (hnames : p.names = target.names) (hlevels : p.levels = 1 + target.levels)
    (h : Found target t) : Found p n := by
  obtain ⟨hn, hdepth⟩ := walk_of_role hkind hrole
  have hle := h.levels_le
  have hge := h.depth_le
  constructor
  · rw [hn, h.boundNames, texts, texts, hnames]
  · omega
  · omega

theorem IsTree.found {p : BindingPattern} {n : Node} (h : IsTree p n) : Found p n := by
  induction n using Node.induction_children generalizing p with
  | step n ih =>
    -- the parts of a pattern are trees among the children of its node
    have hrole {role : String} {t : Node} {q : BindingPattern} (ht : n.role? role = some t)
        (hq : IsTree q t) : Found q t := ih t (Node.mem_children_of_role? ht) hq
    have hchild (m : Node) (hm : m ∈ n.children) (q : BindingPattern) (hq : IsTree q m) :
        Found q m := ih m hm hq
    cases h with
    | name hkind htext =>
      obtain ⟨hn, hdepth⟩ := walk_of_name (n := n) (by rw [hkind]; rfl)
      exact .of_leaf (by rw [levels]) (by rw [hn, htext]; rfl) hdepth
    | shorthand hkind htext =>
      obtain ⟨hn, hdepth⟩ := walk_of_name (n := n) (by rw [hkind]; rfl)
      exact .of_leaf (by rw [levels]) (by rw [hn, htext]; rfl) hdepth
    | undefined hkind hleaf =>
      obtain ⟨hn, hdepth⟩ := walk_of_leaf (n := n) (by rw [hkind]; rfl) hleaf
      exact .of_leaf (by rw [levels]) hn hdepth
    | object hkind h =>
      exact .of_among (by rw [hkind]; rfl) (by rw [names]) (by rw [levels]) h hchild
    | array hkind h =>
      exact .of_among (by rw [hkind]; rfl) (by rw [names]) (by rw [levels]) h hchild
    | rest hkind h =>
      exact .of_among (by rw [hkind]; rfl) (by simp [names, namesAmong])
        (by simp [levels, levelsAmong]) h hchild
    | pair hkind hkey hvalue h =>
      exact .of_role (by rw [hkind]; rfl) hvalue (by rw [names]) (by rw [levels])
        (hrole hvalue h)
    | withDefault hkind hleft hright h =>
      rcases hkind with hkind | hkind <;>
        exact .of_role (by rw [hkind]; rfl) hleft (by rw [names]) (by rw [levels])
          (hrole hleft h)
    | parameter hkind hpattern htype hvalue h =>
      rcases hkind with hkind | hkind <;>
        exact .of_role (by rw [hkind]; rfl) hpattern (by rw [names]) (by rw [levels])
          (hrole hpattern h)

theorem AreParameters.parameterNames_eq {f : Node} {ps : List BindingPattern}
    (h : AreParameters f ps) : f.parameterNames = ps.flatMap texts := by
  rw [Node.parameterNames_eq]
  cases h with
  | single hsingle h => simp [hsingle, h.found.boundNames]
  | list hsingle hlist h =>
    have htexts := (h.found fun _ _ _ hp => hp.found).1
    simpa [hsingle, hlist, Node.namedChildren] using htexts

/-- What is read from the tree of a pattern are the texts of its names, in source order, and from
a function those of its parameters one after the other.  They are the names themselves exactly if
none has an escape or is `undefined`.  The calls that are nested are as many as the pattern has
levels, or one more. -/
theorem boundNames_of_isTree (n : Node) :
    (∀ p : BindingPattern, IsTree p n →
      n.boundNames = p.names.filterMap BindingName.read? ∧
      (n.boundNames = p.names.map BindingName.value ↔ ∀ x ∈ p.names, x.isPlain = true) ∧
      p.levels ≤ n.patternDepth ∧ n.patternDepth ≤ p.levels + 1) ∧
    ∀ ps : List BindingPattern, AreParameters n ps →
      n.parameterNames = ps.flatMap (fun p => p.names.filterMap BindingName.read?) ∧
      (n.parameterNames = ps.flatMap (fun p => p.names.map BindingName.value) ↔
        ∀ p ∈ ps, ∀ x ∈ p.names, x.isPlain = true) := by
  constructor
  · intro p h
    obtain ⟨hnames, hle, hge⟩ := h.found
    refine ⟨hnames, ?_, hle, hge⟩
    rw [hnames, texts, filterMap_read?_eq_iff]
  · intro ps h
    refine ⟨h.parameterNames_eq, ?_⟩
    rw [h.parameterNames_eq, ← texts_among, namesAmong_eq, ← List.map_flatMap,
      filterMap_read?_eq_iff]
    simp only [List.mem_flatMap, forall_exists_index, and_imp]
    exact ⟨fun h p hp x hx => h x p hp hx, fun h x p hp hx => h p hp x hx⟩

/-- A text without escapes. -/
def unitsOf (text : String) : List NameUnit :=
  text.toList.filterMap fun c => if h : c ≠ '\\' then some (.plain c h) else none

def computedKey : Node :=
  .mk { kind := "computed_property_name", field := some "key" } [.wordNode "identifier" none "k"]

def typeNode : Node :=
  .mk { kind := "type_annotation", field := some "type" } [.wordNode "type_identifier" none "T"]

/-- The parameter `{ a, b = x, [k]: [c, , ...d], /* c */ ...e }: T = y`. -/
def crowdedPattern : BindingPattern :=
  .parameter
    (.object [.shorthand (unitsOf "a"),
      .withDefault (.shorthand (unitsOf "b")) (.wordNode "identifier" (some "right") "x"),
      .pair computedKey
        (.array [.name (.written (unitsOf "c")), .hole, .rest (.name (.written (unitsOf "d")))]),
      .rest (.name (.written (unitsOf "e")))])
    (some typeNode) (some (.wordNode "identifier" (some "value") "y"))

def restNode (name : String) : Node :=
  .mk { kind := "rest_pattern" }
    [.mk { kind := "...", named := false } [], .wordNode "identifier" none name]

def crowdedNode : Node :=
  .mk { kind := "required_parameter" }
    [.mk { kind := "object_pattern", field := some "pattern" }
      [.wordNode "shorthand_property_identifier_pattern" none "a",
        .mk { kind := "object_assignment_pattern" }
          [.wordNode "shorthand_property_identifier_pattern" (some "left") "b",
            .wordNode "identifier" (some "right") "x"],
        .mk { kind := "pair_pattern" }
          [computedKey, .mk { kind := "array_pattern", field := some "value" }
            [.wordNode "identifier" none "c", .mk { kind := ",", named := false } [],
              .mk { kind := ",", named := false } [], restNode "d"]],
        .wordNode "comment" none "/* c */", restNode "e"],
      typeNode, .wordNode "identifier" (some "value") "y"]

theorem isTree_restNode {name : String} {units : List NameUnit}
    (h : (Node.wordNode "identifier" none name).text =
      String.ofList (units.flatMap NameUnit.spelling)) :
    IsTree (.rest (.name (.written units))) (restNode name) :=
  .rest rfl (.token rfl (.part rfl (.name rfl h) .nil))

theorem isTree_crowdedNode : IsTree crowdedPattern crowdedNode := by
  refine .parameter (.inl rfl) rfl rfl rfl (.object rfl ?_)
  refine .part rfl (.shorthand rfl (by decide +kernel)) (.part rfl ?_ (.part rfl ?_ ?_))
  · exact .withDefault (.inr rfl) rfl rfl (.shorthand rfl (by decide +kernel))
  · refine .pair rfl rfl rfl (.array rfl ?_)
    exact .part rfl (.name rfl (by decide +kernel)) (.token rfl (.hole (.token rfl
      (.part rfl (isTree_restNode (by decide +kernel)) .nil))))
  · exact .comment (.inl rfl) rfl (.part rfl (isTree_restNode (by decide +kernel)) .nil)

/-- Nothing is read from the key, the default values and the type. -/
theorem boundNames_crowdedNode :
    IsTree crowdedPattern crowdedNode ∧ crowdedNode.boundNames = ["a", "b", "c", "d", "e"] := by
  refine ⟨isTree_crowdedNode, ?_⟩
  have hplain : ∀ x ∈ crowdedPattern.names, x.isPlain = true := List.all_eq_true.1 (by decide)
  rw [((boundNames_of_isTree crowdedNode).1 _ isTree_crowdedNode).2.1.2 hplain]
  decide +kernel

/-- The function `function f(undefined, \u0061)`. -/
def oddFunction : Node :=
  .mk { kind := "function_declaration" } [.wordNode "identifier" (some "name") "f",
    .mk { kind := "formal_parameters", field := some "parameters" }
      [.wordNode "undefined" none "undefined", .wordNode "identifier" none "\\u0061"]]

def oddParameters : List BindingPattern :=
  [.name .undefined, .name (.written [.escape 'a' "0061".toList rfl rfl])]

/-- One parameter is not found and the other has another name. -/
theorem parameterNames_oddFunction :
    AreParameters oddFunction oddParameters ∧
      oddParameters.flatMap (fun p => p.names.map BindingName.value) = ["undefined", "a"] ∧
      oddFunction.parameterNames = ["\\u0061"] := by
  refine ⟨.list rfl rfl ?_, by decide +kernel, by decide +kernel⟩
  exact .part rfl (.undefined rfl rfl) (.part rfl (.name rfl (by decide +kernel)) .nil)

end BindingPattern

end RouteCensus
