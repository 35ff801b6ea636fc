import RouteCensus.Proofs.Expr.Leaves
import RouteCensus.Proofs.Scope.Ancestry
import RouteCensus.Proofs.Scope.Pattern

/-! # The walk behind a survey

A survey as a walk with a stack of nodes that wait for their turn, each with the
address of its scope.  Here an operation on a scope that is not in the table
fails, and so does a way outward that has no end.  At every point of the walk the
table is well formed and the waiting addresses are in it, so no operation fails,
and the walk ends with the table and the call sites of the survey.
-/

namespace RouteCensus

namespace ScopeTable

variable {α : Type}

/-- Scope 0 is the program and no other scope is; it has no parent, and all others have earlier ones. -/
structure WellFormed (t : ScopeTable α) : Prop extends t.Grounded where
  nonempty : 0 < t.size
  program_iff : ∀ {i : Nat} {scope : Scope α}, t.scopes[i]? = some scope →
    (scope.kind = .program ↔ i = 0)

def kindAt (t : ScopeTable α) (i : Nat) : Option ScopeKind :=
  t.scopes[i]?.map Scope.kind

/-- Of the scopes from `i` outward, `target` is the first that is not a block. -/
def FunctionAround (t : ScopeTable α) (i target : Nat) : Prop :=
  ∃ below above, t.Ancestry i (below ++ target :: above) ∧
    (t.kindAt target = some .function ∨ t.kindAt target = some .program) ∧
    ∀ k ∈ below, t.kindAt k = some .block

namespace WellFormed

theorem start : WellFormed ({} : ScopeTable α) where
  toGrounded := .start
  nonempty := Nat.one_pos
  program_iff := by
    intro i scope h
    obtain ⟨rfl, rfl⟩ := scopes_start h
    exact iff_of_true rfl rfl

variable {t : ScopeTable α}

theorem push (h : t.WellFormed) {kind : ScopeKind} (hkind : kind ≠ .program) {parent : Nat}
    (hparent : parent < t.size) : (t.push kind parent).WellFormed where
  toGrounded := h.toGrounded.push kind hparent
  nonempty := by simp
  program_iff := by
    intro i scope hi
    obtain hold | ⟨rfl, rfl⟩ := scopes_push_cases hi
    · exact h.program_iff hold
    · exact iff_of_false hkind h.nonempty.ne'

theorem insert (h : t.WellFormed) {s : Nat} (hs : s < t.size) (b : Binding α) :
    (t.insert s b).WellFormed where
  toGrounded := h.toGrounded.insert hs b
  nonempty := by simpa using h.nonempty
  program_iff := by
    intro i scope hi
    obtain ⟨old, hold, -, hkind, -⟩ := scopes_insert_cases hs hi
    rw [hkind]
    exact h.program_iff hold

/-- The way outward meets a scope that is not a block, at the latest the program. -/
theorem exists_function (h : t.WellFormed) {i : Nat} {ids : List Nat} (hids : t.Ancestry i ids) :
    ∃ below target above, ids = below ++ target :: above ∧
      (t.kindAt target = some .function ∨ t.kindAt target = some .program) ∧
      ∀ k ∈ below, t.kindAt k = some .block := by
  induction hids with
  | @last i scope hscope hparent =>
    obtain rfl := (h.parent_none_iff hscope).1 hparent
    have hkind := (h.program_iff hscope).2 rfl
    exact ⟨[], 0, [], rfl, .inr (by simp [kindAt, hscope, hkind]), by simp⟩
  | @step i parent scope outer hscope hparent _ ih =>
    have hhere : t.kindAt i = some scope.kind := by simp [kindAt, hscope]
    cases hkind : scope.kind with
    | program => exact ⟨[], i, outer, rfl, .inr (hkind ▸ hhere), by simp⟩
    | function => exact ⟨[], i, outer, rfl, .inl (hkind ▸ hhere), by simp⟩
    | block =>
      obtain ⟨below, target, above, rfl, htarget, hbelow⟩ := ih
      refine ⟨i :: below, target, above, rfl, htarget, ?_⟩
      rw [List.forall_mem_cons]
      exact ⟨hkind ▸ hhere, hbelow⟩

theorem functionScope_eq (h : t.WellFormed) {i : Nat} (hi : i < t.size) :
    ∃ target : Nat, t.functionScope i = .ok target ∧ t.FunctionAround i target := by
  obtain ⟨ids, hids⟩ := h.exists_ancestry hi
  obtain ⟨below, target, above, rfl, htarget, hbelow⟩ := h.exists_function hids
  refine ⟨target, ?_, below, above, hids, htarget, hbelow⟩
  have hlength := hids.length_le h.toGrounded
  have hpass : ∀ k ∈ below, (t.scopes[k]?.bind fun scope =>
      if scope.kind = .block then none else some (k : Int)) = none := by
    intro k hk
    obtain ⟨scope, hscope, hkind⟩ := Option.map_eq_some_iff.1 (hbelow k hk)
    simp [hscope, hkind]
  have hstop : (t.scopes[target]?.bind fun scope =>
      if scope.kind = .block then none else some (target : Int)) = some (target : Int) := by
    rcases htarget with htarget | htarget <;>
    · obtain ⟨scope, hscope, hkind⟩ := Option.map_eq_some_iff.1 htarget
      simp [hscope, hkind]
  rw [functionScope, hids.outward_eq _ (by omega), List.findSome?_append,
    List.findSome?_eq_none_iff.2 hpass, List.findSome?_cons, hstop]
  rfl

end WellFormed

section Checked

variable (t : ScopeTable Node)

/-- Declares the name that a node has in its role `name`, if it has one. -/
def declareName (id : Int) (node : Node) (kind : BindingKind) :
    Except ScopeError (ScopeTable Node) :=
  match node.role? "name" with
  | some name => t.declare id { name := name.text, kind := kind }
  | none => .ok t

/-- The scope that a declarator behind the given keyword declares in. -/
def targetOf (keyword : String) (scope : Int) : Except ScopeError Int :=
  if keyword == "var" then t.functionScope scope else .ok scope

def declareDeclarator (parent : Option Node) (scope : Int) (node : Node) :
    Except ScopeError (ScopeTable Node) := do
  let keyword := declarationKeyword parent
  let target ← t.targetOf keyword scope
  let kind := bindingKindOf keyword
  match node.role? "name" with
  | none => .ok t
  | some name =>
    if name.kind == "identifier" then
      t.declare target { name := name.text, kind := kind, init := node.role? "value" }
    else
      t.declareAll target name.boundNames kind

def declareImports (node : Node) : Except ScopeError (ScopeTable Node) :=
  let clauses := node.namedChildren.filter fun n => n.kind == "import_clause"
  t.declareAll program (clauses.flatMap fun clause => clause.namedChildren.flatMap importedNames)
    .imported

def declareFunction (scope : Int) (node : Node) : Except ScopeError (ScopeTable Node) :=
  if node.kind == "function_declaration" || node.kind == "generator_function_declaration" then
    t.declareName scope node .function
  else .ok t

def tryFunction (scope : Int) (node : Node) : Except ScopeError (ScopeTable Node × Int) := do
  let t ← t.declareFunction scope node
  ((t.push .function scope).declareAll t.size node.parameterNames .parameter).map
    fun t' => (t', t.size)

/-- Declares the names in the head of a block. -/
def declareHead (scope inner : Int) (node : Node) : Except ScopeError (ScopeTable Node) :=
  if node.kind == "catch_clause" then
    t.declareAll inner (((node.role? "parameter").map Node.boundNames).getD []) .lexical
  else if node.kind == "for_in_statement" then
    match node.role? "kind" with
    | none => .ok t
    | some keyword => do
      let names := ((node.role? "left").map Node.boundNames).getD []
      if keyword.text == "var" then
        let target ← t.functionScope scope
        t.declareAll target names .hoisted
      else t.declareAll inner names .lexical
  else
    .ok t

def tryBlock (parent : Option Node) (scope : Int) (node : Node) :
    Except ScopeError (ScopeTable Node × Int) :=
  if sharesScope parent node then (t.declareHead scope scope node).map fun t' => (t', scope)
  else ((t.push .block scope).declareHead scope t.size node).map fun t' => (t', t.size)

/-- What a node declares, and the scope of its children, unless a scope is not found. -/
def tryEnter (parent : Option Node) (scope : Int) (node : Node) :
    Except ScopeError (ScopeTable Node × Int) :=
  if isFunctionKind node.kind then t.tryFunction scope node
  else if isBlockKind node.kind then t.tryBlock parent scope node
  else if node.kind == "variable_declarator" then
    (t.declareDeclarator parent scope node).map fun t' => (t', scope)
  else if node.kind == "class_declaration" || node.kind == "abstract_class_declaration" then
    (t.declareName scope node .classLike).map fun t' => (t', scope)
  else if node.kind == "import_statement" then (t.declareImports node).map fun t' => (t', scope)
  else .ok (t, scope)

end Checked

/-- A checked operation succeeds with the table `t'`, which has bindings more than `t` but no scope. -/
structure Fills (t : ScopeTable Node) (r : Except ScopeError (ScopeTable Node))
    (t' : ScopeTable Node) : Prop where
  succeeds : r = .ok t'
  wellFormed : t'.WellFormed
  size_eq : t'.size = t.size

/-- A checked operation succeeds with a larger table and a scope of it. -/
structure Enters (t : ScopeTable Node) (r : Except ScopeError (ScopeTable Node × Int))
    (after : ScopeTable Node × Int) : Prop where
  succeeds : r = .ok after
  wellFormed : after.1.WellFormed
  size_le : t.size ≤ after.1.size
  inner_lt : ∃ j : Nat, after.2 = j ∧ j < after.1.size

theorem Fills.enters {t t' : ScopeTable Node} {r : Except ScopeError (ScopeTable Node)}
    (h : Fills t r t') {i : Nat} (hi : i < t.size) :
    Enters t (r.map fun t' => (t', (i : Int))) (t', i) where
  succeeds := by rw [h.succeeds]; rfl
  wellFormed := h.wellFormed
  size_le := h.size_eq.ge
  inner_lt := ⟨i, rfl, h.size_eq ▸ hi⟩

namespace WellFormed

variable {t : ScopeTable Node} {i : Nat}

theorem fills_self (h : t.WellFormed) : Fills t (.ok t) t :=
  ⟨rfl, h, rfl⟩

theorem fills_declare (h : t.WellFormed) (hi : i < t.size) (b : Binding Node) :
    Fills t (t.declare i b) (t.insert i b) :=
  ⟨declare_eq_ok_iff.2 ⟨i, t.position?_natCast hi, rfl⟩, h.insert hi b, t.size_insert i b⟩

theorem fills_declareAll (h : t.WellFormed) (hi : i < t.size) (names : List String)
    (kind : BindingKind) : Fills t (t.declareAll i names kind) (t.insertAll i names kind) := by
  induction names generalizing t with
  | nil => exact h.fills_self
  | cons name names ih =>
    have hone := h.fills_declare hi { name := name, kind := kind }
    have hrest := ih hone.wellFormed (hone.size_eq ▸ hi)
    refine ⟨?_, hrest.wellFormed, hrest.size_eq.trans hone.size_eq⟩
    rw [declareAll, List.foldlM_cons, hone.succeeds]
    exact hrest.succeeds

theorem hoistTarget_eq (h : t.WellFormed) (hi : i < t.size) :
    ∃ target : Nat, t.functionScope i = .ok target ∧ t.hoistTarget i = target ∧
      target < t.size := by
  obtain ⟨target, hscope, below, above, hids, -, -⟩ := h.functionScope_eq hi
  refine ⟨target, hscope, by rw [hoistTarget, hscope], ?_⟩
  exact hids.lt_size_of_mem (by simp)

theorem fills_declareName (h : t.WellFormed) (hi : i < t.size) (node : Node) (kind : BindingKind) :
    Fills t (t.declareName i node kind) (t.insertName i node kind) := by
  unfold declareName insertName
  cases node.role? "name" with
  | none => exact h.fills_self
  | some name => exact h.fills_declare hi _

theorem fills_declareDeclarator (h : t.WellFormed) (hi : i < t.size) (parent : Option Node)
    (node : Node) :
    Fills t (t.declareDeclarator parent i node) (t.insertDeclarator parent i node) := by
  obtain ⟨target, htry, htarget, hlt⟩ : ∃ target : Nat,
      t.targetOf (declarationKeyword parent) i = .ok (target : Int) ∧
      (if declarationKeyword parent == "var" then t.hoistTarget i else (i : Int)) = target ∧
      target < t.size := by
    unfold targetOf
    cases declarationKeyword parent == "var" with
    | true => exact h.hoistTarget_eq hi
    | false => exact ⟨i, rfl, rfl, hi⟩
  unfold declareDeclarator insertDeclarator
  simp only [htry, htarget]
  cases node.role? "name" with
  | none => exact h.fills_self
  | some name =>
    simp only [bind, Except.bind]
    cases name.kind == "identifier" with
    | true => exact h.fills_declare hlt _
    | false => exact h.fills_declareAll hlt _ _

theorem fills_declareImports (h : t.WellFormed) (node : Node) :
    Fills t (t.declareImports node) (t.insertImports node) :=
  h.fills_declareAll h.nonempty _ _

theorem fills_declareHead (h : t.WellFormed) (hi : i < t.size) {inner : Nat}
    (hinner : inner < t.size) (node : Node) :
    Fills t (t.declareHead i inner node) (t.insertHead i inner node) := by
  obtain ⟨target, htry, htarget, hlt⟩ := h.hoistTarget_eq hi
  unfold declareHead insertHead
  cases node.kind == "catch_clause" with
  | true => exact h.fills_declareAll hinner _ _
  | false =>
    cases node.kind == "for_in_statement" with
    | false => exact h.fills_self
    | true =>
      cases node.role? "kind" with
      | none => exact h.fills_self
      | some keyword =>
        simp only [htry, htarget]
        cases keyword.text == "var" with
        | true => exact h.fills_declareAll hlt _ _
        | false => exact h.fills_declareAll hinner _ _

/-- A scope that is opened in `i` and then filled is one more. -/
theorem enters_push {kind : ScopeKind} {r : Except ScopeError (ScopeTable Node)} {t' : ScopeTable Node}
    (hfills : Fills (t.push kind i) r t') :
    Enters t (r.map fun t' => (t', (t.size : Int))) (t', t.size) where
  succeeds := by rw [hfills.succeeds]; rfl
  wellFormed := hfills.wellFormed
  size_le := by rw [hfills.size_eq, size_push]; omega
  inner_lt := ⟨t.size, rfl, by rw [hfills.size_eq, size_push]; omega⟩

theorem enters_tryFunction (h : t.WellFormed) (hi : i < t.size) (node : Node) :
    Enters t (t.tryFunction i node) (t.enterFunction i node) := by
  obtain ⟨t₁, ht₁, hname⟩ : ∃ t₁, t₁ = (if node.kind == "function_declaration" ||
      node.kind == "generator_function_declaration" then t.insertName i node .function else t) ∧
      Fills t (t.declareFunction i node) t₁ := by
    refine ⟨_, rfl, ?_⟩
    unfold declareFunction
    split
    · exact h.fills_declareName hi node .function
    · exact h.fills_self
  have hpush := hname.wellFormed.push (show ScopeKind.function ≠ .program by decide)
    (hname.size_eq.symm ▸ hi)
  have hnew : t₁.size < (t₁.push .function i).size := by simp
  have henters := enters_push (hpush.fills_declareAll hnew node.parameterNames .parameter)
  simp only [tryFunction, enterFunction, ← ht₁, hname.succeeds]
  exact ⟨henters.succeeds, henters.wellFormed, hname.size_eq.symm.trans_le henters.size_le,
    henters.inner_lt⟩

theorem enters_tryBlock (h : t.WellFormed) (hi : i < t.size) (parent : Option Node) (node : Node) :
    Enters t (t.tryBlock parent i node) (t.enterBlock parent i node) := by
  unfold tryBlock enterBlock
  cases sharesScope parent node with
  | true => exact (h.fills_declareHead hi hi node).enters hi
  | false =>
    have hpush := h.push (show ScopeKind.block ≠ .program by decide) hi
    exact enters_push (hpush.fills_declareHead (by simp; omega) (by simp) node)

theorem enters_tryEnter (h : t.WellFormed) (hi : i < t.size) (parent : Option Node) (node : Node) :
    Enters t (t.tryEnter parent i node) (t.enter parent i node) := by
  unfold tryEnter enter
  split
  · exact h.enters_tryFunction hi node
  split
  · exact h.enters_tryBlock hi parent node
  split
  · exact (h.fills_declareDeclarator hi parent node).enters hi
  split
  · exact (h.fills_declareName hi node .classLike).enters hi
  split
  · exact (h.fills_declareImports node).enters hi
  · exact h.fills_self.enters hi

end WellFormed

end ScopeTable

namespace Node

theorem survey_eq (n : Node) (parent : Option Node) (scope : Int)
    (t : ScopeTable Node) :
    n.survey parent scope t =
      if n.named then
        ((surveyAll n (t.enter parent scope n).2 (t.enter parent scope n).1 n.children).1,
          (callSite? scope n).toList ++
            (surveyAll n (t.enter parent scope n).2 (t.enter parent scope n).1 n.children).2)
      else (t, []) := by
  cases n with
  | mk label children => rw [survey]; rfl

end Node

/-- A node that waits for its turn, with its parent and the scope it stands in. -/
structure Pending where
  parent : Option Node
  node : Node
  scope : Int

/-- A point of the walk; the node that waits first is the next one. -/
structure Walk where
  table : ScopeTable Node := {}
  sites : List CallSite := []
  pending : List Pending

namespace Walk

def start (root : Node) : Walk :=
  { pending := [⟨none, root, ScopeTable.program⟩] }

/-- Visits the next node and puts its children before the nodes that wait. -/
def step (w : Walk) : Except ScopeError Walk :=
  match w.pending with
  | [] => .ok w
  | next :: rest =>
    if next.node.named then do
      let (table, inner) ← w.table.tryEnter next.parent next.scope next.node
      .ok { table := table
            sites := w.sites ++ (callSite? next.scope next.node).toList
            pending := next.node.children.map (⟨some next.node, ·, inner⟩) ++ rest }
    else .ok { w with pending := rest }

def run : Nat → Walk → Except ScopeError Walk
  | 0, w => .ok w
  | n + 1, w => w.step.bind (run n)

/-- The nodes that wait, each surveyed in its scope, one after the other. -/
def surveyPending (t : ScopeTable Node) : List Pending → ScopeTable Node × List CallSite
  | [] => (t, [])
  | next :: rest =>
    let (t, here) := next.node.survey next.parent next.scope t
    let (t, after) := surveyPending t rest
    (t, here ++ after)

/-- What the walk will have collected in the end. -/
def outcome (w : Walk) : ScopeTable Node × List CallSite :=
  let (t, after) := surveyPending w.table w.pending
  (t, w.sites ++ after)

/-- The table is well formed, and the addresses of waiting nodes and of call sites are in it. -/
structure Sound (w : Walk) : Prop where
  wellFormed : w.table.WellFormed
  pending_lt : ∀ p ∈ w.pending, ∃ i : Nat, p.scope = i ∧ i < w.table.size
  sites_lt : ∀ site ∈ w.sites, ∃ i : Nat, site.scope = i ∧ i < w.table.size

theorem surveyPending_children (parent : Node) (scope : Int) (t : ScopeTable Node)
    (children : List Node) (rest : List Pending) :
    surveyPending t (children.map (⟨some parent, ·, scope⟩) ++ rest) =
      ((surveyPending (surveyAll parent scope t children).1 rest).1,
        (surveyAll parent scope t children).2 ++
          (surveyPending (surveyAll parent scope t children).1 rest).2) := by
  induction children generalizing t with
  | nil => rfl
  | cons child children ih =>
    simp only [List.map_cons, List.cons_append, surveyPending, surveyAll, ih, List.append_assoc]

theorem Sound.start (root : Node) : (start root).Sound where
  wellFormed := .start
  pending_lt := by
    intro p hp
    rw [List.mem_singleton.1 hp]
    exact ⟨0, rfl, Nat.one_pos⟩
  sites_lt := by simp [Walk.start]

theorem scope_of_mem_callSite? {scope : Int} {node : Node} {site : CallSite}
    (h : site ∈ (callSite? scope node).toList) : site.scope = scope := by
  unfold callSite? at h
  split at h
  · split at h
    · split at h
      · simp only [Option.toList_some, List.mem_singleton] at h
        rw [h]
      · simp at h
    · simp at h
  · simp at h

theorem Sound.skip {w : Walk} {next : Pending} {rest : List Pending} (h : w.Sound)
    (hpending : w.pending = next :: rest) : Sound { w with pending := rest } where
  wellFormed := h.wellFormed
  pending_lt p hp := h.pending_lt p (hpending ▸ List.mem_cons_of_mem next hp)
  sites_lt := h.sites_lt

/-- Entering a node keeps the addresses that were in the table, and its children get another one. -/
theorem Sound.visit {w : Walk} {next : Pending} {rest : List Pending} (h : w.Sound)
    (hpending : w.pending = next :: rest) {r : Except ScopeError (ScopeTable Node × Int)}
    {after : ScopeTable Node × Int} (henters : w.table.Enters r after) :
    Sound { table := after.1
            sites := w.sites ++ (callSite? next.scope next.node).toList
            pending := next.node.children.map (⟨some next.node, ·, after.2⟩) ++ rest } where
  wellFormed := henters.wellFormed
  pending_lt := by
    intro p hp
    rcases List.mem_append.1 hp with hp | hp
    · obtain ⟨child, -, rfl⟩ := List.mem_map.1 hp
      exact henters.inner_lt
    · obtain ⟨i, hscope, hi⟩ := h.pending_lt p (hpending ▸ List.mem_cons_of_mem next hp)
      exact ⟨i, hscope, hi.trans_le henters.size_le⟩
  sites_lt := by
    intro site hsite
    rcases List.mem_append.1 hsite with hsite | hsite
    · obtain ⟨i, hscope, hi⟩ := h.sites_lt site hsite
      exact ⟨i, hscope, hi.trans_le henters.size_le⟩
    · obtain ⟨i, hscope, hi⟩ := h.pending_lt next (hpending ▸ List.mem_cons_self)
      exact ⟨i, (scope_of_mem_callSite? hsite).trans hscope, hi.trans_le henters.size_le⟩

/-- The number of nodes of the trees that wait. -/
def remaining (w : Walk) : Nat :=
  Node.sizeAll (w.pending.map Pending.node)

theorem pending_eq_nil {w : Walk} (h : w.remaining = 0) : w.pending = [] := by
  cases hpending : w.pending with
  | nil => rfl
  | cons next rest =>
    rw [remaining, hpending, List.map_cons, Node.sizeAll, Node.size_eq_children] at h
    omega

/-- A round of the walk fails in no operation, takes a node off the trees that wait, and leads to
the same outcome. -/
theorem Sound.step {w : Walk} (h : w.Sound) :
    ∃ w', w.step = .ok w' ∧ w'.Sound ∧ w'.outcome = w.outcome ∧
      w'.remaining ≤ w.remaining - 1 := by
  cases hpending : w.pending with
  | nil =>
    have hremaining : w.remaining = 0 := by
      rw [remaining, hpending]
      rfl
    exact ⟨w, by simp [Walk.step, hpending], h, rfl, by omega⟩
  | cons next rest =>
    have hremaining : w.remaining =
        1 + Node.sizeAll next.node.children + Node.sizeAll (rest.map Pending.node) := by
      rw [remaining, hpending, List.map_cons, Node.sizeAll, Node.size_eq_children]
    cases hnamed : next.node.named with
    | false =>
      refine ⟨_, by simp [Walk.step, hpending, hnamed], h.skip hpending, ?_, ?_⟩
      · simp [outcome, hpending, surveyPending, Node.survey_eq, hnamed]
      · change Node.sizeAll (rest.map Pending.node) ≤ _
        omega
    | true =>
      obtain ⟨i, hscope, hi⟩ := h.pending_lt next (hpending ▸ List.mem_cons_self)
      have henters := h.wellFormed.enters_tryEnter hi next.parent next.node
      rw [← hscope] at henters
      refine ⟨_, by simp [Walk.step, hpending, hnamed, henters.succeeds, bind, Except.bind],
        h.visit hpending henters, ?_, ?_⟩
      · simp [outcome, hpending, surveyPending, Node.survey_eq, hnamed, surveyPending_children]
      · have hchildren : (next.node.children.map fun child =>
            (⟨some next.node, child, (w.table.enter next.parent next.scope next.node).2⟩ :
              Pending)).map Pending.node = next.node.children := by
          rw [List.map_map]
          exact List.map_id _
        rw [hremaining, remaining, List.map_append, hchildren, Node.sizeAll_append]
        omega

theorem Sound.run {w : Walk} (h : w.Sound) (n : Nat) :
    ∃ w', run n w = .ok w' ∧ w'.Sound ∧ w'.outcome = w.outcome ∧
      w'.remaining ≤ w.remaining - n := by
  induction n generalizing w with
  | zero => exact ⟨w, rfl, h, rfl, Nat.le_refl _⟩
  | succ n ih =>
    obtain ⟨w₁, hstep, hsound₁, houtcome₁, hless₁⟩ := h.step
    obtain ⟨w', hrun, hsound, houtcome, hless⟩ := ih hsound₁
    refine ⟨w', ?_, hsound, houtcome.trans houtcome₁, by omega⟩
    rw [Walk.run, hstep]
    exact hrun

/-- A walk has visited all nodes after as many rounds as the tree has nodes. -/
theorem run_size (root : Node) :
    ∃ w, run root.size (start root) = .ok w ∧ w.Sound ∧ w.pending = [] ∧
      (w.table, w.sites) = root.callSites := by
  obtain ⟨w, hrun, hsound, houtcome, hless⟩ := (Sound.start root).run root.size
  have hstart : (start root).remaining = root.size := by
    simp [remaining, start, Node.sizeAll]
  have hpending : w.pending = [] := pending_eq_nil (by omega)
  refine ⟨w, hrun, hsound, hpending, ?_⟩
  calc (w.table, w.sites)
      = w.outcome := by simp [outcome, hpending, surveyPending]
    _ = (start root).outcome := houtcome
    _ = root.callSites := by simp [outcome, start, surveyPending, Node.callSites]

end Walk

namespace Node

/-- The walk over a tree fails in no operation: whenever it looks a name or a function up from the
scope of a waiting node, the way outward ends in a table that is well formed.  After as many rounds
as the tree has nodes the walk is over, with the table and the call sites of the survey.  This table
is well formed, from each of its scopes every name and the nearest function are found out, and the
call sites stand in it.  Only a pattern that goes deeper than calls can be nested keeps the table from
being returned. -/
theorem callSites_grounded (root : Node) :
    (∀ n, ∃ w, Walk.run n (.start root) = .ok w ∧ w.table.WellFormed ∧
      ∀ p ∈ w.pending, ∃ i : Nat, p.scope = i ∧ i < w.table.size ∧
        (∀ name, ∃ found, w.table.lookup i name = .ok found) ∧
        ∃ target : Nat, w.table.functionScope i = .ok target ∧ w.table.FunctionAround i target) ∧
    (∃ w, Walk.run root.size (.start root) = .ok w ∧ w.pending = [] ∧
      (w.table, w.sites) = root.callSites) ∧
    root.callSites.1.WellFormed ∧
    (∀ i < root.callSites.1.size,
      (∀ name, ∃ found, root.callSites.1.lookup i name = .ok found) ∧
      ∃ target : Nat, root.callSites.1.functionScope i = .ok target ∧
        root.callSites.1.FunctionAround i target) ∧
    (∀ site ∈ root.callSites.2, ∃ i : Nat, site.scope = i ∧ i < root.callSites.1.size) ∧
    ∀ limit, root.callSitesWithin limit =
      if root.HoldsDeepPattern limit then .error .tooDeep else .ok root.callSites := by
  have hends : ∀ {t : ScopeTable Node}, t.WellFormed → ∀ i < t.size,
      (∀ name, ∃ found, t.lookup i name = .ok found) ∧
      ∃ target : Nat, t.functionScope i = .ok target ∧ t.FunctionAround i target :=
    fun ht i hi => ⟨ScopeTable.exists_lookup_eq ht.toGrounded hi, ht.functionScope_eq hi⟩
  obtain ⟨w, hrun, hsound, hpending, hresult⟩ := Walk.run_size root
  have hsites : ∀ site ∈ w.sites, ∃ i : Nat, site.scope = i ∧ i < w.table.size := hsound.sites_lt
  refine ⟨fun n => ?_, ⟨w, hrun, hpending, hresult⟩, ?_⟩
  · obtain ⟨w', hrun', hsound', -, -⟩ := (Walk.Sound.start root).run n
    refine ⟨w', hrun', hsound'.wellFormed, fun p hp => ?_⟩
    obtain ⟨i, hscope, hi⟩ := hsound'.pending_lt p hp
    exact ⟨i, hscope, hi, hends hsound'.wellFormed i hi⟩
  · rw [← hresult]
    refine ⟨hsound.wellFormed, hends hsound.wellFormed, hsites, fun limit => ?_⟩
    rw [hresult]
    exact root.callSitesWithin_eq limit

end Node

end RouteCensus
