import RouteCensus.Proofs.Scope.Declarations
import Mathlib.Data.List.Nodup
import Mathlib.Data.List.Infix

/-! # Scope tables represent declarations

A table represents the scopes and declarations that were met so far if its
entries are these scopes in the order in which they were met, each with the
position of the scope around it and with the first declaration of every name.
Every operation of a survey keeps this relation, and under it looking a name up
is a search through the declarations.
-/

namespace RouteCensus

/-- A scope as its scope nodes from the inside out; the program is the empty chain. -/
abbrev Chain := List ScopeNode

namespace Chain

def home (chain : Chain) : Home :=
  chain.head?.map ScopeNode.place

def kind : Chain → ScopeKind
  | [] => .program
  | scope :: _ => if scope.isFunction then .function else .block

/-- The chain from the nearest function on. -/
def function (chain : Chain) : Chain :=
  chain.dropWhile fun scope => !scope.isFunction

theorem home_function (chain : Chain) :
    home (function chain) = (chain.find? ScopeNode.isFunction).map ScopeNode.place := by
  induction chain with
  | nil => rfl
  | cons scope outer ih =>
    cases hf : scope.isFunction with
    | true => simp [function, home, hf]
    | false => simpa [function, List.dropWhile_cons, List.find?_cons, hf] using ih

/-- The parent that the scope `chain` has as the entry at position `i`: an earlier entry. -/
def ParentAt (chains : List Chain) (i : Nat) (parent : Option Int) : Chain → Prop
  | [] => parent = none
  | _ :: outer => ∃ j < i, chains[j]? = some outer ∧ parent = some (j : Int)

end Chain

theorem Declaration.first?_append (known more : List Declaration) (home : Home) (name : String) :
    first? (known ++ more) home name = (first? known home name).or (first? more home name) := by
  simp only [first?, List.find?_append, Option.map_or]

theorem Declaration.first?_singleton (d : Declaration) (home : Home) (name : String) :
    first? [d] home name =
      if d.home == home && d.binding.name == name then some d.binding else none := by
  unfold first?
  cases hd : d.home == home && d.binding.name == name <;> simp [hd]

@[simp] theorem Scope.add_id {α : Type} (s : Scope α) (b : Binding α) :
    (s.add b).id = s.id := by
  unfold Scope.add
  split <;> rfl

@[simp] theorem Scope.add_kind {α : Type} (s : Scope α) (b : Binding α) :
    (s.add b).kind = s.kind := by
  unfold Scope.add
  split <;> rfl

@[simp] theorem Scope.add_parent {α : Type} (s : Scope α) (b : Binding α) :
    (s.add b).parent = s.parent := by
  unfold Scope.add
  split <;> rfl

theorem Scope.binding?_add {α : Type} (s : Scope α) (b : Binding α) (name : String) :
    (s.add b).binding? name = (s.binding? name).or (if b.name == name then some b else none) := by
  unfold Scope.add
  by_cases hname : b.name = name
  · subst hname
    cases hold : s.binding? b.name with
    | none =>
      have hnone : s.bindings.find? (fun c => c.name == b.name) = none := hold
      simp [Scope.binding?, List.find?_append, hnone]
    | some c => simp [hold]
  · split
    · simp [hname]
    · simp [Scope.binding?, List.find?_append, hname]

namespace ScopeTable

variable {α : Type}

theorem position?_natCast (t : ScopeTable α) {i : Nat} (hi : i < t.size) :
    t.position? (i : Int) = some i := by
  simp [position?, hi]

theorem get?_natCast (t : ScopeTable α) (i : Nat) : t.get? (i : Int) = t.scopes[i]? := by
  by_cases hi : i < t.size
  · rw [get?, t.position?_natCast hi]
    rfl
  · have hnone : t.scopes[i]? = none := List.getElem?_eq_none (by simpa [size] using hi)
    rw [hnone]
    simp [get?, position?, hi]

theorem insert_scopes (t : ScopeTable α) {i : Nat} (hi : i < t.size) (b : Binding α) :
    (t.insert i b).scopes = t.scopes.modify i fun s => s.add b := by
  simp [insert, t.position?_natCast hi]

end ScopeTable

/-- The entry at position `i` of a table is the scope `chain`. -/
structure Scope.Shows (scope : Scope Node) (chains : List Chain) (known : List Declaration)
    (i : Nat) (chain : Chain) : Prop where
  kind_eq : scope.kind = Chain.kind chain
  parent_at : Chain.ParentAt chains i scope.parent chain
  binding_eq : ∀ name, scope.binding? name = Declaration.first? known (Chain.home chain) name

structure Represents (t : ScopeTable Node) (chains : List Chain)
    (known : List Declaration) : Prop where
  size_eq : t.size = chains.length
  program_first : chains[0]? = some []
  homes_nodup : (chains.map Chain.home).Nodup
  home_mem : ∀ d ∈ known, d.home ∈ chains.map Chain.home
  shows : ∀ i chain, chains[i]? = some chain →
    ∃ scope : Scope Node, t.scopes[i]? = some scope ∧ scope.Shows chains known i chain

namespace Represents

variable {t : ScopeTable Node} {chains : List Chain} {known : List Declaration}

theorem start : Represents {} [[]] [] where
  size_eq := rfl
  program_first := rfl
  homes_nodup := by simp
  home_mem := by simp
  shows := by
    intro i chain hchain
    cases i with
    | zero =>
      cases hchain
      exact ⟨_, rfl, rfl, rfl, fun _ => rfl⟩
    | succ i => simp at hchain

theorem lt_size (h : Represents t chains known) {i : Nat} {chain : Chain}
    (hi : chains[i]? = some chain) :
    i < t.size := by
  rw [h.size_eq]
  exact (List.getElem?_eq_some_iff.1 hi).1

/-- Different entries have different homes. -/
theorem position_unique (h : Represents t chains known) {i j : Nat} {chain other : Chain}
    (hi : chains[i]? = some chain) (hj : chains[j]? = some other)
    (heq : Chain.home chain = Chain.home other) :
    i = j := by
  have hlt : i < (chains.map Chain.home).length := by
    simpa using (List.getElem?_eq_some_iff.1 hi).1
  apply (List.getElem?_inj hlt h.homes_nodup).1
  rw [List.getElem?_map, List.getElem?_map, hi, hj]
  simp [heq]

theorem length_le (h : Represents t chains known) (chain : Chain) {i : Nat}
    (hi : chains[i]? = some chain) :
    chain.length ≤ i := by
  induction chain generalizing i with
  | nil => simp
  | cons scope outer ih =>
    obtain ⟨entry, -, hentry⟩ := h.shows i _ hi
    obtain ⟨j, hj, houter, -⟩ := hentry.parent_at
    have hle := ih houter
    simp only [List.length_cons]
    omega

/-- Looking a name up follows the chain of a scope outward. -/
theorem lookup_eq (h : Represents t chains known) {i : Nat} {chain : Chain}
    (hi : chains[i]? = some chain) (name : String) :
    t.lookup i name =
      .ok (chain.tails.findSome? fun c => Declaration.first? known (Chain.home c) name) := by
  have hwalk : ∀ (chain : Chain) (fuel i : Nat), chain.length < fuel → chains[i]? = some chain →
      t.outward (fun _ scope => scope.binding? name) fuel i =
        .ok (chain.tails.findSome? fun c => Declaration.first? known (Chain.home c) name) := by
    intro chain
    induction chain with
    | nil =>
      intro fuel i hfuel hi
      obtain ⟨fuel, rfl⟩ : ∃ n, fuel = n + 1 := ⟨fuel - 1, by simp at hfuel; omega⟩
      obtain ⟨scope, hscope, hshows⟩ := h.shows i _ hi
      simp only [ScopeTable.outward, t.get?_natCast, hscope, hshows.binding_eq, List.tails,
        List.findSome?]
      cases Declaration.first? known (Chain.home []) name with
      | none => simp [show scope.parent = none from hshows.parent_at]
      | some b => rfl
    | cons node outer ih =>
      intro fuel i hfuel hi
      obtain ⟨fuel, rfl⟩ : ∃ n, fuel = n + 1 := ⟨fuel - 1, by simp at hfuel; omega⟩
      obtain ⟨scope, hscope, hshows⟩ := h.shows i _ hi
      obtain ⟨j, -, houter, hparent⟩ := hshows.parent_at
      simp only [ScopeTable.outward, t.get?_natCast, hscope, hshows.binding_eq, hparent, List.tails,
        List.findSome?]
      cases Declaration.first? known (Chain.home (node :: outer)) name with
      | none => exact ih fuel j (by simpa using hfuel) houter
      | some b => rfl
  exact hwalk chain _ i (by have := h.length_le chain hi; have := h.lt_size hi; omega) hi

/-- A hoisted name goes to the nearest function, or to the program. -/
theorem hoistTarget_eq (h : Represents t chains known) {i : Nat} {chain : Chain}
    (hi : chains[i]? = some chain) :
    ∃ j : Nat, t.hoistTarget i = j ∧ chains[j]? = some (Chain.function chain) := by
  have hwalk : ∀ (chain : Chain) (fuel i : Nat), chain.length < fuel → chains[i]? = some chain →
      ∃ j : Nat,
        t.outward (fun id scope => if scope.kind = .block then none else some id) fuel i =
          .ok (some (j : Int)) ∧
        chains[j]? = some (Chain.function chain) := by
    intro chain
    induction chain with
    | nil =>
      intro fuel i hfuel hi
      obtain ⟨fuel, rfl⟩ : ∃ n, fuel = n + 1 := ⟨fuel - 1, by simp at hfuel; omega⟩
      obtain ⟨scope, hscope, hshows⟩ := h.shows i _ hi
      refine ⟨i, ?_, hi⟩
      simp [ScopeTable.outward, t.get?_natCast, hscope, hshows.kind_eq, Chain.kind]
    | cons node outer ih =>
      intro fuel i hfuel hi
      obtain ⟨fuel, rfl⟩ : ∃ n, fuel = n + 1 := ⟨fuel - 1, by simp at hfuel; omega⟩
      obtain ⟨scope, hscope, hshows⟩ := h.shows i _ hi
      obtain ⟨j, -, houter, hparent⟩ := hshows.parent_at
      cases hf : node.isFunction with
      | true =>
        refine ⟨i, ?_, by simpa [Chain.function, hf] using hi⟩
        simp [ScopeTable.outward, t.get?_natCast, hscope, hshows.kind_eq, Chain.kind, hf]
      | false =>
        obtain ⟨k, hk, hchain⟩ := ih fuel j (by simpa using hfuel) houter
        refine ⟨k, ?_, by simpa [Chain.function, hf] using hchain⟩
        simp [ScopeTable.outward, t.get?_natCast, hscope, hshows.kind_eq, Chain.kind, hf, hparent,
          hk]
  obtain ⟨j, hj, hchain⟩ := hwalk chain (t.size + 1) i
    (by have := h.length_le chain hi; have := h.lt_size hi; omega) hi
  refine ⟨j, ?_, hchain⟩
  simp [ScopeTable.hoistTarget, ScopeTable.functionScope, hj, Except.map]

theorem insert (h : Represents t chains known) {i : Nat} {chain : Chain}
    (hi : chains[i]? = some chain) (b : Binding Node) :
    Represents (t.insert i b) chains (known ++ [{ home := Chain.home chain, binding := b }]) where
  size_eq := by
    rw [← h.size_eq]
    simp [ScopeTable.size, t.insert_scopes (h.lt_size hi)]
  program_first := h.program_first
  homes_nodup := h.homes_nodup
  home_mem := by
    intro d hd
    rcases List.mem_append.1 hd with hd | hd
    · exact h.home_mem d hd
    · rw [List.mem_singleton.1 hd]
      exact List.mem_map_of_mem (List.mem_of_getElem? hi)
  shows := by
    intro j other hj
    obtain ⟨scope, hscope, hshows⟩ := h.shows j other hj
    have hentry : (t.insert i b).scopes[j]? = some (if i = j then scope.add b else scope) := by
      rw [t.insert_scopes (h.lt_size hi), List.getElem?_modify, hscope]
      rfl
    refine ⟨_, hentry, ?_⟩
    by_cases hij : i = j
    · subst hij
      obtain rfl : chain = other := Option.some.inj (hi.symm.trans hj)
      rw [if_pos rfl]
      refine ⟨by rw [Scope.add_kind, hshows.kind_eq],
        by rw [Scope.add_parent]; exact hshows.parent_at, fun name => ?_⟩
      rw [Scope.binding?_add, hshows.binding_eq, Declaration.first?_append,
        Declaration.first?_singleton]
      simp
    · have hne : Chain.home chain ≠ Chain.home other := fun heq => hij (h.position_unique hi hj heq)
      rw [if_neg hij]
      refine ⟨hshows.kind_eq, hshows.parent_at, fun name => ?_⟩
      rw [hshows.binding_eq, Declaration.first?_append, Declaration.first?_singleton]
      simp [hne]

theorem insertAll (h : Represents t chains known) {i : Nat} {chain : Chain}
    (hi : chains[i]? = some chain) (names : List String) (kind : BindingKind) :
    Represents (t.insertAll i names kind) chains
      (known ++ Declaration.plain (Chain.home chain) kind names) := by
  induction names generalizing t known with
  | nil => simpa [ScopeTable.insertAll, Declaration.plain] using h
  | cons name names ih =>
    have hrest := ih (h.insert hi { name := name, kind := kind })
    simpa [ScopeTable.insertAll, Declaration.plain] using hrest

/-- A new scope is empty, because no declaration so far belongs to it. -/
theorem push (h : Represents t chains known) {i : Nat} {outer : Chain}
    (hi : chains[i]? = some outer)
    (scope : ScopeNode) (hfresh : some scope.place ∉ chains.map Chain.home) :
    Represents (t.push (Chain.kind (scope :: outer)) i) (chains ++ [scope :: outer]) known where
  size_eq := by simpa [ScopeTable.size, ScopeTable.push] using h.size_eq
  program_first := by
    rw [List.getElem?_append_left (List.getElem?_eq_some_iff.1 h.program_first).1]
    exact h.program_first
  homes_nodup := by
    rw [List.map_append, List.nodup_append]
    refine ⟨h.homes_nodup, by simp, ?_⟩
    rintro home hold _ hnew rfl
    rw [List.mem_singleton.1 hnew] at hold
    exact hfresh hold
  home_mem := by
    intro d hd
    rw [List.map_append]
    exact List.mem_append_left _ (h.home_mem d hd)
  shows := by
    have hsize : t.scopes.length = chains.length := h.size_eq
    have hlt := (List.getElem?_eq_some_iff.1 hi).1
    intro j chain hj
    by_cases hlast : j < chains.length
    · rw [List.getElem?_append_left hlast] at hj
      obtain ⟨entry, hentry, hshows⟩ := h.shows j chain hj
      refine ⟨entry, ?_, hshows.kind_eq, ?_, hshows.binding_eq⟩
      · rw [ScopeTable.push, List.getElem?_append_left (by omega)]
        exact hentry
      · cases chain with
        | nil => exact hshows.parent_at
        | cons node rest =>
          obtain ⟨k, hk, hrest, hparent⟩ := hshows.parent_at
          exact ⟨k, hk, by rw [List.getElem?_append_left (by omega)]; exact hrest, hparent⟩
    · obtain rfl : j = chains.length := by
        have := (List.getElem?_eq_some_iff.1 hj).1
        simp at this
        omega
      obtain rfl : scope :: outer = chain := by simpa using hj
      refine ⟨_, by rw [ScopeTable.push, ← hsize]; exact List.getElem?_concat_length, rfl, ?_,
        fun name => ?_⟩
      · exact ⟨i, hlt, by rw [List.getElem?_append_left hlt]; exact hi, rfl⟩
      · symm
        simp only [Scope.binding?, List.find?_nil, Declaration.first?, Option.map_eq_none_iff,
          List.find?_eq_none]
        intro d hd hsame
        apply hfresh
        have hhome : d.home = some scope.place := by
          simp only [Bool.and_eq_true, beq_iff_eq] at hsame
          exact hsame.1
        exact hhome ▸ h.home_mem d hd

end Represents

namespace Spot

variable (s : Spot)

/-- The scope that a spot opens. -/
def opened : Option Chain :=
  if opensScope s.parent s.node then some (⟨s.place, isFunctionKind s.node.kind⟩ :: s.scopes)
  else none

/-- The scope of the children of a spot. -/
def inner : Chain :=
  scopeNodes ((s.place, s.node) :: s.around)

theorem inner_eq : s.inner = s.opened.getD s.scopes := by
  unfold inner opened scopeNodes scopes
  show (if opensScope s.parent s.node then _ else _) = _
  cases opensScope s.parent s.node <;> rfl

/-- A kind in a class is different from every word outside of it. -/
private theorem kind_beq_eq_false {p : String → Bool} {kind word : String} (hkind : p kind = true)
    (hword : p word = false) : (kind == word) = false := by
  apply beq_eq_false_iff_ne.2
  rintro rfl
  rw [hkind] at hword
  cases hword

theorem declarations_of_function (hf : isFunctionKind s.node.kind = true) :
    s.declarations = s.functionName ++ s.parameters := by
  have hne (word : String) (hword : isFunctionKind word = false) := kind_beq_eq_false hf hword
  simp [declarations, catchParameter, loopVariables, declarator, className, imports,
    hne "catch_clause" rfl, hne "for_in_statement" rfl, hne "variable_declarator" rfl,
    hne "class_declaration" rfl, hne "abstract_class_declaration" rfl, hne "import_statement" rfl]

theorem declarations_of_block (hf : isFunctionKind s.node.kind = false)
    (hb : isBlockKind s.node.kind = true) :
    s.declarations = s.catchParameter ++ s.loopVariables := by
  have hne (word : String) (hword : isBlockKind word = false) := kind_beq_eq_false hb hword
  simp [declarations, functionName, parameters, declarator, className, imports, hf,
    hne "function_declaration" rfl, hne "generator_function_declaration" rfl,
      hne "variable_declarator" rfl,
    hne "class_declaration" rfl, hne "abstract_class_declaration" rfl, hne "import_statement" rfl]

theorem declarations_of_other (hf : isFunctionKind s.node.kind = false)
    (hb : isBlockKind s.node.kind = false) :
    s.declarations = s.declarator ++ s.className ++ s.imports := by
  have hnf (word : String) (hword : (!isFunctionKind word) = false) :=
    kind_beq_eq_false (p := fun kind => !isFunctionKind kind) (by simpa using hf) hword
  have hnb (word : String) (hword : (!isBlockKind word) = false) :=
    kind_beq_eq_false (p := fun kind => !isBlockKind kind) (by simpa using hb) hword
  simp [declarations, functionName, parameters, catchParameter, loopVariables, hf,
    hnf "function_declaration" rfl, hnf "generator_function_declaration" rfl,
    hnb "catch_clause" rfl, hnb "for_in_statement" rfl]

theorem opened_eq_none (hf : isFunctionKind s.node.kind = false)
    (hb : isBlockKind s.node.kind = false) :
    s.opened = none := by
  simp [opened, opensScope, hf, hb]

end Spot

/-- A table and the scope of the children, as they are after a spot was entered. -/
structure Entered (r : ScopeTable Node × Int) (chains : List Chain) (known : List Declaration)
    (inner : Chain) : Prop where
  represents : Represents r.1 chains known
  inner_at : ∃ j : Nat, r.2 = j ∧ chains[j]? = some inner

namespace Represents

variable {t : ScopeTable Node} {chains : List Chain} {known : List Declaration} {i : Nat}

theorem insertName (h : Represents t chains known) (s : Spot) (hi : chains[i]? = some s.scopes)
    (kind : BindingKind) :
    Represents (t.insertName i s.node kind) chains
      (known ++ Declaration.plain s.home kind ((s.node.role? "name").toList.map Node.text)) := by
  unfold ScopeTable.insertName
  cases s.node.role? "name" with
  | none => simpa [Declaration.plain] using h
  | some name => exact h.insert hi { name := name.text, kind := kind }

theorem insertImports (h : Represents t chains known) (s : Spot)
    (hkind : s.node.kind = "import_statement") :
    Represents (t.insertImports s.node) chains (known ++ s.imports) := by
  have hall := h.insertAll h.program_first
    ((s.node.namedChildren.filter fun n => n.kind == "import_clause").flatMap fun clause =>
      clause.namedChildren.flatMap ScopeTable.importedNames) .imported
  simpa [ScopeTable.insertImports, Spot.imports, hkind, ScopeTable.program, Chain.home] using hall

theorem insertDeclarator (h : Represents t chains known) (s : Spot)
    (hi : chains[i]? = some s.scopes) (hkind : s.node.kind = "variable_declarator") :
    Represents (t.insertDeclarator s.parent i s.node) chains (known ++ s.declarator) := by
  obtain ⟨j, hj, hfunction⟩ := h.hoistTarget_eq hi
  obtain ⟨target, chain, htarget, hchain, hhome⟩ : ∃ (target : Nat) (chain : Chain),
      (if declarationKeyword s.parent == "var" then t.hoistTarget i else (i : Int)) = target ∧
        chains[target]? = some chain ∧
        (if declarationKeyword s.parent == "var" then s.functionHome else s.home) =
          Chain.home chain := by
    cases declarationKeyword s.parent == "var" with
    | true => exact ⟨j, _, hj, hfunction, (Chain.home_function _).symm⟩
    | false => exact ⟨i, _, rfl, hi, rfl⟩
  unfold ScopeTable.insertDeclarator Spot.declarator
  simp only [hkind, htarget, hhome, beq_self_eq_true, ite_true]
  cases s.node.role? "name" with
  | none => simpa using h
  | some name =>
    by_cases hid : name.kind = "identifier"
    · have hone := h.insert hchain
        { name := name.text, kind := bindingKindOf (declarationKeyword s.parent),
          init := s.node.role? "value" }
      simpa [hid] using hone
    · simpa [hid] using h.insertAll hchain name.boundNames
        (bindingKindOf (declarationKeyword s.parent))

theorem enterFunction (h : Represents t chains known) (s : Spot) (hi : chains[i]? = some s.scopes)
    (hfresh : some s.place ∉ chains.map Chain.home) (hf : isFunctionKind s.node.kind = true) :
    Entered (t.enterFunction i s.node) (chains ++ s.opened.toList)
      (known ++ s.declarations) s.inner := by
  have hopened : s.opened = some (⟨s.place, true⟩ :: s.scopes) := by
    simp [Spot.opened, opensScope, hf]
  obtain ⟨t₁, ht₁, hnamed⟩ : ∃ t₁, t₁ = (if s.node.kind == "function_declaration" ||
      s.node.kind == "generator_function_declaration" then t.insertName i s.node .function else t) ∧
      Represents t₁ chains (known ++ s.functionName) := by
    refine ⟨_, rfl, ?_⟩
    unfold Spot.functionName
    split
    · exact h.insertName s hi .function
    · simpa using h
  have hpush := hnamed.push hi ⟨s.place, true⟩ hfresh
  have hlast : (chains ++ [⟨s.place, true⟩ :: s.scopes])[chains.length]? =
      some (⟨s.place, true⟩ :: s.scopes) :=
    List.getElem?_concat_length
  have hall := hpush.insertAll hlast s.node.parameterNames .parameter
  rw [← hnamed.size_eq] at hall hlast
  have hinner : s.inner = ⟨s.place, true⟩ :: s.scopes := by rw [s.inner_eq, hopened]; rfl
  rw [hopened, hinner, s.declarations_of_function hf, ← List.append_assoc]
  refine ⟨?_, t₁.size, ?_, hlast⟩
  · simp only [ScopeTable.enterFunction, ← ht₁]
    simpa [Spot.parameters, hf, Chain.kind, Chain.home] using hall
  · simp only [ScopeTable.enterFunction, ← ht₁]

/-- The head of a block declares in the block itself, but for hoisted variables. -/
theorem insertHead (h : Represents t chains known) (s : Spot) (hi : chains[i]? = some s.scopes)
    {j : Nat} {chain : Chain} (hj : chains[j]? = some chain)
    (hhome : Chain.home chain = some s.place) :
    Represents (t.insertHead i j s.node) chains
      (known ++ (s.catchParameter ++ s.loopVariables)) := by
  unfold ScopeTable.insertHead Spot.catchParameter Spot.loopVariables
  by_cases hcatch : s.node.kind = "catch_clause"
  · have hall := h.insertAll hj ((s.node.role? "parameter").toList.flatMap Node.boundNames) .lexical
    rw [hhome] at hall
    cases hrole : s.node.role? "parameter" <;> simpa [hcatch, hrole] using hall
  · by_cases hloop : s.node.kind = "for_in_statement"
    · obtain ⟨k, hk, hfunction⟩ := h.hoistTarget_eq hi
      simp only [hloop, beq_self_eq_true, ite_true]
      cases hkeyword : s.node.role? "kind" with
      | none => simpa using h
      | some keyword =>
        have hnames : ((s.node.role? "left").map Node.boundNames).getD [] =
            (s.node.role? "left").toList.flatMap Node.boundNames := by
          cases s.node.role? "left" <;> simp
        by_cases hvar : keyword.text = "var"
        · have hall :=
            h.insertAll hfunction ((s.node.role? "left").toList.flatMap Node.boundNames) .hoisted
          rw [Chain.home_function] at hall
          simpa [hnames, hvar, hk, Spot.functionHome] using hall
        · have hall :=
            h.insertAll hj ((s.node.role? "left").toList.flatMap Node.boundNames) .lexical
          rw [hhome] at hall
          simpa [hnames, hvar] using hall
    · simpa [hcatch, hloop] using h

theorem enterBlock (h : Represents t chains known) (s : Spot) (hi : chains[i]? = some s.scopes)
    (hfresh : some s.place ∉ chains.map Chain.home) (hf : isFunctionKind s.node.kind = false)
    (hb : isBlockKind s.node.kind = true) :
    Entered (t.enterBlock s.parent i s.node) (chains ++ s.opened.toList)
      (known ++ s.declarations) s.inner := by
  rw [s.inner_eq, s.declarations_of_block hf hb]
  cases hshare : sharesScope s.parent s.node with
  | true =>
    -- The body of a function is a plain block, so its head declares nothing.
    have hkind : s.node.kind = "statement_block" := by
      simp only [sharesScope, Bool.and_eq_true, beq_iff_eq] at hshare
      exact hshare.1
    have hopened : s.opened = none := by
      simp only [sharesScope] at hshare
      simp [Spot.opened, opensScope, hf, hshare]
    rw [hopened]
    refine ⟨?_, i, by simp [ScopeTable.enterBlock, hshare], by simpa using hi⟩
    simpa [ScopeTable.enterBlock, hshare, ScopeTable.insertHead, hkind, Spot.catchParameter,
      Spot.loopVariables] using h
  | false =>
    have hopened : s.opened = some (⟨s.place, false⟩ :: s.scopes) := by
      simp only [sharesScope] at hshare
      simp [Spot.opened, opensScope, hf, hb, hshare]
    have hpush := h.push hi ⟨s.place, false⟩ hfresh
    have hold : (chains ++ [⟨s.place, false⟩ :: s.scopes])[i]? = some s.scopes := by
      rw [List.getElem?_append_left (List.getElem?_eq_some_iff.1 hi).1]
      exact hi
    have hlast : (chains ++ [⟨s.place, false⟩ :: s.scopes])[t.size]? =
        some (⟨s.place, false⟩ :: s.scopes) := by
      rw [h.size_eq]
      exact List.getElem?_concat_length
    rw [hopened]
    refine ⟨?_, t.size, by simp [ScopeTable.enterBlock, hshare], hlast⟩
    simpa [ScopeTable.enterBlock, hshare, Chain.kind] using hpush.insertHead s hold hlast rfl

/-- Entering a spot adds the scope that it opens and the names that it declares. -/
theorem enter (h : Represents t chains known) (s : Spot) (hi : chains[i]? = some s.scopes)
    (hfresh : some s.place ∉ chains.map Chain.home) :
    Entered (t.enter s.parent i s.node) (chains ++ s.opened.toList)
      (known ++ s.declarations) s.inner := by
  unfold ScopeTable.enter
  cases hf : isFunctionKind s.node.kind with
  | true => exact h.enterFunction s hi hfresh hf
  | false =>
    cases hb : isBlockKind s.node.kind with
    | true => exact h.enterBlock s hi hfresh hf hb
    | false =>
      have hstay {known' : List Declaration} {t' : ScopeTable Node}
        (h' : Represents t' chains known') :
          Entered (t', (i : Int)) (chains ++ s.opened.toList) known' s.inner := by
        rw [s.inner_eq, s.opened_eq_none hf hb]
        exact ⟨by simpa using h', i, rfl, by simpa using hi⟩
      rw [s.declarations_of_other hf hb]
      by_cases hvariable : s.node.kind = "variable_declarator"
      · simpa [hvariable, Spot.className,
          Spot.imports] using hstay (h.insertDeclarator s hi hvariable)
      · by_cases hclass : s.node.kind = "class_declaration" ∨
          s.node.kind = "abstract_class_declaration"
        · have hname := h.insertName s hi .classLike
          rcases hclass with hclass | hclass <;>
            simpa [hclass, Spot.className, Spot.imports, Spot.declarator] using hstay hname
        · by_cases himport : s.node.kind = "import_statement"
          · simpa [himport, Spot.className, Spot.declarator] using hstay (h.insertImports s himport)
          · simpa [hvariable, hclass, himport, Spot.className, Spot.imports,
              Spot.declarator] using hstay h

end Represents

end RouteCensus
