import RouteCensus.Proofs.Scope.Simulation

/-! # What a table operation changes

A table is built from the whole program by opening scopes in existing ones and by
declaring names.  In such a table the parent of a scope is an earlier scope, so
the way outward from a scope ends at the program, and looking a name up searches
the scopes on this way.  Opening a scope changes no lookup of the others; a
declaration changes those alone to which it is exposed.
-/

namespace RouteCensus.ScopeTable

variable {α : Type}

/-- The tables that come of opening scopes in existing ones and of declaring names. -/
inductive Built : ScopeTable α → Prop
  | start : Built {}
  | push {t : ScopeTable α} (h : Built t) (kind : ScopeKind) {parent : Nat}
    (hparent : parent < t.size) : Built (t.push kind parent)
  | declare {t t' : ScopeTable α} (h : Built t) {id : Int} {b : Binding α}
    (hdeclare : t.declare id b = .ok t') : Built t'

/-- The binding that a name has in one scope. -/
def bindingAt (t : ScopeTable α) (i : Nat) (name : String) : Option (Binding α) :=
  t.scopes[i]?.bind fun scope => scope.binding? name

/-- The scopes from a scope outward, as far as they go. -/
inductive Ancestry (t : ScopeTable α) : Nat → List Nat → Prop
  | last {i : Nat} {scope : Scope α} (hscope : t.scopes[i]? = some scope)
    (hparent : scope.parent = none) : Ancestry t i [i]
  | step {i parent : Nat} {scope : Scope α} {outer : List Nat} (hscope : t.scopes[i]? = some scope)
    (hparent : scope.parent = some (parent : Int)) (houter : Ancestry t parent outer) :
    Ancestry t i (i :: outer)

/-- A name that is declared in the scope `s` is seen from the scope `i`: the one is the other or
stands around it, and up to it and in it the name is not bound yet. -/
def Exposes (t : ScopeTable α) (s i : Nat) (name : String) : Prop :=
  ∃ below above, t.Ancestry i (below ++ s :: above) ∧
    (∀ k ∈ below, t.bindingAt k name = none) ∧ t.bindingAt s name = none

/-- Scopes have their positions as ids, and their parents come before them. -/
structure Grounded (t : ScopeTable α) : Prop where
  id_eq : ∀ {i : Nat} {scope : Scope α}, t.scopes[i]? = some scope → scope.id = i
  parent_none_iff : ∀ {i : Nat} {scope : Scope α}, t.scopes[i]? = some scope →
    (scope.parent = none ↔ i = 0)
  parent_lt : ∀ {i : Nat} {scope : Scope α} {parent : Int}, t.scopes[i]? = some scope →
    scope.parent = some parent → ∃ j < i, parent = (j : Int)

section Entries

variable (t : ScopeTable α)

theorem lt_size_of_getElem? {t : ScopeTable α} {i : Nat} {scope : Scope α}
    (h : t.scopes[i]? = some scope) : i < t.size :=
  (List.getElem?_eq_some_iff.1 h).1

theorem exists_getElem?_of_lt {t : ScopeTable α} {i : Nat} (h : i < t.size) :
    ∃ scope, t.scopes[i]? = some scope :=
  ⟨_, List.getElem?_eq_getElem h⟩

theorem lt_size_of_position? {t : ScopeTable α} {id : Int} {i : Nat}
    (h : t.position? id = some i) : i < t.size := by
  unfold position? at h
  split at h <;> split at h <;> simp at h <;> omega

/-- The first table has the program alone. -/
theorem scopes_start {i : Nat} {scope : Scope α}
    (h : ({} : ScopeTable α).scopes[i]? = some scope) :
    i = 0 ∧ scope = { id := 0, kind := .program, parent := none } := by
  cases i with
  | zero => exact ⟨rfl, (Option.some.inj h).symm⟩
  | succ i => simp at h

@[simp] theorem size_push (kind : ScopeKind) (parent : Int) :
    (t.push kind parent).size = t.size + 1 := by
  simp [size, push]

theorem scopes_push_of_lt (kind : ScopeKind) (parent : Int) {i : Nat} (hi : i < t.size) :
    (t.push kind parent).scopes[i]? = t.scopes[i]? :=
  List.getElem?_append_left hi

theorem scopes_push_size (kind : ScopeKind) (parent : Int) :
    (t.push kind parent).scopes[t.size]? =
      some { id := t.size, kind := kind, parent := some parent } := by
  simp [push, size]

@[simp] theorem size_insert (id : Int) (b : Binding α) : (t.insert id b).size = t.size := by
  unfold insert
  split <;> simp [size]

@[simp] theorem position?_insert (id : Int) (b : Binding α) (address : Int) :
    (t.insert id b).position? address = t.position? address := by
  simp only [position?, size_insert]

theorem scopes_insert {s : Nat} (hs : s < t.size) (b : Binding α) (i : Nat) :
    (t.insert s b).scopes[i]? =
      t.scopes[i]?.map fun scope => if s = i then scope.add b else scope := by
  rw [t.insert_scopes hs, List.getElem?_modify]
  rfl

theorem scopes_push_cases {t : ScopeTable α} {kind : ScopeKind} {parent : Int} {i : Nat}
    {scope : Scope α} (h : (t.push kind parent).scopes[i]? = some scope) :
    t.scopes[i]? = some scope ∨
      i = t.size ∧ scope = { id := t.size, kind := kind, parent := some parent } := by
  have hlt := lt_size_of_getElem? h
  rw [size_push] at hlt
  rcases Nat.lt_succ_iff_lt_or_eq.1 hlt with hlt | rfl
  · exact .inl ((t.scopes_push_of_lt kind parent hlt).symm.trans h)
  · rw [scopes_push_size] at h
    exact .inr ⟨rfl, (Option.some.inj h).symm⟩

/-- A new binding leaves the rest of its scope and all other scopes as they are. -/
theorem scopes_insert_cases {t : ScopeTable α} {s : Nat} {b : Binding α} {i : Nat}
    {scope : Scope α} (hs : s < t.size) (h : (t.insert s b).scopes[i]? = some scope) :
    ∃ old, t.scopes[i]? = some old ∧ scope.id = old.id ∧ scope.kind = old.kind ∧
      scope.parent = old.parent := by
  rw [t.scopes_insert hs] at h
  obtain ⟨old, hold, rfl⟩ := Option.map_eq_some_iff.1 h
  refine ⟨old, hold, ?_⟩
  split <;> simp

/-- A declaration succeeds exactly if its scope is there. -/
theorem declare_eq_ok_iff {t t' : ScopeTable α} {id : Int} {b : Binding α} :
    t.declare id b = .ok t' ↔ ∃ s, t.position? id = some s ∧ t' = t.insert s b := by
  unfold declare
  cases hid : t.position? id with
  | none => simp
  | some s =>
    have hs := t.position?_natCast (lt_size_of_position? hid)
    simp [insert, hid, hs, eq_comm]

end Entries

namespace Grounded

theorem start : Grounded ({} : ScopeTable α) where
  id_eq := by
    intro i scope h
    obtain ⟨rfl, rfl⟩ := scopes_start h
    rfl
  parent_none_iff := by
    intro i scope h
    obtain ⟨rfl, rfl⟩ := scopes_start h
    exact iff_of_true rfl rfl
  parent_lt := by
    intro i scope parent h hparent
    obtain ⟨rfl, rfl⟩ := scopes_start h
    cases hparent

variable {t : ScopeTable α}

theorem push (h : t.Grounded) (kind : ScopeKind) {parent : Nat} (hparent : parent < t.size) :
    (t.push kind parent).Grounded := by
  constructor
  · intro i scope hi
    obtain hold | ⟨rfl, rfl⟩ := scopes_push_cases hi
    · exact h.id_eq hold
    · rfl
  · intro i scope hi
    obtain hold | ⟨rfl, rfl⟩ := scopes_push_cases hi
    · exact h.parent_none_iff hold
    · simp only [reduceCtorEq, false_iff]
      omega
  · intro i scope outer hi houter
    obtain hold | ⟨rfl, rfl⟩ := scopes_push_cases hi
    · exact h.parent_lt hold houter
    · exact ⟨parent, hparent, (Option.some.inj houter).symm⟩

theorem insert (h : t.Grounded) {s : Nat} (hs : s < t.size) (b : Binding α) :
    (t.insert s b).Grounded := by
  constructor
  · intro i scope hi
    obtain ⟨old, hold, hid, -, -⟩ := scopes_insert_cases hs hi
    exact hid.trans (h.id_eq hold)
  · intro i scope hi
    obtain ⟨old, hold, -, -, hparent⟩ := scopes_insert_cases hs hi
    rw [hparent]
    exact h.parent_none_iff hold
  · intro i scope parent hi houter
    obtain ⟨old, hold, -, -, hparent⟩ := scopes_insert_cases hs hi
    exact h.parent_lt hold (hparent.symm.trans houter)

/-- The way outward from a scope ends, because it goes to earlier scopes only. -/
theorem exists_ancestry (h : t.Grounded) {i : Nat} (hi : i < t.size) : ∃ ids, t.Ancestry i ids := by
  induction i using Nat.strong_induction_on with
  | _ i ih =>
    obtain ⟨scope, hscope⟩ := exists_getElem?_of_lt hi
    cases hparent : scope.parent with
    | none => exact ⟨[i], .last hscope hparent⟩
    | some parent =>
      obtain ⟨j, hj, rfl⟩ := h.parent_lt hscope hparent
      obtain ⟨outer, houter⟩ := ih j hj (hj.trans hi)
      exact ⟨i :: outer, .step hscope hparent houter⟩

end Grounded

theorem Built.grounded {t : ScopeTable α} (h : t.Built) : t.Grounded := by
  induction h with
  | start => exact .start
  | push _ kind hparent ih => exact ih.push kind hparent
  | declare _ hdeclare ih =>
    obtain ⟨s, hs, rfl⟩ := declare_eq_ok_iff.1 hdeclare
    exact ih.insert (lt_size_of_position? hs) _

namespace Ancestry

variable {t : ScopeTable α} {i : Nat} {ids : List Nat}

theorem lt_size (h : t.Ancestry i ids) : i < t.size := by
  cases h with
  | last hscope _ | step hscope _ _ => exact lt_size_of_getElem? hscope

theorem lt_size_of_mem (h : t.Ancestry i ids) {k : Nat} (hk : k ∈ ids) : k < t.size := by
  induction h with
  | last hscope _ =>
    rw [List.mem_singleton.1 hk]
    exact lt_size_of_getElem? hscope
  | step hscope _ _ ih =>
    rcases List.mem_cons.1 hk with rfl | hk
    · exact lt_size_of_getElem? hscope
    · exact ih hk

theorem length_le (ht : t.Grounded) (h : t.Ancestry i ids) : ids.length ≤ i + 1 := by
  induction h with
  | last => simp
  | step hscope hparent _ ih =>
    obtain ⟨j, hj, heq⟩ := ht.parent_lt hscope hparent
    cases Int.ofNat.inj heq
    simp only [List.length_cons]
    omega

/-- Walking outward takes one round for every scope on the way. -/
theorem outward_eq {β : Type} (h : t.Ancestry i ids) (found : Int → Scope α → Option β)
    {fuel : Nat} (hfuel : ids.length ≤ fuel) :
    t.outward found fuel i =
      .ok (ids.findSome? fun k : Nat => t.scopes[k]?.bind fun scope => found k scope) := by
  induction h generalizing fuel with
  | @last i scope hscope hparent =>
    obtain ⟨fuel, rfl⟩ := Nat.exists_eq_add_of_le' hfuel
    cases hfound : found i scope <;> simp [outward, get?_natCast, hscope, hparent, hfound]
  | @step i parent scope outer hscope hparent _ ih =>
    obtain ⟨fuel, rfl⟩ : ∃ n, fuel = n + 1 := ⟨fuel - 1, by simp at hfuel; omega⟩
    have houter := ih (Nat.le_of_succ_le_succ hfuel)
    cases hfound : found i scope <;>
      simp [outward, get?_natCast, hscope, hparent, hfound, houter]

theorem lookup_eq (h : t.Ancestry i ids) (ht : t.Grounded) (name : String) :
    t.lookup i name = .ok (ids.findSome? fun k => t.bindingAt k name) :=
  h.outward_eq _ (by have := h.length_le ht; have := h.lt_size; omega)

/-- Where scopes keep their parents, the way outward stays the same. -/
theorem of_parents {t' : ScopeTable α} (h : t.Ancestry i ids)
    (hkeep : ∀ {k : Nat} {scope : Scope α}, t.scopes[k]? = some scope →
      ∃ scope', t'.scopes[k]? = some scope' ∧ scope'.parent = scope.parent) :
    t'.Ancestry i ids := by
  induction h with
  | last hscope hparent =>
    obtain ⟨scope', hscope', hsame⟩ := hkeep hscope
    exact .last hscope' (hsame.trans hparent)
  | step hscope hparent _ ih =>
    obtain ⟨scope', hscope', hsame⟩ := hkeep hscope
    exact .step hscope' (hsame.trans hparent) ih

theorem push (h : t.Ancestry i ids) (kind : ScopeKind) (parent : Int) :
    (t.push kind parent).Ancestry i ids := by
  refine h.of_parents fun {k scope} hscope => ⟨scope, ?_, rfl⟩
  rw [t.scopes_push_of_lt kind parent (lt_size_of_getElem? hscope), hscope]

theorem push_new (h : t.Ancestry i ids) (kind : ScopeKind) :
    (t.push kind i).Ancestry t.size (t.size :: ids) :=
  .step (t.scopes_push_size kind i) rfl (h.push kind i)

theorem insert (h : t.Ancestry i ids) {s : Nat} (hs : s < t.size) (b : Binding α) :
    (t.insert s b).Ancestry i ids := by
  refine h.of_parents fun {k scope} hscope => ?_
  rw [t.scopes_insert hs, hscope]
  refine ⟨_, rfl, ?_⟩
  split <;> simp

end Ancestry

section Bindings

variable (t : ScopeTable α)

theorem bindingAt_push (kind : ScopeKind) (parent : Int) (k : Nat) (name : String) :
    (t.push kind parent).bindingAt k name = t.bindingAt k name := by
  unfold bindingAt
  rcases Nat.lt_trichotomy k t.size with hk | rfl | hk
  · rw [t.scopes_push_of_lt kind parent hk]
  · rw [scopes_push_size, List.getElem?_eq_none (Nat.le_refl t.size)]
    rfl
  · have hout : (t.push kind parent).scopes.length ≤ k := (t.size_push kind parent).le.trans hk
    rw [List.getElem?_eq_none hout, List.getElem?_eq_none hk.le]

theorem bindingAt_insert {s : Nat} (hs : s < t.size) (b : Binding α) (k : Nat) (name : String) :
    (t.insert s b).bindingAt k name =
      (t.bindingAt k name).or (if s = k ∧ b.name = name then some b else none) := by
  unfold bindingAt
  rw [t.scopes_insert hs]
  cases hscope : t.scopes[k]? with
  | none =>
    have hne : s ≠ k := by
      rintro rfl
      rw [List.getElem?_eq_getElem hs] at hscope
      cases hscope
    simp [hne]
  | some scope =>
    by_cases hk : s = k
    · simp [hk, Scope.binding?_add]
    · simp [hk]

/-- Every address of a scope gives the same lookups. -/
theorem lookup_of_position? {t : ScopeTable α} {id : Int} {i : Nat} (h : t.position? id = some i)
    (name : String) : t.lookup id name = t.lookup i name := by
  have hi := lt_size_of_position? h
  obtain ⟨scope, hscope⟩ := exists_getElem?_of_lt hi
  have hget : t.get? id = some scope := by
    rw [get?, h]
    exact hscope
  simp only [lookup, outward, hget, get?_natCast, hscope]

end Bindings

section Search

variable {β : Type} {f : Nat → Option β} {s : Nat} {b : β}

/-- A new answer at `s` is found if no answer stands before it. -/
theorem findSome?_new {below above : List Nat} (hbelow : ∀ k ∈ below, f k = none)
    (hs : f s = none) :
    (below ++ s :: above).findSome? (fun k => (f k).or (if s = k then some b else none)) =
      some b := by
  induction below with
  | nil => simp [hs]
  | cons k below ih =>
    have hk := hbelow k List.mem_cons_self
    have hrest := ih fun j hj => hbelow j (List.mem_cons_of_mem k hj)
    by_cases hsk : s = k
    · simp [hsk, hk]
    · simpa [hsk, hk] using hrest

/-- A new answer at `s` changes nothing if an answer stands before it or `s` is not searched. -/
theorem findSome?_old {ids : List Nat}
    (h : ∀ below above, ids = below ++ s :: above → (∀ k ∈ below, f k = none) → f s ≠ none) :
    ids.findSome? (fun k => (f k).or (if s = k then some b else none)) = ids.findSome? f := by
  induction ids with
  | nil => rfl
  | cons k ids ih =>
    rw [List.findSome?_cons, List.findSome?_cons]
    cases hk : f k with
    | some answer => rfl
    | none =>
      have hsk : s ≠ k := by
        rintro rfl
        exact h [] ids rfl (by simp) hk
      rw [if_neg hsk]
      refine ih fun below above heq hbelow => h (k :: below) above (by rw [heq]; rfl) ?_
      simpa [hk] using hbelow

end Search

section Laws

variable {t : ScopeTable α}

theorem lookup_push (ht : t.Grounded) (kind : ScopeKind) {parent : Nat} (hparent : parent < t.size)
    {i : Nat} (hi : i < t.size) (name : String) :
    (t.push kind parent).lookup i name = t.lookup i name := by
  obtain ⟨ids, hids⟩ := ht.exists_ancestry hi
  rw [(hids.push kind parent).lookup_eq (ht.push kind hparent), hids.lookup_eq ht]
  simp only [bindingAt_push]

theorem lookup_push_size (ht : t.Grounded) (kind : ScopeKind) {parent : Nat}
    (hparent : parent < t.size) (name : String) :
    (t.push kind parent).lookup t.size name = t.lookup parent name := by
  obtain ⟨ids, hids⟩ := ht.exists_ancestry hparent
  have hempty : t.bindingAt t.size name = none := by
    rw [bindingAt, List.getElem?_eq_none (Nat.le_refl t.size)]
    rfl
  rw [(hids.push_new kind).lookup_eq (ht.push kind hparent), hids.lookup_eq ht]
  simp only [bindingAt_push, List.findSome?_cons, hempty]

theorem lookup_insert_of_exposes (ht : t.Grounded) {s i : Nat} (hs : s < t.size) {b : Binding α}
    (h : t.Exposes s i b.name) : (t.insert s b).lookup i b.name = .ok (some b) := by
  obtain ⟨below, above, hids, hbelow, hnone⟩ := h
  rw [(hids.insert hs b).lookup_eq (ht.insert hs b)]
  simp only [t.bindingAt_insert hs, and_true]
  rw [findSome?_new hbelow hnone]

theorem lookup_insert_of_not_exposes (ht : t.Grounded) {s i : Nat} (hs : s < t.size)
    (hi : i < t.size) {b : Binding α} {name : String}
    (h : ¬ (name = b.name ∧ t.Exposes s i name)) :
    (t.insert s b).lookup i name = t.lookup i name := by
  obtain ⟨ids, hids⟩ := ht.exists_ancestry hi
  rw [(hids.insert hs b).lookup_eq (ht.insert hs b), hids.lookup_eq ht]
  simp only [t.bindingAt_insert hs]
  by_cases hname : b.name = name
  · simp only [hname, and_true]
    rw [findSome?_old]
    rintro below above rfl hbelow hnone
    exact h ⟨hname.symm, below, above, hids, hbelow, hnone⟩
  · simp [hname]

theorem exists_lookup_eq (ht : t.Grounded) {i : Nat} (hi : i < t.size) (name : String) :
    ∃ found, t.lookup i name = .ok found := by
  obtain ⟨ids, hids⟩ := ht.exists_ancestry hi
  exact ⟨_, hids.lookup_eq ht name⟩

/-- What is found is a binding of one of the scopes. -/
theorem exists_bindingAt_of_lookup (ht : t.Grounded) {i : Nat} (hi : i < t.size) {name : String}
    {b : Binding α} (h : t.lookup i name = .ok (some b)) : ∃ k, t.bindingAt k name = some b := by
  obtain ⟨ids, hids⟩ := ht.exists_ancestry hi
  rw [hids.lookup_eq ht] at h
  obtain ⟨k, -, hk⟩ := List.exists_of_findSome?_eq_some (Except.ok.inj h)
  exact ⟨k, hk⟩

/-- In a table that was built by any sequence of operations every lookup from a scope has a result.
A new scope changes none of them, and sees what its parent sees.  A declaration keeps all bindings
and changes only lookups to which it is exposed; these find what was declared, and no others do if
there was no such binding before. -/
theorem Built.lookup_frame (h : t.Built) :
    (∀ i < t.size, ∀ name, ∃ found, t.lookup i name = .ok found) ∧
    (∀ (kind : ScopeKind) (parent : Nat), parent < t.size →
      (∀ i < t.size, ∀ name, (t.push kind parent).lookup i name = t.lookup i name) ∧
      ∀ name, (t.push kind parent).lookup t.size name = t.lookup parent name) ∧
    ∀ (id : Int) (b : Binding α) (t' : ScopeTable α), t.declare id b = .ok t' →
      (∀ k name c, t.bindingAt k name = some c → t'.bindingAt k name = some c) ∧
      ∃ s, t.position? id = some s ∧
        ∀ (address : Int) (i : Nat), t.position? address = some i → ∀ name,
          (name = b.name ∧ t.Exposes s i name → t'.lookup address name = .ok (some b)) ∧
          (t'.lookup address name ≠ t.lookup address name → name = b.name ∧ t.Exposes s i name) ∧
          ((∀ k m, t.bindingAt k m ≠ some b) → t'.lookup address name = .ok (some b) →
            name = b.name ∧ t.Exposes s i name) := by
  have ht := h.grounded
  refine ⟨fun i hi => exists_lookup_eq ht hi, fun kind parent hparent =>
    ⟨fun i hi => lookup_push ht kind hparent hi, lookup_push_size ht kind hparent⟩, ?_⟩
  intro id b t' hdeclare
  obtain ⟨s, hid, rfl⟩ := declare_eq_ok_iff.1 hdeclare
  have hs := lt_size_of_position? hid
  refine ⟨fun k name c hc => by rw [t.bindingAt_insert hs, hc]; rfl, s, hid, ?_⟩
  intro address i haddress name
  have hi := lt_size_of_position? haddress
  have hold := lookup_of_position? haddress name
  have hnew := lookup_of_position? ((t.position?_insert s b address).trans haddress) name
  have hsame : ¬ (name = b.name ∧ t.Exposes s i name) →
      (t.insert s b).lookup address name = t.lookup address name := fun hnot =>
    hnew.trans ((lookup_insert_of_not_exposes ht hs hi hnot).trans hold.symm)
  refine ⟨?_, fun hne => not_not.1 fun hnot => hne (hsame hnot), fun hfresh hfound => ?_⟩
  · rintro ⟨rfl, hexposes⟩
    exact hnew.trans (lookup_insert_of_exposes ht hs hexposes)
  · by_contra hnot
    rw [hsame hnot, hold] at hfound
    obtain ⟨k, hk⟩ := exists_bindingAt_of_lookup ht hi hfound
    exact hfresh k name hk

/-- A block in a function, and a name that only the program binds. -/
def nestedScopes : ScopeTable Nat :=
  ((({} : ScopeTable Nat).insert 0 ⟨"x", .constant, some 1⟩).push .function 0).push .block 1

theorem nestedScopes_built : nestedScopes.Built := by
  have hdeclare : ({} : ScopeTable Nat).declare 0 ⟨"x", .constant, some 1⟩ =
      .ok (({} : ScopeTable Nat).insert 0 ⟨"x", .constant, some 1⟩) := rfl
  exact ((Built.start.declare hdeclare).push .function (show 0 < 1 by decide)).push .block
    (show 1 < 2 by decide)

/-- The block sees what a new block in it would see, and it sees a name that is then declared in the
function, whose address is also `-2`. -/
theorem lookup_frame_nestedScopes :
    nestedScopes.Built ∧ (nestedScopes.push .block 2).lookup 3 "x" = nestedScopes.lookup 2 "x" ∧
    ∃ t', nestedScopes.declare (-2) ⟨"x", .lexical, none⟩ = .ok t' ∧
      nestedScopes.Exposes 1 2 "x" ∧ t'.lookup 2 "x" = .ok (some ⟨"x", .lexical, none⟩) ∧
      nestedScopes.lookup 2 "x" = .ok (some ⟨"x", .constant, some 1⟩) := by
  have hframe := nestedScopes_built.lookup_frame
  have hdeclare : nestedScopes.declare (-2) ⟨"x", .lexical, none⟩ =
      .ok (nestedScopes.insert 1 ⟨"x", .lexical, none⟩) := rfl
  have hancestry : nestedScopes.Ancestry 2 ([2] ++ 1 :: [0]) :=
    .step rfl rfl (.step rfl rfl (.last rfl rfl))
  have hexposes : nestedScopes.Exposes 1 2 "x" := ⟨[2], [0], hancestry, by decide, by decide⟩
  obtain ⟨-, s, hs, hlookup⟩ := hframe.2.2 _ _ _ hdeclare
  cases hs
  exact ⟨nestedScopes_built, (hframe.2.1 .block 2 (by decide)).2 "x", _, hdeclare, hexposes,
    (hlookup 2 2 rfl "x").1 ⟨rfl, hexposes⟩, rfl⟩

end Laws

end RouteCensus.ScopeTable
