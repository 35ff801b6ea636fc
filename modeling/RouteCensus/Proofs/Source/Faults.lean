import RouteCensus.Proofs.Expr.Leaves
import RouteCensus.Source.Grammar
import Mathlib.Data.List.Basic

/-! # Faults of a tree

A tree is intact if no node of it is an error or missing.  Where nodes are
flagged as damaged exactly if they hold such a fault, the search for the first
fault may leave out the nodes that are not flagged, and source is accepted
exactly if the tree of its grammar, or the one that it falls back to, is intact.
-/

namespace RouteCensus

namespace Node

/-- Source that the parser could not fit in, or a node that it inserted to go on. -/
def isFault (n : Node) : Bool :=
  n.label.error || n.label.missing

/-- No node of the tree is a fault. -/
def Intact (n : Node) : Prop :=
  n.Every fun m => m.isFault = false

/-- Exactly the nodes that are faults or have one below them are flagged as damaged. -/
def Flagged (n : Node) : Prop :=
  n.Every fun m => m.label.damaged = true ↔ ∃ fault ∈ m.nodes, fault.isFault = true

instance (n : Node) : Decidable n.Intact :=
  inferInstanceAs (Decidable (∀ m ∈ n.nodes, m.isFault = false))

instance (n : Node) : Decidable n.Flagged :=
  inferInstanceAs (Decidable (∀ m ∈ n.nodes,
    (m.label.damaged = true ↔ ∃ fault ∈ m.nodes, fault.isFault = true)))

/-- The search for the first fault with a stack, which takes the children of damaged nodes only. -/
def searchFault? : List Node → Option Node
  | [] => none
  | n :: rest =>
    if n.isFault then some n
    else if n.label.damaged then searchFault? (n.children ++ rest)
    else searchFault? rest
termination_by stack => sizeAll stack
decreasing_by
  · rw [sizeAll_append, sizeAll, size_eq_children]
    omega
  · rw [sizeAll, size_eq_children]
    omega

theorem firstFaultIn?_eq (ns : List Node) : firstFaultIn? ns = ns.findSome? firstFault? := by
  induction ns with
  | nil => rfl
  | cons n ns ih =>
    rw [firstFaultIn?, List.findSome?_cons, ih]
    cases n.firstFault? <;> rfl

theorem firstFault?_eq (n : Node) :
    n.firstFault? = if n.isFault then some n
      else if n.label.damaged then n.children.findSome? firstFault? else none := by
  cases n with
  | mk label children => rw [firstFault?, firstFaultIn?_eq]; rfl

/-- The stack holds what is left to search, the next node first. -/
theorem searchFault?_eq (stack : List Node) : searchFault? stack = stack.findSome? firstFault? := by
  fun_induction searchFault? stack with
  | case1 => rfl
  | case2 n rest hfault => rw [List.findSome?_cons, firstFault?_eq, if_pos hfault]
  | case3 n rest hfault hdamaged ih =>
    rw [ih, List.findSome?_append, List.findSome?_cons, firstFault?_eq n, if_neg hfault,
      if_pos hdamaged]
    cases n.children.findSome? firstFault? <;> rfl
  | case4 n rest hfault hdamaged ih =>
    rw [ih, List.findSome?_cons, firstFault?_eq n, if_neg hfault, if_neg hdamaged]

/-- Nothing is missed in nodes that are not flagged. -/
theorem Flagged.firstFault?_eq {n : Node} (h : n.Flagged) :
    n.firstFault? = n.nodes.find? isFault := by
  induction n using induction_children with
  | step n ih =>
    rw [n.firstFault?_eq]
    cases hfault : n.isFault with
    | true => rw [if_pos rfl, nodes_eq, List.find?_cons, hfault]
    | false =>
      rw [if_neg (by decide)]
      by_cases hdamaged : n.label.damaged = true
      · have hchildren : n.children.findSome? firstFault? =
            n.children.findSome? fun child => child.nodes.find? isFault := by
          rw [← List.head?_filterMap, ← List.head?_filterMap]
          exact congrArg List.head? (List.filterMap_congr fun child hchild =>
            ih child hchild (h.child hchild))
        rw [if_pos hdamaged, nodes_eq, List.find?_cons, hfault, List.find?_flatMap, hchildren]
      · rw [if_neg hdamaged, eq_comm, List.find?_eq_none]
        intro fault hmem
        exact fun hfault => hdamaged (h.self.2 ⟨fault, hmem, hfault⟩)

theorem Flagged.damaged_eq_false_iff {n : Node} (h : n.Flagged) :
    n.label.damaged = false ↔ n.Intact := by
  rw [← Bool.not_eq_true, h.self]
  simp [Intact, Every]

end Node

section Parsing

variable {parser : Parser} {source : String}

/-- An intact tree is taken as it is. -/
theorem parseSource_of_intact {grammar : Grammar} (hflags : (parser grammar source).Flagged)
    (h : (parser grammar source).Intact) :
    parseSource parser source grammar = .ok (parser grammar source) := by
  simp [parseSource, hflags.damaged_eq_false_iff.2 h]

/-- A tree with a fault is refused, unless it is that of a plain script and the richest grammar has
an intact one. -/
theorem parseSource_of_fault (hflags : ∀ g, (parser g source).Flagged) {grammar : Grammar}
    (h : ¬ (parser grammar source).Intact) :
    parseSource parser source grammar =
      if grammar = .javascript ∧ (parser .tsx source).Intact then .ok (parser .tsx source)
      else .error ⟨((parser grammar source).nodes.find? Node.isFault).map Node.line, grammar⟩ := by
  have hdamaged : (parser grammar source).label.damaged = true := by
    rw [← Bool.not_eq_false, (hflags grammar).damaged_eq_false_iff]
    exact h
  have hrefused : ∀ retry : Option Node, retry.filter (fun t => !t.label.damaged) = none →
      grammar.fallback?.map (fun g => parser g source) = retry →
      parseSource parser source grammar =
        .error ⟨((parser grammar source).nodes.find? Node.isFault).map Node.line, grammar⟩ := by
    intro retry hnone hretry
    simp only [parseSource, hdamaged, if_true, hretry, hnone, (hflags grammar).firstFault?_eq]
  cases grammar with
  | javascript =>
    by_cases htsx : (parser .tsx source).Intact
    · have hwhole := (hflags .tsx).damaged_eq_false_iff.2 htsx
      have hkeep : (Grammar.javascript.fallback?.map fun g => parser g source).filter
          (fun t => !t.label.damaged) = some (parser .tsx source) := by
        change (some (parser .tsx source)).filter _ = _
        simp [hwhole]
      rw [if_pos ⟨rfl, htsx⟩]
      simp only [parseSource, hdamaged, if_true, hkeep]
    · have hbroken := mt (hflags .tsx).damaged_eq_false_iff.1 htsx
      rw [if_neg fun hboth => htsx hboth.2]
      exact hrefused (some (parser .tsx source)) (by simpa using hbroken) rfl
  | typescript | tsx =>
    rw [if_neg (by simp)]
    exact hrefused none rfl rfl

theorem Node.exists_first_fault {n : Node} (h : ¬ n.Intact) :
    ∃ fault, n.nodes.find? Node.isFault = some fault := by
  rw [← Option.isSome_iff_exists, List.find?_isSome]
  simpa [Node.Intact, Node.Every] using h

/-- Source with flagged trees is accepted exactly if the tree of its grammar is intact or, for a
plain script, that of the richest grammar.  Otherwise the error names the grammar asked for and the
line of the first fault of its tree, which the search through damaged nodes finds. -/
theorem parseSource_accepts_intact (hflags : ∀ g, (parser g source).Flagged) (grammar : Grammar) :
    (∀ tree, parseSource parser source grammar = .ok tree → tree.Intact) ∧
    (parseSource parser source grammar = .ok (parser grammar source) ↔
      (parser grammar source).Intact) ∧
    (¬ (parser grammar source).Intact → grammar = .javascript →
      (parseSource parser source grammar = .ok (parser .tsx source) ↔
        (parser .tsx source).Intact)) ∧
    (¬ (parser grammar source).Intact → ¬ (grammar = .javascript ∧ (parser .tsx source).Intact) →
      ∃ fault, (parser grammar source).nodes.find? Node.isFault = some fault ∧
        parseSource parser source grammar = .error ⟨some fault.line, grammar⟩ ∧
        ParseError.message ⟨some fault.line, grammar⟩ =
          s!"syntax error near line {fault.line} ({grammar.name})") ∧
    Node.searchFault? [parser grammar source] = (parser grammar source).nodes.find? Node.isFault := by
  have hintact : ∀ tree, parseSource parser source grammar = .ok tree → tree.Intact := by
    intro tree htree
    by_cases h : (parser grammar source).Intact
    · rw [parseSource_of_intact (hflags grammar) h] at htree
      exact Except.ok.inj htree ▸ h
    · rw [parseSource_of_fault hflags h] at htree
      split at htree
      · next hretry => exact Except.ok.inj htree ▸ hretry.2
      · cases htree
  refine ⟨hintact, ⟨hintact _, parseSource_of_intact (hflags grammar)⟩, ?_, ?_, ?_⟩
  · intro h hscript
    exact ⟨hintact _, fun htsx => by rw [parseSource_of_fault hflags h, if_pos ⟨hscript, htsx⟩]⟩
  · intro h hretry
    obtain ⟨fault, hfault⟩ := Node.exists_first_fault h
    refine ⟨fault, hfault, ?_, rfl⟩
    rw [parseSource_of_fault hflags h, if_neg hretry, hfault]
    rfl
  · rw [Node.searchFault?_eq, List.findSome?_singleton, (hflags grammar).firstFault?_eq]

/-- A call whose closing bracket is missing, behind a comment and before a stray token. -/
def openCall : Node :=
  .mk { kind := "program", damaged := true } [
    .mk { kind := "comment" } [],
    .mk { kind := "call_expression", damaged := true, row := 1 } [
      .mk { kind := "identifier", row := 1 } [],
      .mk { kind := ")", named := false, missing := true, damaged := true, row := 2 } []],
    .mk { kind := "ERROR", error := true, damaged := true, row := 4 } []]

/-- A parser that fits every source into one grammar only. -/
def tsxOnly : Parser := fun grammar _ =>
  if grammar = .tsx then .mk { kind := "program" } [] else openCall

theorem parseSource_tsxOnly :
    (∀ g, (tsxOnly g "f(").Flagged) ∧
    parseSource tsxOnly "f(" .javascript = .ok (.mk { kind := "program" } []) ∧
    parseSource tsxOnly "f(" .typescript = .error ⟨some 3, .typescript⟩ ∧
    Node.searchFault? [openCall] = openCall.nodes.find? Node.isFault := by
  have hflags : ∀ g, (tsxOnly g "f(").Flagged := by
    intro g
    cases g <;> decide
  have hfault : ¬ openCall.Intact := by decide
  obtain ⟨-, -, hscript, -, -⟩ := parseSource_accepts_intact hflags .javascript
  obtain ⟨-, -, -, hrefused, hsearch⟩ := parseSource_accepts_intact hflags .typescript
  obtain ⟨fault, hfirst, herror, -⟩ := hrefused hfault (by decide)
  have hline : (openCall.nodes.find? Node.isFault).map Node.line = some 3 := rfl
  have hthird : some fault.line = some 3 := (congrArg (Option.map Node.line) hfirst).symm.trans hline
  refine ⟨hflags, (hscript hfault rfl).2 (by decide), ?_, hsearch⟩
  rw [herror, hthird]

end Parsing

end RouteCensus
