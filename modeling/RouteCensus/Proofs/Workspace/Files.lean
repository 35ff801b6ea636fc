import RouteCensus.Workspace.Tree
import Mathlib.Data.List.Induction
import Mathlib.Tactic.Common

/-! # Finding files

Paths may hold double dots.  Where all folders on the way exist, following the
parts leads to the place that the collapsed path names.
-/

namespace RouteCensus

namespace Path

theorem collapse_concat (parts : List String) (part : String) :
    collapse (parts ++ [part]) =
      if part = ".." then (collapse parts).dropLast else collapse parts ++ [part] := by
  simp only [collapse, List.foldl_append, List.foldl_cons, List.foldl_nil, beq_iff_eq]
  split
  · rw [List.drop_one, List.dropLast_reverse]
  · rw [List.reverse_cons]

theorem not_mem_collapse (parts : List String) : ".." ∉ collapse parts := by
  induction parts using List.reverseRecOn with
  | nil => exact List.not_mem_nil
  | append_singleton parts part ih =>
    rw [collapse_concat]
    split
    · exact fun h => ih (List.dropLast_subset _ h)
    · next hpart =>
      rw [List.mem_append, List.mem_singleton, not_or]
      exact ⟨ih, Ne.symm hpart⟩

theorem collapse_of_not_mem {parts : List String} (h : ".." ∉ parts) : collapse parts = parts := by
  induction parts using List.reverseRecOn with
  | nil => rfl
  | append_singleton parts part ih =>
    rw [List.mem_append, List.mem_singleton, not_or] at h
    rw [collapse_concat, if_neg (Ne.symm h.2), ih h.1]

end Path

namespace Entry

/-- The entry at the end of a path without double dots. -/
def at? (root : Entry) : List String → Option Entry
  | [] => some root
  | name :: rest => (root.child? name).bind fun e => e.at? rest

theorem at?_append (root : Entry) (p q : List String) :
    root.at? (p ++ q) = (root.at? p).bind fun e => e.at? q := by
  induction p generalizing root with
  | nil => rfl
  | cons name p ih =>
    rw [List.cons_append, at?, at?, Option.bind_assoc]
    exact congrArg _ (funext fun e => ih e)

theorem follow_eq_at? {parts : List String} (h : ".." ∉ parts) (outer : List Entry) (here : Entry) :
    follow outer here parts = here.at? parts := by
  induction parts generalizing outer here with
  | nil => rfl
  | cons part parts ih =>
    rw [List.mem_cons, not_or] at h
    rw [follow.eq_def, at?]
    simp only [beq_iff_eq, Ne.symm h.1, if_false]
    cases here.child? part with
    | none => rfl
    | some e => exact ih h.2 (here :: outer) e

theorem find?_collapse (root : Entry) (parts : List String) :
    root.find? (Path.collapse parts) = root.at? (Path.collapse parts) :=
  follow_eq_at? (Path.not_mem_collapse parts) [] root

/-- There is a folder at the end of a path. -/
def HasFolder (root : Entry) (p : List String) : Prop :=
  ∃ entries, root.at? p = some (.folder entries)

/-- What is below a place makes it a folder. -/
theorem hasFolder_of_at?_append {root e : Entry} {p q : List String}
    (h : root.at? (p ++ q) = some e) (hq : q ≠ []) : root.HasFolder p := by
  obtain ⟨name, rest, rfl⟩ := List.exists_cons_of_ne_nil hq
  rw [at?_append] at h
  cases hp : root.at? p with
  | none => rw [hp] at h; cases h
  | some here =>
    cases here with
    | folder entries => exact ⟨entries, hp⟩
    | file bytes => rw [hp] at h; cases h

theorem HasFolder.dropLast {root : Entry} {p : List String} (h : root.HasFolder p) :
    root.HasFolder p.dropLast := by
  cases p using List.reverseRecOn with
  | nil => exact h
  | append_singleton p name =>
    obtain ⟨entries, h⟩ := h
    rw [List.dropLast_concat]
    exact hasFolder_of_at?_append h (List.cons_ne_nil _ _)

/-- The folders from the root down to an entry, innermost first. -/
inductive Trail (root : Entry) : List String → List Entry → Entry → Prop
  | start : Trail root [] [] root
  | down {names : List String} {outer : List Entry} {here e : Entry} {name : String}
    (above : Trail root names outer here)
      (child : here.child? name = some e) : Trail root (names ++ [name]) (here :: outer) e

theorem Trail.at?_eq {root : Entry} {names : List String} {outer : List Entry} {here : Entry}
    (h : Trail root names outer here) : root.at? names = some here := by
  induction h with
  | start => rfl
  | down above child ih => rw [at?_append, ih, Option.bind_some, at?, child, Option.bind_some, at?]

theorem Trail.up {root : Entry} {names : List String} {outer : List Entry} {here up : Entry}
    (h : Trail root names (up :: outer) here) : Trail root names.dropLast outer up := by
  cases h with
  | down above child => rwa [List.dropLast_concat]

theorem Trail.top {root : Entry} {names : List String} {here : Entry}
    (h : Trail root names [] here) :
    names = [] ∧ here = root := by
  cases h with
  | start => exact ⟨rfl, rfl⟩

/-- Where all folders on the way exist, following a path leads to what the collapsed path names. -/
theorem Trail.follow_eq {root here : Entry} {outer : List Entry} (seen rest : List String)
    (h : Trail root (Path.collapse seen) outer here)
    (hfolders : ∀ n < (seen ++ rest).length,
      root.HasFolder (Path.collapse ((seen ++ rest).take n))) :
    follow outer here rest = root.at? (Path.collapse (seen ++ rest)) := by
  induction rest generalizing seen outer here with
  | nil => rw [List.append_nil, h.at?_eq, follow]
  | cons part rest ih =>
    have hnext : ∀ {e outer}, Trail root (Path.collapse (seen ++ [part])) outer e →
        follow outer e rest = root.at? (Path.collapse (seen ++ part :: rest)) := by
      intro e outer htrail
      have hstep := ih (seen ++ [part]) htrail
      rw [List.append_assoc, List.singleton_append] at hstep
      exact hstep hfolders
    rw [Path.collapse_concat] at hnext
    obtain ⟨entries, hhere⟩ := hfolders seen.length (by simp)
    rw [List.take_left, h.at?_eq, Option.some.injEq] at hhere
    rw [follow.eq_def]
    by_cases hpart : part = ".."
    · simp only [hpart, beq_self_eq_true, if_true] at hnext ⊢
      subst hhere
      cases outer with
      | nil =>
        obtain ⟨hnames, hroot⟩ := h.top
        rw [hnames, List.dropLast_nil] at hnext
        rw [hnames] at h
        exact hnext h
      | cons up outer => exact hnext h.up
    · simp only [beq_iff_eq, hpart, if_false] at hnext ⊢
      cases hchild : here.child? part with
      | some e => exact hnext (h.down hchild)
      | none =>
        have hmissing : root.at? (Path.collapse (seen ++ [part])) = none := by
          rw [Path.collapse_concat, if_neg hpart, at?_append, h.at?_eq, Option.bind_some, at?,
            hchild, Option.bind_none]
        cases rest with
        | nil => exact hmissing.symm
        | cons next rest =>
          obtain ⟨inner, hfolder⟩ := hfolders (seen ++ [part]).length (by simp)
          rw [show seen ++ part :: next :: rest = (seen ++ [part]) ++ next :: rest by simp,
            List.take_left, hmissing] at hfolder
          cases hfolder

end Entry

/-- Where a path leads: the parts from the root of the file system, without double dots. -/
def Workspace.place (w : Workspace) (p : Path) : List String :=
  Path.collapse (w.locate p)

end RouteCensus
