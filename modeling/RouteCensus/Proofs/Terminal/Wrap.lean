import Mathlib.Data.List.Infix
import RouteCensus.Terminal.Wrap

/-! # Styles on the lines

A text is broken, cut and filled up, but no step gives a style to a character that
it did not have.  So a text whose styles can all be read is printed, whatever the
width.
-/

namespace RouteCensus.Terminal

/-- All styles of the characters can be read. -/
def Sound (glyphs : List Glyph) : Prop :=
  ∀ g ∈ glyphs, g.faulty = false

namespace Sound

variable {glyphs line word : List Glyph}

theorem of_subset (h : Sound glyphs) (hsub : line ⊆ glyphs) : Sound line :=
  fun g hg => h g (hsub hg)

theorem append (hline : Sound line) (hword : Sound word) : Sound (line ++ word) :=
  List.forall_mem_append.2 ⟨hline, hword⟩

theorem reverse (h : Sound glyphs) : Sound glyphs.reverse :=
  h.of_subset (List.reverse_subset.2 (List.Subset.refl _))

theorem expandTabs (h : Sound glyphs) (position : Nat) :
    Sound (Terminal.expandTabs position glyphs) := by
  induction glyphs generalizing position with
  | nil => exact h
  | cons g rest ih =>
    obtain ⟨hg, hrest⟩ := List.forall_mem_cons.1 h
    rw [Terminal.expandTabs]
    split
    · refine append ?_ (ih hrest _)
      intro blank hblank
      rw [List.eq_of_mem_replicate hblank]
      exact hg
    · exact List.forall_mem_cons.2 ⟨hg, ih hrest _⟩

theorem wordsAfter (hword : Sound word) (hline : Sound line) (begun ended : Bool) :
    ∀ w ∈ Terminal.wordsAfter word begun ended line, Sound w := by
  induction line generalizing word begun ended with
  | nil =>
    rw [Terminal.wordsAfter]
    split
    · exact List.forall_mem_singleton.2 hword.reverse
    · exact List.forall_mem_nil _
  | cons g rest ih =>
    obtain ⟨hg, hrest⟩ := List.forall_mem_cons.1 hline
    have hlonger : Sound (g :: word) := List.forall_mem_cons.2 ⟨hg, hword⟩
    rw [Terminal.wordsAfter]
    split
    · exact ih hlonger hrest _ _
    · split
      · refine List.forall_mem_cons.2 ⟨hword.reverse, ?_⟩
        exact ih (List.forall_mem_singleton.2 hg) hrest _ _
      · exact ih hlonger hrest _ _

theorem chopAfter (hpart : Sound line) (hword : Sound word) (width used : Nat) :
    ∀ part ∈ Terminal.chopAfter width used line word, Sound part := by
  induction word generalizing line used with
  | nil => exact List.forall_mem_singleton.2 hpart.reverse
  | cons g rest ih =>
    obtain ⟨hg, hrest⟩ := List.forall_mem_cons.1 hword
    rw [Terminal.chopAfter]
    split
    · refine List.forall_mem_cons.2 ⟨hpart.reverse, ?_⟩
      exact ih (List.forall_mem_singleton.2 hg) hrest _
    · exact ih (List.forall_mem_cons.2 ⟨hg, hpart⟩) hrest _

theorem placeWords {words : List (List Glyph)} (hline : Sound line) (hwords : ∀ w ∈ words, Sound w)
    (fit : Fit) (used : Nat) : ∀ l ∈ Terminal.placeWords fit line used words, Sound l := by
  induction words generalizing line used with
  | nil => exact List.forall_mem_singleton.2 hline
  | cons word rest ih =>
    obtain ⟨hword, hrest⟩ := List.forall_mem_cons.1 hwords
    have hfinished : ∀ l ∈ if line.isEmpty then [] else [line], Sound l := by
      split
      · exact List.forall_mem_nil _
      · exact List.forall_mem_singleton.2 hline
    have hparts := chopAfter (List.forall_mem_nil _ : Sound []) hword fit.width 0
    rw [Terminal.placeWords]
    dsimp only
    split
    · exact ih (hline.append hword) hrest _
    · split
      · refine List.forall_mem_append.2 ⟨List.forall_mem_append.2 ⟨hfinished, ?_⟩, ih ?_ hrest _⟩
        · exact fun part hpart => hparts part (List.mem_of_mem_dropLast hpart)
        · rw [List.getLastD_eq_getLast?]
          cases hlast : (Terminal.chopAfter fit.width 0 [] word).getLast? with
          | none => exact List.forall_mem_nil _
          | some last => exact hparts last (List.mem_of_getLast? hlast)
      · exact List.forall_mem_append.2 ⟨hfinished, ih hword hrest _⟩

theorem breakLine (h : Sound line) (fit : Fit) : ∀ l ∈ Terminal.breakLine fit line, Sound l := by
  unfold Terminal.breakLine
  split
  · have hwords := wordsAfter (List.forall_mem_nil _ : Sound []) h false false
    split
    · exact List.forall_mem_singleton.2 h
    · exact placeWords (List.forall_mem_nil _) hwords fit 0
  · exact List.forall_mem_singleton.2 h

theorem dropExcess (h : Sound line) (width : Nat) : Sound (Terminal.dropExcess width line) :=
  h.of_subset (List.take_subset _ _)

theorem rewrite (h : Sound line) (text : List Char) : Sound (Terminal.rewrite text line) := by
  induction text generalizing line with
  | nil => exact List.forall_mem_nil _
  | cons c text ih =>
    cases line with
    | nil => exact List.forall_mem_cons.2 ⟨rfl, ih h⟩
    | cons g line =>
      obtain ⟨hg, hline⟩ := List.forall_mem_cons.1 h
      exact List.forall_mem_cons.2 ⟨hg, ih hline⟩

theorem shorten (h : Sound line) (fit : Fit) : Sound (Terminal.shorten fit line) := by
  unfold Terminal.shorten
  dsimp only
  split
  · exact h
  · split
    · exact h.rewrite _
    · exact h.rewrite _

theorem splitOnP (h : Sound glyphs) (p : Glyph → Bool) :
    ∀ line ∈ glyphs.splitOnP p, Sound line := by
  induction glyphs with
  | nil => simp [Sound]
  | cons g rest ih =>
    obtain ⟨hg, hrest⟩ := List.forall_mem_cons.1 h
    obtain ⟨first, others, hlines⟩ := List.exists_cons_of_ne_nil (List.splitOnP_ne_nil p rest)
    have hall := ih hrest
    rw [hlines] at hall
    obtain ⟨hfirst, hothers⟩ := List.forall_mem_cons.1 hall
    rw [List.splitOnP_cons_eq_if_modifyHead, hlines]
    split
    · exact List.forall_mem_cons.2 ⟨List.forall_mem_nil _, hall⟩
    · exact List.forall_mem_cons.2 ⟨List.forall_mem_cons.2 ⟨hg, hfirst⟩, hothers⟩

theorem fitLines (h : Sound glyphs) (fit : Fit) :
    ∀ line ∈ Terminal.fitLines fit glyphs, Sound line := by
  intro line hline
  obtain ⟨whole, hwhole, hline⟩ := List.mem_flatMap.1 hline
  obtain ⟨broken, hbroken, rfl⟩ := List.mem_map.1 hline
  have hsound := (h.splitOnP _ whole hwhole).expandTabs 0
  exact ((hsound.breakLine fit broken hbroken).dropExcess fit.width).shorten fit

end Sound

end RouteCensus.Terminal
