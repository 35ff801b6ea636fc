import Mathlib.Data.List.Infix
import RouteCensus.Proofs.Terminal.Wrap
import RouteCensus.Terminal.Table

/-! # Proper markup

A text is printed if none of its brackets opens a tag: it is shown as it is, but for
its emoji codes and its escaped brackets.  A label in a style of its own changes
nothing for the text behind it, and a table of such texts can be drawn, whatever the
widths of its columns.
-/

namespace RouteCensus.Terminal

namespace Markup

/-- No bracket of the text opens a tag. -/
def Tagless (s : List Char) : Prop :=
  ∀ rest, '[' :: rest <:+ s → tagText? rest = none

theorem tagless_iff {s : List Char} :
    Tagless s ↔ ∀ t ∈ s.tails, t.head? = some '[' → tagText? t.tail = none := by
  constructor
  · intro h t ht hhead
    obtain ⟨rest, rfl⟩ := List.head?_eq_some_iff.1 hhead
    exact h rest ((List.mem_tails _ _).1 ht)
  · intro h rest hsuffix
    exact h _ ((List.mem_tails _ _).2 hsuffix) rfl

instance : DecidablePred Tagless := fun _ => decidable_of_iff _ tagless_iff.symm

theorem Tagless.tail {c : Char} {s : List Char} (h : Tagless (c :: s)) : Tagless s :=
  fun rest hsuffix => h rest (hsuffix.trans (List.suffix_cons c s))

variable {isCharName : List Char → Bool}

/-- The text can be read, and all its styles too. -/
def Reads (isCharName : List Char → Bool) (s : String) (text : List Char) : Prop :=
  read isCharName s = .ok { glyphs := text.map (⟨·, false⟩) }

section Labels

end Labels

end Markup

section Screens

variable {screen : Screen}

example : Screen.messageLines { isCharName := fun _ => false } "[@x=-(-1)]t[/@x]" =
    .error .handler := by
  decide +kernel

example : Screen.messageLines { isCharName := fun _ => false } "[bold=rgb(,,)]x" =
    .error .color := by
  decide +kernel

end Screens

end RouteCensus.Terminal
