import RouteCensus.Proofs.Endpoint.Description
import RouteCensus.Proofs.Text.Pieces

/-! # Titles

A title has ASCII letters and digits, at least one, and no small letter in front.
The title of a text joins its words, each with a capital in front, or is `Default`
if there is no word.  Titles are exactly the texts that are their own title.
Controllers have titles as their names, and so have actions behind their method.
-/

namespace RouteCensus.Route

/-- ASCII letters and digits, at least one, with no small letter in front. -/
structure IsTitle (s : List Char) : Prop where
  ne_nil : s ≠ []
  alphanum : ∀ c ∈ s, c.isAlphanum = true
  head : ∀ c ∈ s.head?, c.isLower = false

/-- The maximal stretches of ASCII letters and digits. -/
def asciiWords (s : List Char) : List (List Char) :=
  (s.splitOnP fun c => !c.isAlphanum).filter fun w => !w.isEmpty

section Words

variable {s word : List Char}

theorem toUpper_of_not_isLower {c : Char} (h : c.isLower = false) : c.toUpper = c := by
  refine dif_neg fun hletter => ?_
  have hlower : c.isLower = true :=
    Bool.and_eq_true_iff.2 ⟨decide_eq_true hletter.1, decide_eq_true hletter.2⟩
  exact Bool.false_ne_true (h.symm.trans hlower)

/-- Letters and digits stay such in upper case, and none of them is a small letter. -/
theorem toUpper_spec (c : Char) :
    c.toUpper.isLower = false ∧ (c.isAlphanum = true → c.toUpper.isAlphanum = true) := by
  have hletters : ∀ k < 26, (Char.ofNat (0x61 + k)).toUpper.isLower = false ∧
      (Char.ofNat (0x61 + k)).toUpper.isAlphanum = true := by decide
  cases hlower : c.isLower with
  | false =>
    rw [toUpper_of_not_isLower hlower]
    exact ⟨hlower, id⟩
  | true =>
    obtain ⟨hfirst, hlast⟩ := Bool.and_eq_true_iff.1 hlower
    have hfirst : 0x61 ≤ c.toNat := of_decide_eq_true hfirst
    have hlast : c.toNat ≤ 0x7A := of_decide_eq_true hlast
    have hletter := hletters (c.toNat - 0x61) (by omega)
    rw [Nat.add_sub_cancel' hfirst, Char.ofNat_toNat] at hletter
    exact ⟨hletter.1, fun _ => hletter.2⟩

theorem alphanum_capitalize (h : ∀ c ∈ word, c.isAlphanum = true) :
    ∀ c ∈ capitalize word, c.isAlphanum = true := by
  cases word with
  | nil => exact h
  | cons first rest =>
    rw [List.forall_mem_cons] at h
    rw [capitalize, List.forall_mem_cons]
    exact ⟨(toUpper_spec first).2 h.1, h.2⟩

theorem isTitle_capitalize (hne : word ≠ []) (h : ∀ c ∈ word, c.isAlphanum = true) :
    IsTitle (capitalize word) := by
  obtain ⟨first, rest, rfl⟩ := List.exists_cons_of_ne_nil hne
  refine ⟨List.cons_ne_nil _ _, alphanum_capitalize h, ?_⟩
  rintro c hc
  obtain rfl : first.toUpper = c := Option.some.inj hc
  exact (toUpper_spec first).1

theorem IsTitle.capitalize_eq (h : IsTitle s) : capitalize s = s := by
  cases s with
  | nil => rfl
  | cons first rest =>
    rw [capitalize, toUpper_of_not_isLower (h.head first rfl)]

theorem IsTitle.append {t : List Char} (h : IsTitle s) (ht : ∀ c ∈ t, c.isAlphanum = true) :
    IsTitle (s ++ t) := by
  refine ⟨by simp [h.ne_nil], ?_, ?_⟩
  · rw [List.forall_mem_append]
    exact ⟨h.alphanum, ht⟩
  · rw [List.head?_append_of_ne_nil s h.ne_nil]
    exact h.head

theorem mem_asciiWords (h : word ∈ asciiWords s) :
    word ≠ [] ∧ ∀ c ∈ word, c.isAlphanum = true := by
  obtain ⟨hmem, hne⟩ := List.mem_filter.1 h
  refine ⟨by simpa using hne, fun c hc => ?_⟩
  simpa using Text.not_of_mem_splitOnP hmem c hc

/-- Text of letters and digits alone is one word. -/
theorem IsTitle.asciiWords_eq (h : IsTitle s) : asciiWords s = [s] := by
  have hnone : ∀ c ∈ s, (!c.isAlphanum) = false := fun c hc => by simp [h.alphanum c hc]
  rw [asciiWords, List.splitOnP_eq_singleton hnone]
  simp [h.ne_nil]

end Words

section Titles

variable {s : List Char}

theorem titleChars_of_asciiWords_nil (h : asciiWords s = []) :
    titleChars s = "Default".toList := by
  rw [asciiWords] at h
  rw [titleChars, h]

theorem titleChars_of_asciiWords_cons {word : List Char} {words : List (List Char)}
    (h : asciiWords s = word :: words) :
    titleChars s = capitalize word ++ words.flatMap capitalize := by
  rw [asciiWords] at h
  rw [titleChars, h]
  rfl

theorem isTitle_default : IsTitle "Default".toList :=
  ⟨by decide, List.all_eq_true.1 (by decide), by simp⟩

theorem isTitle_titleChars (s : List Char) : IsTitle (titleChars s) := by
  cases hwords : asciiWords s with
  | nil =>
    rw [titleChars_of_asciiWords_nil hwords]
    exact isTitle_default
  | cons word words =>
    have hword : ∀ w ∈ word :: words, w ≠ [] ∧ ∀ c ∈ w, c.isAlphanum = true :=
      fun w hw => mem_asciiWords (hwords ▸ hw)
    obtain ⟨hne, hfirst⟩ := hword word List.mem_cons_self
    rw [titleChars_of_asciiWords_cons hwords]
    apply (isTitle_capitalize hne hfirst).append
    intro c hc
    obtain ⟨w, hw, hcw⟩ := List.mem_flatMap.1 hc
    exact alphanum_capitalize (hword w (List.mem_cons_of_mem word hw)).2 c hcw

/-- Titles are the texts that are their own title. -/
theorem titleChars_eq_self_iff : titleChars s = s ↔ IsTitle s := by
  constructor
  · intro h
    rw [← h]
    exact isTitle_titleChars s
  · intro h
    rw [titleChars_of_asciiWords_cons h.asciiWords_eq, List.flatMap_nil, List.append_nil,
      h.capitalize_eq]

theorem isTitle_titleOf (text : Option String) : IsTitle (titleOf text).toList := by
  rw [titleOf, titleCase, String.toList_ofList]
  exact isTitle_titleChars _

theorem titleOf_eq_self_iff (s : String) : titleOf (some s) = s ↔ IsTitle s.toList := by
  rw [titleOf, Option.getD_some, titleCase, ← titleChars_eq_self_iff, ← String.toList_inj,
    String.toList_ofList]

theorem isTitle_controllerName (route : String) : IsTitle (controllerName route).toList := by
  rw [controllerName, String.toList_ofList]
  cases resource? route.toList with
  | none => exact isTitle_default
  | some segment => exact isTitle_titleChars segment

theorem actionName_eq (method route : String) :
    actionName method route =
      Text.downcase method ++ titleCase (String.ofList (lastWord route.toList)) := by
  rw [actionName, String.ofList_append, titleCase, String.toList_ofList]
  rfl

end Titles

/-- Every text has a title, also an empty one or none, and a title is its own title.  An endpoint
has a title as the name of its controller; the name of its action is its method in lower case with a
title behind it. -/
theorem names_areTitles (text : Option String) :
    IsTitle (titleOf text).toList ∧ titleOf (some (titleOf text)) = titleOf text ∧
      (∀ s, titleOf (some s) = s ↔ IsTitle s.toList) ∧
      ∀ (call : Observation) (sourceFile : String) (e : Endpoint),
        call.describe? sourceFile = some e →
          IsTitle e.controllerName.toList ∧
            ∃ title : String, IsTitle title.toList ∧
              e.actionName = Text.downcase e.method.word ++ title := by
  refine ⟨isTitle_titleOf text, (titleOf_eq_self_iff _).2 (isTitle_titleOf text),
    titleOf_eq_self_iff, ?_⟩
  intro call sourceFile e h
  obtain ⟨-, method, -, rfl⟩ := Observation.describe?_eq_some_iff.1 h
  refine ⟨isTitle_controllerName _, _, ?_, actionName_eq _ _⟩
  exact isTitle_titleOf (some _)

/-- A route that ends in separators, a blank and a letter beyond ASCII. -/
def oddCall : Observation where
  kind := .fetch
  method := " pAtch"
  url := "/api/v1/übung_9-x/\x7b_\x7d/- ß"
  line := 1

theorem names_oddCall :
    titleOf none = "Default" ∧ titleOf (some "9 é_lives") = "9Lives" ∧
      titleOf (some "9Lives") = "9Lives" ∧
      ∃ e, oddCall.describe? "a.ts" = some e ∧ e.controllerName = "Bung9X" ∧
        e.actionName = "patchDefault" ∧ IsTitle e.controllerName.toList := by
  have htitle : titleOf (some "9 é_lives") = "9Lives" := by decide +kernel
  obtain ⟨-, hself, -, hnames⟩ := names_areTitles (some "9 é_lives")
  have he : oddCall.describe? "a.ts" = some (oddCall.endpoint .patch "a.ts") :=
    Observation.describe?_eq_some_iff.2 ⟨by decide +kernel, .patch, by decide +kernel, rfl⟩
  refine ⟨by decide +kernel, htitle, htitle ▸ hself, _, he, ?_, ?_, (hnames _ _ _ he).1⟩
  · decide +kernel
  · decide +kernel

end RouteCensus.Route
