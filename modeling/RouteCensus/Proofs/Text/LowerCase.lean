import RouteCensus.Proofs.Text.Case
import RouteCensus.Proofs.Text.Pieces

/-! # Text in lower case

Text in lower case is its own lower case, and it has blanks, commas and dots where the
text has them.  The case of ASCII letters makes no difference to it: no such letter
becomes another one, and a capital sigma next to one finds it cased either way.
-/

namespace RouteCensus.Text

/-- The ASCII capitals. -/
def capitals : Steps := ⟨0x41, 0x5A, 1⟩

theorem toLower_of_not_capital {c : Char} (h : ¬ capitals.Has c.toNat) : c.toLower = c :=
  dif_neg fun ⟨hlow, hhigh⟩ => h ⟨hlow, hhigh, Nat.mod_one _⟩

def lowerMap : CaseMap where
  letters := capitals
  ascii := Char.toLower
  shifts := lowerShifts
  expansions := lowerExpansions

theorem lowerChar_eq (c : Char) : lowerChar c = lowerMap.apply c :=
  rfl

theorem lowerMap_sound : lowerMap.Sound (⟨0x2C, 0x2C, 1⟩ :: ⟨0x2E, 0x2E, 1⟩ :: blanks) where
  letters _ h := toLower_of_not_capital h
  ascii := by decide +kernel
  fixed := by decide +kernel
  shifts := by decide +kernel
  expansions := by decide +kernel
  full := by decide +kernel

/-- What lower case makes of a character: one that stands for itself, and that is a blank, a comma
or a dot just if the character is. -/
structure Lowers (c d : Char) : Prop where
  fixed : lowerChar d = [d]
  blank : isBlank d = isBlank c
  comma : d = ',' ↔ c = ','
  dot : d = '.' ↔ c = '.'

theorem has_single_iff (c d : Char) : (⟨d.toNat, d.toNat, 1⟩ : Steps).Has c.toNat ↔ c = d := by
  rw [← Char.toNat_inj]
  simp only [Steps.Has, Nat.mod_one, and_true]
  omega

theorem lowers_of_mem {c d : Char} (h : d ∈ lowerChar c) : Lowers c d := by
  rw [lowerChar_eq] at h
  obtain ⟨hself, hkept⟩ := lowerMap_sound.mem_apply h
  rw [List.forall_mem_cons, List.forall_mem_cons] at hkept
  obtain ⟨hcomma, hdot, hblank⟩ := hkept
  refine ⟨(lowerChar_eq d).trans hself, ?_, ?_, ?_⟩
  · rw [Bool.eq_iff_iff, isBlank_iff, isBlank_iff]
    exact exists_congr fun run => and_congr_right (hblank run)
  · exact (has_single_iff d ',').symm.trans (hcomma.trans (has_single_iff c ','))
  · exact (has_single_iff d '.').symm.trans (hdot.trans (has_single_iff c '.'))

theorem toList_downcase (s : String) : (downcase s).toList = lower s.toList :=
  String.toList_ofList

section Lower

variable {s : List Char} {d : Char}

/-- The step lemma: a character becomes one or more, whatever stands around it. -/
theorem exists_lowerAfter_cons (cased : Bool) (c : Char) (rest : List Char) :
    ∃ piece cased', lowerAfter cased (c :: rest) = piece ++ lowerAfter cased' rest ∧ piece ≠ [] ∧
      ∀ d ∈ piece, Lowers c d := by
  refine ⟨_, _, rfl, ?_, ?_⟩
  · split
    · exact List.cons_ne_nil _ _
    · rw [lowerChar_eq]
      exact lowerMap_sound.apply_ne_nil c
  · intro d hd
    split at hd
    · next hsigma =>
      obtain rfl := beq_iff_eq.1 hsigma
      have hforms : d = 'ς' ∨ d = 'σ' := by
        rw [List.mem_singleton] at hd
        split at hd
        · exact .inl hd
        · exact .inr hd
      rcases hforms with rfl | rfl
      · exact ⟨by decide +kernel, by decide +kernel, by decide, by decide⟩
      · exact ⟨by decide +kernel, by decide +kernel, by decide, by decide⟩
    · exact lowers_of_mem hd

theorem lowers_of_mem_lowerAfter {cased : Bool} (h : d ∈ lowerAfter cased s) :
    ∃ c ∈ s, Lowers c d := by
  induction s generalizing cased with
  | nil => cases h
  | cons c rest ih =>
    obtain ⟨piece, cased', hstep, -, hpiece⟩ := exists_lowerAfter_cons cased c rest
    rw [hstep, List.mem_append] at h
    rcases h with h | h
    · exact ⟨c, List.mem_cons_self, hpiece d h⟩
    · obtain ⟨c', hc', hlowers⟩ := ih h
      exact ⟨c', List.mem_cons_of_mem c hc', hlowers⟩

theorem lowerAfter_eq_nil {cased : Bool} (h : lowerAfter cased s = []) : s = [] := by
  cases s with
  | nil => rfl
  | cons c rest =>
    obtain ⟨piece, cased', hstep, hne, -⟩ := exists_lowerAfter_cons cased c rest
    rw [hstep] at h
    exact absurd (List.append_eq_nil_iff.1 h).1 hne

theorem endsPlain_lowerAfter (cased : Bool) (h : EndsPlain s) : EndsPlain (lowerAfter cased s) := by
  induction s generalizing cased with
  | nil => exact h
  | cons c rest ih =>
    obtain ⟨piece, cased', hstep, -, hpiece⟩ := exists_lowerAfter_cons cased c rest
    rw [← List.singleton_append, endsPlain_append_iff] at h
    rw [hstep, endsPlain_append_iff]
    refine ⟨ih cased' h.1, fun hrest d hd => ?_⟩
    rw [(hpiece d (List.mem_of_getLast? hd)).blank]
    exact h.2 (lowerAfter_eq_nil hrest) c rfl

theorem isBlank_head?_lower (h : ∀ c ∈ s.head?, isBlank c = false) :
    ∀ d ∈ (lower s).head?, isBlank d = false := by
  cases s with
  | nil => simp [lower, lowerAfter]
  | cons c rest =>
    obtain ⟨piece, cased', hstep, hne, hpiece⟩ := exists_lowerAfter_cons false c rest
    rw [lower, hstep, List.head?_append_of_ne_nil piece hne]
    intro d hd
    rw [(hpiece d (List.mem_of_head? hd)).blank]
    exact h c rfl

/-- Where every character stands for itself there is no capital sigma, so none depends on what
stands around it. -/
theorem lowerAfter_of_fixed (cased : Bool) (h : ∀ d ∈ s, lowerChar d = [d]) :
    lowerAfter cased s = s := by
  induction s generalizing cased with
  | nil => rfl
  | cons d rest ih =>
    rw [List.forall_mem_cons] at h
    have hsigma : (d == 'Σ') = false := by
      apply beq_false_of_ne
      rintro rfl
      exact absurd h.1 (by decide +kernel)
    rw [lowerAfter, hsigma, if_neg Bool.false_ne_true, h.1, ih _ h.2, List.singleton_append]

/-- Text in lower case is its own lower case. -/
theorem lower_lower (s : List Char) : lower (lower s) = lower s := by
  apply lowerAfter_of_fixed
  intro d hd
  obtain ⟨c, -, hlowers⟩ := lowers_of_mem_lowerAfter hd
  exact hlowers.fixed

end Lower

section Ascii

/-- What is the same for both forms of each ASCII letter does not tell them apart. -/
theorem apply_toLower {α : Type} (f : Char → α)
    (hletters : ∀ k < 26, f (Char.ofNat (0x41 + k)).toLower = f (Char.ofNat (0x41 + k)))
    (c : Char) : f c.toLower = f c := by
  by_cases hc : capitals.Has c.toNat
  · have hfirst : 0x41 ≤ c.toNat := hc.1
    have hlast : c.toNat ≤ 0x5A := hc.2.1
    have hletter := hletters (c.toNat - 0x41) (by omega)
    rwa [Nat.add_sub_cancel' hfirst, Char.ofNat_toNat] at hletter
  · rw [toLower_of_not_capital hc]

theorem lowerChar_toLower (c : Char) : lowerChar c.toLower = lowerChar c :=
  apply_toLower lowerChar (by decide +kernel) c

theorem cased_toLower (c : Char) : casedRuns.has c.toLower = casedRuns.has c :=
  apply_toLower casedRuns.has (by decide +kernel) c

/-- No ASCII letter is case-ignorable: the runs of such characters stand apart from the letters. -/
theorem caseIgnorable_toLower (c : Char) :
    caseIgnorableRuns.has c.toLower = caseIgnorableRuns.has c := by
  have hruns : ∀ run ∈ caseIgnorableRuns, run.2 < 0x41 ∨ 0x5A < run.1 ∧ run.2 < 0x61 ∨
      0x7A < run.1 := by decide +kernel
  have hnone : ∀ n, 0x41 ≤ n ∧ n ≤ 0x5A ∨ 0x61 ≤ n ∧ n ≤ 0x7A →
      (caseIgnorableRuns.any fun run => decide (run.1 ≤ n) && decide (n ≤ run.2)) = false := by
    intro n hn
    rw [List.any_eq_false]
    intro run hrun
    have hapart := hruns run hrun
    simp only [Bool.and_eq_true, decide_eq_true_eq]
    omega
  refine apply_toLower caseIgnorableRuns.has (fun k hk => ?_) c
  have hcodes : ∀ k < 26, (Char.ofNat (0x41 + k)).toNat = 0x41 + k ∧
      (Char.ofNat (0x41 + k)).toLower.toNat = 0x61 + k := by decide
  obtain ⟨hcapital, hsmall⟩ := hcodes k hk
  rw [Runs.has, Runs.has, hcapital, hsmall, hnone _ (by omega), hnone _ (by omega)]

theorem casedNext_cons (c : Char) (rest : List Char) :
    casedNext (c :: rest) =
      if caseIgnorableRuns.has c then casedNext rest else casedRuns.has c := by
  rw [casedNext, List.dropWhile_cons]
  cases caseIgnorableRuns.has c <;> rfl

theorem casedNext_map_toLower (s : List Char) : casedNext (s.map Char.toLower) = casedNext s := by
  induction s with
  | nil => rfl
  | cons c rest ih =>
    rw [List.map_cons, casedNext_cons, casedNext_cons, ih, caseIgnorable_toLower, cased_toLower]

theorem lowerAfter_map_toLower (cased : Bool) (s : List Char) :
    lowerAfter cased (s.map Char.toLower) = lowerAfter cased s := by
  induction s generalizing cased with
  | nil => rfl
  | cons c rest ih =>
    have hsigma : (c.toLower == 'Σ') = (c == 'Σ') :=
      apply_toLower (· == 'Σ') (by decide) c
    rw [List.map_cons, lowerAfter, lowerAfter, ih, hsigma, casedNext_map_toLower,
      lowerChar_toLower, caseIgnorable_toLower, cased_toLower]

/-- Lower case does not tell spellings in different ASCII case apart. -/
theorem lower_eq_of_map_toLower {s t : List Char} (h : s.map Char.toLower = t.map Char.toLower) :
    lower s = lower t := by
  rw [lower, lower, ← lowerAfter_map_toLower, h, lowerAfter_map_toLower]

end Ascii

end RouteCensus.Text
