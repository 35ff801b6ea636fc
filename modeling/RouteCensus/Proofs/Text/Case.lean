import Mathlib.Data.List.DropRight
import RouteCensus.Text.Blank
import RouteCensus.Text.Case

/-! # Case mappings

What a case mapping makes of a character stands for itself, and is a blank just if
the character is one.  Both are checked on the tables of the mapping, run by run:
what a run is mapped to lies apart from all runs that are mapped, and from those that
are kept.  So text in upper case is its own upper case, and trimming goes with it.
-/

namespace RouteCensus.Text

/-- The code points from a first to a last one, every `stride`-th of them. -/
structure Steps where
  first : Nat
  last : Nat
  stride : Nat

namespace Steps

def Has (steps : Steps) (n : Nat) : Prop :=
  steps.first ≤ n ∧ n ≤ steps.last ∧ (n - steps.first) % steps.stride = 0

instance (steps : Steps) (n : Nat) : Decidable (steps.Has n) :=
  inferInstanceAs (Decidable (_ ∧ _ ∧ _))

/-- Whether one stands beside the other or, every second code point taken, between its members. -/
def apart (a b : Steps) : Bool :=
  Nat.blt a.last b.first || Nat.blt b.last a.first ||
    (Nat.beq b.stride 2 && (Nat.beq a.stride 2 || Nat.beq a.first a.last) &&
      Nat.beq ((a.first + b.first) % 2) 1)

theorem not_has_of_apart {a b : Steps} (h : a.apart b = true) {n : Nat} (ha : a.Has n) :
    ¬ b.Has n := by
  obtain ⟨hfirst, hlast, hstride⟩ := ha
  simp only [apart, Bool.or_eq_true, Bool.and_eq_true, Nat.blt_eq, Nat.beq_eq] at h
  rintro ⟨hfirst', hlast', hstride'⟩
  rcases h with (h | h) | ⟨⟨heven, heven' | hsingle⟩, hodd⟩
  · omega
  · omega
  · rw [heven] at hstride'
    rw [heven'] at hstride
    omega
  · rw [heven] at hstride'
    omega

end Steps

namespace Shift

/-- The code points that a shift moves. -/
def source (s : Shift) : Steps :=
  ⟨s.1, s.2.1, s.2.2.1⟩

/-- The code points that a shift moves them to. -/
def target (s : Shift) : Steps :=
  ⟨(s.1 + s.2.2.2 : Int).toNat, (s.2.1 + s.2.2.2 : Int).toNat, s.2.2.1⟩

theorem source_has {s : Shift} {n m : Nat} (h : s.image? n = some m) : s.source.Has n := by
  obtain ⟨first, last, stride, distance⟩ := s
  simp only [Shift.image?] at h
  split at h
  · assumption
  · cases h

theorem target_has {s : Shift} (hs : 0 ≤ (s.1 + s.2.2.2 : Int)) {n m : Nat}
    (h : s.image? n = some m) : s.target.Has m := by
  obtain ⟨first, last, stride, distance⟩ := s
  simp only [Shift.image?] at h
  split at h
  · next hn =>
    obtain rfl := Option.some.inj h
    obtain ⟨hfirst, hlast, hstride⟩ := hn
    simp only [target, Steps.Has] at hs ⊢
    refine ⟨by omega, by omega, ?_⟩
    rw [← hstride]
    congr 1
    omega
  · cases h

end Shift

/-- A mapping of characters: a rule for ASCII, which changes some letters, and tables beyond it. -/
structure CaseMap where
  letters : Steps
  ascii : Char → Char
  shifts : List Shift
  expansions : List (Nat × List Nat)

namespace CaseMap

def apply (m : CaseMap) (c : Char) : List Char :=
  if c.toNat < 0x80 then [m.ascii c] else
    match m.expansions.find? fun e => e.1 == c.toNat with
    | some e => e.2.map Char.ofNat
    | none =>
      match m.shifts.findSome? fun s => s.image? c.toNat with
      | some n => [Char.ofNat n]
      | none => [c]

/-- All code points that are mapped to others. -/
def mapped (m : CaseMap) : List Steps :=
  m.letters :: (m.shifts.map Shift.source ++ m.expansions.map fun e => ⟨e.1, e.1, 1⟩)

/-- Proper code points that the mapping leaves alone. -/
def settled (m : CaseMap) (steps : Steps) : Bool :=
  (Nat.blt steps.last 0xD800 || (Nat.blt 0xDFFF steps.first && Nat.blt steps.last 0x110000)) &&
    m.mapped.all steps.apart

/-- The mapping leaves alone what it leads to, and the runs that are kept, to which it leads from
nowhere else. -/
structure Sound (m : CaseMap) (kept : List Steps) : Prop where
  letters : ∀ c : Char, ¬ m.letters.Has c.toNat → m.ascii c = c
  ascii : ∀ n < 0x80, m.apply (m.ascii (Char.ofNat n)) = [m.ascii (Char.ofNat n)] ∧
    ∀ run ∈ kept, run.Has (m.ascii (Char.ofNat n)).toNat ↔ run.Has n
  fixed : kept.all m.settled = true
  shifts : (m.shifts.all fun s => decide (0 ≤ (s.1 + s.2.2.2 : Int)) && m.settled s.target &&
    kept.all s.target.apart) = true
  expansions : ((m.expansions.flatMap Prod.snd).eraseDups.all fun n =>
    m.settled ⟨n, n, 1⟩ && kept.all (⟨n, n, 1⟩ : Steps).apart) = true
  full : ∀ e ∈ m.expansions, e.2 ≠ []

variable {m : CaseMap} {kept : List Steps} {steps : Steps} {c d : Char} {n : Nat}

theorem toNat_ofNat_of_settled (h : m.settled steps = true) (hn : steps.Has n) :
    (Char.ofNat n).toNat = n := by
  simp only [settled, Bool.and_eq_true, Bool.or_eq_true, Nat.blt_eq] at h
  obtain ⟨hfirst, hlast, -⟩ := hn
  have hvalid : n.isValidChar := by
    rcases h.1 with hlow | hhigh
    · exact .inl (by omega)
    · exact .inr ⟨by omega, by omega⟩
  rw [Char.ofNat, dif_pos hvalid]
  rfl

/-- A character that is not mapped stands for itself. -/
theorem Sound.apply_of_not_mapped (hm : m.Sound kept) (h : ∀ run ∈ m.mapped, ¬ run.Has c.toNat) :
    m.apply c = [c] := by
  simp only [mapped, List.mem_cons, List.mem_append, List.mem_map] at h
  rw [apply]
  split
  · rw [hm.letters c (h _ (.inl rfl))]
  · have hexpansion : m.expansions.find? (fun e => e.1 == c.toNat) = none := by
      rw [List.find?_eq_none]
      intro e he hkey
      refine h _ (.inr (.inr ⟨e, he, rfl⟩)) ?_
      simp [Steps.Has, beq_iff_eq.1 hkey]
    have hshift : m.shifts.findSome? (fun s => s.image? c.toNat) = none := by
      rw [List.findSome?_eq_none_iff]
      intro s hs
      rw [Option.eq_none_iff_forall_ne_some]
      intro k hk
      exact h _ (.inr (.inl ⟨s, hs, rfl⟩)) (Shift.source_has hk)
    rw [hexpansion, hshift]

theorem Sound.apply_of_settled (hm : m.Sound kept) (h : m.settled steps = true)
    (hc : steps.Has c.toNat) : m.apply c = [c] := by
  rw [settled, Bool.and_eq_true, List.all_eq_true] at h
  exact hm.apply_of_not_mapped fun run hrun => Steps.not_has_of_apart (h.2 run hrun) hc

theorem Sound.apply_of_kept (hm : m.Sound kept) {run : Steps} (hrun : run ∈ kept)
    (h : run.Has c.toNat) : m.apply c = [c] :=
  hm.apply_of_settled (List.all_eq_true.1 hm.fixed run hrun) h

/-- Settled code points apart from the kept ones are characters that stand for themselves. -/
theorem Sound.ofNat_of_settled (hm : m.Sound kept) (h : m.settled steps = true)
    (hkept : kept.all steps.apart = true) (hn : steps.Has n) :
    m.apply (Char.ofNat n) = [Char.ofNat n] ∧ ∀ run ∈ kept, ¬ run.Has (Char.ofNat n).toNat := by
  have hhas : steps.Has (Char.ofNat n).toNat := by rwa [toNat_ofNat_of_settled h hn]
  exact ⟨hm.apply_of_settled h hhas, fun run hrun =>
    Steps.not_has_of_apart (List.all_eq_true.1 hkept run hrun) hhas⟩

/-- What a character beyond ASCII is mapped to, if it is mapped at all. -/
theorem Sound.mem_apply_of_le (hm : m.Sound kept) (hc : ¬ c.toNat < 0x80) (h : d ∈ m.apply c) :
    m.apply d = [d] ∧ (d = c ∨ ∀ run ∈ kept, ¬ run.Has d.toNat) := by
  rw [apply, if_neg hc] at h
  split at h
  · next e he =>
    obtain ⟨n, hn, rfl⟩ := List.mem_map.1 h
    have hmem : n ∈ (m.expansions.flatMap Prod.snd).eraseDups :=
      List.mem_eraseDups.2 (List.mem_flatMap.2 ⟨e, List.mem_of_find?_eq_some he, hn⟩)
    have hcheck := List.all_eq_true.1 hm.expansions n hmem
    rw [Bool.and_eq_true] at hcheck
    exact (hm.ofNat_of_settled hcheck.1 hcheck.2
      ⟨Nat.le_refl n, Nat.le_refl n, Nat.mod_one _⟩).imp_right .inr
  · next hexpansion =>
    split at h
    · next n hshift =>
      obtain ⟨s, hs, hn⟩ := List.exists_of_findSome?_eq_some hshift
      have hcheck := List.all_eq_true.1 hm.shifts s hs
      simp only [Bool.and_eq_true, decide_eq_true_eq] at hcheck
      rw [List.mem_singleton.1 h]
      exact (hm.ofNat_of_settled hcheck.1.2 hcheck.2
        (Shift.target_has hcheck.1.1 hn)).imp_right .inr
    · next hshift =>
      obtain rfl := List.mem_singleton.1 h
      refine ⟨?_, .inl rfl⟩
      rw [apply, if_neg hc, hexpansion, hshift]

/-- What a character is mapped to stands for itself, and lies in the kept runs that hold the
character. -/
theorem Sound.mem_apply (hm : m.Sound kept) (h : d ∈ m.apply c) :
    m.apply d = [d] ∧ ∀ run ∈ kept, run.Has d.toNat ↔ run.Has c.toNat := by
  by_cases hc : c.toNat < 0x80
  · rw [apply, if_pos hc, List.mem_singleton] at h
    have hascii := hm.ascii c.toNat hc
    rw [Char.ofNat_toNat] at hascii
    rwa [h]
  · obtain ⟨hself, hd⟩ := hm.mem_apply_of_le hc h
    refine ⟨hself, fun run hrun => ⟨fun hhas => ?_, fun hhas => ?_⟩⟩
    · rcases hd with rfl | hd
      · exact hhas
      · exact absurd hhas (hd run hrun)
    · rw [hm.apply_of_kept hrun hhas, List.mem_singleton] at h
      rwa [h]

theorem Sound.apply_ne_nil (hm : m.Sound kept) (c : Char) : m.apply c ≠ [] := by
  rw [apply]
  split
  · simp
  · split
    · next e he => simpa using hm.full e (List.mem_of_find?_eq_some he)
    · split <;> simp

end CaseMap

def blanks : List Steps :=
  blankRuns.map fun run => ⟨run.1, run.2, 1⟩

theorem isBlank_iff (c : Char) : isBlank c = true ↔ ∃ run ∈ blanks, run.Has c.toNat := by
  simp [isBlank, Runs.has, blanks, Steps.Has, Nat.mod_one]

def upperMap : CaseMap where
  letters := ⟨0x61, 0x7A, 1⟩
  ascii := Char.toUpper
  shifts := upperShifts
  expansions := upperExpansions

theorem upperChar_eq (c : Char) : upperChar c = upperMap.apply c :=
  rfl

theorem upperMap_sound : upperMap.Sound blanks where
  letters c h := dif_neg fun ⟨hlow, hhigh⟩ => h ⟨hlow, hhigh, Nat.mod_one _⟩
  ascii := by decide +kernel
  fixed := by decide +kernel
  shifts := by decide +kernel
  expansions := by decide +kernel
  full := by decide +kernel

theorem upperChar_of_isBlank {c : Char} (h : isBlank c = true) : upperChar c = [c] := by
  obtain ⟨run, hrun, hhas⟩ := (isBlank_iff c).1 h
  rw [upperChar_eq]
  exact upperMap_sound.apply_of_kept hrun hhas

/-- What upper case makes of a character stands for itself, and is a blank just if the character
is one. -/
theorem mem_upperChar {c d : Char} (h : d ∈ upperChar c) :
    upperChar d = [d] ∧ isBlank d = isBlank c := by
  rw [upperChar_eq] at h ⊢
  obtain ⟨hself, hkept⟩ := upperMap_sound.mem_apply h
  refine ⟨hself, ?_⟩
  rw [Bool.eq_iff_iff, isBlank_iff, isBlank_iff]
  exact exists_congr fun run => and_congr_right (hkept run)

theorem upperChar_ne_nil (c : Char) : upperChar c ≠ [] := by
  rw [upperChar_eq]
  exact upperMap_sound.apply_ne_nil c

theorem upper_append (s t : List Char) : upper (s ++ t) = upper s ++ upper t :=
  List.flatMap_append

/-- Text in upper case is its own upper case. -/
theorem upper_upper (s : List Char) : upper (upper s) = upper s := by
  have hfixed : ∀ t : List Char, (∀ d ∈ t, upperChar d = [d]) → upper t = t := by
    intro t ht
    rw [upper, List.flatMap_congr ht, List.flatMap_singleton']
  apply hfixed
  intro d hd
  obtain ⟨c, -, hc⟩ := List.mem_flatMap.1 hd
  exact (mem_upperChar hc).1

theorem trim_eq (s : List Char) : trim s = (s.dropWhile isBlank).rdropWhile isBlank :=
  rfl

theorem dropWhile_upper (s : List Char) :
    (upper s).dropWhile isBlank = upper (s.dropWhile isBlank) := by
  induction s with
  | nil => rfl
  | cons c s ih =>
    have hcons : upper (c :: s) = upperChar c ++ upper s := rfl
    cases hc : isBlank c with
    | true =>
      rw [hcons, upperChar_of_isBlank hc, List.singleton_append, List.dropWhile_cons_of_pos hc,
        List.dropWhile_cons_of_pos hc, ih]
    | false =>
      rw [List.dropWhile_cons_of_neg (by simp [hc]), hcons]
      obtain ⟨d, tail, hd⟩ := List.exists_cons_of_ne_nil (upperChar_ne_nil c)
      have hblank := (mem_upperChar (c := c) (d := d) (by rw [hd]; simp)).2
      rw [hd, List.cons_append, List.dropWhile_cons_of_neg (by simp [hblank, hc])]

theorem rdropWhile_upper (s : List Char) :
    (upper s).rdropWhile isBlank = upper (s.rdropWhile isBlank) := by
  induction s using List.reverseRecOn with
  | nil => rfl
  | append_singleton s c ih =>
    have hlast : upper [c] = upperChar c := List.append_nil _
    rw [upper_append, hlast, List.rdropWhile_concat]
    cases hc : isBlank c with
    | true =>
      rw [if_pos rfl, upperChar_of_isBlank hc, List.rdropWhile_concat_pos _ _ _ hc, ih]
    | false =>
      rw [if_neg Bool.false_ne_true, upper_append, hlast]
      obtain ⟨front, d, hd⟩ :=
        (List.eq_nil_or_concat' (upperChar c)).resolve_left (upperChar_ne_nil c)
      have hblank := (mem_upperChar (c := c) (d := d) (by rw [hd]; simp)).2
      rw [hd, ← List.append_assoc, List.rdropWhile_concat_neg _ _ _ (by simp [hblank, hc])]

/-- Upper case and trimming do not interfere. -/
theorem trim_upper (s : List Char) : trim (upper s) = upper (trim s) := by
  rw [trim_eq, trim_eq, dropWhile_upper, rdropWhile_upper]

/-- Text without a blank in its upper case has none itself, so there is nothing to trim. -/
theorem trim_of_upper {s : List Char} (h : ∀ d ∈ upper s, isBlank d = false) : trim s = s := by
  have hs : ∀ c ∈ s, isBlank c = false := by
    intro c hc
    obtain ⟨d, hd⟩ := List.exists_mem_of_ne_nil _ (upperChar_ne_nil c)
    rw [← (mem_upperChar hd).2]
    exact h d (List.mem_flatMap.2 ⟨c, hc, hd⟩)
  have hdrop : s.dropWhile isBlank = s := List.dropWhile_eq_self_iff.2 fun hl => by simp [hs]
  have hlast : s.rdropWhile isBlank = s := List.rdropWhile_eq_self_iff.2 fun hl => by simp [hs]
  rw [trim_eq, hdrop, hlast]

end RouteCensus.Text
