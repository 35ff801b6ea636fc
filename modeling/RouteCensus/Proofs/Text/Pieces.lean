import Mathlib.Data.List.DropRight
import Mathlib.Data.List.Infix
import RouteCensus.Text.Blank
import RouteCensus.Text.Pieces

/-! # Where a part stands in a text

A part stands behind some other text if both together are a prefix of the whole.
The cuts of the library keep a part and what is before it, as long as the cut is
made elsewhere.
-/

namespace RouteCensus.Text

theorem occurs_iff (part s : List Char) : occurs part s = true ↔ part <:+: s := by
  induction s with
  | nil => rw [occurs, List.isEmpty_iff, List.infix_nil]
  | cons c s ih =>
    rw [occurs, Bool.or_eq_true, List.isPrefixOf_iff_prefix, ih, List.infix_cons_iff]

theorem infix_iff_exists_prefix {part s : List Char} :
    part <:+: s ↔ ∃ front, front ++ part <+: s :=
  Iff.rfl

theorem prefix_takeWhile_iff {p : Char → Bool} {part s : List Char} :
    part <+: s.takeWhile p ↔ part <+: s ∧ ∀ c ∈ part, p c = true := by
  induction s generalizing part with
  | nil =>
    simp only [List.takeWhile_nil, List.prefix_nil, iff_self_and]
    rintro rfl
    simp
  | cons d s ih =>
    cases part with
    | nil => simp
    | cons c part =>
      cases hd : p d with
      | false =>
        rw [List.takeWhile_cons_of_neg (by simp [hd])]
        simp only [List.prefix_nil, reduceCtorEq, List.cons_prefix_cons, false_iff]
        rintro ⟨⟨rfl, -⟩, hall⟩
        simp [hd] at hall
      | true =>
        rw [List.takeWhile_cons_of_pos hd]
        simp only [List.cons_prefix_cons, ih, List.forall_mem_cons]
        constructor
        · rintro ⟨rfl, hpart, hall⟩
          exact ⟨⟨rfl, hpart⟩, hd, hall⟩
        · rintro ⟨⟨rfl, hpart⟩, -, hall⟩
          exact ⟨rfl, hpart, hall⟩

/-- A part that begins with a character stands behind all text that does not have the character. -/
theorem prefix_past {c : Char} {front part first rest : List Char} (hc : c ∉ first)
    (h : front ++ c :: part <+: first ++ rest) :
    ∃ behind, front = first ++ behind ∧ behind ++ c :: part <+: rest := by
  induction first generalizing front with
  | nil => exact ⟨front, rfl, h⟩
  | cons d first ih =>
    rw [List.mem_cons, not_or] at hc
    cases front with
    | nil => exact absurd (List.cons_prefix_cons.1 h).1 hc.1
    | cons e front =>
      obtain ⟨rfl, hrest⟩ := List.cons_prefix_cons.1 h
      obtain ⟨behind, rfl, hbehind⟩ := ih hc.2 hrest
      exact ⟨behind, rfl, hbehind⟩

theorem infix_append_iff_of_not_mem {c : Char} {part first rest : List Char} (hc : c ∉ first) :
    c :: part <:+: first ++ rest ↔ c :: part <:+: rest := by
  constructor
  · rintro ⟨front, h⟩
    obtain ⟨behind, -, hbehind⟩ := prefix_past hc h
    exact ⟨behind, hbehind⟩
  · intro h
    exact h.trans (List.suffix_append first rest).isInfix

section Cuts

variable {p : Char → Bool}

theorem beq_false_of_not_mem {d : Char} {s : List Char} (h : d ∉ s) :
    ∀ c ∈ s, (c == d) = false :=
  fun _ hc => beq_false_of_ne fun heq => h (heq ▸ hc)

theorem drop_length_takeWhile (s : List Char) :
    s.drop (s.takeWhile p).length = s.dropWhile p := by
  nth_rewrite 2 [← List.takeWhile_append_dropWhile (p := p) (l := s)]
  rw [List.drop_left]

/-- What all of a text has in common ends where something else follows. -/
theorem takeWhile_append_of_head? {s rest : List Char} (hs : ∀ c ∈ s, p c = true)
    (hrest : ∀ c ∈ rest.head?, p c = false) : (s ++ rest).takeWhile p = s := by
  rw [List.takeWhile_append_of_pos hs]
  cases rest with
  | nil => exact List.append_nil s
  | cons c rest =>
    rw [List.takeWhile_cons_of_neg (by simp [hrest c rfl]), List.append_nil]

theorem takeWhile_append_cons {c : Char} (hc : p c = false) (front rest : List Char) :
    (front ++ c :: rest).takeWhile p = front.takeWhile p := by
  rw [List.takeWhile_append, List.takeWhile_cons_of_neg (by simp [hc]), List.append_nil]
  split
  · next hall => exact ((List.takeWhile_prefix p).eq_of_length hall).symm
  · rfl

theorem before_eq_self {s : List Char} (hs : ∀ c ∈ s, p c = false) : before p s = s := by
  rw [before, List.takeWhile_eq_self_iff]
  intro c hc
  rw [hs c hc, Bool.not_false]

theorem before_append {s rest : List Char} (hs : ∀ c ∈ s, p c = false)
    (hrest : ∀ c ∈ rest.head?, p c = true) : before p (s ++ rest) = s := by
  apply takeWhile_append_of_head?
  · intro c hc
    rw [hs c hc, Bool.not_false]
  · intro c hc
    rw [hrest c hc, Bool.not_true]

theorem after?_append {s : List Char} (hs : ∀ c ∈ s, p c = false) (rest : List Char) :
    after? p (s ++ rest) = after? p rest := by
  rw [after?, List.dropWhile_append_of_pos (by simpa using hs), ← after?]

theorem after?_cons {c : Char} (hc : p c = true) (rest : List Char) :
    after? p (c :: rest) = some rest := by
  rw [after?, List.dropWhile_cons_of_neg (by simp [hc])]

/-- The pieces between separators hold none of them. -/
theorem not_of_mem_splitOnP {s piece : List Char} (h : piece ∈ s.splitOnP p) :
    ∀ c ∈ piece, p c = false := by
  induction s generalizing piece with
  | nil =>
    obtain rfl : piece = [] := by simpa using h
    simp
  | cons first s ih =>
    rw [List.splitOnP_cons_eq_if_modifyHead] at h
    split at h
    · rcases List.mem_cons.1 h with rfl | h
      · simp
      · exact ih h
    · next hfirst =>
      obtain ⟨head, pieces, hrest⟩ := List.exists_cons_of_ne_nil (List.splitOnP_ne_nil p s)
      rw [hrest, List.modifyHead_cons] at h
      rcases List.mem_cons.1 h with rfl | h
      · rw [List.forall_mem_cons]
        exact ⟨Bool.eq_false_iff.2 hfirst, ih (hrest ▸ List.mem_cons_self)⟩
      · exact ih (hrest ▸ List.mem_cons_of_mem _ h)

end Cuts

section Trim

variable {p : Char → Bool}

theorem dropWhile_append_cons {c : Char} (hc : p c = false) (front rest : List Char) :
    (front ++ c :: rest).dropWhile p = front.dropWhile p ++ c :: rest := by
  rw [List.dropWhile_append]
  split
  · next h => rw [List.isEmpty_iff.1 h, List.dropWhile_cons_of_neg (by simp [hc]), List.nil_append]
  · rfl

theorem rdropWhile_append_of_getLast? {s : List Char} {last : Char} (hlast : s.getLast? = some last)
    (h : p last = false) (rest : List Char) :
    (s ++ rest).rdropWhile p = s ++ rest.rdropWhile p := by
  induction rest using List.reverseRecOn with
  | nil =>
    obtain ⟨body, rfl⟩ := List.getLast?_eq_some_iff.1 hlast
    simp [h]
  | append_singleton rest c ih =>
    rw [← List.append_assoc, List.rdropWhile_concat, List.rdropWhile_concat]
    split
    · exact ih
    · rw [List.append_assoc]

theorem dropWhile_eq_self_of_prefix {front s : List Char} (h : front <+: s.dropWhile p) :
    front.dropWhile p = front := by
  cases front with
  | nil => rfl
  | cons c front =>
    have hhead := List.head?_dropWhile_not p s
    obtain ⟨rest, hrest⟩ := h
    rw [← hrest] at hhead
    exact List.dropWhile_cons_of_neg (by simpa using hhead)

/-- A part whose first and last characters are not trimmed stands in a trimmed text behind what is
left of the text before it. -/
theorem prefix_trimBy_iff {part front s : List Char} {first last : Char}
    (hfirst : part.head? = some first) (hlast : part.getLast? = some last)
    (hpf : p first = false) (hpl : p last = false) :
    front ++ part <+: trimBy p s ↔
      ∃ whole, whole.dropWhile p = front ∧ whole ++ part <+: s := by
  have htrim : trimBy p s = (s.dropWhile p).rdropWhile p := rfl
  rw [htrim]
  constructor
  · intro h
    have hdropped := h.trans (List.rdropWhile_prefix p _)
    have hfront := dropWhile_eq_self_of_prefix ((List.prefix_append front part).trans hdropped)
    refine ⟨s.takeWhile p ++ front, ?_, ?_⟩
    · have hblank : (s.takeWhile p).dropWhile p = [] :=
        List.dropWhile_eq_nil_iff.2 fun c hc => List.mem_takeWhile_imp hc
      rw [List.dropWhile_append, hblank, List.isEmpty_nil, if_pos rfl, hfront]
    · rw [List.append_assoc]
      nth_rewrite 2 [← List.takeWhile_append_dropWhile (p := p) (l := s)]
      exact (List.prefix_append_right_inj _).2 hdropped
  · rintro ⟨whole, rfl, rest, rfl⟩
    obtain ⟨tail, rfl⟩ := List.head?_eq_some_iff.1 hfirst
    have hend : (whole.dropWhile p ++ first :: tail).getLast? = some last := by
      rw [List.getLast?_append, hlast, Option.some_or]
    rw [List.append_assoc, List.cons_append, dropWhile_append_cons hpf, ← List.cons_append,
      ← List.append_assoc, rdropWhile_append_of_getLast? hend hpl]
    exact List.prefix_append _ _

end Trim

section Ends

/-- The text does not end in a blank. -/
def EndsPlain (s : List Char) : Prop :=
  ∀ c ∈ s.getLast?, isBlank c = false

theorem endsPlain_append_iff {front s : List Char} :
    EndsPlain (front ++ s) ↔ EndsPlain s ∧ (s = [] → EndsPlain front) := by
  cases s using List.reverseRecOn with
  | nil => simp [EndsPlain]
  | append_singleton s c => simp [EndsPlain, ← List.append_assoc]

theorem EndsPlain.of_suffix {s t : List Char} (hs : EndsPlain s) (h : t <:+ s) : EndsPlain t := by
  obtain ⟨front, rfl⟩ := h
  exact (endsPlain_append_iff.1 hs).1

theorem endsPlain_trim (s : List Char) : EndsPlain (trim s) := by
  intro c hc
  have hhead := List.head?_dropWhile_not isBlank (s.dropWhile isBlank).reverse
  rw [trim, trimBy, List.getLast?_reverse] at hc
  rw [Option.mem_def.1 hc] at hhead
  simpa using hhead

/-- There is nothing to trim where neither the first nor the last character is blank. -/
theorem trim_eq_self {s : List Char} (hhead : ∀ c ∈ s.head?, isBlank c = false)
    (hlast : EndsPlain s) : trim s = s := by
  have hkeep : ∀ t : List Char, (∀ c ∈ t.head?, isBlank c = false) → t.dropWhile isBlank = t := by
    intro t ht
    cases t with
    | nil => rfl
    | cons c t => exact List.dropWhile_cons_of_neg (by simp [ht c rfl])
  rw [trim, trimBy, hkeep s hhead, hkeep s.reverse (by rwa [List.head?_reverse]),
    List.reverse_reverse]

/-- Blanks before a text go, and what is behind its last plain character loses its last blanks. -/
theorem trim_append {blanks front : List Char} {last : Char}
    (hblanks : ∀ c ∈ blanks, isBlank c = true) (hhead : ∀ c ∈ front.head?, isBlank c = false)
    (hlast : front.getLast? = some last) (hplain : isBlank last = false) (rest : List Char) :
    trim (blanks ++ (front ++ rest)) = front ++ rest.rdropWhile isBlank := by
  cases front with
  | nil => cases hlast
  | cons c front =>
    have hdrop : (blanks ++ (c :: front ++ rest)).dropWhile isBlank = c :: front ++ rest := by
      rw [List.dropWhile_append_of_pos hblanks, List.cons_append,
        List.dropWhile_cons_of_neg (by simp [hhead c rfl])]
    change ((blanks ++ (c :: front ++ rest)).dropWhile isBlank).rdropWhile isBlank = _
    rw [hdrop, rdropWhile_append_of_getLast? hlast hplain]

theorem trim_infix (s : List Char) : trim s <:+: s :=
  (List.rdropWhile_prefix isBlank (s.dropWhile isBlank)).isInfix.trans
    (List.dropWhile_suffix isBlank).isInfix

end Ends

section Distinct

theorem nodup_eraseDups (items : List String) : items.eraseDups.Nodup := by
  -- the tail is thinned out before it is gone through, so the induction is on the length
  induction hn : items.length using Nat.strong_induction_on generalizing items with
  | _ n ih =>
    cases items with
    | nil => simp
    | cons item items =>
      have hlength : (items.filter fun other => !other == item).length < n := by
        rw [← hn, List.length_cons]
        exact Nat.lt_succ_of_le (List.length_filter_le _ _)
      rw [List.eraseDups_cons, List.nodup_cons]
      exact ⟨by simp [List.mem_eraseDups], ih _ hlength _ rfl⟩

theorem distinct_nodup (items : List String) : (distinct items).Nodup :=
  nodup_eraseDups _

theorem empty_notMem_distinct (items : List String) : "" ∉ distinct items := by
  simp [distinct, List.mem_eraseDups]

theorem mem_distinct_iff {items : List String} {item : String} :
    item ∈ distinct items ↔ item ∈ items ∧ item ≠ "" := by
  simp [distinct, List.mem_eraseDups]

/-- The list holds the non-empty items, each once, in the order of their first places. -/
structure FirstPlaces (items out : List String) : Prop where
  mem_iff : ∀ item, item ∈ out ↔ item ∈ items ∧ item ≠ ""
  ordered : out.Pairwise fun a b => items.idxOf a < items.idxOf b

theorem eraseDups_concat (items : List String) (item : String) :
    (items ++ [item]).eraseDups = items.eraseDups ++ if item ∈ items then [] else [item] := by
  rw [List.eraseDups_append]
  change items.eraseDups ++ ([item].filter fun other => !items.elem other).eraseDups = _
  by_cases hseen : item ∈ items
  · simp [hseen]
  · simp [hseen, List.eraseDups_cons]

theorem distinct_concat (items : List String) (item : String) :
    distinct (items ++ [item]) =
      distinct items ++ if item = "" ∨ item ∈ items then [] else [item] := by
  rw [distinct, distinct, List.filter_append]
  by_cases hempty : item = ""
  · simp [hempty]
  · simp [hempty, eraseDups_concat]

/-- The step lemma: a new item has its first place behind those of all items before it. -/
theorem pairwise_distinct_concat {items : List String} {item : String}
    (ih : (distinct items).Pairwise fun a b => items.idxOf a < items.idxOf b) :
    (distinct (items ++ [item])).Pairwise fun a b =>
      (items ++ [item]).idxOf a < (items ++ [item]).idxOf b := by
  have hkept : ∀ a ∈ distinct items, (items ++ [item]).idxOf a = items.idxOf a :=
    fun a ha => List.idxOf_append_of_mem (mem_distinct_iff.1 ha).1
  rw [distinct_concat, List.pairwise_append]
  refine ⟨?_, ?_, ?_⟩
  · apply ih.imp_of_mem
    intro a b ha hb hlt
    rwa [hkept a ha, hkept b hb]
  · split <;> simp
  · intro a ha b hb
    split at hb
    · cases hb
    · next hnew =>
      rw [List.mem_singleton] at hb
      rw [hb, hkept a ha, List.idxOf_append_of_notMem (not_or.1 hnew).2]
      exact Nat.lt_add_right _ (List.idxOf_lt_length_of_mem (mem_distinct_iff.1 ha).1)

theorem firstPlaces_distinct (items : List String) : FirstPlaces items (distinct items) := by
  refine ⟨fun item => mem_distinct_iff, ?_⟩
  induction items using List.reverseRecOn with
  | nil => exact List.Pairwise.nil
  | append_singleton items item ih => exact pairwise_distinct_concat ih

theorem FirstPlaces.nodup {items out : List String} (h : FirstPlaces items out) : out.Nodup :=
  h.ordered.imp fun hlt heq => absurd (heq ▸ hlt) (Nat.lt_irrefl _)

/-- Only one list has the items in this way. -/
theorem distinct_eq_iff {items out : List String} :
    distinct items = out ↔ FirstPlaces items out := by
  constructor
  · rintro rfl
    exact firstPlaces_distinct items
  · intro h
    have hperm : (distinct items).Perm out := by
      rw [List.perm_ext_iff_of_nodup (distinct_nodup items) h.nodup]
      exact fun item => mem_distinct_iff.trans (h.mem_iff item).symm
    refine hperm.eq_of_pairwise ?_ (firstPlaces_distinct items).ordered h.ordered
    intro a b _ _ hab hba
    exact absurd hab (Nat.lt_asymm hba)

end Distinct

end RouteCensus.Text
