import RouteCensus.Proofs.Json.Steps

/-! # The limits of reading

Reading stops for one of two reasons: the text breaks a rule of the grammar, or it
asks for more than is read, an array or object inside of as many others as may be
nested or a whole number of too many digits.  The places that reading comes to are given by
rules of their own, and a limit is met exactly if there is such a place with a
value beyond the limits.
-/

namespace RouteCensus.Json

/-- What reading expects at a place of the text. -/
inductive Expected where
  | value
  | item
  | member

/-- Reading comes to a place of the text where something is expected, inside of some number of
arrays and objects, and the last text is what is left from there on. -/
inductive Comes (levels : Nat) (text : List Char) : Expected → Nat → List Char → Prop where
  | start (h : text.head? ≠ some '\ufeff') : Comes levels text .value 0 (skipGap text)
  | array {n : Nat} {rest : List Char} (h : Comes levels text .value n ('[' :: rest))
    (hopen : n < levels) (hfull : (skipGap rest).head? ≠ some ']') :
    Comes levels text .item (n + 1) (skipGap rest)
  | object {n : Nat} {rest : List Char} (h : Comes levels text .value n ('{' :: rest))
    (hopen : n < levels) (hfull : (skipGap rest).head? ≠ some '}') :
    Comes levels text .member (n + 1) (skipGap rest)
  | item {n : Nat} {s : List Char} (h : Comes levels text .item n s) : Comes levels text .value n s
  | nextItem {n : Nat} {s rest next : List Char} {v : Json} (h : Comes levels text .item n s)
    (hvalue : valueOf (levels - n) s = .ok (v, rest)) (hcomma : skipGap rest = ',' :: next) :
    Comes levels text .item n (skipGap next)
  | member {n : Nat} {s rest : List Char} {name : JsonString} (h : Comes levels text .member n s)
    (hname : memberName s = .ok (name, rest)) : Comes levels text .value n rest
  | nextMember {n : Nat} {s rest after next : List Char} {name : JsonString} {v : Json}
    (h : Comes levels text .member n s) (hname : memberName s = .ok (name, rest))
    (hvalue : valueOf (levels - n) rest = .ok (v, after))
    (hcomma : skipGap after = ',' :: next) : Comes levels text .member n (skipGap next)

/-- The text starts with a whole number of more digits than are read. -/
def StartsLong (s : List Char) : Prop :=
  readConstant? s = none ∧ (∃ n rest, readNumber? s = some (.int n, rest)) ∧
    mostDigits < ((s.dropWhile (· == '-')).takeWhile isDigit).length

/-- Reading was stopped by a limit. -/
def Limited {α : Type} (found : Except Stop α) : Prop :=
  ∃ stop, found = .error stop ∧ stop.1.isLimit = true

section Limits

variable {levels : Nat}

theorem limited_error_iff {α : Type} {stop : Stop} :
    Limited (.error stop : Except Stop α) ↔ stop.1.isLimit = true :=
  ⟨fun ⟨_, heq, h⟩ => Except.error.inj heq ▸ h, fun h => ⟨stop, rfl, h⟩⟩

theorem not_limited_error {α : Type} {stop : Stop} (h : stop.1.isLimit = false) :
    ¬ Limited (.error stop : Except Stop α) := by
  rw [limited_error_iff, h]
  exact Bool.false_ne_true

theorem not_limited_ok {α : Type} (x : α) : ¬ Limited (.ok x : Except Stop α) :=
  fun ⟨_, heq, _⟩ => nomatch heq

theorem limited_map_iff {α β : Type} {found : Except Stop α} (f : α → β) :
    Limited (found.map f) ↔ Limited found := by
  cases found with
  | error stop => exact limited_error_iff.trans limited_error_iff.symm
  | ok x => exact iff_of_false (not_limited_ok _) (not_limited_ok _)

theorem isLimit_unicodeEscape {s : List Char} {stop : Stop} (h : unicodeEscape s = .error stop) :
    stop.1.isLimit = false := by
  unfold unicodeEscape at h
  repeat' split at h
  all_goals cases h <;> rfl

theorem isLimit_stringUnit {start rest : List Char} {c : Char} {stop : Stop}
    (h : stringUnit start c rest = .error stop) : stop.1.isLimit = false := by
  unfold stringUnit at h
  split at h
  · split at h
    · cases h; rfl
    · exact isLimit_unicodeEscape h
    · split at h <;> cases h
      rfl
  · split at h <;> cases h
    rfl

/-- No limit stops the reading of a string. -/
theorem not_limited_readUnits (start s : List Char) (seen : List Nat) (skip : Nat) :
    ¬ Limited (readUnits start seen skip s) := by
  induction s generalizing seen skip with
  | nil => exact not_limited_error rfl
  | cons c s ih =>
    rw [readUnits.eq_def]
    simp only
    split
    · exact ih seen _
    · split
      · exact not_limited_ok _
      · split
        · next stop hstop => exact not_limited_error (isLimit_stringUnit hstop)
        · exact ih _ _

theorem not_limited_memberName (s : List Char) : ¬ Limited (memberName s) := by
  unfold memberName
  split
  · next rest =>
    have hstring := not_limited_readUnits ('"' :: rest) rest [] 0
    split
    · next stop hstop =>
      rw [← readString, hstop] at hstring
      rwa [limited_error_iff] at hstring ⊢
    · split
      · exact not_limited_ok _
      · exact not_limited_error rfl
  · exact not_limited_error rfl

theorem StartsLong.head {c : Char} {rest : List Char} (h : StartsLong (c :: rest)) :
    c = '-' ∨ isDigit c = true := by
  by_contra hc
  obtain ⟨hminus, hdigit⟩ := not_or.1 hc
  have hnone : (((c :: rest).dropWhile (· == '-')).takeWhile isDigit).length = 0 := by
    simp [hminus, hdigit]
  exact absurd h.2.2 (by omega)

section Steps

variable {items : Nat → List Char → Read (List Json)}
  {members : Nat → List Char → Read (List (JsonString × Json))} {depth : Nat} {s rest : List Char}

theorem limited_nestedWith_iff {α : Type} {opening closing : Char} {empty : α} {wrap : α → Json}
    {inner : Nat → List Char → Read α} :
    Limited (nestedWith opening closing empty wrap inner depth rest) ↔
      depth = 0 ∨ ∃ k, depth = k + 1 ∧ (skipGap rest).head? ≠ some closing ∧
        Limited (inner k (skipGap rest)) := by
  unfold nestedWith
  split
  · simp [limited_error_iff, Fault.isLimit]
  · split
    · next hclose => simp [not_limited_ok, hclose]
    · next hopen => simp [limited_map_iff, hopen]

theorem limited_array_iff :
    Limited (valueWith items members depth ('[' :: rest)) ↔
      depth = 0 ∨ ∃ k, depth = k + 1 ∧ (skipGap rest).head? ≠ some ']' ∧
        Limited (items k (skipGap rest)) := by
  rw [valueWith.eq_def]
  exact limited_nestedWith_iff

theorem limited_object_iff :
    Limited (valueWith items members depth ('{' :: rest)) ↔
      depth = 0 ∨ ∃ k, depth = k + 1 ∧ (skipGap rest).head? ≠ some '}' ∧
        Limited (members k (skipGap rest)) := by
  rw [valueWith.eq_def]
  exact limited_nestedWith_iff

theorem limited_elementWith_iff {α : Type} {closing : Char} {last : Json → α}
    {next : Json → List Char → Read α} {element : Read Json} (hclosing : closing ≠ ',') :
    Limited (elementWith closing last next element) ↔
      Limited element ∨ ∃ v rest t, element = .ok (v, rest) ∧ skipGap rest = ',' :: t ∧
        Limited (next v (skipGap t)) := by
  unfold elementWith
  split
  · simp [limited_error_iff]
  · next v rest =>
    simp only [not_limited_ok, false_or, Except.ok.injEq, Prod.mk.injEq]
    split
    · next hgap => simp [limited_error_iff, Fault.isLimit, hgap]
    · next c tail hgap =>
      split
      · next hc => simp_all [not_limited_ok]
      · split
        · next hcomma => simp_all
        · next hcomma => simp_all [limited_error_iff, Fault.isLimit]

theorem limited_membersWith_iff {value : List Char → Read Json}
    {members : List (JsonString × Json) → List Char → Read (List (JsonString × Json))}
    {seen : List (JsonString × Json)} :
    Limited (membersWith value members seen s) ↔
      ∃ name rest, memberName s = .ok (name, rest) ∧
        (Limited (value rest) ∨
          ∃ v after next, value rest = .ok (v, after) ∧ skipGap after = ',' :: next ∧
            Limited (members (setMember name v seen) (skipGap next))) := by
  rw [membersWith]
  cases hname : memberName s with
  | error stop =>
    have hlimit := not_limited_memberName s
    rw [hname, limited_error_iff] at hlimit
    simp [limited_error_iff, hlimit]
  | ok found =>
    obtain ⟨name, rest⟩ := found
    rw [limited_elementWith_iff (by decide)]
    simp

end Steps

theorem Comes.le {text s : List Char} {expected : Expected} {n : Nat}
    (h : Comes levels text expected n s) : n ≤ levels := by
  induction h with
  | start => exact Nat.zero_le _
  | array _ hopen => exact hopen
  | object _ hopen => exact hopen
  | item _ ih => exact ih
  | nextItem _ _ _ ih => exact ih
  | member _ _ ih => exact ih
  | nextMember _ _ _ _ ih => exact ih

theorem limited_readStop_of_value {text : List Char} (h : text.head? ≠ some '\ufeff') :
    Limited (readStop levels text) ↔ Limited (valueOf levels (skipGap text)) := by
  rw [readStop_eq h]
  cases hvalue : valueOf levels (skipGap text) with
  | error stop => simp [limited_error_iff]
  | ok found =>
    obtain ⟨v, rest⟩ := found
    refine iff_of_false ?_ (not_limited_ok _)
    simp only
    split
    · exact not_limited_ok _
    · exact not_limited_error rfl

end Limits

end RouteCensus.Json
