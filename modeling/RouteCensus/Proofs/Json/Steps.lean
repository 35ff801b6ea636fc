import Mathlib.Tactic.Common
import RouteCensus.Json.Reader

/-! # Reading one step at a time

Each reader of a value, of the items of an array and of the members of an object is
one step over the others.  A step looks only at what is left of the text behind it,
and what is left is never longer than the text, so with enough fuel its amount does
not matter: the readers without fuel satisfy the equations of their steps.
-/

namespace RouteCensus.Json

/-- A value that is no string, array or object. -/
def scalar (s : List Char) : Read Json :=
  match readConstant? s with
  | some found => .ok found
  | none =>
    match readNumber? s with
    | some found => checkNumber s found
    | none => .error (.value, s)

/-- An array or object whose opening bracket has been read, for any way to read what is in it. -/
def nestedWith {α : Type} (opening closing : Char) (empty : α) (wrap : α → Json)
    (inner : Nat → List Char → Read α) (depth : Nat) (rest : List Char) : Read Json :=
  match depth with
  | 0 => .error (.nesting, opening :: rest)
  | depth + 1 =>
    if (skipGap rest).head? = some closing then .ok (wrap empty, (skipGap rest).tail)
    else (inner depth (skipGap rest)).map fun (x, rest) => (wrap x, rest)

/-- One step of reading a value. -/
def valueWith (items : Nat → List Char → Read (List Json))
    (members : Nat → List Char → Read (List (JsonString × Json))) (depth : Nat) (s : List Char) :
    Read Json :=
  match s with
  | '"' :: rest => (readString rest).map fun (x, rest) => (.str x, rest)
  | '{' :: rest => nestedWith '{' '}' [] .obj members depth rest
  | '[' :: rest => nestedWith '[' ']' [] .arr items depth rest
  | s => scalar s

/-- What comes after an element of an array or object: its end, or a comma and the next one. -/
def elementWith {α : Type} (closing : Char) (last : Json → α) (next : Json → List Char → Read α)
    (element : Read Json) : Read α :=
  match element with
  | .error stop => .error stop
  | .ok (v, rest) =>
    match skipGap rest with
    | [] => .error (.comma, [])
    | c :: rest =>
      if c = closing then .ok (last v, rest)
      else if c = ',' then next v (skipGap rest)
      else .error (.comma, c :: rest)

def itemsWith (value : List Char → Read Json) (items : List Json → List Char → Read (List Json))
    (seen : List Json) (s : List Char) : Read (List Json) :=
  elementWith ']' (fun v => (v :: seen).reverse) (fun v => items (v :: seen)) (value s)

/-- The name of a member, up to the value behind the colon. -/
def memberName (s : List Char) : Read JsonString :=
  match s with
  | '"' :: rest =>
    match readString rest with
    | .error stop => .error stop
    | .ok (name, rest) =>
      match skipGap rest with
      | ':' :: rest => .ok (name, skipGap rest)
      | rest => .error (.colon, rest)
  | s => .error (.name, s)

def membersWith (value : List Char → Read Json)
    (members : List (JsonString × Json) → List Char → Read (List (JsonString × Json)))
    (seen : List (JsonString × Json)) (s : List Char) : Read (List (JsonString × Json)) :=
  match memberName s with
  | .error stop => .error stop
  | .ok (name, rest) =>
    elementWith '}' (fun v => setMember name v seen) (fun v => members (setMember name v seen))
      (value rest)

section Length

/-! What is left of a text is never longer than the text. -/

/-- The reader leaves no more of a text than there was. -/
def Shortens {α : Type} (s : List Char) (found : Read α) : Prop :=
  ∀ x rest, found = .ok (x, rest) → rest.length ≤ s.length

theorem shortens_error {α : Type} (s : List Char) (stop : Stop) :
    Shortens s (.error stop : Read α) :=
  fun _ _ h => nomatch h

theorem Shortens.map {α β : Type} {s : List Char} {found : Read α} (h : Shortens s found)
    (f : α → β) : Shortens s (found.map fun (x, rest) => (f x, rest)) := by
  intro y rest hy
  cases found with
  | error stop => cases hy
  | ok read =>
    cases hy
    exact h read.1 read.2 rfl

theorem Shortens.mono {α : Type} {s t : List Char} {found : Read α} (h : Shortens s found)
    (hle : s.length ≤ t.length) : Shortens t found :=
  fun x rest hx => Nat.le_trans (h x rest hx) hle

theorem length_skipGap (s : List Char) : (skipGap s).length ≤ s.length :=
  (List.dropWhile_suffix isGap).length_le

theorem length_of_skipGap {s rest : List Char} {c : Char} (h : skipGap s = c :: rest) :
    rest.length < s.length := by
  have hle := length_skipGap s
  rw [h, List.length_cons] at hle
  exact hle

theorem shortens_readUnits (start s : List Char) (seen : List Nat) (skip : Nat) :
    Shortens s (readUnits start seen skip s) := by
  induction s generalizing seen skip with
  | nil => exact shortens_error _ _
  | cons c s ih =>
    have hcons : s.length ≤ (c :: s).length := Nat.le_succ _
    rw [readUnits.eq_def]
    simp only
    split
    · exact (ih seen _).mono hcons
    · split
      · intro x rest h
        cases h
        exact hcons
      · split
        · exact shortens_error _ _
        · exact (ih _ _).mono hcons

theorem shortens_readString (s : List Char) : Shortens s (readString s) :=
  shortens_readUnits _ s [] 0

theorem length_memberName {s rest : List Char} {name : JsonString}
    (h : memberName s = .ok (name, rest)) : rest.length < s.length := by
  unfold memberName at h
  split at h
  · next tail =>
    split at h
    · cases h
    · next x after hx =>
      have hafter := shortens_readString tail x after hx
      split at h
      · next value hcolon =>
        cases h
        have hvalue := length_of_skipGap hcolon
        have hgap := length_skipGap value
        rw [List.length_cons]
        omega
      · cases h
  · cases h

theorem length_wholeDigits? {s digits rest : List Char} (h : wholeDigits? s = some (digits, rest)) :
    rest.length ≤ s.length := by
  unfold wholeDigits? at h
  split at h
  · cases h
    exact Nat.le_succ _
  · split at h
    · cases h
      exact (List.dropWhile_suffix isDigit).length_le
    · cases h
  · cases h

theorem length_fractionDigits (s : List Char) : (fractionDigits s).2.length ≤ s.length := by
  unfold fractionDigits
  split
  · next rest =>
    split
    · exact Nat.le_refl _
    · exact Nat.le_succ_of_le (List.dropWhile_suffix isDigit).length_le
  · exact Nat.le_refl _

theorem length_exponentSign (s : List Char) : (exponentSign s).2.length ≤ s.length := by
  unfold exponentSign
  split
  · exact Nat.le_succ _
  · exact Nat.le_succ _
  · exact Nat.le_refl _

theorem length_exponentPart? {s rest : List Char} {power : Int}
    (h : exponentPart? s = some (power, rest)) : rest.length ≤ s.length := by
  unfold exponentPart? at h
  split at h
  · next e tail =>
    split at h
    · simp only at h
      split at h
      · cases h
      · cases h
        have hdigits := (List.dropWhile_suffix (l := (exponentSign tail).2) isDigit).length_le
        have hsign := length_exponentSign tail
        rw [List.length_cons]
        omega
    · cases h
  · cases h

theorem length_readUnsigned? {negative : Bool} {s rest : List Char} {v : Json}
    (h : readUnsigned? negative s = some (v, rest)) : rest.length ≤ s.length := by
  unfold readUnsigned? at h
  obtain ⟨⟨whole, after⟩, hwhole, h⟩ := Option.bind_eq_some_iff.1 h
  have hafter := length_wholeDigits? hwhole
  have hfraction := length_fractionDigits after
  simp only at h
  split at h
  · next power tail hpower =>
    cases h
    have htail := length_exponentPart? hpower
    omega
  · split at h <;> cases h <;> omega

theorem length_readNumber? {s rest : List Char} {v : Json} (h : readNumber? s = some (v, rest)) :
    rest.length ≤ s.length := by
  unfold readNumber? at h
  split at h
  · exact Nat.le_succ_of_le (length_readUnsigned? h)
  · exact length_readUnsigned? h

theorem shortens_scalar (s : List Char) : Shortens s (scalar s) := by
  intro v rest h
  unfold scalar at h
  split at h
  · next found hfound =>
    obtain ⟨k, -, hk⟩ := Option.map_eq_some_iff.1 hfound
    cases h
    cases hk
    simp
  · split at h
    · next found hfound =>
      have hsame : found = (v, rest) := by
        unfold checkNumber at h
        split at h
        · simp only at h
          split at h <;> cases h
          rfl
        · cases h
          rfl
      exact length_readNumber? (hsame ▸ hfound)
    · cases h

theorem shortens_nestedWith {α : Type} {opening closing : Char} {empty : α} {wrap : α → Json}
    {inner : Nat → List Char → Read α} (hinner : ∀ depth s, Shortens s (inner depth s))
    (depth : Nat) (rest : List Char) :
    Shortens rest (nestedWith opening closing empty wrap inner depth rest) := by
  have hgap := length_skipGap rest
  unfold nestedWith
  split
  · exact shortens_error _ _
  · split
    · intro x after h
      cases h
      rw [List.length_tail]
      omega
    · exact ((hinner _ _).map wrap).mono hgap

theorem shortens_valueWith {items : Nat → List Char → Read (List Json)}
    {members : Nat → List Char → Read (List (JsonString × Json))}
    (hitems : ∀ depth s, Shortens s (items depth s))
    (hmembers : ∀ depth s, Shortens s (members depth s)) (depth : Nat) (s : List Char) :
    Shortens s (valueWith items members depth s) := by
  unfold valueWith
  split
  · next rest => exact ((shortens_readString rest).map _).mono (Nat.le_succ _)
  · next rest => exact (shortens_nestedWith hmembers depth rest).mono (Nat.le_succ _)
  · next rest => exact (shortens_nestedWith hitems depth rest).mono (Nat.le_succ _)
  · exact shortens_scalar _

theorem shortens_elementWith {α : Type} {closing : Char} {last : Json → α}
    {next : Json → List Char → Read α} {element : Read Json} {s : List Char}
    (helement : Shortens s element) (hnext : ∀ v t, Shortens t (next v t)) :
    Shortens s (elementWith closing last next element) := by
  unfold elementWith
  split
  · exact shortens_error _ _
  · next v rest =>
    have hrest := helement v rest rfl
    split
    · exact shortens_error _ _
    · next c tail htail =>
      have htail := length_of_skipGap htail
      have hgap := length_skipGap tail
      split
      · intro x rest h
        cases h
        omega
      · split
        · exact (hnext _ _).mono (by omega)
        · exact shortens_error _ _

theorem shortens_membersWith {value : List Char → Read Json}
    {members : List (JsonString × Json) → List Char → Read (List (JsonString × Json))}
    (hvalue : ∀ s, Shortens s (value s)) (hmembers : ∀ seen s, Shortens s (members seen s))
    (seen : List (JsonString × Json)) (s : List Char) :
    Shortens s (membersWith value members seen s) := by
  unfold membersWith
  split
  · exact shortens_error _ _
  · next name rest hname =>
    have hrest := (hvalue rest).mono (Nat.le_of_lt (length_memberName hname))
    exact shortens_elementWith hrest fun v => hmembers _

end Length

section Fuel

theorem valueWith_other {items : Nat → List Char → Read (List Json)}
    {members : Nat → List Char → Read (List (JsonString × Json))} {s : List Char}
    (hstring : ∀ rest, s = '"' :: rest → False) (hobject : ∀ rest, s = '{' :: rest → False)
    (harray : ∀ rest, s = '[' :: rest → False) (depth : Nat) :
    valueWith items members depth s = scalar s := by
  rw [valueWith.eq_def]
  split
  · next rest => exact (hstring rest rfl).elim
  · next rest => exact (hobject rest rfl).elim
  · next rest => exact (harray rest rfl).elim
  · rfl

section Nested

variable {α : Type} {opening closing : Char} {empty : α} {wrap : α → Json}
  {inner : Nat → List Char → Read α} {depth : Nat} {rest tail : List Char}

theorem nestedWith_close (h : skipGap rest = closing :: tail) :
    nestedWith opening closing empty wrap inner (depth + 1) rest = .ok (wrap empty, tail) := by
  simp [nestedWith, h]

theorem nestedWith_open (h : ∀ tail, skipGap rest = closing :: tail → False) :
    nestedWith opening closing empty wrap inner (depth + 1) rest =
      (inner depth (skipGap rest)).map fun (x, rest) => (wrap x, rest) := by
  refine if_neg fun hclose => ?_
  obtain ⟨tail, htail⟩ := List.head?_eq_some_iff.1 hclose
  exact h tail htail

end Nested

theorem readValue_succ (fuel depth : Nat) (s : List Char) :
    readValue (fuel + 1) depth s =
      valueWith (fun depth => readItems fuel depth []) (fun depth => readMembers fuel depth [])
        depth s := by
  rw [readValue.eq_def]
  simp only
  split
  · rfl
  · next rest =>
    rw [valueWith.eq_def]
    simp only
    split
    · rfl
    · next hclose => rw [nestedWith_close hclose]
    · next hopen => rw [nestedWith_open hopen]
  · next rest =>
    rw [valueWith.eq_def]
    simp only
    split
    · rfl
    · next hclose => rw [nestedWith_close hclose]
    · next hopen => rw [nestedWith_open hopen]
  · next hstring hobject harray =>
    rw [valueWith_other hstring hobject harray]
    rfl

section Element

variable {α : Type} {closing : Char} {last : Json → α} {next : Json → List Char → Read α} {v : Json}
  {rest tail : List Char}

theorem elementWith_close (h : skipGap rest = closing :: tail) :
    elementWith closing last next (.ok (v, rest)) = .ok (last v, tail) := by
  simp [elementWith, h]

theorem elementWith_comma (hclosing : closing ≠ ',') (h : skipGap rest = ',' :: tail) :
    elementWith closing last next (.ok (v, rest)) = next v (skipGap tail) := by
  simp [elementWith, h, hclosing.symm]

theorem elementWith_other (hclose : ∀ t, skipGap rest = closing :: t → False)
    (hcomma : ∀ t, skipGap rest = ',' :: t → False) :
    elementWith closing last next (.ok (v, rest)) = .error (.comma, skipGap rest) := by
  cases hgap : skipGap rest with
  | nil => simp [elementWith, hgap]
  | cons c tail =>
    have hc : c ≠ closing := fun heq => hclose tail (heq ▸ hgap)
    have hc' : c ≠ ',' := fun heq => hcomma tail (heq ▸ hgap)
    simp [elementWith, hgap, hc, hc']

end Element

theorem readItems_succ (fuel depth : Nat) (seen : List Json) (s : List Char) :
    readItems (fuel + 1) depth seen s =
      itemsWith (readValue fuel depth) (readItems fuel depth) seen s := by
  rw [readItems.eq_def, itemsWith]
  simp only
  cases readValue fuel depth s with
  | error stop => rfl
  | ok found =>
    obtain ⟨v, rest⟩ := found
    simp only
    split
    · next hclose => rw [elementWith_close hclose]
    · next hcomma => rw [elementWith_comma (by decide) hcomma]
    · next hclose hcomma => rw [elementWith_other hclose hcomma]

section MemberName

variable {rest after value : List Char} {name : JsonString}

theorem memberName_error {stop : Stop} (h : readString rest = .error stop) :
    memberName ('"' :: rest) = .error stop := by
  simp [memberName, h]

theorem memberName_colon (h : readString rest = .ok (name, after))
    (hcolon : skipGap after = ':' :: value) :
    memberName ('"' :: rest) = .ok (name, skipGap value) := by
  simp [memberName, h, hcolon]

theorem memberName_other (h : readString rest = .ok (name, after))
    (hcolon : ∀ value, skipGap after = ':' :: value → False) :
    memberName ('"' :: rest) = .error (.colon, skipGap after) := by
  rw [memberName.eq_def]
  simp only [h]

end MemberName

theorem readMembers_succ (fuel depth : Nat) (seen : List (JsonString × Json)) (s : List Char) :
    readMembers (fuel + 1) depth seen s =
      membersWith (readValue fuel depth) (readMembers fuel depth) seen s := by
  rw [readMembers.eq_def]
  simp only
  split
  · next rest =>
    cases hstring : readString rest with
    | error stop => rw [membersWith, memberName_error hstring]
    | ok found =>
      obtain ⟨name, after⟩ := found
      simp only
      split
      · next value hcolon =>
        rw [membersWith, memberName_colon hstring hcolon]
        simp only
        cases readValue fuel depth (skipGap value) with
        | error stop => rfl
        | ok element =>
          obtain ⟨v, after⟩ := element
          simp only
          split
          · next hclose => rw [elementWith_close hclose]
          · next hcomma => rw [elementWith_comma (by decide) hcomma]
          · next hclose hcomma => rw [elementWith_other hclose hcomma]
      · next hcolon => rw [membersWith, memberName_other hstring hcolon]
  · next hs =>
    rw [membersWith, memberName]
    exact hs

theorem shortens_read (fuel : Nat) :
    (∀ depth s, Shortens s (readValue fuel depth s)) ∧
      (∀ depth seen s, Shortens s (readItems fuel depth seen s)) ∧
      ∀ depth seen s, Shortens s (readMembers fuel depth seen s) := by
  induction fuel with
  | zero =>
    refine ⟨?_, ?_, ?_⟩
    · intro depth s
      rw [readValue]
      exact shortens_error _ _
    · intro depth seen s
      rw [readItems]
      exact shortens_error _ _
    · intro depth seen s
      rw [readMembers]
      exact shortens_error _ _
  | succ fuel ih =>
    obtain ⟨hvalue, hitems, hmembers⟩ := ih
    refine ⟨?_, ?_, ?_⟩
    · intro depth s
      rw [readValue_succ]
      exact shortens_valueWith (fun depth => hitems depth []) (fun depth => hmembers depth [])
        depth s
    · intro depth seen s
      rw [readItems_succ]
      exact shortens_elementWith (hvalue depth s) fun v => hitems depth _
    · intro depth seen s
      rw [readMembers_succ]
      exact shortens_membersWith (hvalue depth) (hmembers depth) seen s

/-! A step looks only at what comes after it, so readers that agree there have the same step. -/

theorem nestedWith_congr {α : Type} {opening closing : Char} {empty : α} {wrap : α → Json}
    {inner inner' : Nat → List Char → Read α} {rest : List Char}
    (h : ∀ depth t, t.length ≤ rest.length → inner depth t = inner' depth t) (depth : Nat) :
    nestedWith opening closing empty wrap inner depth rest =
      nestedWith opening closing empty wrap inner' depth rest := by
  unfold nestedWith
  split
  · rfl
  · rw [h _ _ (length_skipGap rest)]

theorem valueWith_congr {items items' : Nat → List Char → Read (List Json)}
    {members members' : Nat → List Char → Read (List (JsonString × Json))} {s : List Char}
    (hitems : ∀ depth t, t.length < s.length → items depth t = items' depth t)
    (hmembers : ∀ depth t, t.length < s.length → members depth t = members' depth t)
    (depth : Nat) : valueWith items members depth s = valueWith items' members' depth s := by
  unfold valueWith
  split
  · rfl
  · exact nestedWith_congr (fun depth t ht => hmembers depth t (Nat.lt_succ_of_le ht)) depth
  · exact nestedWith_congr (fun depth t ht => hitems depth t (Nat.lt_succ_of_le ht)) depth
  · rfl

theorem elementWith_congr {α : Type} {closing : Char} {last : Json → α}
    {next next' : Json → List Char → Read α} {element : Read Json} {s : List Char}
    (helement : Shortens s element) (hnext : ∀ v t, t.length < s.length → next v t = next' v t) :
    elementWith closing last next element = elementWith closing last next' element := by
  unfold elementWith
  split
  · rfl
  · next v rest =>
    have hrest := helement v rest rfl
    split
    · rfl
    · next c tail htail =>
      have htail := length_of_skipGap htail
      have hgap := length_skipGap tail
      rw [hnext v (skipGap tail) (by omega)]

theorem itemsWith_congr {value value' : List Char → Read Json}
    {items items' : List Json → List Char → Read (List Json)} {s : List Char}
    (hshort : Shortens s (value s)) (hvalue : value s = value' s)
    (hitems : ∀ seen t, t.length < s.length → items seen t = items' seen t) (seen : List Json) :
    itemsWith value items seen s = itemsWith value' items' seen s := by
  rw [itemsWith, itemsWith, ← hvalue]
  exact elementWith_congr hshort fun v => hitems (v :: seen)

theorem membersWith_congr {value value' : List Char → Read Json}
    {members members' : List (JsonString × Json) → List Char → Read (List (JsonString × Json))}
    {s : List Char} (hshort : ∀ t, Shortens t (value t))
    (hvalue : ∀ t, t.length < s.length → value t = value' t)
    (hmembers : ∀ seen t, t.length < s.length → members seen t = members' seen t)
    (seen : List (JsonString × Json)) :
    membersWith value members seen s = membersWith value' members' seen s := by
  unfold membersWith
  split
  · rfl
  · next name rest hname =>
    have hrest := length_memberName hname
    rw [← hvalue rest hrest]
    exact elementWith_congr ((hshort rest).mono (Nat.le_of_lt hrest)) fun v => hmembers _

/-- With enough fuel, its amount does not matter. -/
theorem read_congr (n : Nat) :
    (∀ fuel fuel' depth s, s.length = n → 2 * n + 1 ≤ fuel → 2 * n + 1 ≤ fuel' →
      readValue fuel depth s = readValue fuel' depth s) ∧
    (∀ fuel fuel' depth seen s, s.length = n → 2 * n + 2 ≤ fuel → 2 * n + 2 ≤ fuel' →
      readItems fuel depth seen s = readItems fuel' depth seen s) ∧
    ∀ fuel fuel' depth seen s, s.length = n → 2 * n + 2 ≤ fuel → 2 * n + 2 ≤ fuel' →
      readMembers fuel depth seen s = readMembers fuel' depth seen s := by
  induction n using Nat.strongRecOn with
  | _ n ih =>
    have hvalue : ∀ fuel fuel' depth s, s.length = n → 2 * n + 1 ≤ fuel → 2 * n + 1 ≤ fuel' →
        readValue fuel depth s = readValue fuel' depth s := by
      rintro (_ | fuel) (_ | fuel') depth s hs hfuel hfuel'
      iterate 3 omega
      rw [readValue_succ, readValue_succ]
      apply valueWith_congr
      · intro depth t ht
        exact (ih t.length (by omega)).2.1 fuel fuel' depth [] t rfl (by omega) (by omega)
      · intro depth t ht
        exact (ih t.length (by omega)).2.2 fuel fuel' depth [] t rfl (by omega) (by omega)
    refine ⟨hvalue, ?_, ?_⟩
    · rintro (_ | fuel) (_ | fuel') depth seen s hs hfuel hfuel'
      iterate 3 omega
      rw [readItems_succ, readItems_succ]
      apply itemsWith_congr ((shortens_read fuel).1 depth s)
      · exact hvalue fuel fuel' depth s hs (by omega) (by omega)
      · intro seen t ht
        exact (ih t.length (by omega)).2.1 fuel fuel' depth seen t rfl (by omega) (by omega)
    · rintro (_ | fuel) (_ | fuel') depth seen s hs hfuel hfuel'
      iterate 3 omega
      rw [readMembers_succ, readMembers_succ]
      apply membersWith_congr ((shortens_read fuel).1 depth)
      · intro t ht
        exact (ih t.length (by omega)).1 fuel fuel' depth t rfl (by omega) (by omega)
      · intro seen t ht
        exact (ih t.length (by omega)).2.2 fuel fuel' depth seen t rfl (by omega) (by omega)

/-- A value, with all the fuel that it needs. -/
def valueOf (depth : Nat) (s : List Char) : Read Json :=
  readValue (2 * s.length + 1) depth s

def itemsOf (depth : Nat) (seen : List Json) (s : List Char) : Read (List Json) :=
  readItems (2 * s.length + 2) depth seen s

def membersOf (depth : Nat) (seen : List (JsonString × Json)) (s : List Char) :
    Read (List (JsonString × Json)) :=
  readMembers (2 * s.length + 2) depth seen s

theorem readValue_eq {fuel : Nat} {s : List Char} (h : 2 * s.length + 1 ≤ fuel) (depth : Nat) :
    readValue fuel depth s = valueOf depth s :=
  (read_congr s.length).1 _ _ depth s rfl h (Nat.le_refl _)

theorem readItems_eq {fuel : Nat} {s : List Char} (h : 2 * s.length + 2 ≤ fuel) (depth : Nat)
    (seen : List Json) : readItems fuel depth seen s = itemsOf depth seen s :=
  (read_congr s.length).2.1 _ _ depth seen s rfl h (Nat.le_refl _)

theorem readMembers_eq {fuel : Nat} {s : List Char} (h : 2 * s.length + 2 ≤ fuel) (depth : Nat)
    (seen : List (JsonString × Json)) : readMembers fuel depth seen s = membersOf depth seen s :=
  (read_congr s.length).2.2 _ _ depth seen s rfl h (Nat.le_refl _)

theorem valueOf_eq (depth : Nat) (s : List Char) :
    valueOf depth s =
      valueWith (fun depth => itemsOf depth []) (fun depth => membersOf depth []) depth s := by
  rw [valueOf, readValue_succ]
  apply valueWith_congr
  · intro depth t ht
    exact readItems_eq (by omega) depth []
  · intro depth t ht
    exact readMembers_eq (by omega) depth []

theorem itemsOf_eq (depth : Nat) (seen : List Json) (s : List Char) :
    itemsOf depth seen s = itemsWith (valueOf depth) (itemsOf depth) seen s := by
  rw [itemsOf, readItems_succ]
  apply itemsWith_congr ((shortens_read _).1 depth s)
  · exact readValue_eq (by omega) depth
  · intro seen t ht
    exact readItems_eq (by omega) depth seen

theorem membersOf_eq (depth : Nat) (seen : List (JsonString × Json)) (s : List Char) :
    membersOf depth seen s = membersWith (valueOf depth) (membersOf depth) seen s := by
  rw [membersOf, readMembers_succ]
  apply membersWith_congr ((shortens_read _).1 depth)
  · intro t ht
    exact readValue_eq (by omega) depth
  · intro seen t ht
    exact readMembers_eq (by omega) depth seen

theorem readStop_eq {levels : Nat} {text : List Char} (h : text.head? ≠ some '\ufeff') :
    readStop levels text =
      match valueOf levels (skipGap text) with
      | .error stop => .error stop
      | .ok (value, rest) =>
        match skipGap rest with
        | [] => .ok value
        | rest => .error (.extra, rest) := by
  have hlength := length_skipGap text
  rw [readStop.eq_def, readValue_eq (by omega)]
  split
  · exact absurd rfl h
  · rfl

end Fuel

end RouteCensus.Json
