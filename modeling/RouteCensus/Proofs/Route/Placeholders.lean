import RouteCensus.Proofs.Route.Admission

/-! # Placeholders in a path

A path has segments of fixed text and segments that are one placeholder, a name in
braces.  The names are those of a programming language, which knows more of them
than there are words: a name may hold `$`, an escape, or a mark that combines
with a letter.  In the route a placeholder becomes a parameter if its name is a
word.  Otherwise its braces stay, and only the braces of the escapes in it, which
look like placeholders themselves, are rewritten and read as parameters.
-/

namespace RouteCensus.Route

/-- A character that stands for itself in a name, or the backslash of an escape. -/
def isNameChar (c : Char) : Bool :=
  c.isAlphanum || c == '_' || c == '$' || c == '\\' || 0x80 ≤ c.toNat

/-- A part of a name: a character, or the escape `\u{digits}`. -/
inductive NamePart where
  | char (c : Char) (h : isNameChar c = true)
  | code (digits : List Char) (hne : digits ≠ []) (h : ∀ d ∈ digits, d.isAlphanum = true)

namespace NamePart

def spelling : NamePart → List Char
  | char c _ => [c]
  | code digits _ _ => '\\' :: 'u' :: '{' :: (digits ++ ['}'])

/-- What becomes of a part in the route, if its name is no word. -/
def kept : NamePart → List Char
  | char c _ => [c]
  | code digits _ _ => '\\' :: 'u' :: ':' :: digits

end NamePart

structure Name where
  parts : List NamePart
  nonempty : parts ≠ []

namespace Name

def spelling (x : Name) : List Char :=
  x.parts.flatMap NamePart.spelling

def IsWord (x : Name) : Prop :=
  ∀ c ∈ x.spelling, Text.isWord c = true

instance (x : Name) : Decidable x.IsWord :=
  decidable_of_iff (x.spelling.all Text.isWord = true) List.all_eq_true

/-- What becomes of a placeholder in the route. -/
def routed (x : Name) : List Char :=
  if x.IsWord then ':' :: x.spelling else '{' :: (x.parts.flatMap NamePart.kept ++ ['}'])

/-- The parameters that are read in a name that is no word: the digits of each escape, and the word
characters that follow them. -/
def strays : List NamePart → List (List Char)
  | [] => []
  | .char _ _ :: rest => strays rest
  | .code digits _ _ :: rest =>
    (digits ++ (rest.flatMap NamePart.kept).takeWhile Text.isWord) :: strays rest

/-- The parameters that are read where the name stood. -/
def params (x : Name) : List (List Char) :=
  if x.IsWord then [x.spelling] else strays x.parts

end Name

def isLiteralChar (c : Char) : Bool :=
  c.isAlphanum || c == '_' || c == '-'

inductive PathSegment where
  | literal (s : List Char) (h : ∀ c ∈ s, isLiteralChar c = true)
  | name (x : Name)

namespace PathSegment

/-- The segment in a URL. -/
def shown : PathSegment → List Char
  | literal s _ => s
  | name x => '{' :: (x.spelling ++ ['}'])

/-- The segment in the route. -/
def routed : PathSegment → List Char
  | literal s _ => s
  | name x => x.routed

/-- The segment with its name as a parameter, whatever the name. -/
def colon : PathSegment → List Char
  | literal s _ => s
  | name x => ':' :: x.spelling

def params : PathSegment → List (List Char)
  | literal _ _ => []
  | name x => x.params

def names : PathSegment → List (List Char)
  | literal _ _ => []
  | name x => [x.spelling]

end PathSegment

/-- The segments of a path, each with a slash before it. -/
def pathOf {α : Type} (write : α → List Char) (path : List α) : List Char :=
  path.flatMap fun segment => '/' :: write segment

/-- The path `/api` and below it the segments, as they are written. -/
def apiPath (write : PathSegment → List Char) (segments : List PathSegment) : List Char :=
  "/api".toList ++ pathOf write segments

theorem isWord_of_isAlphanum {c : Char} (h : c.isAlphanum = true) : Text.isWord c = true := by
  simp [Text.isWord, h]

/-- Brackets, slashes, colons and backslashes are in no word. -/
theorem not_isWord : ∀ c ∈ ['{', '}', '/', ':', '\\'], Text.isWord c = false := by
  intro c hc
  simp only [List.mem_cons, List.not_mem_nil, or_false] at hc
  rcases hc with rfl | rfl | rfl | rfl | rfl <;> decide +kernel

section Braces

theorem braced?_of_ne {c : Char} (h : c ≠ '{') (rest : List Char) : braced? (c :: rest) = none := by
  unfold braced?
  split
  · next heq => exact absurd (List.cons.inj heq).1 h
  · rfl

theorem braced?_word {word : List Char} (hne : word ≠ []) (h : ∀ c ∈ word, Text.isWord c = true)
    (rest : List Char) : braced? ('{' :: (word ++ '}' :: rest)) = some word := by
  have hclose : Text.isWord '}' = false := not_isWord '}' (by decide)
  have htake : (word ++ '}' :: rest).takeWhile Text.isWord = word :=
    Text.takeWhile_append_of_head? h (by simp [hclose])
  have hdrop : (word ++ '}' :: rest).dropWhile Text.isWord = '}' :: rest := by
    rw [List.dropWhile_append_of_pos h, List.dropWhile_cons_of_neg (by simp [hclose])]
  simp [braced?, htake, hdrop, hne]

/-- Braces around something other than a word are no placeholder. -/
theorem braced?_of_head? {s : List Char} {c : Char} (hc : c ≠ '}')
    (h : (s.dropWhile Text.isWord).head? = some c) (rest : List Char) :
    braced? ('{' :: (s ++ rest)) = none := by
  have hdrop : (s ++ rest).dropWhile Text.isWord = s.dropWhile Text.isWord ++ rest := by
    rw [List.dropWhile_append, if_neg]
    intro hempty
    rw [List.isEmpty_iff.1 hempty] at h
    cases h
  simp [braced?, hdrop, h, hc]

theorem colons_append {s : List Char} (h : '{' ∉ s) (rest : List Char) :
    colons (s ++ rest) = s ++ colons rest := by
  induction s with
  | nil => rfl
  | cons c s ih =>
    rw [List.mem_cons, not_or] at h
    rw [List.cons_append, colons_plain (braced?_of_ne (Ne.symm h.1) _), ih h.2, List.cons_append]

end Braces

section Params

theorem paramsAfter_eq (skip : Nat) (s : List Char) :
    paramsAfter skip s = paramsAfter 0 (s.drop skip) := by
  induction s generalizing skip with
  | nil => simp [paramsAfter]
  | cons c rest ih =>
    cases skip with
    | zero => rfl
    | succ k => rw [paramsAfter, ih, List.drop_succ_cons]

theorem param?_eq_braced? {c : Char} (h : c ≠ ':') (rest : List Char) :
    param? (c :: rest) = (braced? (c :: rest)).map fun name => (name, name.length + 1) := by
  unfold param?
  split
  · next heq => exact absurd (List.cons.inj heq).1 h
  · rfl

theorem paramsAfter_plain {c : Char} {rest : List Char} (hc : c ≠ ':')
    (h : braced? (c :: rest) = none) : paramsAfter 0 (c :: rest) = paramsAfter 0 rest := by
  rw [paramsAfter, param?_eq_braced? hc, h]
  rfl

theorem paramsAfter_append {s : List Char} (h : ∀ c ∈ s, c ≠ ':' ∧ c ≠ '{') (rest : List Char) :
    paramsAfter 0 (s ++ rest) = paramsAfter 0 rest := by
  induction s with
  | nil => rfl
  | cons c s ih =>
    obtain ⟨hcolon, hbrace⟩ := h c List.mem_cons_self
    rw [List.cons_append, paramsAfter_plain hcolon (braced?_of_ne hbrace _)]
    exact ih fun d hd => h d (List.mem_cons_of_mem c hd)

theorem ne_of_isWord {c : Char} (h : Text.isWord c = true) : c ≠ ':' ∧ c ≠ '{' := by
  constructor
  · rintro rfl
    rw [not_isWord ':' (by decide)] at h
    cases h
  · rintro rfl
    rw [not_isWord '{' (by decide)] at h
    cases h

theorem param?_colon {s : List Char} (h : s.takeWhile Text.isWord ≠ []) :
    param? (':' :: s) = some (s.takeWhile Text.isWord, (s.takeWhile Text.isWord).length) := by
  simp [param?, h]

/-- A word after a colon is read, and there is nothing else in it. -/
theorem paramsAfter_colon {s : List Char} (h : s.takeWhile Text.isWord ≠ []) :
    paramsAfter 0 (':' :: s) = s.takeWhile Text.isWord :: paramsAfter 0 s := by
  have hskip : paramsAfter 0 s = paramsAfter 0 (s.dropWhile Text.isWord) := by
    nth_rewrite 1 [← List.takeWhile_append_dropWhile (p := Text.isWord) (l := s)]
    exact paramsAfter_append (fun c hc => ne_of_isWord (List.mem_takeWhile_imp hc)) _
  rw [paramsAfter, param?_colon h]
  simp only
  rw [paramsAfter_eq, Text.drop_length_takeWhile, ← hskip]

theorem paramsAfter_word {word rest : List Char} (hne : word ≠ [])
    (h : ∀ c ∈ word, Text.isWord c = true) (hrest : ∀ c ∈ rest.head?, Text.isWord c = false) :
    paramsAfter 0 (':' :: (word ++ rest)) = word :: paramsAfter 0 rest := by
  have htake : (word ++ rest).takeWhile Text.isWord = word :=
    Text.takeWhile_append_of_head? h hrest
  rw [paramsAfter_colon (by rw [htake]; exact hne), htake,
    paramsAfter_append (fun c hc => ne_of_isWord (h c hc))]

end Params

section Names

theorem ne_of_isNameChar {c : Char} (h : isNameChar c = true) :
    c ∉ ['{', '}', ':', '/', '?', '#'] := by
  simp only [List.mem_cons, List.not_mem_nil, or_false]
  rintro (rfl | rfl | rfl | rfl | rfl | rfl) <;> exact absurd h (by decide)

theorem ne_of_isLiteralChar {c : Char} (h : isLiteralChar c = true) :
    c ∉ ['{', '}', ':', '/', '?', '#'] := by
  simp only [List.mem_cons, List.not_mem_nil, or_false]
  rintro (rfl | rfl | rfl | rfl | rfl | rfl) <;> exact absurd h (by decide)

namespace NamePart

def isWord : NamePart → Bool
  | char c _ => Text.isWord c
  | code _ _ _ => false

theorem spelling_ne_nil (p : NamePart) : p.spelling ≠ [] := by
  cases p <;> simp [spelling]

theorem forall_isWord_iff (p : NamePart) :
    (∀ c ∈ p.spelling, Text.isWord c = true) ↔ p.isWord = true := by
  cases p with
  | char c h => simp [spelling, isWord]
  | code digits hne h =>
    have hslash : Text.isWord '\\' = false := not_isWord '\\' (by decide)
    simp [spelling, isWord, hslash]

end NamePart

namespace Name

theorem spelling_ne_nil (x : Name) : x.spelling ≠ [] := by
  obtain ⟨p, hp⟩ := List.exists_mem_of_ne_nil x.parts x.nonempty
  intro h
  exact p.spelling_ne_nil (List.flatMap_eq_nil_iff.1 h p hp)

theorem isWord_iff (x : Name) : x.IsWord ↔ ∀ p ∈ x.parts, p.isWord = true := by
  simp only [IsWord, spelling, List.mem_flatMap, ← NamePart.forall_isWord_iff]
  constructor
  · intro h p hp c hc
    exact h c ⟨p, hp, hc⟩
  · rintro h c ⟨p, hp, hc⟩
    exact h p hp c hc

/-- However the parts are written, as long as characters stay and escapes begin with a backslash:
what ends the first word is no brace. -/
theorem head?_dropWhile {f : NamePart → List Char} (hchar : ∀ c h, f (.char c h) = [c])
    (hcode : ∀ digits hne h, (f (.code digits hne h)).head? = some '\\') {parts : List NamePart}
    (h : ¬ ∀ p ∈ parts, p.isWord = true) :
    ∃ c, c ≠ '}' ∧ ((parts.flatMap f).dropWhile Text.isWord).head? = some c := by
  induction parts with
  | nil => simp at h
  | cons p parts ih =>
    rw [List.flatMap_cons]
    cases p with
    | char c hc =>
      rw [hchar, List.singleton_append]
      cases hword : Text.isWord c with
      | true =>
        rw [List.dropWhile_cons_of_pos hword]
        apply ih
        intro hall
        apply h
        simpa [NamePart.isWord, hword] using hall
      | false =>
        rw [List.dropWhile_cons_of_neg (by simp [hword])]
        refine ⟨c, ?_, rfl⟩
        rintro rfl
        exact ne_of_isNameChar hc (by decide)
    | code digits hne hd =>
      obtain ⟨tail, htail⟩ := List.head?_eq_some_iff.1 (hcode digits hne hd)
      rw [htail, List.cons_append, List.dropWhile_cons_of_neg (by simp [not_isWord])]
      exact ⟨'\\', by decide, rfl⟩

theorem colons_parts (parts : List NamePart) (rest : List Char) :
    colons (parts.flatMap NamePart.spelling ++ rest) =
      parts.flatMap NamePart.kept ++ colons rest := by
  induction parts with
  | nil => rfl
  | cons p parts ih =>
    rw [List.flatMap_cons, List.flatMap_cons, List.append_assoc, List.append_assoc]
    cases p with
    | char c h =>
      have hbrace : '{' ∉ [c] := by
        rw [List.mem_singleton]
        rintro rfl
        exact ne_of_isNameChar h (by decide)
      rw [NamePart.spelling, NamePart.kept, colons_append hbrace, ih]
    | code digits hne h =>
      have hescape : '{' ∉ ['\\', 'u'] := by decide
      have hword := braced?_word hne (fun d hd => isWord_of_isAlphanum (h d hd))
        (parts.flatMap NamePart.spelling ++ rest)
      have hcolons := colons_append hescape
        ('{' :: (digits ++ '}' :: (parts.flatMap NamePart.spelling ++ rest)))
      rw [colons_hole hword, ih] at hcolons
      simpa [NamePart.spelling, NamePart.kept] using hcolons

/-- A placeholder whose name is a word becomes a parameter; otherwise its braces stay. -/
theorem colons_braces (x : Name) (rest : List Char) :
    colons ('{' :: (x.spelling ++ ['}']) ++ rest) = x.routed ++ colons rest := by
  rw [List.cons_append, List.append_assoc, List.singleton_append, routed]
  split
  · next hword =>
    rw [colons_hole (braced?_word x.spelling_ne_nil hword rest), List.cons_append]
  · next hword =>
    obtain ⟨c, hc, hhead⟩ := head?_dropWhile (f := NamePart.spelling) (fun _ _ => rfl)
      (fun _ _ _ => rfl) (mt x.isWord_iff.2 hword)
    rw [spelling, colons_plain (braced?_of_head? hc hhead _), colons_parts,
      colons_plain (braced?_of_ne (by decide) _)]
    simp

theorem paramsAfter_parts (parts : List NamePart) (rest : List Char) :
    paramsAfter 0 (parts.flatMap NamePart.kept ++ '}' :: rest) =
      strays parts ++ paramsAfter 0 rest := by
  induction parts with
  | nil => exact paramsAfter_plain (by decide) (braced?_of_ne (by decide) _)
  | cons p parts ih =>
    rw [List.flatMap_cons, List.append_assoc]
    cases p with
    | char c h =>
      have hne := ne_of_isNameChar h
      rw [NamePart.kept, paramsAfter_append (by simp_all), ih, strays]
    | code digits hne h =>
      have hword : ∀ d ∈ digits, Text.isWord d = true := fun d hd => isWord_of_isAlphanum (h d hd)
      have htake : (digits ++ (parts.flatMap NamePart.kept ++ '}' :: rest)).takeWhile Text.isWord =
          digits ++ (parts.flatMap NamePart.kept).takeWhile Text.isWord := by
        have hclose : Text.isWord '}' = false := not_isWord '}' (by decide)
        rw [List.takeWhile_append_of_pos hword, Text.takeWhile_append_cons hclose]
      rw [NamePart.kept, List.cons_append, List.cons_append, List.cons_append,
        paramsAfter_plain (by decide) (braced?_of_ne (by decide) _),
        paramsAfter_plain (by decide) (braced?_of_ne (by decide) _),
        paramsAfter_colon (by rw [htake]; simp [hne]), htake,
        paramsAfter_append (fun d hd => ne_of_isWord (hword d hd)), ih, strays, List.cons_append]

/-- What is read where a placeholder stood, when no word follows it. -/
theorem paramsAfter_routed (x : Name) {rest : List Char}
    (hrest : ∀ c ∈ rest.head?, Text.isWord c = false) :
    paramsAfter 0 (x.routed ++ rest) = x.params ++ paramsAfter 0 rest := by
  rw [routed, params]
  split
  · next hword =>
    exact paramsAfter_word x.spelling_ne_nil hword hrest
  · next hword =>
    obtain ⟨c, hc, hhead⟩ := head?_dropWhile (f := NamePart.kept) (fun _ _ => rfl)
      (fun _ _ _ => rfl) (mt x.isWord_iff.2 hword)
    rw [List.cons_append, List.append_assoc, List.singleton_append,
      paramsAfter_plain (by decide) (braced?_of_head? hc hhead _), paramsAfter_parts]

end Name

end Names

section Segments

variable {α : Type}

theorem pathOf_cons (write : α → List Char) (segment : α) (path : List α) :
    pathOf write (segment :: path) = '/' :: (write segment ++ pathOf write path) :=
  rfl

/-- What follows a segment is nothing or a slash. -/
theorem pathOf_eq (write : α → List Char) (path : List α) :
    pathOf write path = [] ∨ ∃ rest, pathOf write path = '/' :: rest := by
  cases path with
  | nil => exact .inl rfl
  | cons segment path => exact .inr ⟨_, pathOf_cons write segment path⟩

/-- A path is rewritten segment by segment. -/
theorem colons_pathOf {shown routed : α → List Char}
    (h : ∀ segment rest, colons (shown segment ++ rest) = routed segment ++ colons rest)
    (path : List α) : colons (pathOf shown path) = pathOf routed path := by
  induction path with
  | nil => rfl
  | cons segment path ih =>
    rw [pathOf_cons, pathOf_cons, colons_plain (braced?_of_ne (by decide) _), h, ih]

/-- The parameters of a path are those of its segments, behind each of which no word follows. -/
theorem paramsAfter_pathOf {routed : α → List Char} {params : α → List (List Char)}
    (h : ∀ segment rest, (∀ c ∈ rest.head?, Text.isWord c = false) →
      paramsAfter 0 (routed segment ++ rest) = params segment ++ paramsAfter 0 rest)
    (path : List α) : paramsAfter 0 (pathOf routed path) = path.flatMap params := by
  induction path with
  | nil => rfl
  | cons segment path ih =>
    have hrest : ∀ c ∈ (pathOf routed path).head?, Text.isWord c = false := by
      rcases pathOf_eq routed path with hpath | ⟨rest, hpath⟩
      · simp [hpath]
      · simp [hpath, not_isWord]
    rw [pathOf_cons, paramsAfter_plain (by decide) (braced?_of_ne (by decide) _), h segment _ hrest,
      ih, List.flatMap_cons]

open PathSegment

theorem PathSegment.colons_shown (segment : PathSegment) (rest : List Char) :
    colons (segment.shown ++ rest) = segment.routed ++ colons rest := by
  cases segment with
  | literal s h =>
    exact colons_append (fun hmem => ne_of_isLiteralChar (h '{' hmem) (by decide)) rest
  | name x => exact x.colons_braces rest

theorem PathSegment.paramsAfter_routed (segment : PathSegment) (rest : List Char)
    (hrest : ∀ c ∈ rest.head?, Text.isWord c = false) :
    paramsAfter 0 (segment.routed ++ rest) = segment.params ++ paramsAfter 0 rest := by
  cases segment with
  | literal s h =>
    have hplain : ∀ c ∈ s, c ≠ ':' ∧ c ≠ '{' := by
      intro c hc
      have hne := ne_of_isLiteralChar (h c hc)
      simp_all
    exact paramsAfter_append hplain rest
  | name x => exact x.paramsAfter_routed hrest

/-- The segments are as wished exactly if all names are words. -/
theorem segments_eq_iff (segments : List PathSegment) :
    pathOf routed segments = pathOf colon segments ↔ ∀ x, .name x ∈ segments → x.IsWord := by
  induction segments with
  | nil => simp [pathOf]
  | cons segment segments ih =>
    rw [pathOf_cons, pathOf_cons]
    cases segment with
    | literal s h =>
      change '/' :: s ++ _ = '/' :: s ++ _ ↔ _
      rw [List.append_cancel_left_eq, ih]
      simp
    | name x =>
      change '/' :: x.routed ++ _ = '/' :: (':' :: x.spelling) ++ _ ↔ _
      rw [Name.routed]
      by_cases hword : x.IsWord
      · rw [if_pos hword, List.append_cancel_left_eq, ih]
        simp [hword]
      · simp [hword]

theorem flatMap_params {segments : List PathSegment} (h : ∀ x, .name x ∈ segments → x.IsWord) :
    segments.flatMap params = segments.flatMap names := by
  apply List.flatMap_congr
  intro segment hsegment
  cases segment with
  | literal s _ => rfl
  | name x => simp [params, names, Name.params, h x hsegment]

end Segments

section Paths

open PathSegment

theorem NamePart.ne_of_mem_spelling {p : NamePart} {c : Char} (hc : c ∈ p.spelling) :
    c ≠ '?' ∧ c ≠ '#' := by
  cases p with
  | char d h =>
    have hne := ne_of_isNameChar h
    rw [NamePart.spelling, List.mem_singleton] at hc
    simp_all
  | code digits hne h =>
    have hdigits : ∀ d ∈ digits, d ≠ '?' ∧ d ≠ '#' := by
      intro d hd
      have hname : isNameChar d = true := by simp [isNameChar, h d hd]
      have hne := ne_of_isNameChar hname
      simp_all
    simp only [NamePart.spelling, List.mem_cons, List.mem_append, List.not_mem_nil, or_false] at hc
    rcases hc with rfl | rfl | rfl | hc | rfl
    all_goals first | exact hdigits c hc | decide

theorem PathSegment.ne_of_mem_shown {segment : PathSegment} {c : Char} (hc : c ∈ segment.shown) :
    c ≠ '?' ∧ c ≠ '#' := by
  cases segment with
  | literal s h =>
    have hne := ne_of_isLiteralChar (h c hc)
    simp_all
  | name x =>
    simp only [shown, Name.spelling, List.mem_cons, List.mem_append, List.mem_flatMap,
      List.not_mem_nil, or_false] at hc
    rcases hc with rfl | ⟨p, -, hc⟩ | rfl
    · decide
    · exact NamePart.ne_of_mem_spelling hc
    · decide

theorem stripQuery_apiPath (segments : List PathSegment) :
    stripQuery (apiPath shown segments) = apiPath shown segments := by
  apply stripQuery_eq_self
  intro c hc
  simp only [apiPath, pathOf, List.mem_append, List.mem_flatMap, List.mem_cons] at hc
  rcases hc with hc | ⟨segment, -, rfl | hc⟩
  · have hmark : '?' ∉ "/api".toList ∧ '#' ∉ "/api".toList := by decide
    exact ⟨fun heq => hmark.1 (heq ▸ hc), fun heq => hmark.2 (heq ▸ hc)⟩
  · decide
  · exact PathSegment.ne_of_mem_shown hc

theorem isBlank_of_isLiteralChar {c : Char} (h : isLiteralChar c = true) :
    Text.isBlank c = false := by
  have hrange : 0x2D ≤ c.toNat ∧ c.toNat ≤ 0x7A := by
    delta isLiteralChar Char.isAlphanum Char.isAlpha Char.isUpper Char.isLower Char.isDigit at h
    simp only [Bool.or_eq_true, Bool.and_eq_true, decide_eq_true_eq, beq_iff_eq, ge_iff_le,
      UInt32.le_iff_toNat_le] at h
    rcases h with (((h | h) | h) | rfl) | rfl
    · exact ⟨Nat.le_trans (by decide) h.1, Nat.le_trans h.2 (by decide)⟩
    · exact ⟨Nat.le_trans (by decide) h.1, Nat.le_trans h.2 (by decide)⟩
    · exact ⟨Nat.le_trans (by decide) h.1, Nat.le_trans h.2 (by decide)⟩
    · decide
    · decide
  simp only [Text.isBlank, Text.Runs.has, Text.blankRuns, List.any_cons, List.any_nil]
  simp only [Bool.or_false, Bool.or_eq_false_iff, Bool.and_eq_false_iff, decide_eq_false_iff_not]
  omega

/-- A segment with its slash ends in something other than a blank. -/
theorem PathSegment.getLast?_shown (segment : PathSegment) :
    ∃ c, ('/' :: segment.shown).getLast? = some c ∧ Text.isBlank c = false := by
  cases segment with
  | literal s h =>
    rw [shown, List.getLast?_cons]
    cases hlast : s.getLast? with
    | none => exact ⟨'/', rfl, by decide⟩
    | some c =>
      exact ⟨c, rfl, isBlank_of_isLiteralChar (h c (List.mem_of_getLast? hlast))⟩
  | name x =>
    refine ⟨'}', ?_, by decide⟩
    rw [shown, ← List.cons_append, ← List.cons_append, List.getLast?_concat]

theorem getLast?_apiPath (segments : List PathSegment) :
    ∃ c, (apiPath shown segments).getLast? = some c ∧ Text.isBlank c = false := by
  rcases List.eq_nil_or_concat' segments with rfl | ⟨front, segment, rfl⟩
  · exact ⟨'i', by decide, by decide⟩
  · obtain ⟨c, hc, hblank⟩ := segment.getLast?_shown
    refine ⟨c, ?_, hblank⟩
    rw [apiPath, pathOf, List.flatMap_append, List.flatMap_singleton, ← List.append_assoc,
      List.getLast?_append, hc, Option.some_or]

theorem trim_apiPath (segments : List PathSegment) :
    Text.trim (apiPath shown segments) = apiPath shown segments := by
  obtain ⟨last, hlast, hblank⟩ := getLast?_apiPath segments
  apply Text.trim_eq_self
  · intro c hc
    rw [← Option.some.inj hc]
    decide
  · intro c hc
    rw [← Option.some.inj (hlast.symm.trans hc), hblank]

/-- The route of a path keeps its segments, but for the placeholders in it. -/
theorem ofUrlChars_apiPath (segments : List PathSegment) :
    ofUrlChars (apiPath shown segments) = apiPath routed segments := by
  have horigin : dropOrigin (apiPath shown segments) = apiPath shown segments := rfl
  have hbase : dropDynamicBase (apiPath shown segments) = apiPath shown segments := by
    rw [dropDynamicBase, show braced? (apiPath shown segments) = none from rfl]
    rfl
  have hcolons : colons (apiPath shown segments) = apiPath routed segments := by
    rw [apiPath, colons_append (by decide), colons_pathOf colons_shown, apiPath]
  rw [ofUrlChars, stripQuery_apiPath, trim_apiPath, horigin, hbase, hcolons]
  rfl

theorem paramsAfter_apiPath (segments : List PathSegment) :
    paramsAfter 0 (apiPath routed segments) = segments.flatMap params := by
  rw [apiPath, paramsAfter_append (by simp), paramsAfter_pathOf paramsAfter_routed]

theorem isApi_apiPath (write : PathSegment → List Char) {segments : List PathSegment}
    (h : segments ≠ []) : isApi (apiPath write segments) = true := by
  obtain ⟨segment, segments, rfl⟩ := List.exists_cons_of_ne_nil h
  rw [isApi, Text.occurs_iff]
  exact ⟨[], write segment ++ pathOf write segments, by simp [apiPath, pathOf_cons, apiMark]⟩

end Paths

end RouteCensus.Route
