import RouteCensus.Proofs.Route.Bases

/-! # Parameters before and after rewriting

A name in braces has an end of its own, a name after a colon ends where its word
ends.  So once a placeholder is rewritten, the characters of a word that follow it
belong to its name.  The parameters of a route are those of the path at the same
places, with their names extended in this way, and the two readings are the same
exactly if no placeholder is followed by a character of a word.
-/

namespace RouteCensus.Route

open Text (isWord)

/-- The parameters that stand in a text, each with the text behind it. -/
def paramPlaces (s : List Char) : List (List Char × List Char) :=
  s.tails.filterMap fun t => (param? t).map fun param => (param.1, t.drop (param.2 + 1))

/-- The name with the characters of a word that follow it. -/
def extended (place : List Char × List Char) : List Char :=
  place.1 ++ place.2.takeWhile isWord

/-- No placeholder is followed by a character of a word. -/
def Separated (s : List Char) : Prop :=
  ∀ word c, word ≠ [] → (∀ d ∈ word, isWord d = true) → isWord c = true →
    ¬ '{' :: (word ++ ['}', c]) <:+: s

section Reading

theorem takeWhile_dropWhile_isWord (s : List Char) :
    (s.dropWhile isWord).takeWhile isWord = [] := by
  have hhead := List.head?_dropWhile_not isWord s
  cases h : s.dropWhile isWord with
  | nil => rfl
  | cons c rest =>
    rw [h] at hhead
    exact List.takeWhile_cons_of_neg (by simpa using hhead)

theorem param?_hole {name rest : List Char}
    (h : braced? ('{' :: (name ++ '}' :: rest)) = some name) :
    param? ('{' :: (name ++ '}' :: rest)) = some (name, name.length + 1) := by
  rw [param?_eq_braced? (by decide), h]
  rfl

/-- Nothing is read at a character that neither opens a placeholder nor is the colon of a word. -/
theorem param?_eq_none {c : Char} {rest : List Char} (hbraced : braced? (c :: rest) = none)
    (hcolon : c = ':' → rest.takeWhile isWord = []) : param? (c :: rest) = none := by
  by_cases hc : c = ':'
  · rw [hc]
    simp [param?, hcolon hc]
  · rw [param?_eq_braced? hc, hbraced]
    rfl

/-- Induction over a text from behind each placeholder, each colon of a word and each other
character. -/
theorem induction_params {P : List Char → Prop} (nil : P [])
    (plain : ∀ c rest, braced? (c :: rest) = none → (c = ':' → rest.takeWhile isWord = []) →
      P rest → P (c :: rest))
    (colon : ∀ rest, rest.takeWhile isWord ≠ [] → P rest → P (':' :: rest))
    (hole : ∀ name rest, braced? ('{' :: (name ++ '}' :: rest)) = some name →
      (∀ c ∈ name, isWord c = true) → P rest → P ('{' :: (name ++ '}' :: rest)))
    (s : List Char) : P s := by
  induction s using induction_braces with
  | nil => exact nil
  | plain c rest h ih =>
    by_cases hword : c = ':' → rest.takeWhile isWord = []
    · exact plain c rest h hword ih
    · rw [Classical.not_imp] at hword
      obtain ⟨rfl, hword⟩ := hword
      exact colon rest hword ih
  | hole name rest h hname ih => exact hole name rest h hname ih

end Reading

section Places

theorem paramPlaces_plain {c : Char} {rest : List Char} (hbraced : braced? (c :: rest) = none)
    (hcolon : c = ':' → rest.takeWhile isWord = []) :
    paramPlaces (c :: rest) = paramPlaces rest := by
  have hnone := param?_eq_none hbraced hcolon
  rw [paramPlaces, List.tails_cons, List.filterMap_cons_none (by rw [hnone]; rfl), ← paramPlaces]

theorem paramPlaces_cons_of_some {c : Char} {rest name : List Char} {k : Nat}
    (h : param? (c :: rest) = some (name, k)) :
    paramPlaces (c :: rest) = (name, rest.drop k) :: paramPlaces rest := by
  rw [paramPlaces, List.tails_cons, List.filterMap_cons_some (by rw [h]; rfl), ← paramPlaces]
  rfl

theorem paramPlaces_append {s : List Char} (h : ∀ c ∈ s, c ≠ ':' ∧ c ≠ '{') (rest : List Char) :
    paramPlaces (s ++ rest) = paramPlaces rest := by
  induction s with
  | nil => rfl
  | cons c s ih =>
    obtain ⟨hcolon, hbrace⟩ := h c List.mem_cons_self
    rw [List.cons_append, paramPlaces_plain (braced?_of_ne hbrace _) fun heq => absurd heq hcolon]
    exact ih fun d hd => h d (List.mem_cons_of_mem c hd)

theorem paramPlaces_colon {rest : List Char} (h : rest.takeWhile isWord ≠ []) :
    paramPlaces (':' :: rest) =
      (rest.takeWhile isWord, rest.dropWhile isWord) :: paramPlaces rest := by
  rw [paramPlaces_cons_of_some (param?_colon h), Text.drop_length_takeWhile]

theorem paramPlaces_hole {name rest : List Char}
    (h : braced? ('{' :: (name ++ '}' :: rest)) = some name)
    (hname : ∀ c ∈ name, isWord c = true) :
    paramPlaces ('{' :: (name ++ '}' :: rest)) = (name, rest) :: paramPlaces rest := by
  have hplain : ∀ c ∈ name ++ ['}'], c ≠ ':' ∧ c ≠ '{' := by
    intro c hc
    rcases List.mem_append.1 hc with hc | hc
    · exact ne_of_isWord (hname c hc)
    · rw [List.mem_singleton.1 hc]
      decide
  rw [paramPlaces_cons_of_some (param?_hole h), List.append_cons, paramPlaces_append hplain]
  simp

/-- The parameters of a text are read at all their places. -/
theorem paramsAfter_eq_map (s : List Char) : paramsAfter 0 s = (paramPlaces s).map Prod.fst := by
  induction s using induction_params with
  | nil => rfl
  | plain c rest hbraced hcolon ih =>
    rw [paramPlaces_plain hbraced hcolon, paramsAfter, param?_eq_none hbraced hcolon, ← ih]
  | colon rest h ih => rw [paramPlaces_colon h, paramsAfter_colon h, List.map_cons, ih]
  | hole name rest h hname ih =>
    rw [paramPlaces_hole h hname, paramsAfter, param?_hole h, List.map_cons, ← ih]
    simp [paramsAfter_eq (name.length + 1)]

end Places

section Rewriting

/-- Rewriting begins at no character of a word. -/
theorem takeWhile_colons (s : List Char) : (colons s).takeWhile isWord = s.takeWhile isWord := by
  induction s using induction_braces with
  | nil => rfl
  | plain c rest h ih =>
    rw [colons_plain h]
    cases hc : isWord c with
    | true => rw [List.takeWhile_cons_of_pos hc, List.takeWhile_cons_of_pos hc, ih]
    | false =>
      rw [List.takeWhile_cons_of_neg (by simp [hc]), List.takeWhile_cons_of_neg (by simp [hc])]
  | hole name rest h hname ih =>
    have hcolon : isWord ':' = false := not_isWord ':' (by decide)
    have hopen : isWord '{' = false := not_isWord '{' (by decide)
    rw [colons_hole h, List.takeWhile_cons_of_neg (by simp [hcolon]),
      List.takeWhile_cons_of_neg (by simp [hopen])]

theorem braced?_of_unbraced {s : List Char} (h : Unbraced s) : braced? s = none := by
  cases hsome : braced? s with
  | none => rfl
  | some name =>
    obtain ⟨rest, rfl, hname⟩ := braced?_eq_some hsome
    exact absurd ⟨[], rest, by simp⟩ (h name (ne_nil_of_braced? hsome) hname)

/-- Rewriting a text keeps its parameters at their places, but lets their names run on. -/
theorem paramsAfter_colons (s : List Char) :
    paramsAfter 0 (colons s) = (paramPlaces s).map extended := by
  induction s using induction_params with
  | nil => rfl
  | plain c rest hbraced hcolon ih =>
    -- rewriting what follows makes no placeholder here, and no word behind a colon
    have hunbraced := unbraced_colons (c :: rest)
    rw [colons_plain hbraced] at hunbraced ⊢
    have hnone : param? (c :: colons rest) = none :=
      param?_eq_none (braced?_of_unbraced hunbraced)
        fun heq => (takeWhile_colons rest).trans (hcolon heq)
    rw [paramPlaces_plain hbraced hcolon, paramsAfter, hnone, ← ih]
  | colon rest h ih =>
    rw [colons_plain (braced?_of_ne (by decide) _), paramsAfter_colon (by rwa [takeWhile_colons]),
      takeWhile_colons, ih, paramPlaces_colon h, List.map_cons, extended,
      takeWhile_dropWhile_isWord, List.append_nil]
  | hole name rest h hname ih =>
    -- the closing brace is gone, so the word goes on behind the name
    have htake : (name ++ colons rest).takeWhile isWord = extended (name, rest) := by
      rw [List.takeWhile_append_of_pos hname, takeWhile_colons, extended]
    have hne : extended (name, rest) ≠ [] :=
      List.append_ne_nil_of_left_ne_nil (ne_nil_of_braced? h) _
    rw [colons_hole h, paramsAfter_colon (by rwa [htake]), htake,
      paramsAfter_append (fun c hc => ne_of_isWord (hname c hc)), ih, paramPlaces_hole h hname,
      List.map_cons]

end Rewriting

section Blanks

variable {blanks : List Char}

theorem takeWhile_append_blanks (h : ∀ c ∈ blanks, Text.isBlank c = true) (s : List Char) :
    (s ++ blanks).takeWhile isWord = s.takeWhile isWord := by
  cases blanks with
  | nil => rw [List.append_nil]
  | cons c blanks =>
    apply Text.takeWhile_append_cons
    have hc := h c List.mem_cons_self
    rw [Bool.eq_false_iff]
    intro hword
    rw [Text.isBlank_of_isWord hword] at hc
    cases hc

theorem braced?_append_blanks (h : ∀ c ∈ blanks, Text.isBlank c = true) (s : List Char) :
    braced? ('{' :: (s ++ blanks)) = braced? ('{' :: s) := by
  have hclose : ((s ++ blanks).dropWhile isWord).head? = some '}' ↔
      (s.dropWhile isWord).head? = some '}' := by
    rw [List.dropWhile_append]
    split
    · next hempty =>
      rw [List.isEmpty_iff.1 hempty]
      refine ⟨fun hhead => ?_, fun hhead => by cases hhead⟩
      have hmem := (List.dropWhile_suffix isWord).mem (List.mem_of_head? hhead)
      exact absurd (h _ hmem) (by decide)
    · next hempty =>
      rw [List.head?_append_of_ne_nil _ (by simpa using hempty)]
  simp [braced?, takeWhile_append_blanks h, hclose]

/-- Blanks at the end of a text do not count for its parameters. -/
theorem map_extended_append_blanks (h : ∀ c ∈ blanks, Text.isBlank c = true) (s : List Char) :
    (paramPlaces (s ++ blanks)).map extended = (paramPlaces s).map extended := by
  induction s using induction_params with
  | nil =>
    have hplain : ∀ c ∈ blanks, c ≠ ':' ∧ c ≠ '{' := by
      intro c hc
      have hblank := h c hc
      constructor <;> rintro rfl <;> exact absurd hblank (by decide)
    rw [List.nil_append, ← List.append_nil blanks, paramPlaces_append hplain]
  | plain c rest hbraced hcolon ih =>
    have hbraced' : braced? (c :: (rest ++ blanks)) = none := by
      by_cases hc : c = '{'
      · rw [hc, braced?_append_blanks h, ← hc, hbraced]
      · exact braced?_of_ne hc _
    rw [List.cons_append, paramPlaces_plain hbraced' (by rwa [takeWhile_append_blanks h]), ih,
      paramPlaces_plain hbraced hcolon]
  | colon rest hword ih =>
    rw [List.cons_append, paramPlaces_colon (by rwa [takeWhile_append_blanks h]),
      paramPlaces_colon hword, List.map_cons, List.map_cons, ih, extended, extended,
      takeWhile_dropWhile_isWord, takeWhile_dropWhile_isWord, takeWhile_append_blanks h]
  | hole name rest hbraced hname ih =>
    have hword := braced?_word (ne_nil_of_braced? hbraced) hname (rest ++ blanks)
    rw [List.cons_append, List.append_assoc, List.cons_append, paramPlaces_hole hword hname,
      paramPlaces_hole hbraced hname, List.map_cons, List.map_cons, ih, extended, extended,
      takeWhile_append_blanks h]

end Blanks

section Separation

theorem param?_eq_some {t name : List Char} {k : Nat} (h : param? t = some (name, k)) :
    name ≠ [] ∧ (∀ c ∈ name, isWord c = true) ∧
      ((∃ rest, t = '{' :: (name ++ '}' :: rest) ∧ k = name.length + 1) ∨
        ∃ rest, t = ':' :: (name ++ rest) ∧ k = name.length ∧ rest.takeWhile isWord = []) := by
  unfold param? at h
  split at h
  · next rest =>
    simp only at h
    split at h
    · cases h
    · next hne =>
      obtain ⟨rfl, rfl⟩ := Prod.mk.inj (Option.some.inj h)
      refine ⟨by simpa using hne, fun c hc => List.mem_takeWhile_imp hc, .inr ?_⟩
      exact ⟨rest.dropWhile isWord, by rw [List.takeWhile_append_dropWhile], rfl,
        takeWhile_dropWhile_isWord rest⟩
  · obtain ⟨word, hword, heq⟩ := Option.map_eq_some_iff.1 h
    obtain ⟨rfl, rfl⟩ := Prod.mk.inj heq
    obtain ⟨rest, rfl, hname⟩ := braced?_eq_some hword
    exact ⟨ne_nil_of_braced? hword, hname, .inl ⟨rest, rfl, rfl⟩⟩

/-- The places of parameters: behind a name in braces, and behind the whole word after a colon. -/
theorem mem_paramPlaces_iff {s name rest : List Char} :
    (name, rest) ∈ paramPlaces s ↔
      name ≠ [] ∧ (∀ c ∈ name, isWord c = true) ∧
        ('{' :: (name ++ '}' :: rest) <:+ s ∨
          ':' :: (name ++ rest) <:+ s ∧ rest.takeWhile isWord = []) := by
  simp only [paramPlaces, List.mem_filterMap, List.mem_tails, Option.map_eq_some_iff]
  constructor
  · rintro ⟨t, ht, ⟨word, k⟩, hparam, heq⟩
    obtain ⟨rfl, rfl⟩ := Prod.mk.inj heq
    obtain ⟨hne, hword, ⟨rest, rfl, rfl⟩ | ⟨rest, rfl, rfl, hrest⟩⟩ := param?_eq_some hparam
    · exact ⟨hne, hword, .inl (by simpa using ht)⟩
    · exact ⟨hne, hword, .inr ⟨by simpa using ht, by simpa using hrest⟩⟩
  · rintro ⟨hne, hword, ht | ⟨ht, hrest⟩⟩
    · exact ⟨_, ht, _, param?_hole (braced?_word hne hword rest), by simp⟩
    · have htake : (name ++ rest).takeWhile isWord = name := by
        rw [List.takeWhile_append_of_pos hword, hrest, List.append_nil]
      exact ⟨_, ht, _, param?_colon (by rwa [htake]), by simp [htake]⟩

theorem separated_iff {s : List Char} :
    Separated s ↔ ∀ place ∈ paramPlaces s, place.2.takeWhile isWord = [] := by
  constructor
  · rintro h ⟨name, rest⟩ hplace
    obtain ⟨hne, hword, hsuffix | ⟨-, hrest⟩⟩ := mem_paramPlaces_iff.1 hplace
    · cases hhead : rest with
      | nil => rfl
      | cons c tail =>
        apply List.takeWhile_cons_of_neg
        intro hc
        apply h name c hne hword hc
        refine List.IsInfix.trans ?_ hsuffix.isInfix
        exact ⟨[], tail, by simp [hhead]⟩
    · exact hrest
  · rintro h word c hne hword hc ⟨front, tail, rfl⟩
    have hplace : (word, c :: tail) ∈ paramPlaces (front ++ '{' :: (word ++ ['}', c]) ++ tail) :=
      mem_paramPlaces_iff.2 ⟨hne, hword, .inl ⟨front, by simp⟩⟩
    have hnone := h _ hplace
    rw [List.takeWhile_cons_of_pos hc] at hnone
    cases hnone

instance (s : List Char) : Decidable (Separated s) :=
  decidable_of_iff ((paramPlaces s).all (fun place => (place.2.takeWhile isWord).isEmpty) = true)
    (by simp only [separated_iff, List.all_eq_true, List.isEmpty_iff])

end Separation

/-- The parameters of the route of a path, place by place. -/
theorem paramsAfter_ofUrl {path : String} (hpath : IsPath path.toList) :
    paramsAfter 0 (ofUrl path).toList = (paramPlaces path.toList).map extended := by
  obtain ⟨rest, hrest⟩ := List.head?_eq_some_iff.1 hpath.slash
  have hcut : cutPath path.toList = '/' :: rest.rdropWhile Text.isBlank := by
    have hself := isUrlOf_self path.toList
    rw [hrest] at hpath hself ⊢
    exact cutPath_of_isUrlOf hpath hself
  have hslash (s : List Char) : withSlash (colons ('/' :: s)) = colons ('/' :: s) := by
    rw [colons_plain (braced?_of_ne (by decide) _)]
    rfl
  have hsplit : path.toList =
      '/' :: rest.rdropWhile Text.isBlank ++ rest.rtakeWhile Text.isBlank := by
    rw [hrest, List.cons_append, List.rdropWhile_append_rtakeWhile]
  rw [ofUrl, String.toList_ofList, ofUrlChars_eq, hcut, hslash, paramsAfter_colons, hsplit,
    map_extended_append_blanks fun c hc => List.mem_rtakeWhile_imp hc]

/-- The parameters of the route of a path are those of the path, each with the characters of a word
that follow it.  Place by place they are the same exactly if no placeholder is followed by such a
character, and then the two lists of names are the same. -/
theorem pathParams_ofUrl {path : String} (hpath : IsPath path.toList) :
    pathParams (ofUrl path) =
        Text.distinct ((paramPlaces path.toList).map fun place => String.ofList (extended place)) ∧
      (paramsAfter 0 (ofUrl path).toList = paramsAfter 0 path.toList ↔ Separated path.toList) ∧
      (Separated path.toList → pathParams (ofUrl path) = pathParams path) := by
  have hplaces : paramsAfter 0 (ofUrl path).toList = paramsAfter 0 path.toList ↔
      Separated path.toList := by
    rw [paramsAfter_ofUrl hpath, paramsAfter_eq_map, List.map_inj_left, separated_iff]
    simp [extended]
  refine ⟨?_, hplaces, ?_⟩
  · rw [pathParams, paramsAfter_ofUrl hpath, List.map_map]
    rfl
  · intro hseparated
    rw [pathParams, pathParams, hplaces.2 hseparated]

theorem pathParams_separatedPath :
    pathParams (ofUrl "/api/:a\x7bb\x7d/\x7b\x7bc\x7d-d\x7d/\x7ba\x7d: ") = ["a", "b", "c"] ∧
      pathParams (ofUrl "/api/:a\x7bb\x7d/\x7b\x7bc\x7d-d\x7d/\x7ba\x7d: ") =
        pathParams "/api/:a\x7bb\x7d/\x7b\x7bc\x7d-d\x7d/\x7ba\x7d: " := by
  have hpath : IsPath "/api/:a\x7bb\x7d/\x7b\x7bc\x7d-d\x7d/\x7ba\x7d: ".toList :=
    ⟨rfl, by simp⟩
  exact ⟨by decide +kernel, (pathParams_ofUrl hpath).2.2 (by decide +kernel)⟩

/-- A placeholder before a letter is renamed, and merged with the one of its new name. -/
theorem pathParams_runningOn :
    IsPath "/api/\x7bid\x7dx/\x7bidx\x7d".toList ∧
      pathParams (ofUrl "/api/\x7bid\x7dx/\x7bidx\x7d") = ["idx"] ∧
      pathParams "/api/\x7bid\x7dx/\x7bidx\x7d" = ["id", "idx"] :=
  ⟨⟨rfl, by simp⟩, by decide +kernel, by decide +kernel⟩

end RouteCensus.Route
