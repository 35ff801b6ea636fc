import RouteCensus.Endpoint.Descriptor
import RouteCensus.Proofs.Text.Pieces

/-! # The mark of the backend in a route

A URL is admitted if the mark stands anywhere in its text.  The route keeps the
mark exactly if it stands in the path of the URL: before the query and the
fragment, and not as the host behind a scheme.  A path that begins with the mark
but for its first slash gets that slash in the route.
-/

namespace RouteCensus.Route

/-- The mark without its first slash. -/
def apiStem : List Char :=
  "api/".toList

theorem apiMark_eq : apiMark = '/' :: apiStem := by decide

/-- A letter, and then letters, digits and the marks that a scheme may have. -/
def IsScheme (s : List Char) : Prop :=
  ∃ c rest, s = c :: rest ∧ c.isAlpha = true ∧ ∀ d ∈ rest, isSchemeChar d = true

/-- The text ends with the first of the two slashes after a scheme, so that a host follows the
second one. -/
def LeadsToHost (front : List Char) : Prop :=
  ∃ scheme, IsScheme scheme ∧ front = scheme ++ [':', '/']

/-- The mark stands in the path of a URL. -/
inductive MarksPath (url : List Char) : Prop where
  | inside {front : List Char} (h : front ++ apiMark <+: url)
    (hpath : ∀ c ∈ front, c ≠ '?' ∧ c ≠ '#')
    (hhost : ¬ LeadsToHost (front.dropWhile Text.isBlank)) : MarksPath url
  | start {blanks : List Char} (h : blanks ++ apiStem <+: url)
    (hblanks : ∀ c ∈ blanks, Text.isBlank c = true) : MarksPath url

theorem mark_infix_withSlash_iff (s : List Char) :
    apiMark <:+: withSlash s ↔ apiMark <:+: s ∨ apiStem <+: s := by
  rw [withSlash]
  split
  · next h =>
    obtain ⟨rest, rfl⟩ := List.head?_eq_some_iff.1 (beq_iff_eq.1 h)
    have hno : ¬ apiStem <+: '/' :: rest :=
      fun h => absurd (List.cons_prefix_cons.1 h).1 (by decide)
    simp [hno]
  · rw [List.infix_cons_iff, apiMark_eq, List.cons_prefix_cons, or_comm]
    simp

theorem braced?_eq_some {s name : List Char} (h : braced? s = some name) :
    ∃ rest, s = '{' :: (name ++ '}' :: rest) ∧ ∀ c ∈ name, Text.isWord c = true := by
  unfold braced? at h
  split at h
  · next rest =>
    simp only at h
    split at h
    · cases h
    · split at h
      · next hclose =>
        obtain rfl := Option.some.inj h
        obtain ⟨tail, htail⟩ := List.head?_eq_some_iff.1 (beq_iff_eq.1 hclose)
        refine ⟨tail, ?_, fun c hc => List.mem_takeWhile_imp hc⟩
        rw [← htail, List.takeWhile_append_dropWhile]
      · cases h
  · cases h

theorem colonsAfter_eq (skip : Nat) (s : List Char) :
    colonsAfter skip s = colons (s.drop skip) := by
  induction s generalizing skip with
  | nil => simp [colonsAfter, colons]
  | cons c rest ih =>
    cases skip with
    | zero => rfl
    | succ k => rw [colonsAfter, ih, List.drop_succ_cons]

theorem afterBraces_eq (skip : Nat) (s : List Char) :
    afterBraces skip s = afterBraces 0 (s.drop skip) := by
  induction s generalizing skip with
  | nil => simp [afterBraces]
  | cons c rest ih =>
    cases skip with
    | zero => rfl
    | succ k => rw [afterBraces, ih, List.drop_succ_cons]

/-- Induction over a text from behind each placeholder, and from behind each other character. -/
theorem induction_braces {P : List Char → Prop} (nil : P [])
    (plain : ∀ c rest, braced? (c :: rest) = none → P rest → P (c :: rest))
    (hole : ∀ name rest, braced? ('{' :: (name ++ '}' :: rest)) = some name →
      (∀ c ∈ name, Text.isWord c = true) → P rest → P ('{' :: (name ++ '}' :: rest))) :
    ∀ s, P s
  | [] => nil
  | c :: rest => by
    cases hbraced : braced? (c :: rest) with
    | none => exact plain c rest hbraced (induction_braces nil plain hole rest)
    | some name =>
      obtain ⟨tail, hs, hname⟩ := braced?_eq_some hbraced
      have hlength := congrArg List.length hs
      rw [hs] at hbraced ⊢
      exact hole name tail hbraced hname (induction_braces nil plain hole tail)
termination_by s => s.length
decreasing_by
  · simp
  · simp only [List.length_cons, List.length_append] at hlength ⊢
    omega

theorem colons_plain {c : Char} {rest : List Char} (h : braced? (c :: rest) = none) :
    colons (c :: rest) = c :: colons rest := by
  rw [colons, colonsAfter, h]
  rfl

theorem colons_hole {name rest : List Char}
    (h : braced? ('{' :: (name ++ '}' :: rest)) = some name) :
    colons ('{' :: (name ++ '}' :: rest)) = ':' :: (name ++ colons rest) := by
  rw [colons, colonsAfter, h]
  simp [colonsAfter_eq]

theorem slash_not_mem_of_word {name : List Char} (h : ∀ c ∈ name, Text.isWord c = true) :
    '/' ∉ name :=
  fun hmem => absurd (h '/' hmem) (by decide +kernel)

/-- No text without braces and colons is touched at the start of a text. -/
theorem prefix_colons_iff {part : List Char} (hpart : ∀ c ∈ part, c ≠ '{' ∧ c ≠ ':')
    (s : List Char) : part <+: colons s ↔ part <+: s := by
  induction s using induction_braces generalizing part with
  | nil => rfl
  | plain c rest h ih =>
    rw [colons_plain h]
    cases part with
    | nil => simp
    | cons d part =>
      rw [List.cons_prefix_cons, List.cons_prefix_cons,
        ih fun e he => hpart e (List.mem_cons_of_mem d he)]
  | hole name rest h hname ih =>
    rw [colons_hole h]
    cases part with
    | nil => simp
    | cons d part =>
      have hd := hpart d List.mem_cons_self
      simp [List.cons_prefix_cons, hd]

theorem mark_infix_colons_iff (s : List Char) : apiMark <:+: colons s ↔ apiMark <:+: s := by
  induction s using induction_braces with
  | nil => rfl
  | plain c rest h ih =>
    have hplain : ∀ d ∈ apiMark, d ≠ '{' ∧ d ≠ ':' := by simp [apiMark]
    have hstart := prefix_colons_iff hplain (c :: rest)
    rw [colons_plain h] at hstart ⊢
    rw [List.infix_cons_iff, List.infix_cons_iff, ih, hstart]
  | hole name rest h hname ih =>
    have hslash := slash_not_mem_of_word hname
    have hcolon : '/' ∉ ':' :: name := by simp [hslash]
    have hbrace : '/' ∉ '{' :: (name ++ ['}']) := by simp [hslash]
    have hsplit : '{' :: (name ++ '}' :: rest) = '{' :: (name ++ ['}']) ++ rest := by simp
    rw [colons_hole h, hsplit, ← List.cons_append, apiMark_eq,
      Text.infix_append_iff_of_not_mem hcolon, Text.infix_append_iff_of_not_mem hbrace,
      ← apiMark_eq, ih]

theorem afterBraces_hole {name rest : List Char}
    (h : braced? ('{' :: (name ++ '}' :: rest)) = some name) :
    afterBraces 0 ('{' :: (name ++ '}' :: rest)) = afterBraces 0 rest := by
  rw [afterBraces, h]
  simp [afterBraces_eq (name.length + 1)]

theorem exists_append_afterBraces (s : List Char) :
    ∃ base, s = base ++ afterBraces 0 s ∧ '/' ∉ base := by
  induction s using induction_braces with
  | nil => exact ⟨[], rfl, by simp⟩
  | plain c rest h ih => exact ⟨[], by rw [afterBraces, h]; rfl, by simp⟩
  | hole name rest h hname ih =>
    obtain ⟨base, hbase, hslash⟩ := ih
    refine ⟨'{' :: (name ++ ['}']) ++ base, ?_, ?_⟩
    · rw [afterBraces_hole h, List.append_assoc, ← hbase]
      simp
    · simp [slash_not_mem_of_word hname, hslash]

theorem mark_infix_dropDynamicBase_iff (s : List Char) :
    apiMark <:+: dropDynamicBase s ↔ apiMark <:+: s := by
  rw [dropDynamicBase]
  split
  · obtain ⟨base, hbase, hslash⟩ := exists_append_afterBraces s
    nth_rewrite 2 [hbase]
    rw [apiMark_eq, Text.infix_append_iff_of_not_mem hslash]
  · rfl

theorem stem_prefix_dropDynamicBase_iff (s : List Char) :
    apiStem <+: dropDynamicBase s ↔ apiStem <+: s := by
  rw [dropDynamicBase]
  split
  · next h =>
    rw [Bool.and_eq_true, beq_iff_eq, Option.isSome_iff_exists] at h
    obtain ⟨⟨name, hname⟩, hslash⟩ := h
    obtain ⟨rest, hs, -⟩ := braced?_eq_some hname
    obtain ⟨tail, htail⟩ := List.head?_eq_some_iff.1 hslash
    rw [htail, hs]
    have hstem : apiStem = 'a' :: "pi/".toList := by decide
    simp [hstem, List.cons_prefix_cons]
  · rfl

theorem slash_not_mem_of_isScheme {scheme : List Char} (h : IsScheme scheme) : '/' ∉ scheme := by
  obtain ⟨c, rest, rfl, hc, hrest⟩ := h
  rw [List.mem_cons, not_or]
  constructor
  · rintro rfl
    exact absurd hc (by decide)
  · intro hmem
    exact absurd (hrest '/' hmem) (by decide)

theorem afterOrigin?_eq_some {s path : List Char} (h : afterOrigin? s = some path) :
    ∃ scheme host, IsScheme scheme ∧ s = scheme ++ ':' :: '/' :: '/' :: (host ++ path) ∧
      '/' ∉ host ∧ ∀ c ∈ path.head?, c = '/' := by
  unfold afterOrigin? at h
  split at h
  · next c rest =>
    split at h
    · next hc =>
      split at h
      · next host hhost =>
        obtain rfl := Option.some.inj h
        refine ⟨c :: rest.takeWhile isSchemeChar, host.takeWhile (· != '/'),
          ⟨c, _, rfl, hc, fun d hd => List.mem_takeWhile_imp hd⟩, ?_, ?_, ?_⟩
        · rw [List.takeWhile_append_dropWhile, List.cons_append, ← hhost,
            List.takeWhile_append_dropWhile]
        · intro hmem
          simpa using List.mem_takeWhile_imp hmem
        · intro d hd
          have hhead := List.head?_dropWhile_not (· != '/') host
          rw [Option.mem_def.1 hd] at hhead
          simpa using hhead
      · cases h
    · cases h
  · cases h

theorem afterOrigin?_scheme {scheme : List Char} (h : IsScheme scheme) (rest : List Char) :
    afterOrigin? (scheme ++ ':' :: '/' :: '/' :: rest) = some (rest.dropWhile (· != '/')) := by
  obtain ⟨c, name, rfl, hc, hname⟩ := h
  have hdrop : (name ++ ':' :: '/' :: '/' :: rest).dropWhile isSchemeChar =
      ':' :: '/' :: '/' :: rest := by
    rw [Text.dropWhile_append_cons (by decide), List.dropWhile_eq_nil_iff.2 hname]
    rfl
  simp [afterOrigin?, hc, hdrop]

/-- In a text without an origin no mark is a host. -/
theorem not_leadsToHost {s front : List Char} (horigin : afterOrigin? s = none)
    (h : front ++ apiMark <+: s) : ¬ LeadsToHost front := by
  obtain ⟨rest, rfl⟩ := h
  rintro ⟨scheme, hscheme, rfl⟩
  have hsome := afterOrigin?_scheme hscheme (apiStem ++ rest)
  have hsplit : scheme ++ [':', '/'] ++ apiMark ++ rest =
      scheme ++ ':' :: '/' :: '/' :: (apiStem ++ rest) := by simp [apiMark_eq]
  rw [← hsplit, horigin] at hsome
  cases hsome

section Origin

variable {scheme host path front : List Char}

theorem not_stem_prefix_of_isScheme (hscheme : IsScheme scheme) :
    ¬ apiStem <+: scheme ++ ':' :: '/' :: '/' :: (host ++ path) := by
  have hcolon : '/' ∉ scheme ++ [':'] := by simp [slash_not_mem_of_isScheme hscheme]
  have hstem : apiStem = "api".toList ++ '/' :: [] := by decide
  intro h
  rw [hstem, List.append_cons scheme] at h
  obtain ⟨behind, heq, -⟩ := Text.prefix_past hcolon h
  have hmem : ':' ∈ "api".toList := by rw [heq]; simp
  exact absurd hmem (by decide)

/-- A mark of the path is one of the whole text, and not the host. -/
theorem mark_past_origin (h : front ++ apiMark <+: path) :
    scheme ++ ':' :: '/' :: '/' :: (host ++ front) ++ apiMark <+:
        scheme ++ ':' :: '/' :: '/' :: (host ++ path) ∧
      ¬ LeadsToHost (scheme ++ ':' :: '/' :: '/' :: (host ++ front)) := by
  constructor
  · have heq : scheme ++ ':' :: '/' :: '/' :: (host ++ front) ++ apiMark =
        scheme ++ ':' :: '/' :: '/' :: (host ++ (front ++ apiMark)) := by simp
    rw [heq, List.prefix_append_right_inj]
    simp only [List.cons_prefix_cons, true_and, List.prefix_append_right_inj]
    exact h
  · -- There are two slashes before this mark, but only one before a host.
    rintro ⟨other, hother, heq⟩
    have hcount := congrArg (List.count '/') heq
    simp [List.count_eq_zero_of_not_mem (slash_not_mem_of_isScheme hother)] at hcount
    omega

/-- A mark of the whole text that is not the host is one of the path. -/
theorem mark_infix_path (hscheme : IsScheme scheme) (hhost : '/' ∉ host)
    (h : front ++ apiMark <+: scheme ++ ':' :: '/' :: '/' :: (host ++ path))
    (hfront : ¬ LeadsToHost front) : apiMark <:+: path := by
  have hcolon : '/' ∉ scheme ++ [':'] := by simp [slash_not_mem_of_isScheme hscheme]
  rw [apiMark_eq, List.append_cons scheme] at h
  obtain ⟨behind, rfl, hslashes⟩ := Text.prefix_past hcolon h
  -- The mark starts at neither slash of the origin: a slash follows the first one, and the host
  -- follows the second one.
  cases behind with
  | nil =>
    have hsecond := (List.cons_prefix_cons.1 hslashes).2
    exact absurd (List.cons_prefix_cons.1 hsecond).1 (by decide)
  | cons c behind =>
    obtain ⟨rfl, hsecond⟩ := List.cons_prefix_cons.1 hslashes
    cases behind with
    | nil => exact absurd ⟨scheme, hscheme, by simp⟩ hfront
    | cons c behind =>
      obtain ⟨rfl, hrest⟩ := List.cons_prefix_cons.1 hsecond
      obtain ⟨front, -, hmark⟩ := Text.prefix_past hhost hrest
      exact Text.infix_iff_exists_prefix.2 ⟨front, by rwa [apiMark_eq]⟩

end Origin

/-- Of the marks of a text, dropping its origin loses the one that is the host. -/
theorem mark_dropOrigin_iff (s : List Char) :
    apiMark <:+: dropOrigin s ∨ apiStem <+: dropOrigin s ↔
      (∃ front, front ++ apiMark <+: s ∧ ¬ LeadsToHost front) ∨ apiStem <+: s := by
  rw [dropOrigin, Text.infix_iff_exists_prefix]
  cases horigin : afterOrigin? s with
  | none =>
    rw [Option.getD_none]
    refine or_congr_left (exists_congr fun front => ?_)
    exact ⟨fun h => ⟨h, not_leadsToHost horigin h⟩, fun h => h.1⟩
  | some path =>
    obtain ⟨scheme, host, hscheme, rfl, hhost, hpath⟩ := afterOrigin?_eq_some horigin
    have hpathStem : ¬ apiStem <+: path := by
      rintro ⟨rest, rfl⟩
      exact absurd (hpath 'a' rfl) (by decide)
    rw [Option.getD_some, or_iff_left hpathStem, or_iff_left (not_stem_prefix_of_isScheme hscheme)]
    constructor
    · rintro ⟨front, h⟩
      exact ⟨_, mark_past_origin h⟩
    · rintro ⟨front, h, hfront⟩
      exact Text.infix_iff_exists_prefix.1 (mark_infix_path hscheme hhost h hfront)

theorem stripQuery_eq (url : List Char) :
    stripQuery url = url.takeWhile fun c => c != '#' && c != '?' := by
  rw [stripQuery, Text.before, Text.before, List.takeWhile_takeWhile]
  congr 1
  funext c
  simp [bne, beq_eq_decide]

theorem stripQuery_append {s tail : List Char} (hs : ∀ c ∈ s, c ≠ '?' ∧ c ≠ '#')
    (htail : ∀ c ∈ tail.head?, c = '?' ∨ c = '#') : stripQuery (s ++ tail) = s := by
  rw [stripQuery_eq]
  apply Text.takeWhile_append_of_head?
  · intro c hc
    simp [hs c hc]
  · intro c hc
    rcases htail c hc with rfl | rfl <;> rfl

theorem stripQuery_eq_self {s : List Char} (hs : ∀ c ∈ s, c ≠ '?' ∧ c ≠ '#') :
    stripQuery s = s := by
  have hnone : ∀ c ∈ ([] : List Char).head?, c = '?' ∨ c = '#' := by simp
  rw [← List.append_nil s, stripQuery_append hs hnone, List.append_nil]

theorem prefix_stripQuery_iff {part url : List Char} :
    part <+: stripQuery url ↔ part <+: url ∧ ∀ c ∈ part, c ≠ '?' ∧ c ≠ '#' := by
  rw [stripQuery_eq, Text.prefix_takeWhile_iff]
  simp [and_comm]

theorem mark_infix_ofUrlChars_iff (url : List Char) :
    apiMark <:+: ofUrlChars url ↔ MarksPath url := by
  have htrim (part front s : List Char) (hpart : part = apiMark ∨ part = apiStem) :
      front ++ part <+: Text.trim s ↔
        ∃ whole, whole.dropWhile Text.isBlank = front ∧ whole ++ part <+: s := by
    have hslash : Text.isBlank '/' = false := by decide
    rcases hpart with rfl | rfl
    · exact Text.prefix_trimBy_iff rfl rfl hslash hslash
    · have hletter : Text.isBlank 'a' = false := by decide
      exact Text.prefix_trimBy_iff rfl rfl hletter hslash
  rw [ofUrlChars, mark_infix_withSlash_iff, mark_infix_colons_iff, mark_infix_dropDynamicBase_iff,
    prefix_colons_iff (by simp [apiStem]), stem_prefix_dropDynamicBase_iff, mark_dropOrigin_iff]
  constructor
  · rintro (⟨front, h, hhost⟩ | h)
    · obtain ⟨whole, rfl, hwhole⟩ := (htrim apiMark front _ (.inl rfl)).1 h
      obtain ⟨hurl, hpath⟩ := prefix_stripQuery_iff.1 hwhole
      exact .inside hurl (fun c hc => hpath c (List.mem_append_left _ hc)) hhost
    · obtain ⟨blanks, hblanks, hurl⟩ := (htrim apiStem [] _ (.inr rfl)).1 h
      exact .start (prefix_stripQuery_iff.1 hurl).1 (List.dropWhile_eq_nil_iff.1 hblanks)
  · have hmark : ∀ c ∈ apiMark, c ≠ '?' ∧ c ≠ '#' := by simp [apiMark]
    have hstem : ∀ c ∈ apiStem, c ≠ '?' ∧ c ≠ '#' := by simp [apiStem]
    have hblank : ∀ c, Text.isBlank c = true → c ≠ '?' ∧ c ≠ '#' := by
      rintro c hc
      constructor <;> rintro rfl <;> exact absurd hc (by decide)
    rintro (⟨h, hpath, hhost⟩ | ⟨h, hblanks⟩)
    · have hstripped := prefix_stripQuery_iff.2 ⟨h, List.forall_mem_append.2 ⟨hpath, hmark⟩⟩
      exact .inl ⟨_, (htrim apiMark _ _ (.inl rfl)).2 ⟨_, rfl, hstripped⟩, hhost⟩
    · have hstripped := prefix_stripQuery_iff.2
        ⟨h, List.forall_mem_append.2 ⟨fun c hc => hblank c (hblanks c hc), hstem⟩⟩
      refine .inr ((htrim apiStem [] _ (.inr rfl)).2 ⟨_, ?_, hstripped⟩)
      exact List.dropWhile_eq_nil_iff.2 hblanks

end RouteCensus.Route

namespace RouteCensus.Observation

/-- The route of an endpoint has the mark exactly if the mark stands in the path of the URL. -/
theorem mark_infix_route_iff {call : Observation} {sourceFile : String} {e : Endpoint}
    (h : call.describe? sourceFile = some e) :
    Route.apiMark <:+: e.route.toList ↔ Route.MarksPath call.url.toList := by
  have hroute : e.route.toList = Route.ofUrlChars call.url.toList := by
    unfold describe? at h
    split at h
    · obtain ⟨method, -, rfl⟩ := Option.map_eq_some_iff.1 h
      simp [Route.ofUrl]
    · cases h
  rw [hroute, Route.mark_infix_ofUrlChars_iff]

/-- The mark as the host, in the path and in the query. -/
def thriceMarked : Observation where
  kind := .fetch
  method := "GET"
  url := " http://api/\x7bv\x7d/api/x?to=/api/"
  line := 1

theorem marksPath_thriceMarked :
    ∃ e, thriceMarked.describe? "a.ts" = some e ∧ e.route = "/:v/api/x" ∧
      Route.MarksPath thriceMarked.url.toList := by
  obtain ⟨e, he, hroute⟩ : ∃ e, thriceMarked.describe? "a.ts" = some e ∧ e.route = "/:v/api/x" :=
    ⟨_, rfl, by decide +kernel⟩
  refine ⟨e, he, hroute, (mark_infix_route_iff he).1 ?_⟩
  rw [hroute]
  decide

/-- The mark in a query admits a URL whose route does not have it. -/
theorem describe?_markInQuery :
    ∃ e, ({ kind := .fetch, method := "GET", url := "/search?next=/api/users", line := 1 } :
        Observation).describe? "" = some e ∧
      e.route = "/search" ∧ ¬ Route.apiMark <:+: e.route.toList := by
  refine ⟨_, rfl, by decide +kernel, by decide +kernel⟩

end RouteCensus.Observation
