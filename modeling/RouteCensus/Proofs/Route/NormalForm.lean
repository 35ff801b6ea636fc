import RouteCensus.Proofs.Route.Placeholders

/-! # The normal form of routes

A route starts with a slash, has no query, no fragment and no placeholder, and
does not end in a blank.  Every URL leads to a text of this form, and the texts of
this form are exactly those that lead to themselves: no step of the way from a URL
to its route undoes what an earlier one did.
-/

namespace RouteCensus

namespace Text

/-- Whether two tables of runs have no code point in common. -/
def Runs.apart (a b : Runs) : Bool :=
  a.all fun r => b.all fun s => Nat.blt r.2 s.1 || Nat.blt s.2 r.1

theorem Runs.not_has_of_apart {a b : Runs} (h : a.apart b = true) {c : Char}
    (hc : a.has c = true) : b.has c = false := by
  rw [Bool.eq_false_iff]
  intro hb
  obtain ⟨r, hr, hin⟩ := List.any_eq_true.1 hc
  obtain ⟨s, hs, hin'⟩ := List.any_eq_true.1 hb
  have hapart := List.all_eq_true.1 (List.all_eq_true.1 h r hr) s hs
  simp only [Bool.or_eq_true, Bool.and_eq_true, decide_eq_true_eq, Nat.blt_eq] at hin hin' hapart
  omega

theorem apart_wordRuns : wordRuns.apart blankRuns = true := by
  decide +kernel

theorem isBlank_of_isWord {c : Char} (h : isWord c = true) : isBlank c = false := by
  rw [isWord, Bool.or_eq_true] at h
  rcases h with hascii | htable
  · exact Route.isBlank_of_isLiteralChar (by rw [Route.isLiteralChar, hascii, Bool.true_or])
  · exact Runs.not_has_of_apart apart_wordRuns htable

end Text

namespace Route

open Text (isWord EndsPlain)

/-- No word in braces stands in the text. -/
def Unbraced (s : List Char) : Prop :=
  ∀ word, word ≠ [] → (∀ c ∈ word, isWord c = true) → ¬ '{' :: (word ++ ['}']) <:+: s

/-- The form of a route. -/
structure IsNormal (s : List Char) : Prop where
  slash : s.head? = some '/'
  noQuery : '?' ∉ s
  noFragment : '#' ∉ s
  unbraced : Unbraced s
  endsPlain : EndsPlain s

theorem Unbraced.of_infix {s t : List Char} (hs : Unbraced s) (h : t <:+: s) : Unbraced t :=
  fun word hne hword hin => hs word hne hword (hin.trans h)

theorem Unbraced.cons {s : List Char} (hs : Unbraced s) {c : Char} (hc : c ≠ '{') :
    Unbraced (c :: s) := by
  intro word hne hword hin
  rcases List.infix_cons_iff.1 hin with hstart | hrest
  · exact hc (List.cons_prefix_cons.1 hstart).1.symm
  · exact hs word hne hword hrest

section Colons

theorem ne_nil_of_braced? {s name : List Char} (h : braced? s = some name) : name ≠ [] := by
  unfold braced? at h
  split at h
  · simp only at h
    split at h
    · cases h
    · next hne =>
      split at h
      · obtain rfl := Option.some.inj h
        simpa using hne
      · cases h
  · cases h

/-- A text without placeholders is left as it is. -/
theorem colons_eq_self {s : List Char} (hs : Unbraced s) : colons s = s := by
  induction s using induction_braces with
  | nil => rfl
  | plain c rest h ih =>
    rw [colons_plain h, ih (hs.of_infix (List.suffix_cons c rest).isInfix)]
  | hole name rest h hname ih =>
    exact absurd ⟨[], rest, by simp⟩ (hs name (ne_nil_of_braced? h) hname)

/-- Writing placeholders as parameters makes no new ones: what is put in has no brace and no
character of a word before its colon. -/
theorem unbraced_colons (s : List Char) : Unbraced (colons s) := by
  induction s using induction_braces with
  | nil =>
    intro word hne hword hin
    exact absurd (List.infix_nil.1 hin) (List.cons_ne_nil _ _)
  | plain c rest h ih =>
    rw [colons_plain h]
    intro word hne hword hin
    rcases List.infix_cons_iff.1 hin with hstart | hrest
    · -- a placeholder that starts here was there before
      obtain ⟨rfl, hclose⟩ := List.cons_prefix_cons.1 hstart
      have hplain : ∀ d ∈ word ++ ['}'], d ≠ '{' ∧ d ≠ ':' := by
        intro d hd
        rcases List.mem_append.1 hd with hd | hd
        · exact (ne_of_isWord (hword d hd)).symm
        · rw [List.mem_singleton.1 hd]
          decide
      obtain ⟨tail, rfl⟩ := (prefix_colons_iff hplain rest).1 hclose
      rw [List.append_assoc, List.singleton_append, braced?_word hne hword] at h
      cases h
    · exact ih word hne hword hrest
  | hole name rest h hname ih =>
    have hbrace : '{' ∉ ':' :: name := by
      rw [List.mem_cons, not_or]
      exact ⟨by decide, fun hmem => (ne_of_isWord (hname '{' hmem)).2 rfl⟩
    rw [colons_hole h, ← List.cons_append]
    intro word hne hword hin
    exact ih word hne hword ((Text.infix_append_iff_of_not_mem hbrace).1 hin)

theorem mem_of_mem_colons {c : Char} {s : List Char} (hc : c ∈ colons s) : c ∈ s ∨ c = ':' := by
  induction s using induction_braces with
  | nil => exact .inl hc
  | plain d rest h ih =>
    rw [colons_plain h] at hc
    rcases List.mem_cons.1 hc with rfl | hc
    · exact .inl List.mem_cons_self
    · exact (ih hc).imp_left (List.mem_cons_of_mem d)
  | hole name rest h hname ih =>
    rw [colons_hole h] at hc
    rcases List.mem_cons.1 hc with rfl | hc
    · exact .inr rfl
    · rcases List.mem_append.1 hc with hc | hc
      · exact .inl (by simp [hc])
      · exact (ih hc).imp_left fun hmem => by simp [hmem]

theorem colons_eq_nil {s : List Char} (h : colons s = []) : s = [] := by
  cases s using induction_braces with
  | nil => rfl
  | plain c rest hnone =>
    rw [colons_plain hnone] at h
    cases h
  | hole name rest hsome =>
    rw [colons_hole hsome] at h
    cases h

theorem endsPlain_colons {s : List Char} (hs : EndsPlain s) : EndsPlain (colons s) := by
  induction s using induction_braces with
  | nil => exact hs
  | plain c rest h ih =>
    rw [colons_plain h, ← List.singleton_append, Text.endsPlain_append_iff]
    rw [← List.singleton_append, Text.endsPlain_append_iff] at hs
    exact ⟨ih hs.1, fun hnil => hs.2 (colons_eq_nil hnil)⟩
  | hole name rest h hname ih =>
    have hsplit : '{' :: (name ++ '}' :: rest) = '{' :: (name ++ ['}']) ++ rest := by simp
    rw [hsplit, Text.endsPlain_append_iff] at hs
    rw [colons_hole h, ← List.cons_append, Text.endsPlain_append_iff]
    refine ⟨ih hs.1, fun _ c hc => ?_⟩
    rcases List.mem_cons.1 (List.mem_of_getLast? hc) with rfl | hc
    · decide
    · exact Text.isBlank_of_isWord (hname c hc)

end Colons

section Cuts

theorem dropOrigin_suffix (s : List Char) : dropOrigin s <:+ s := by
  rw [dropOrigin]
  cases h : afterOrigin? s with
  | none => exact List.suffix_refl s
  | some path =>
    obtain ⟨scheme, host, -, rfl, -⟩ := afterOrigin?_eq_some h
    exact ⟨scheme ++ ':' :: '/' :: '/' :: host, by simp⟩

theorem dropDynamicBase_suffix (s : List Char) : dropDynamicBase s <:+ s := by
  rw [dropDynamicBase]
  split
  · obtain ⟨base, hbase, -⟩ := exists_append_afterBraces s
    exact ⟨base, hbase.symm⟩
  · exact List.suffix_refl s

theorem not_mem_stripQuery (url : List Char) : '?' ∉ stripQuery url ∧ '#' ∉ stripQuery url := by
  rw [stripQuery_eq]
  constructor <;> intro hmem <;> simpa using List.mem_takeWhile_imp hmem

/-- The text between the cuts that are made before placeholders are looked at. -/
def cutPath (url : List Char) : List Char :=
  dropDynamicBase (dropOrigin (Text.trim (stripQuery url)))

theorem cutPath_suffix (url : List Char) : cutPath url <:+ Text.trim (stripQuery url) :=
  (dropDynamicBase_suffix _).trans (dropOrigin_suffix _)

theorem ofUrlChars_eq (url : List Char) : ofUrlChars url = withSlash (colons (cutPath url)) :=
  rfl

end Cuts

theorem isNormal_withSlash {s : List Char} (hquery : '?' ∉ s) (hfragment : '#' ∉ s)
    (hunbraced : Unbraced s) (hends : EndsPlain s) : IsNormal (withSlash s) := by
  rw [withSlash]
  split
  · next hslash => exact ⟨beq_iff_eq.1 hslash, hquery, hfragment, hunbraced, hends⟩
  · refine ⟨rfl, by simpa using hquery, by simpa using hfragment, hunbraced.cons (by decide), ?_⟩
    rw [← List.singleton_append, Text.endsPlain_append_iff]
    exact ⟨hends, fun _ c hc => by rw [← Option.some.inj hc]; decide⟩

theorem isNormal_ofUrlChars (url : List Char) : IsNormal (ofUrlChars url) := by
  have hin : cutPath url <:+: stripQuery url := (cutPath_suffix url).isInfix.trans (Text.trim_infix _)
  have hkept : ∀ c, c ≠ ':' → c ∉ stripQuery url → c ∉ colons (cutPath url) := by
    intro c hne hc hmem
    exact hc (hin.subset ((mem_of_mem_colons hmem).resolve_right hne))
  obtain ⟨hquery, hfragment⟩ := not_mem_stripQuery url
  rw [ofUrlChars_eq]
  exact isNormal_withSlash (hkept '?' (by decide) hquery) (hkept '#' (by decide) hfragment)
    (unbraced_colons _)
    (endsPlain_colons ((Text.endsPlain_trim _).of_suffix (cutPath_suffix url)))

/-- Each step leaves a text of this form alone. -/
theorem IsNormal.ofUrlChars_eq_self {s : List Char} (h : IsNormal s) : ofUrlChars s = s := by
  obtain ⟨rest, rfl⟩ := List.head?_eq_some_iff.1 h.slash
  have hstrip : stripQuery ('/' :: rest) = '/' :: rest := by
    apply stripQuery_eq_self
    intro c hc
    exact ⟨fun heq => h.noQuery (heq ▸ hc), fun heq => h.noFragment (heq ▸ hc)⟩
  have htrim : Text.trim ('/' :: rest) = '/' :: rest :=
    Text.trim_eq_self (fun c hc => by rw [← Option.some.inj hc]; decide) h.endsPlain
  have horigin : dropOrigin ('/' :: rest) = '/' :: rest := rfl
  have hbase : dropDynamicBase ('/' :: rest) = '/' :: rest := rfl
  rw [ofUrlChars, hstrip, htrim, horigin, hbase, colons_eq_self h.unbraced]
  rfl

/-- The route of any URL has the form of a route and is its own route.  A text is its own route
exactly if it has this form. -/
theorem ofUrl_isNormal (url : String) :
    IsNormal (ofUrl url).toList ∧ ofUrl (ofUrl url) = ofUrl url ∧
      (ofUrl url = url ↔ IsNormal url.toList) := by
  have hnormal : IsNormal (ofUrl url).toList := by
    rw [ofUrl, String.toList_ofList]
    exact isNormal_ofUrlChars url.toList
  have hself (s : String) (hs : IsNormal s.toList) : ofUrl s = s := by
    rw [ofUrl, hs.ofUrlChars_eq_self, String.ofList_toList]
  exact ⟨hnormal, hself _ hnormal, fun h => h ▸ hnormal, hself url⟩

end Route

end RouteCensus
