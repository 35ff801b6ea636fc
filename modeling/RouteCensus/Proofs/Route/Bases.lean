import RouteCensus.Proofs.Endpoint.Description
import RouteCensus.Proofs.Endpoint.Union
import RouteCensus.Proofs.Route.NormalForm

/-! # Bases of URLs

One path is written in many ways: by itself, behind an origin or behind placeholders
for a base, after blanks, and with a query or a fragment at its end.  All of these
have the same route.  So calls of one method that differ in nothing else have one
key, and only the first of them is kept.
-/

namespace RouteCensus

namespace Route

/-- What may stand before a path. -/
inductive IsBase : List Char → Prop where
  | none : IsBase []
  | origin {scheme host : List Char} (hscheme : IsScheme scheme)
    (hhost : ∀ c ∈ host, c ≠ '/' ∧ c ≠ '?' ∧ c ≠ '#') :
    IsBase (scheme ++ ':' :: '/' :: '/' :: host)
  | placeholders {names : List (List Char)} (hne : names ≠ [])
    (hnames : ∀ name ∈ names, name ≠ [] ∧ ∀ c ∈ name, Text.isWord c = true) :
    IsBase (names.flatMap fun name => '{' :: (name ++ ['}']))

structure IsPath (path : List Char) : Prop where
  slash : path.head? = some '/'
  plain : ∀ c ∈ path, c ≠ '?' ∧ c ≠ '#'

/-- The URLs of a path: blanks and a base before it, a query or a fragment behind it. -/
inductive IsUrlOf (path : List Char) : List Char → Prop where
  | intro {blanks base tail : List Char} (hblanks : ∀ c ∈ blanks, Text.isBlank c = true)
    (hbase : IsBase base) (htail : ∀ c ∈ tail.head?, c = '?' ∨ c = '#') :
    IsUrlOf path (blanks ++ base ++ path ++ tail)

theorem isUrlOf_self (path : List Char) : IsUrlOf path path := by
  have h : IsUrlOf path ([] ++ [] ++ path ++ []) := .intro (by simp) .none (by simp)
  simpa using h

theorem plain_of_isScheme {scheme : List Char} (h : IsScheme scheme) :
    ∀ c ∈ scheme, c ≠ '?' ∧ c ≠ '#' := by
  obtain ⟨first, rest, rfl, hfirst, hrest⟩ := h
  intro c hc
  rcases List.mem_cons.1 hc with rfl | hc
  · constructor <;> rintro rfl <;> exact absurd hfirst (by decide)
  · constructor <;> rintro rfl <;> exact absurd (hrest _ hc) (by decide)

theorem plain_of_isWord {c : Char} (h : Text.isWord c = true) : c ≠ '?' ∧ c ≠ '#' := by
  constructor <;> rintro rfl <;> exact absurd h (by decide +kernel)

namespace IsBase

variable {base : List Char}

theorem plain (h : IsBase base) : ∀ c ∈ base, c ≠ '?' ∧ c ≠ '#' := by
  cases h with
  | none => simp
  | origin hscheme hhost =>
    intro c hc
    rcases List.mem_append.1 hc with hc | hc
    · exact plain_of_isScheme hscheme c hc
    · simp only [List.mem_cons] at hc
      rcases hc with rfl | rfl | rfl | hc
      · decide
      · decide
      · decide
      · exact (hhost c hc).2
  | placeholders hne hnames =>
    intro c hc
    obtain ⟨name, hname, hc⟩ := List.mem_flatMap.1 hc
    simp only [List.mem_cons, List.mem_append, List.not_mem_nil, or_false] at hc
    rcases hc with rfl | hc | rfl
    · decide
    · exact plain_of_isWord ((hnames name hname).2 c hc)
    · decide

/-- Neither a base nor the slash after it is blank at its start. -/
theorem head?_append (h : IsBase base) :
    ∀ c ∈ (base ++ ['/']).head?, Text.isBlank c = false := by
  cases h with
  | none =>
    intro c hc
    obtain rfl := Option.some.inj hc
    decide
  | origin hscheme hhost =>
    obtain ⟨first, rest, rfl, hfirst, -⟩ := hscheme
    intro c hc
    obtain rfl := Option.some.inj hc
    apply isBlank_of_isLiteralChar
    change (first.isAlpha || first.isDigit || _ || _) = true
    simp [hfirst]
  | placeholders hne hnames =>
    obtain ⟨name, names, rfl⟩ := List.exists_cons_of_ne_nil hne
    intro c hc
    obtain rfl := Option.some.inj hc
    decide

theorem afterBraces_placeholders {names : List (List Char)}
    (hnames : ∀ name ∈ names, name ≠ [] ∧ ∀ c ∈ name, Text.isWord c = true) (rest : List Char) :
    afterBraces 0 ((names.flatMap fun name => '{' :: (name ++ ['}'])) ++ '/' :: rest) =
      '/' :: rest := by
  induction names with
  | nil => rfl
  | cons name names ih =>
    obtain ⟨⟨hne, hword⟩, hnames⟩ := List.forall_mem_cons.1 hnames
    rw [List.flatMap_cons]
    have hsplit (tail : List Char) :
        '{' :: (name ++ ['}']) ++ tail = '{' :: (name ++ '}' :: tail) := by simp
    rw [List.append_assoc, hsplit, afterBraces_hole (braced?_word hne hword _), ih hnames]

/-- The two cuts at the start of a URL take exactly the base. -/
theorem dropDynamicBase_dropOrigin (h : IsBase base) (rest : List Char) :
    dropDynamicBase (dropOrigin (base ++ '/' :: rest)) = '/' :: rest := by
  cases h with
  | none => rfl
  | @origin scheme host hscheme hhost =>
    have hhost : host.dropWhile (· != '/') = [] :=
      List.dropWhile_eq_nil_iff.2 fun c hc => bne_iff_ne.2 (hhost c hc).1
    have horigin : afterOrigin? (scheme ++ ':' :: '/' :: '/' :: (host ++ '/' :: rest)) =
        some ('/' :: rest) := by
      rw [afterOrigin?_scheme hscheme, Text.dropWhile_append_cons (by decide), hhost,
        List.nil_append]
    rw [dropOrigin, List.append_assoc, List.cons_append, List.cons_append, List.cons_append,
      horigin]
    -- a slash is first now, so the second cut takes nothing
    rfl
  | placeholders hne hnames =>
    have hafter := afterBraces_placeholders hnames rest
    obtain ⟨name, names, rfl⟩ := List.exists_cons_of_ne_nil hne
    obtain ⟨hname, hword⟩ := hnames name List.mem_cons_self
    rw [List.flatMap_cons, List.append_assoc, List.cons_append, List.append_assoc,
      List.singleton_append] at hafter ⊢
    -- a scheme does not start with a brace, so the first cut takes nothing
    have horigin (tail : List Char) : dropOrigin ('{' :: tail) = '{' :: tail := rfl
    rw [horigin, dropDynamicBase, braced?_word hname hword, hafter]
    rfl

end IsBase

/-- All that is left of a URL after the cuts is its path, without blanks at the end. -/
theorem cutPath_of_isUrlOf {rest url : List Char} (hpath : IsPath ('/' :: rest))
    (h : IsUrlOf ('/' :: rest) url) : cutPath url = '/' :: rest.rdropWhile Text.isBlank := by
  obtain @⟨blanks, base, tail, hblanks, hbase, htail⟩ := h
  have hplain : ∀ c ∈ blanks ++ base ++ '/' :: rest, c ≠ '?' ∧ c ≠ '#' := by
    refine List.forall_mem_append.2 ⟨List.forall_mem_append.2 ⟨?_, hbase.plain⟩, hpath.plain⟩
    intro c hc
    have hblank := hblanks c hc
    constructor <;> rintro rfl <;> exact absurd hblank (by decide)
  have htrim : Text.trim (blanks ++ base ++ '/' :: rest) =
      base ++ '/' :: rest.rdropWhile Text.isBlank := by
    have hslash : Text.isBlank '/' = false := by decide
    have h := Text.trim_append hblanks hbase.head?_append List.getLast?_concat hslash rest
    simpa using h
  rw [cutPath, stripQuery_append hplain htail, htrim, hbase.dropDynamicBase_dropOrigin]

theorem ofUrl_of_isUrlOf {path url : String} (hpath : IsPath path.toList)
    (h : IsUrlOf path.toList url.toList) : ofUrl url = ofUrl path := by
  obtain ⟨rest, hrest⟩ := List.head?_eq_some_iff.1 hpath.slash
  have hself := isUrlOf_self path.toList
  rw [hrest] at hpath h hself
  rw [ofUrl, ofUrl, ofUrlChars_eq, ofUrlChars_eq, cutPath_of_isUrlOf hpath h, hrest,
    cutPath_of_isUrlOf hpath hself]

end Route

namespace Observation

variable {call other : Observation} {file otherFile : String} {e f : Endpoint}

theorem target_eq_of_describe? (hmethod : normalMethod call.method = normalMethod other.method)
    (hroute : Route.ofUrl call.url = Route.ofUrl other.url)
    (he : call.describe? file = some e) (hf : other.describe? otherFile = some f) :
    e.target = f.target := by
  obtain ⟨-, m, hm, rfl⟩ := describe?_eq_some_iff.1 he
  obtain ⟨-, n, hn, rfl⟩ := describe?_eq_some_iff.1 hf
  rw [hmethod, hn] at hm
  obtain rfl := Option.some.inj hm
  exact Prod.ext rfl hroute

end Observation

namespace Route

/-- All URLs of a path have its route.  Two admitted calls of one method to URLs of one path have
the same key, and wherever their endpoints stand in the batches, the later one adds nothing. -/
theorem ofUrl_whatever_base {path : String} (hpath : IsPath path.toList) :
    (∀ url : String, IsUrlOf path.toList url.toList → ofUrl url = ofUrl path) ∧
      ∀ (call other : Observation) (file otherFile : String) (e f : Endpoint),
        IsUrlOf path.toList call.url.toList → IsUrlOf path.toList other.url.toList →
        normalMethod call.method = normalMethod other.method →
        call.describe? file = some e → other.describe? otherFile = some f →
        e.key = f.key ∧
          ∀ (batches : List (List Endpoint)) (front between rest : List Endpoint),
            batches.flatten = front ++ e :: (between ++ f :: rest) →
            aggregate batches = aggregate [front ++ e :: (between ++ rest)] := by
  refine ⟨fun url h => ofUrl_of_isUrlOf hpath h, ?_⟩
  intro call other file otherFile e f hcall hother hmethod he hf
  have hroute : ofUrl call.url = ofUrl other.url := by
    rw [ofUrl_of_isUrlOf hpath hcall, ofUrl_of_isUrlOf hpath hother]
  have htarget := Observation.target_eq_of_describe? hmethod hroute he hf
  refine ⟨(e.key_eq_key_iff f).2 htarget, ?_⟩
  intro batches front between rest hbatches
  have hseen : f.target ∈ (front ++ e :: between).map Endpoint.target := by simp [htarget]
  have hdropped := firstOccurrences_append_cons hseen rest
  rw [aggregate_eq_firstOccurrences, aggregate_eq_firstOccurrences, hbatches]
  simpa using hdropped

/-- A call to an origin, with a query and a fragment. -/
def originCall : Observation where
  kind := .fetch
  method := "get"
  url := " https://h \x7bp\x7d:80/api/users/\x7bid\x7d ?page=1#top"
  line := 3

theorem isUrlOf_originCall : IsUrlOf "/api/users/\x7bid\x7d ".toList originCall.url.toList := by
  have hblanks : ∀ c ∈ [' '], Text.isBlank c = true := List.all_eq_true.1 (by decide)
  have hscheme : IsScheme "https".toList :=
    ⟨'h', "ttps".toList, rfl, by decide, List.all_eq_true.1 (by decide)⟩
  have hhost : ∀ c ∈ "h \x7bp\x7d:80".toList, c ≠ '/' ∧ c ≠ '?' ∧ c ≠ '#' := by simp
  have htail : ∀ c ∈ "?page=1#top".toList.head?, c = '?' ∨ c = '#' := by simp
  exact .intro hblanks (.origin hscheme hhost) htail

/-- A call behind two placeholders, with a fragment that looks like a query. -/
def dynamicCall : Observation where
  kind := .client
  method := " GET "
  url := "\x7bHOST\x7d\x7bport\x7d/api/users/\x7bid\x7d #a?b"
  line := 5

theorem isUrlOf_dynamicCall : IsUrlOf "/api/users/\x7bid\x7d ".toList dynamicCall.url.toList := by
  have hnames : ∀ name ∈ ["HOST".toList, "port".toList],
      name ≠ [] ∧ ∀ c ∈ name, Text.isWord c = true := by
    intro name hname
    simp only [List.mem_cons, List.not_mem_nil, or_false] at hname
    rcases hname with rfl | rfl
    · exact ⟨by decide, List.all_eq_true.1 (by decide)⟩
    · exact ⟨by decide, List.all_eq_true.1 (by decide)⟩
  have hblanks : ∀ c ∈ ([] : List Char), Text.isBlank c = true := by simp
  have htail : ∀ c ∈ "#a?b".toList.head?, c = '?' ∨ c = '#' := by simp
  exact .intro hblanks (.placeholders (List.cons_ne_nil _ _) hnames) htail

theorem ofUrl_originCall_dynamicCall :
    ∃ e f, originCall.describe? "a.ts" = some e ∧ dynamicCall.describe? "b.ts" = some f ∧
      e.key = "GET:/api/users/:id" ∧ e.key = f.key ∧ aggregate [[e], [f]] = [e] := by
  have hpath : IsPath "/api/users/\x7bid\x7d ".toList := ⟨rfl, by simp⟩
  obtain ⟨e, he, hkey⟩ : ∃ e, originCall.describe? "a.ts" = some e ∧
      e.key = "GET:/api/users/:id" := ⟨_, rfl, by decide +kernel⟩
  obtain ⟨f, hf⟩ : ∃ f, dynamicCall.describe? "b.ts" = some f := ⟨_, rfl⟩
  obtain ⟨hsame, hkept⟩ := (ofUrl_whatever_base hpath).2 originCall dynamicCall "a.ts" "b.ts" e f
    isUrlOf_originCall isUrlOf_dynamicCall (by decide +kernel) he hf
  exact ⟨e, f, he, hf, hkey, hsame, hkept [[e], [f]] [] [] [] rfl⟩

end Route

end RouteCensus
