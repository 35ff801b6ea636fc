import RouteCensus.Proofs.Route.Admission
import RouteCensus.Route.Params

/-! # Keys of a query

A query begins behind the first question mark of a URL and ends before the number
sign that follows.  The keys of the items that it was joined from are read back,
whatever stands in the values and in the fragment.  A fragment adds no keys to those
of a query before it.  Where there is no query, the question mark is looked for in
the fragment too, and then a part of the fragment is read as one.
-/

namespace RouteCensus.Route

theorem queryParams_eq (url : String) :
    queryParams url = Text.distinct ((queryKeys url.toList).map String.ofList) :=
  rfl

theorem queryKeys_eq (url : List Char) :
    queryKeys url = ((Text.after? (· == '?') url).map fun query =>
      ((Text.before (· == '#') query).splitOn '&').map queryKey).getD [] := by
  rw [queryKeys]
  cases Text.after? (· == '?') url <;> rfl

theorem queryKeys_append {front : List Char} (h : '?' ∉ front) (rest : List Char) :
    queryKeys (front ++ rest) = queryKeys rest := by
  rw [queryKeys_eq, queryKeys_eq, Text.after?_append (Text.beq_false_of_not_mem h)]

/-- What is behind the query, from a number sign on, is not looked at. -/
theorem queryKeys_query {path query : List Char} (hpath : '?' ∉ path) (hquery : '#' ∉ query)
    (rest : List Char) (hrest : ∀ c ∈ rest.head?, c = '#') :
    queryKeys (path ++ '?' :: (query ++ rest)) = (query.splitOn '&').map queryKey := by
  have hbefore : Text.before (· == '#') (query ++ rest) = query :=
    Text.before_append (Text.beq_false_of_not_mem hquery) fun c hc => beq_iff_eq.2 (hrest c hc)
  rw [queryKeys_append hpath, queryKeys_eq, Text.after?_cons rfl, Option.map_some,
    Option.getD_some, hbefore]

section Fragments

variable {url : List Char}

theorem queryKeys_of_not_mem (h : '?' ∉ url) : queryKeys url = [] := by
  rw [← List.append_nil url, queryKeys_append h]
  rfl

theorem queryKeys_fragment (h : '#' ∉ url) (fragment : List Char) :
    queryKeys (url ++ '#' :: fragment) =
      if '?' ∈ url then queryKeys url else queryKeys fragment := by
  split
  · next hmem =>
    obtain ⟨path, query, rfl, hpath⟩ := List.eq_append_cons_of_mem hmem
    have hquery : '#' ∉ query := fun hin => h (by simp [hin])
    have hwith := queryKeys_query hpath hquery ('#' :: fragment) (by simp)
    have hwithout := queryKeys_query hpath hquery [] (by simp)
    rw [List.append_nil] at hwithout
    rw [hwithout, ← hwith]
    simp
  · next hmem =>
    -- the search for a question mark goes on behind the number sign
    have hfront : '?' ∉ url ++ ['#'] := by simp [hmem]
    rw [List.append_cons, queryKeys_append hfront]

theorem stripQuery_fragment (url fragment : List Char) :
    stripQuery (url ++ '#' :: fragment) = stripQuery url := by
  rw [stripQuery_eq, stripQuery_eq, Text.takeWhile_append_cons (by decide)]

end Fragments

/-- A fragment never counts for the path.  It counts for the keys of the query exactly if the URL
before it has no query and keys are found in the fragment by itself. -/
theorem queryParams_fragment {url : String} (h : '#' ∉ url.toList) (fragment : String) :
    stripQuery (url ++ "#" ++ fragment).toList = stripQuery url.toList ∧
      queryParams (url ++ "#" ++ fragment) =
        (if '?' ∈ url.toList then queryParams url else queryParams fragment) ∧
      (queryParams (url ++ "#" ++ fragment) = queryParams url ↔
        '?' ∈ url.toList ∨ queryParams fragment = []) := by
  have hjoined : (url ++ "#" ++ fragment).toList = url.toList ++ '#' :: fragment.toList := by simp
  have hkeys : queryParams (url ++ "#" ++ fragment) =
      if '?' ∈ url.toList then queryParams url else queryParams fragment := by
    rw [queryParams_eq, hjoined, queryKeys_fragment h]
    split <;> rfl
  refine ⟨by rw [hjoined, stripQuery_fragment], hkeys, ?_⟩
  rw [hkeys]
  by_cases hquery : '?' ∈ url.toList
  · simp [hquery]
  · have hnone : queryParams url = [] := by
      rw [queryParams_eq, queryKeys_of_not_mem hquery]
      rfl
    simp [hquery, hnone]

theorem queryParams_anchoredQuery :
    queryParams "/api/x?tab=1#top?page=2&tab" = queryParams "/api/x?tab=1" :=
  have hplain : '#' ∉ "/api/x?tab=1".toList := by decide
  (queryParams_fragment hplain "top?page=2&tab").2.2.2 (.inl (by decide))

/-- A question mark in the fragment of a URL without a query. -/
theorem queryParams_routedFragment :
    '#' ∉ "/api/x".toList ∧ queryParams ("/api/x" ++ "#" ++ "top?tab=1") = ["tab"] ∧
      queryParams "/api/x" = [] := by
  decide +kernel

/-- One item of a query: a key, and possibly a value behind an equals sign. -/
structure QueryItem where
  key : List Char
  value? : Option (List Char)
  key_plain : '=' ∉ key ∧ '&' ∉ key ∧ '#' ∉ key
  value_plain : ∀ value ∈ value?, '&' ∉ value ∧ '#' ∉ value

namespace QueryItem

def text (item : QueryItem) : List Char :=
  match item.value? with
  | none => item.key
  | some value => item.key ++ '=' :: value

/-- The items with an ampersand between each two. -/
def joined (items : List QueryItem) : List Char :=
  List.intercalate ['&'] (items.map text)

theorem not_mem_text (item : QueryItem) : '&' ∉ item.text ∧ '#' ∉ item.text := by
  obtain ⟨-, hkey⟩ := item.key_plain
  rw [text]
  split
  · exact hkey
  · next value hvalue =>
    have hplain := item.value_plain value hvalue
    simp [hkey, hplain]

theorem queryKey_text (item : QueryItem) : queryKey item.text = Text.trim item.key := by
  have hkey := Text.beq_false_of_not_mem item.key_plain.1
  have hbefore : Text.before (· == '=') item.text = item.key := by
    rw [text]
    split
    · exact Text.before_eq_self hkey
    · exact Text.before_append hkey (by simp)
  rw [queryKey, hbefore]

theorem not_mem_joined (items : List QueryItem) : '#' ∉ joined items := by
  induction items with
  | nil => simp [joined]
  | cons item items ih =>
    cases items with
    | nil => simpa [joined] using item.not_mem_text.2
    | cons next items =>
      rw [joined, List.map_cons, List.map_cons, List.intercalate_cons_cons, ← List.map_cons,
        ← joined]
      simp [item.not_mem_text.2, ih]

/-- Cutting at the ampersands undoes joining; nothing at all is joined to one empty item. -/
theorem splitOn_joined (items : List QueryItem) :
    (joined items).splitOn '&' = if items = [] then [[]] else items.map text := by
  split
  · next h =>
    rw [h]
    rfl
  · next h =>
    apply List.splitOn_intercalate
    · intro s hs
      obtain ⟨item, -, rfl⟩ := List.mem_map.1 hs
      exact item.not_mem_text.1
    · simpa using h

/-- The name under which an item counts. -/
def name (item : QueryItem) : String :=
  String.ofList (Text.trim item.key)

theorem distinct_splitOn_joined (items : List QueryItem) :
    Text.distinct ((((joined items).splitOn '&').map queryKey).map String.ofList) =
      Text.distinct (items.map name) := by
  rw [splitOn_joined]
  split
  · next h =>
    rw [h]
    decide
  · rw [List.map_map, List.map_map]
    congr 1
    apply List.map_congr_left
    intro item _
    simp [name, queryKey_text]

end QueryItem

/-- The keys of the items are read back from the query that they were joined to: without blanks
around them and without the empty ones, each once, in the order in which they first occur. -/
theorem queryParams_joined {path fragment : List Char} (hpath : '?' ∉ path)
    (hfragment : ∀ c ∈ fragment.head?, c = '#') (items : List QueryItem) (out : List String) :
    queryParams (String.ofList (path ++ '?' :: (QueryItem.joined items ++ fragment))) = out ↔
      Text.FirstPlaces (items.map QueryItem.name) out := by
  have hplain := QueryItem.not_mem_joined items
  rw [queryParams_eq, String.toList_ofList, queryKeys_query hpath hplain fragment hfragment,
    QueryItem.distinct_splitOn_joined, Text.distinct_eq_iff]

/-- Items with padded, repeated and empty keys, and with separators in their keys and values. -/
def mixedItems : List QueryItem := [
  { key := " q ".toList, value? := some "a=b?c".toList,
    key_plain := by decide, value_plain := by simp },
  { key := "page?".toList, value? := none, key_plain := by decide, value_plain := by simp },
  { key := " ".toList, value? := some [], key_plain := by decide, value_plain := by simp },
  { key := "q".toList, value? := some "2".toList, key_plain := by decide, value_plain := by simp }]

theorem queryParams_mixedItems :
    queryParams "/api/find? q =a=b?c&page?& =&q=2#top?z&q" = ["q", "page?"] ∧
      Text.FirstPlaces (mixedItems.map QueryItem.name) ["q", "page?"] := by
  have hread : queryParams "/api/find? q =a=b?c&page?& =&q=2#top?z&q" = ["q", "page?"] := by
    decide +kernel
  have hpath : '?' ∉ "/api/find".toList := by decide
  have hfragment : ∀ c ∈ "#top?z&q".toList.head?, c = '#' := by simp
  exact ⟨hread, (queryParams_joined hpath hfragment mixedItems _).1 hread⟩

end RouteCensus.Route
