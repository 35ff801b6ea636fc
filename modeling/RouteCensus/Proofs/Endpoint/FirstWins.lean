import RouteCensus.Endpoint.Index
import Mathlib.Data.List.Induction
import Mathlib.Data.List.Nodup

/-! # Indexes keep first occurrences

An endpoint is told apart by its method and its route, and the key of an index,
which is a text, tells exactly these apart.  An index that was fed with a list of
endpoints therefore holds those that no earlier one of the list equals in method
and route, and counts the others.
-/

namespace RouteCensus

/-- What tells endpoints apart. -/
def Endpoint.target (e : Endpoint) : HttpMethod × String :=
  (e.method, e.route)

/-- The endpoints of a list for which no earlier one has the same method and route. -/
def firstOccurrences (es : List Endpoint) : List Endpoint :=
  (es.zipIdx.filter fun (e, k) => (es.take k).all fun f => f.target != e.target).map Prod.fst

namespace HttpMethod

theorem word_injective : Function.Injective word := by
  intro m n h
  cases m <;> cases n <;> first | rfl | exact absurd h (by decide)

theorem colon_notMem_word (m : HttpMethod) : ':' ∉ m.word.toList := by
  cases m <;> decide

end HttpMethod

theorem Endpoint.key_toList (e : Endpoint) :
    e.key.toList = e.method.word.toList ++ ':' :: e.route.toList := by
  simp [Endpoint.key]

/-- No method contains the separator, so a key is the key of one method and one route. -/
theorem Endpoint.key_eq_key_iff (e f : Endpoint) : e.key = f.key ↔ e.target = f.target := by
  constructor
  · intro h
    have hlist : e.method.word.toList ++ ':' :: e.route.toList =
        f.method.word.toList ++ ':' :: f.route.toList := by
      rw [← e.key_toList, ← f.key_toList, h]
    have hword (m : HttpMethod) (rest : List Char) :
        (m.word.toList ++ ':' :: rest).takeWhile (· != ':') = m.word.toList := by
      rw [List.takeWhile_append_of_pos]
      · simp
      · intro c hc
        simp only [bne_iff_ne]
        rintro rfl
        exact m.colon_notMem_word hc
    have hmethod : e.method = f.method := by
      apply HttpMethod.word_injective
      apply String.toList_inj.1
      rw [← hword e.method e.route.toList, hlist, hword]
    rw [hmethod] at hlist
    have hroute : e.route = f.route := by
      apply String.toList_inj.1
      simpa using List.append_cancel_left hlist
    exact Prod.ext hmethod hroute
  · intro h
    have hmethod : e.method = f.method := congrArg Prod.fst h
    have hroute : e.route = f.route := congrArg Prod.snd h
    rw [Endpoint.key, Endpoint.key, hmethod, hroute]

theorem firstOccurrences_concat (es : List Endpoint) (e : Endpoint) :
    firstOccurrences (es ++ [e]) =
      firstOccurrences es ++ if e.target ∈ es.map Endpoint.target then [] else [e] := by
  unfold firstOccurrences
  rw [List.zipIdx_append, List.filter_append, List.map_append]
  congr 1
  · congr 1
    apply List.filter_congr
    rintro ⟨f, k⟩ hf
    have hk : k ≤ es.length := by
      have := List.snd_lt_of_mem_zipIdx hf
      omega
    simp only [List.take_append_of_le_length hk]
  · by_cases hseen : e.target ∈ es.map Endpoint.target
    · rw [if_pos hseen]
      obtain ⟨f, hf, hsame⟩ := List.mem_map.1 hseen
      simpa using ⟨f, hf, hsame⟩
    · rw [if_neg hseen]
      have hnew : ∀ f ∈ es, f.target ≠ e.target :=
        fun f hf hsame => hseen (List.mem_map.2 ⟨f, hf, hsame⟩)
      have hall : ((es ++ [e]).take es.length).all (fun f => f.target != e.target) = true := by
        simpa using hnew
      simp only [List.zipIdx_singleton, Nat.zero_add, List.filter_cons, hall, ite_true,
        List.filter_nil, List.map_singleton]

/-- Every method and route of the list is kept once. -/
theorem mem_target_firstOccurrences (es : List Endpoint) (target : HttpMethod × String) :
    target ∈ (firstOccurrences es).map Endpoint.target ↔ target ∈ es.map Endpoint.target := by
  induction es using List.reverseRecOn with
  | nil => simp [firstOccurrences]
  | append_singleton es e ih =>
    rw [firstOccurrences_concat, List.map_append, List.map_append, List.mem_append, List.mem_append,
      ih]
    by_cases hseen : e.target ∈ es.map Endpoint.target
    · rw [if_pos hseen]
      constructor
      · intro h
        exact h.imp_right (by simp)
      · rintro (h | h)
        · exact Or.inl h
        · rw [List.map_singleton, List.mem_singleton] at h
          exact Or.inl (h ▸ hseen)
    · rw [if_neg hseen]

theorem firstOccurrences_nodup (es : List Endpoint) :
    ((firstOccurrences es).map Endpoint.target).Nodup := by
  induction es using List.reverseRecOn with
  | nil => simp [firstOccurrences]
  | append_singleton es e ih =>
    rw [firstOccurrences_concat]
    by_cases hseen : e.target ∈ es.map Endpoint.target
    · simpa [hseen] using ih
    · rw [if_neg hseen, List.map_append, List.nodup_append]
      refine ⟨ih, by simp, ?_⟩
      rintro target hold _ hnew rfl
      rw [List.map_singleton, List.mem_singleton] at hnew
      exact hseen (hnew ▸ (mem_target_firstOccurrences es target).1 hold)

theorem firstOccurrences_sublist (es : List Endpoint) : (firstOccurrences es).Sublist es := by
  induction es using List.reverseRecOn with
  | nil => simp [firstOccurrences]
  | append_singleton es e ih =>
    rw [firstOccurrences_concat]
    apply ih.append
    split
    · exact List.nil_sublist _
    · exact List.Sublist.refl _

namespace EndpointIndex

/-- Whether a key is taken is decided by the methods and routes held. -/
theorem contains_key_iff (index : EndpointIndex) (e : Endpoint) :
    index.contains e.key = true ↔ e.target ∈ index.entries.map Endpoint.target := by
  simp only [contains, List.any_eq_true, beq_iff_eq, Endpoint.key_eq_key_iff, List.mem_map]

theorem extend_append (index : EndpointIndex) (es fs : List Endpoint) :
    index.extend (es ++ fs) = (index.extend es).extend fs := by
  simp [extend, List.foldl_append]

/-- An index that was fed with a list holds its first occurrences. -/
theorem entries_extend (es : List Endpoint) :
    (({} : EndpointIndex).extend es).entries = firstOccurrences es := by
  induction es using List.reverseRecOn with
  | nil => rfl
  | append_singleton es e ih =>
    rw [extend_append, firstOccurrences_concat]
    simp only [extend, List.foldl_cons, List.foldl_nil, add]
    have hcontains := contains_key_iff (({} : EndpointIndex).extend es) e
    rw [ih, mem_target_firstOccurrences] at hcontains
    by_cases hseen : e.target ∈ es.map Endpoint.target
    · have htaken := hcontains.2 hseen
      simp only [extend] at htaken ih
      rw [if_pos htaken, if_pos hseen, List.append_nil]
      exact ih
    · have hfree := mt hcontains.1 hseen
      simp only [extend] at hfree ih
      rw [if_neg hfree, if_neg hseen, ih]

/-- Every endpoint offered is held or counted. -/
theorem length_entries_add (index : EndpointIndex) (e : Endpoint) :
    (index.add e).entries.length + (index.add e).duplicates =
      index.entries.length + index.duplicates + 1 := by
  unfold add
  split
  · rfl
  · simp only [List.length_append, List.length_singleton]
    omega

theorem length_entries_extend (index : EndpointIndex) (es : List Endpoint) :
    (index.extend es).entries.length + (index.extend es).duplicates =
      index.entries.length + index.duplicates + es.length := by
  induction es generalizing index with
  | nil => rfl
  | cons e es ih =>
    have hstep := index.length_entries_add e
    have hrest := ih (index.add e)
    simp only [extend, List.foldl_cons, List.length_cons] at hrest ⊢
    omega

end EndpointIndex

/-- Only the sequence of endpoints counts, not how it is cut into batches. -/
theorem aggregate_eq_firstOccurrences (batches : List (List Endpoint)) :
    aggregate batches = firstOccurrences batches.flatten := by
  rw [← EndpointIndex.entries_extend]
  simp only [aggregate, EndpointIndex.extend, List.foldl_flatten]
  rfl

end RouteCensus
