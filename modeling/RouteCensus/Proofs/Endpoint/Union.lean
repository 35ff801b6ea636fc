import RouteCensus.Proofs.Endpoint.FirstWins

/-! # Aggregation as a union

Two lists of endpoints are united by keeping the first one and adding of the
second one what the first one lacks.  Aggregation turns the concatenation of
batches into this union, so parts may be aggregated apart and put together later.
-/

namespace RouteCensus

/-- The first list, and of the second one the endpoints whose method and route the first lacks. -/
def firstWins (es fs : List Endpoint) : List Endpoint :=
  es ++ fs.filter fun f => f.target ∉ es.map Endpoint.target

theorem firstWins_concat (es fs gs : List Endpoint) :
    firstWins es (fs ++ gs) =
      firstWins es fs ++ gs.filter fun g => g.target ∉ es.map Endpoint.target := by
  rw [firstWins, firstWins, List.filter_append, List.append_assoc]

theorem firstOccurrences_append (es fs : List Endpoint) :
    firstOccurrences (es ++ fs) = firstWins (firstOccurrences es) (firstOccurrences fs) := by
  induction fs using List.reverseRecOn with
  | nil => simp [firstOccurrences, firstWins]
  | append_singleton fs f ih =>
    rw [← List.append_assoc, firstOccurrences_concat, ih, firstOccurrences_concat, firstWins_concat]
    congr 1
    simp only [mem_target_firstOccurrences]
    by_cases hfs : f.target ∈ fs.map Endpoint.target
    · have hboth : f.target ∈ (es ++ fs).map Endpoint.target := by
        rw [List.map_append]
        exact List.mem_append_right _ hfs
      rw [if_pos hboth, if_pos hfs, List.filter_nil]
    · -- nothing in the second list counts, so the endpoint is added if the first one lacks it
      have hboth : f.target ∈ (es ++ fs).map Endpoint.target ↔ f.target ∈ es.map Endpoint.target := by
        rw [List.map_append, List.mem_append, or_iff_left hfs]
      rw [if_neg hfs]
      by_cases hes : f.target ∈ es.map Endpoint.target
      · rw [if_pos (hboth.2 hes), List.filter_singleton, decide_eq_false (not_not.2 hes)]
        rfl
      · rw [if_neg (mt hboth.1 hes), List.filter_singleton, decide_eq_true hes]
        rfl

/-- An endpoint whose method and route came before may as well be left out. -/
theorem firstOccurrences_append_cons {es : List Endpoint} {e : Endpoint}
    (h : e.target ∈ es.map Endpoint.target) (fs : List Endpoint) :
    firstOccurrences (es ++ e :: fs) = firstOccurrences (es ++ fs) := by
  have hlast : firstOccurrences (es ++ [e]) = firstOccurrences es := by
    rw [firstOccurrences_concat, if_pos h, List.append_nil]
  rw [List.append_cons, firstOccurrences_append, hlast, ← firstOccurrences_append]

/-- Exactly the lists without repeated methods and routes are kept whole. -/
theorem firstOccurrences_eq_self_iff (es : List Endpoint) :
    firstOccurrences es = es ↔ (es.map Endpoint.target).Nodup := by
  constructor
  · intro h
    rw [← h]
    exact firstOccurrences_nodup es
  · intro h
    induction es using List.reverseRecOn with
    | nil => rfl
    | append_singleton es e ih =>
      rw [List.map_append, List.map_singleton] at h
      obtain ⟨hes, -, hdisjoint⟩ := List.nodup_append.1 h
      have hnew : e.target ∉ es.map Endpoint.target :=
        fun hmem => hdisjoint _ hmem _ List.mem_cons_self rfl
      rw [firstOccurrences_concat, ih hes, if_neg hnew]

theorem firstOccurrences_idem (es : List Endpoint) :
    firstOccurrences (firstOccurrences es) = firstOccurrences es :=
  (firstOccurrences_eq_self_iff _).2 (firstOccurrences_nodup es)

/-- Aggregation sees no cuts between batches and turns concatenation into the union in which the
first one wins.  What is aggregated already stays as it is, and more batches add to its end. -/
theorem aggregate_union (xs ys : List (List Endpoint)) :
    aggregate xs = aggregate [xs.flatten] ∧
      aggregate (xs ++ ys) = firstWins (aggregate xs) (aggregate ys) ∧
      aggregate (xs ++ ys) = aggregate [aggregate xs, aggregate ys] ∧
      aggregate [aggregate xs] = aggregate xs ∧
      aggregate xs <+: aggregate (xs ++ ys) ∧
      (aggregate xs = xs.flatten ↔ (xs.flatten.map Endpoint.target).Nodup) := by
  simp only [aggregate_eq_firstOccurrences, List.flatten_append, List.flatten_cons,
    List.flatten_nil, List.append_nil, firstOccurrences_append, firstOccurrences_idem, true_and]
  exact ⟨List.prefix_append _ _, firstOccurrences_eq_self_iff _⟩

end RouteCensus
