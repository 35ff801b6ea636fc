import RouteCensus.Proofs.Endpoint.Union

/-! # What an index knows of its past

Calls offer endpoints to an index, one by one or as a list.  After any calls the
index is determined by the sequence of all endpoints offered so far: it holds
their first occurrences and has counted the others.  More calls only add to its
end, and what is stored under a key stays.
-/

namespace RouteCensus

/-- A call that offers endpoints to an index. -/
inductive IndexCall where
  | add (e : Endpoint)
  | extend (endpoints : List Endpoint)

namespace IndexCall

def offers : IndexCall → List Endpoint
  | add e => [e]
  | extend endpoints => endpoints

def apply (index : EndpointIndex) : IndexCall → EndpointIndex
  | add e => (index.offer e).1
  | extend endpoints => index.extend endpoints

/-- The endpoints that some calls offer, in their order. -/
def offered (calls : List IndexCall) : List Endpoint :=
  calls.flatMap offers

theorem offered_append (calls more : List IndexCall) :
    offered (calls ++ more) = offered calls ++ offered more :=
  List.flatMap_append

theorem apply_eq_extend (index : EndpointIndex) (call : IndexCall) :
    call.apply index = index.extend call.offers := by
  cases call <;> rfl

end IndexCall

theorem Endpoint.key_eq_iff (e f : Endpoint) :
    e.key = f.key ↔ e.method = f.method ∧ e.route = f.route := by
  rw [key_eq_key_iff, target, target, Prod.mk.injEq]

/-- The first endpoint of a method and route is also the first one that is kept. -/
theorem find?_firstOccurrences {p : Endpoint → Bool}
    (hp : ∀ e f : Endpoint, e.target = f.target → p e = p f) (es : List Endpoint) :
    (firstOccurrences es).find? p = es.find? p := by
  induction es using List.reverseRecOn with
  | nil => rfl
  | append_singleton es e ih =>
    rw [firstOccurrences_concat, List.find?_append, List.find?_append, ih]
    by_cases hseen : e.target ∈ es.map Endpoint.target
    · rw [if_pos hseen, List.find?_nil, Option.or_none]
      cases hpe : p e with
      | false => simp [hpe]
      | true =>
        -- the earlier endpoint with this method and route is found before this one
        obtain ⟨f, hf, hsame⟩ := List.mem_map.1 hseen
        have hfound : (es.find? p).isSome = true :=
          List.find?_isSome.2 ⟨f, hf, (hp f e hsame).trans hpe⟩
        rw [Option.or_of_isSome hfound]
    · rw [if_neg hseen]

namespace EndpointIndex

open IndexCall

/-- The index after some calls on a new one. -/
def after (calls : List IndexCall) : EndpointIndex :=
  calls.foldl IndexCall.apply {}

/-- The endpoint that is stored under a key. -/
def stored? (index : EndpointIndex) (key : String) : Option Endpoint :=
  index.entries.find? fun e => e.key == key

/-- The run lemma: how the endpoints are spread over calls does not matter. -/
theorem after_eq_extend (calls : List IndexCall) :
    after calls = ({} : EndpointIndex).extend (offered calls) := by
  induction calls using List.reverseRecOn with
  | nil => rfl
  | append_singleton calls call ih =>
    rw [offered_append, extend_append, ← ih, after, List.foldl_append]
    have hlast : offered [call] = call.offers := List.flatMap_singleton _ _
    rw [hlast, ← apply_eq_extend]
    rfl

theorem entries_after (calls : List IndexCall) :
    (after calls).entries = firstOccurrences (offered calls) := by
  rw [after_eq_extend, entries_extend]

theorem length_entries_after (calls : List IndexCall) :
    (after calls).entries.length + (after calls).duplicates = (offered calls).length := by
  rw [after_eq_extend, length_entries_extend]
  simp

theorem stored?_after (calls : List IndexCall) (key : String) :
    (after calls).stored? key = (offered calls).find? fun e => e.key == key := by
  rw [stored?, entries_after]
  apply find?_firstOccurrences
  intro e f hsame
  rw [(e.key_eq_key_iff f).2 hsame]

theorem contains_iff_isSome_stored? (index : EndpointIndex) (key : String) :
    index.contains key = true ↔ (index.stored? key).isSome = true := by
  rw [contains, stored?, List.any_eq_true, List.find?_isSome]

theorem contains_after_iff (calls : List IndexCall) (key : String) :
    (after calls).contains key = true ↔ ∃ e ∈ offered calls, e.key = key := by
  rw [contains_iff_isSome_stored?, stored?_after, List.find?_isSome]
  simp

theorem stored?_key_after (calls : List IndexCall) (e : Endpoint) :
    (after calls).stored? e.key =
      (offered calls).find? fun f => f.method = e.method ∧ f.route = e.route := by
  rw [stored?_after]
  congr 1
  funext f
  rw [beq_eq_decide, decide_eq_decide]
  exact f.key_eq_iff e

/-- What is stored stays; a key that is free is filled by what is offered later. -/
theorem stored?_after_append (calls more : List IndexCall) (key : String) :
    (after (calls ++ more)).stored? key =
      ((after calls).stored? key).or ((after more).stored? key) := by
  rw [stored?_after, stored?_after, stored?_after, offered_append, List.find?_append]

/-- After any calls an index accounts for all endpoints offered: those it holds and those it counted
are as many, it holds no method and route twice, it knows exactly the keys offered, and stores under
each the first endpoint offered with this method and route.  More calls only add to its end, and an
endpoint is taken in exactly if none with its method and route was offered before. -/
theorem after_accounts (calls more : List IndexCall) (e : Endpoint) (key : String) :
    (after calls).entries.length + (after calls).duplicates = (offered calls).length ∧
      ((after calls).entries.map fun f => (f.method, f.route)).Nodup ∧
      ((after calls).contains key = true ↔ ∃ f ∈ offered calls, f.key = key) ∧
      ((after calls).stored? e.key =
        (offered calls).find? fun f => f.method = e.method ∧ f.route = e.route) ∧
      ((after (calls ++ more)).stored? key =
        ((after calls).stored? key).or ((after more).stored? key)) ∧
      (after calls).entries <+: (after (calls ++ more)).entries ∧
      (((after calls).offer e).2 = true ↔
        ¬ ∃ f ∈ offered calls, f.method = e.method ∧ f.route = e.route) := by
  refine ⟨length_entries_after calls, ?_, contains_after_iff calls key, stored?_key_after calls e,
    stored?_after_append calls more key, ?_, ?_⟩
  · rw [entries_after]
    exact firstOccurrences_nodup _
  · rw [entries_after, entries_after, offered_append, firstOccurrences_append]
    exact List.prefix_append _ _
  · rw [offer, Bool.not_eq_true', ← Bool.not_eq_true, contains_after_iff]
    simp only [Endpoint.key_eq_iff]

end EndpointIndex

end RouteCensus
