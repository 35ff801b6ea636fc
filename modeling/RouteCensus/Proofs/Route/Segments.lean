import RouteCensus.Proofs.Route.Bases
import RouteCensus.Proofs.Route.Controllers
import RouteCensus.Proofs.Route.Placeholders

/-! # Paths of whole segments

The segments of a path are fixed texts and single placeholders.  Its route has the
same segments, with the placeholders as parameters, so no name runs into the text
beside it and no text is read as a name.  The parameters of the route are the names,
and its controller is found among the segments themselves.
-/

namespace RouteCensus.Route

/-- A fixed text, which may be empty, or a placeholder. -/
inductive Segment where
  | literal (s : List Char)
    (h : ∀ c ∈ s, c ∉ ['/', ':', '{', '}', '?', '#'] ∧ Text.isBlank c = false)
  | hole (word : List Char) (hne : word ≠ []) (h : ∀ c ∈ word, Text.isWord c = true)

namespace Segment

/-- The segment in a URL. -/
def shown : Segment → List Char
  | literal s _ => s
  | hole word _ _ => '{' :: (word ++ ['}'])

/-- The segment in a route. -/
def routed : Segment → List Char
  | literal s _ => s
  | hole word _ _ => ':' :: word

def name? : Segment → Option (List Char)
  | literal _ _ => none
  | hole word _ _ => some word

/-- What is in no word and is no brace is not in a placeholder. -/
theorem not_mem_shown (segment : Segment) {c : Char} (hc : c ∈ ['/', '?', '#']) :
    c ∉ segment.shown := by
  intro hmem
  cases segment with
  | literal s h =>
    have hne := (h c hmem).1
    simp_all
  | hole word hne h =>
    have hword : Text.isWord c = false := by
      simp only [List.mem_cons, List.not_mem_nil, or_false] at hc
      rcases hc with rfl | rfl | rfl <;> decide +kernel
    simp only [shown, List.mem_cons, List.mem_append, List.not_mem_nil, or_false] at hmem
    rcases hmem with rfl | hmem | rfl
    · exact absurd hc (by decide)
    · exact absurd (h c hmem) (by simp [hword])
    · exact absurd hc (by decide)

theorem not_mem_routed (segment : Segment) {c : Char} (hc : c = '/' ∨ c = '\n') :
    c ∉ segment.routed := by
  intro hmem
  cases segment with
  | literal s h =>
    have hplain := h c hmem
    rcases hc with rfl | rfl
    · exact hplain.1 (by decide)
    · exact absurd hplain.2 (by decide)
  | hole word hne h =>
    have hword : Text.isWord c = false := by
      rcases hc with rfl | rfl <;> decide +kernel
    rcases List.mem_cons.1 hmem with rfl | hmem
    · exact absurd hc (by decide)
    · exact absurd (h c hmem) (by simp [hword])

theorem isBlank_of_mem_shown (segment : Segment) : ∀ c ∈ segment.shown, Text.isBlank c = false := by
  intro c hmem
  cases segment with
  | literal s h => exact (h c hmem).2
  | hole word hne h =>
    simp only [shown, List.mem_cons, List.mem_append, List.not_mem_nil, or_false] at hmem
    rcases hmem with rfl | hmem | rfl
    · decide
    · exact Text.isBlank_of_isWord (h c hmem)
    · decide

/-- No segment of a route has a line feed in it, so only true versions count as such. -/
theorem isVersion_routed (segment : Segment) :
    isVersion segment.routed = true ↔ IsVersion segment.routed := by
  rw [isVersion_iff, or_iff_left]
  rintro ⟨version, -, heq⟩
  apply segment.not_mem_routed (.inr rfl)
  simp [heq]

end Segment

section Reading

open Segment

theorem Segment.colons_shown (segment : Segment) (rest : List Char) :
    colons (segment.shown ++ rest) = segment.routed ++ colons rest := by
  cases segment with
  | literal s h => exact colons_append (fun hmem => (h '{' hmem).1 (by decide)) rest
  | hole word hne h =>
    rw [shown, routed, List.cons_append, List.append_assoc, List.singleton_append,
      colons_hole (braced?_word hne h _), List.cons_append]

theorem Segment.paramsAfter_routed (segment : Segment) (rest : List Char)
    (hrest : ∀ c ∈ rest.head?, Text.isWord c = false) :
    paramsAfter 0 (segment.routed ++ rest) = segment.name?.toList ++ paramsAfter 0 rest := by
  cases segment with
  | literal s h =>
    have hplain : ∀ c ∈ s, c ≠ ':' ∧ c ≠ '{' := by
      intro c hc
      have hne := (h c hc).1
      simp_all
    exact paramsAfter_append hplain rest
  | hole word hne h => exact paramsAfter_word hne h hrest

/-- The texts of the segments that are not empty. -/
def textsOf (path : List Segment) : List (List Char) :=
  (path.map routed).filter fun s => !s.isEmpty

theorem segments_pathOf (path : List Segment) : segments (pathOf routed path) = textsOf path := by
  induction path with
  | nil => rfl
  | cons segment path ih =>
    have hslash : '/' ∉ segment.routed := segment.not_mem_routed (.inl rfl)
    rw [pathOf_cons, ← List.nil_append ('/' :: _), segments_append,
      segments_back (pathOf_eq routed path), segments_of_not_mem hslash, ih, textsOf,
      ← List.filter_append]
    rfl

theorem cutPath_pathOf {path : List Segment} (h : path ≠ []) :
    cutPath (pathOf shown path) = pathOf shown path := by
  obtain ⟨segment, path, rfl⟩ := List.exists_cons_of_ne_nil h
  have hmem : ∀ c ∈ pathOf shown (segment :: path),
      (c ≠ '?' ∧ c ≠ '#') ∧ Text.isBlank c = false := by
    intro c hc
    obtain ⟨part, -, hc⟩ := List.mem_flatMap.1 hc
    rcases List.mem_cons.1 hc with rfl | hc
    · decide
    · refine ⟨⟨?_, ?_⟩, part.isBlank_of_mem_shown c hc⟩
      · rintro rfl
        exact part.not_mem_shown (by decide) hc
      · rintro rfl
        exact part.not_mem_shown (by decide) hc
  rw [pathOf_cons] at hmem ⊢
  have hpath : IsPath ('/' :: (segment.shown ++ pathOf shown path)) :=
    ⟨rfl, fun c hc => (hmem c hc).1⟩
  rw [cutPath_of_isUrlOf hpath (isUrlOf_self _), List.rdropWhile_eq_self_iff.2]
  intro hne
  simp [hmem _ (List.mem_cons_of_mem _ (List.getLast_mem hne))]

theorem ofUrl_pathOf {path : List Segment} (h : path ≠ []) :
    ofUrl (String.ofList (pathOf shown path)) = String.ofList (pathOf routed path) := by
  rw [ofUrl, String.toList_ofList, ofUrlChars_eq, cutPath_pathOf h, colons_pathOf colons_shown]
  obtain ⟨segment, path, rfl⟩ := List.exists_cons_of_ne_nil h
  rw [pathOf_cons]
  rfl

end Reading

/-- The names of the placeholders, in the order of the path. -/
def namesOf (path : List Segment) : List String :=
  (path.filterMap Segment.name?).map String.ofList

theorem pathParams_pathOf (path : List Segment) :
    pathParams (String.ofList (pathOf Segment.routed path)) = (namesOf path).eraseDups := by
  have hnames : ∀ name ∈ namesOf path, (!name.isEmpty) = true := by
    intro name hname
    obtain ⟨word, hword, rfl⟩ := List.mem_map.1 hname
    obtain ⟨segment, -, hsegment⟩ := List.mem_filterMap.1 hword
    cases segment with
    | literal s h => cases hsegment
    | hole word' hne h =>
      obtain rfl := Option.some.inj hsegment
      simpa using hne
  rw [pathParams, String.toList_ofList, paramsAfter_pathOf Segment.paramsAfter_routed,
    ← List.filterMap_eq_flatMap_toList, ← namesOf, Text.distinct,
    List.filter_eq_self.2 hnames]

section Controller

theorem IsResource.congr {V W : List Char → Prop} {segs : List (List Char)} {name : List Char}
    (hVW : ∀ s ∈ segs, V s ↔ W s) (h : IsResource V segs name) : IsResource W segs name := by
  cases h with
  | next h hname =>
    refine .next h ?_
    obtain ⟨before, rest, -, rfl⟩ := h
    rwa [← hVW name (by simp)]
  | behind hbefore hfirst => exact .behind hbefore ((hVW _ (by simp)).1 hfirst)

theorem resource?_pathOf (path : List Segment) (name : List Char) :
    resource? (pathOf Segment.routed path) = some name ↔
      IsResource IsVersion (textsOf path) name := by
  have hversion : ∀ s ∈ textsOf path, isVersion s = true ↔ IsVersion s := by
    intro s hs
    obtain ⟨segment, -, rfl⟩ := List.mem_map.1 (List.mem_filter.1 hs).1
    exact segment.isVersion_routed
  rw [resource?_eq_some_iff, segments_pathOf]
  exact ⟨IsResource.congr hversion, IsResource.congr fun s hs => (hversion s hs).symm⟩

end Controller

/-- The route of a path has the same segments with the placeholders as parameters.  Its parameters
are the names of the placeholders, each once, in the order of their first places.  Its controller
is named for the first segment behind the first `api`, where empty ones do not count and a version
is skipped, or is the default where there is none. -/
theorem route_of_segments {path : List Segment} (h : path ≠ []) :
    ofUrl (String.ofList (pathOf Segment.shown path)) =
        String.ofList (pathOf Segment.routed path) ∧
      pathParams (String.ofList (pathOf Segment.routed path)) = (namesOf path).eraseDups ∧
      (∀ name, IsResource IsVersion (textsOf path) name →
        controllerName (String.ofList (pathOf Segment.routed path)) =
          titleCase (String.ofList name)) ∧
      ((∀ name, ¬ IsResource IsVersion (textsOf path) name) →
        controllerName (String.ofList (pathOf Segment.routed path)) = "Default") := by
  refine ⟨ofUrl_pathOf h, pathParams_pathOf path, ?_, ?_⟩
  · intro name hname
    apply controllerName_of_some
    rw [String.toList_ofList, (resource?_pathOf path name).2 hname]
  · intro hnone
    apply controllerName_of_none
    rw [String.toList_ofList, Option.eq_none_iff_forall_ne_some]
    intro name hname
    exact hnone name ((resource?_pathOf path name).1 hname)

def Segment.ofText (s : String) (h : s.toList.all (fun c =>
    !(['/', ':', '{', '}', '?', '#'].contains c) && !Text.isBlank c) = true) : Segment :=
  .literal s.toList fun c hc => by simpa using List.all_eq_true.1 h c hc

def Segment.ofName (s : String) (hne : s.toList ≠ []) (h : s.toList.all Text.isWord = true) :
    Segment :=
  .hole s.toList hne (List.all_eq_true.1 h)

/-- A path with an empty segment, a version, and a name that occurs twice. -/
def mixedPath : List Segment :=
  [.ofText "api" (by decide), .ofText "" (by decide), .ofText "v2" (by decide),
    .ofName "id" (by decide) (by decide), .ofText "x-$" (by decide),
    .ofName "id" (by decide) (by decide), .ofName "é" (by decide) (by decide +kernel)]

theorem route_of_mixedPath :
    mixedPath ≠ [] ∧ IsResource IsVersion (textsOf mixedPath) ":id".toList ∧
      ofUrl "/api//v2/\x7bid\x7d/x-$/\x7bid\x7d/\x7bé\x7d" = "/api//v2/:id/x-$/:id/:é" ∧
      pathParams "/api//v2/:id/x-$/:id/:é" = ["id", "é"] ∧
      controllerName "/api//v2/:id/x-$/:id/:é" = "Id" := by
  have hne : mixedPath ≠ [] := List.cons_ne_nil _ _
  have hshown : String.ofList (pathOf Segment.shown mixedPath) =
      "/api//v2/\x7bid\x7d/x-$/\x7bid\x7d/\x7bé\x7d" := by decide
  have hrouted : String.ofList (pathOf Segment.routed mixedPath) = "/api//v2/:id/x-$/:id/:é" := by
    decide
  have hresource : IsResource IsVersion (textsOf mixedPath) ":id".toList := by
    have htexts : textsOf mixedPath = [] ++ apiSegment :: "v2".toList :: ":id".toList ::
        ["x-$".toList, ":id".toList, ":é".toList] := by decide
    rw [htexts]
    exact .behind List.not_mem_nil isVersion_two
  obtain ⟨hroute, hparams, hcontroller, -⟩ := route_of_segments hne
  rw [hrouted] at hroute hparams hcontroller
  rw [hshown] at hroute
  refine ⟨hne, hresource, hroute, hparams.trans (by decide), (hcontroller _ hresource).trans ?_⟩
  decide

end RouteCensus.Route
