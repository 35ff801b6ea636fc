import RouteCensus.Proofs.Endpoint.Union
import RouteCensus.Proofs.Workspace.Accepted

/-! # Limited analyses

A limit on the number of files cuts the sorted list of files off at some place, and
a negative one counts the place from its end.  As an endpoint is kept where its
method and route first occur, an analysis of the first files finds the endpoints
that an analysis of more files begins with.
-/

namespace RouteCensus

/-- The outcome of an analysis of some first files, and the outcome of one that goes on to more.  If
some file `breaks` analyses off, it may do so to the second one only; files further on never save an
analysis that broke off before. -/
inductive Continues (breaks : Prop) :
    Except AnalysisError Analysis → Except AnalysisError Analysis → Prop where
  | found {a b : Analysis} (h : a.endpoints <+: b.endpoints) : Continues breaks (.ok a) (.ok b)
  | failed (e : AnalysisError) : Continues breaks (.error e) (.error e)
  | brokeOff (h : breaks) (a : Analysis) : Continues breaks (.ok a) (.error .tooDeep)

theorem firstOccurrences_isPrefix {es fs : List Endpoint} (h : es <+: fs) :
    firstOccurrences es <+: firstOccurrences fs := by
  obtain ⟨more, rfl⟩ := h
  rw [firstOccurrences_append]
  exact List.prefix_append _ _

namespace Workspace

theorem takeSigned_isPrefix_takeSigned {α : Type} {k n : Int} (hk : 0 ≤ k) (hkn : k ≤ n)
    (items : List α) : takeSigned k items <+: takeSigned n items := by
  rw [takeSigned, takeSigned, if_pos hk, if_pos (hk.trans hkn)]
  exact List.take_prefix_take_left (Int.toNat_le_toNat hkn)

variable (w : Workspace) (parser : Parser) (depth : Nat) (settings : Settings) (root : Path)

/-- The outcome of an analysis of the files with the given paths. -/
def analyzePaths (paths : List Path) : Except AnalysisError Analysis :=
  if paths.any (w.breaksOff parser depth (some settings.maxFileBytes)) then .error .tooDeep
  else .ok (.ofFiles (w.resolve root)
    (paths.map fun p => (p, w.analyzeFile parser (some settings.maxFileBytes) p)))

/-- Some file of a folder that analyses read breaks them off. -/
def HasBreakingFile : Prop :=
  ∃ path ∈ w.candidates settings.scope (w.resolve root),
    w.breaksOff parser depth (some settings.maxFileBytes) path = true

/-- All analyses of a folder, whatever their limits, are analyses of files of one list. -/
theorem analyze_of_limit :
    (∃ e, ∀ limit, w.analyze parser depth settings limit root = .error e) ∨
      ∃ paths, (∀ path ∈ paths, path ∈ w.candidates settings.scope (w.resolve root)) ∧ ∀ limit,
        w.analyze parser depth settings limit root =
          w.analyzePaths parser depth settings root (keptBy limit paths) := by
  cases hroot : w.isFolder root with
  | false => exact .inl ⟨.scan (.noFolder root), fun limit => by simp [analyze, hroot]⟩
  | true =>
    cases hfolder : w.isFolder (w.resolve root) with
    | false =>
      exact .inl ⟨.scan (.noFolder (w.resolve root)), fun limit => by
        simp [analyze, hroot, scan, hfolder]⟩
    | true =>
      refine .inr ⟨(w.candidates settings.scope (w.resolve root)).mergeSort w.comesBefore,
        fun _ => List.mem_mergeSort.1, fun limit => analyze_of_scan hroot ?_⟩
      rw [scan, if_pos hfolder]
      rfl

variable {w parser depth settings root}

/-- An analysis of more files after the same first ones continues the analysis of these. -/
theorem continues_of_prefix {paths more : List Path} (h : paths <+: more)
    (hmore : ∀ path ∈ more, path ∈ w.candidates settings.scope (w.resolve root)) :
    Continues (w.HasBreakingFile parser depth settings root)
      (w.analyzePaths parser depth settings root paths)
      (w.analyzePaths parser depth settings root more) := by
  obtain ⟨rest, rfl⟩ := h
  have hfirst := Analysis.ofFiles_tellsOf w parser settings.maxFileBytes (w.resolve root) paths
  have hall :=
    Analysis.ofFiles_tellsOf w parser settings.maxFileBytes (w.resolve root) (paths ++ rest)
  unfold analyzePaths
  rw [List.any_append]
  cases paths.any (w.breaksOff parser depth (some settings.maxFileBytes)) with
  | true => exact .failed _
  | false =>
    cases hrest : rest.any (w.breaksOff parser depth (some settings.maxFileBytes)) with
    | true =>
      obtain ⟨path, hpath, hbreaks⟩ := List.any_eq_true.1 hrest
      exact .brokeOff ⟨path, hmore path (List.mem_append_right _ hpath), hbreaks⟩ _
    | false =>
      refine .found ?_
      rw [hfirst.endpoints_eq, hall.endpoints_eq, List.flatMap_append]
      exact firstOccurrences_isPrefix (List.prefix_append _ _)

/-- A larger limit continues an analysis, and no limit continues that of any limit. -/
theorem analyze_continues (w : Workspace) (parser : Parser) (depth : Nat) (settings : Settings)
    (root : Path) :
    (∀ k n : Int, 0 ≤ k → k ≤ n →
      Continues (w.HasBreakingFile parser depth settings root)
        (w.analyze parser depth settings (some k) root)
        (w.analyze parser depth settings (some n) root)) ∧
      ∀ n : Int, Continues (w.HasBreakingFile parser depth settings root)
        (w.analyze parser depth settings (some n) root)
        (w.analyze parser depth settings none root) := by
  rcases w.analyze_of_limit parser depth settings root with ⟨e, herror⟩ | ⟨paths, hmem, hpaths⟩
  · simp only [herror]
    exact ⟨fun _ _ _ _ => .failed e, fun _ => .failed e⟩
  · simp only [hpaths]
    refine ⟨fun k n hk hkn => ?_, fun n => continues_of_prefix (takeSigned_isPrefix n paths) hmem⟩
    exact continues_of_prefix (takeSigned_isPrefix_takeSigned hk hkn paths) fun path hpath =>
      hmem path ((takeSigned_isPrefix n paths).subset hpath)

/-- A parser that takes any source for the last segment of a path to fetch. -/
def segmentParser : Parser := fun _ source =>
  .mk { kind := "program" } [.mk { kind := "call_expression" }
    [.mk { kind := "identifier", field := some "function",
           bytes := Text.Utf8.encode "fetch".toList } [],
      .mk { kind := "arguments", field := some "arguments" } [.mk { kind := "string" }
        [.mk { kind := "string_fragment",
               bytes := Text.Utf8.encode ("/api/".toList ++ source.toList) } []]]]]

/-- Two of three files ask for the same; the last one, which a limit of minus one leaves out, adds
an endpoint. -/
theorem analyze_continues_threeFiles :
    let run := fun limit => threeFiles.analyze segmentParser 9 {} limit ⟨false, []⟩
    let routes := fun limit => (run limit).toOption.map fun a => a.endpoints.map Endpoint.rawPath
    let breaks := threeFiles.HasBreakingFile segmentParser 9 {} ⟨false, []⟩
    (routes (some 0) = some [] ∧ routes (some 1) = some ["/api/"] ∧
      routes (some (-1)) = some ["/api/"] ∧ routes none = some ["/api/", "/api/\x00"]) ∧
    Continues breaks (run (some 0)) (run (some 1)) ∧ Continues breaks (run (some 1)) (run none) ∧
      Continues breaks (run (some (-1))) (run none) := by
  intro run routes breaks
  obtain ⟨hlimits, hnone⟩ := analyze_continues threeFiles segmentParser 9 {} ⟨false, []⟩
  have hrun : ∀ limit, run limit = threeFiles.analyzePaths segmentParser 9 {} ⟨false, []⟩
      (keptBy limit [⟨false, ["a.js"]⟩, ⟨false, ["b.js"]⟩, ⟨false, ["c.js"]⟩]) := by
    intro limit
    refine analyze_of_scan (by decide +kernel) ?_
    rw [← sorted_threeFiles]
    rfl
  have hroutes : ∀ limit, routes limit = (threeFiles.analyzePaths segmentParser 9 {} ⟨false, []⟩
      (keptBy limit [⟨false, ["a.js"]⟩, ⟨false, ["b.js"]⟩, ⟨false, ["c.js"]⟩])).toOption.map
        fun a => a.endpoints.map Endpoint.rawPath :=
    fun limit => congrArg (fun r => r.toOption.map fun a => a.endpoints.map Endpoint.rawPath)
      (hrun limit)
  simp only [hroutes]
  exact ⟨⟨by decide +kernel, by decide +kernel, by decide +kernel, by decide +kernel⟩,
    hlimits 0 1 le_rfl (by decide), hnone 1, hnone (-1)⟩

end Workspace

end RouteCensus
