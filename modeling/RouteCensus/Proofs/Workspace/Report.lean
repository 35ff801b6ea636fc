import RouteCensus.Proofs.Endpoint.FirstWins
import RouteCensus.Workspace.Analysis

/-! # What an analysis reports

The files of a scan stand in the order of their paths.  The endpoints of an
analysis are the first occurrences among all endpoints that the calls of these
files give, in this order, and every call of a file that could be analysed is
counted once: as rejected, as a duplicate, or by the endpoint that it gives.
-/

namespace RouteCensus

namespace Workspace

variable (w : Workspace) (parser : Parser) (maxBytes : Int)

/-- The HTTP calls of a file in source order, if the file can be analysed. -/
def fileCalls? (path : Path) : Option (List Observation) :=
  match w.fileBytes? path with
  | none => none
  | some bytes =>
    if maxBytes < bytes.length then none
    else
      match parseSource parser (String.ofList (Text.Utf8.decodeLenient bytes))
        (Grammar.ofPath path) with
      | .ok tree => some tree.observations
      | .error _ => none

/-- The HTTP calls of a file, none if it fails. -/
def calls (path : Path) : List Observation :=
  (w.fileCalls? parser maxBytes path).getD []

/-- The endpoints that the calls of a file give, in source order. -/
def admitted (path : Path) : List Endpoint :=
  (w.calls parser maxBytes path).filterMap fun call => call.describe? (w.pathText path)

/-- The calls of a file that give no endpoint. -/
def rejectedCalls (path : Path) : List Observation :=
  (w.calls parser maxBytes path).filter fun call => (call.describe? (w.pathText path)).isNone

theorem analyzeFile_eq (path : Path) :
    w.analyzeFile parser (some maxBytes) path =
      match w.fileCalls? parser maxBytes path with
      | none => { failed := true }
      | some calls => .ofCalls (w.pathText path) calls := by
  unfold analyzeFile fileCalls?
  cases w.fileBytes? path with
  | none => rfl
  | some bytes =>
    by_cases hlarge : maxBytes < bytes.length
    · simp [hlarge]
    · simp only [Option.any_some, hlarge, decide_false, if_false, Bool.false_eq_true, analyzeBytes]
      cases parseSource parser (String.ofList (Text.Utf8.decodeLenient bytes))
        (Grammar.ofPath path) <;> rfl

theorem analyzeFile_endpoints (path : Path) :
    (w.analyzeFile parser (some maxBytes) path).endpoints = w.admitted parser maxBytes path := by
  rw [analyzeFile_eq, admitted, calls]
  cases w.fileCalls? parser maxBytes path <;> rfl

theorem analyzeFile_callSites (path : Path) :
    (w.analyzeFile parser (some maxBytes) path).callSites =
      (w.calls parser maxBytes path).length := by
  rw [analyzeFile_eq, calls]
  cases w.fileCalls? parser maxBytes path <;> rfl

theorem length_admitted_add (path : Path) :
    (w.admitted parser maxBytes path).length + (w.rejectedCalls parser maxBytes path).length =
      (w.calls parser maxBytes path).length := by
  unfold admitted rejectedCalls
  induction w.calls parser maxBytes path with
  | nil => rfl
  | cons call calls ih =>
    cases hcall : call.describe? (w.pathText path) with
    | none =>
      simp only [List.filterMap_cons, hcall, List.filter_cons, Option.isNone_none, ite_true,
        List.length_cons]
      omega
    | some e =>
      simp only [List.filterMap_cons, hcall, List.filter_cons, Option.isNone_some,
        Bool.false_eq_true, ite_false, List.length_cons]
      omega

theorem analyzeFile_rejected (path : Path) :
    (w.analyzeFile parser (some maxBytes) path).rejected =
      (w.rejectedCalls parser maxBytes path).length := by
  rw [analyzeFile_eq, rejectedCalls, calls, ← List.countP_eq_length_filter]
  cases w.fileCalls? parser maxBytes path <;> rfl

theorem analyzeFile_failed (path : Path) :
    (w.analyzeFile parser (some maxBytes) path).failed =
      (w.fileCalls? parser maxBytes path).isNone := by
  rw [analyzeFile_eq]
  cases w.fileCalls? parser maxBytes path <;> rfl

end Workspace

/-- What an analysis says of the files with the given paths. -/
structure Analysis.TellsOf (a : Analysis) (w : Workspace) (parser : Parser) (maxBytes : Int)
    (paths : List Path) : Prop where
  /-- Of all endpoints, file by file and call by call, those whose method and route are new. -/
  endpoints_eq : a.endpoints = firstOccurrences (paths.flatMap (w.admitted parser maxBytes))
  /-- None is changed or moved. -/
  endpoints_sublist : a.endpoints.Sublist (paths.flatMap (w.admitted parser maxBytes))
  targets_nodup : (a.endpoints.map Endpoint.target).Nodup
  target_mem : ∀ e ∈ paths.flatMap (w.admitted parser maxBytes),
    e.target ∈ a.endpoints.map Endpoint.target
  callSites_eq : a.callSites = (paths.flatMap (w.calls parser maxBytes)).length
  rejected_eq : a.rejected = (paths.flatMap (w.rejectedCalls parser maxBytes)).length
  duplicates_eq : a.duplicates =
    (({} : EndpointIndex).extend (paths.flatMap (w.admitted parser maxBytes))).duplicates
  callSites_balance : a.callSites = a.rejected + a.duplicates + a.endpoints.length
  failed_eq : a.filesFailed = paths.filter fun path => (w.fileCalls? parser maxBytes path).isNone
  /-- A failed file counts for nothing in the numbers above. -/
  failed_calls : ∀ path ∈ a.filesFailed, w.calls parser maxBytes path = []

namespace Workspace

theorem total_analyzeFile {α : Type} (w : Workspace) (parser : Parser) (maxBytes : Int)
    (paths : List Path) {number : FileAnalysis → Nat} {items : Path → List α}
    (h : ∀ path, number (w.analyzeFile parser (some maxBytes) path) = (items path).length) :
    FileAnalysis.total number (paths.map fun p => (p, w.analyzeFile parser (some maxBytes) p)) =
      (paths.flatMap items).length := by
  induction paths with
  | nil => rfl
  | cons path paths ih =>
    rw [List.flatMap_cons, List.length_append, ← h, ← ih]
    rfl

theorem length_flatMap_admitted_add (w : Workspace) (parser : Parser) (maxBytes : Int)
    (paths : List Path) :
    (paths.flatMap (w.admitted parser maxBytes)).length +
      (paths.flatMap (w.rejectedCalls parser maxBytes)).length =
      (paths.flatMap (w.calls parser maxBytes)).length := by
  induction paths with
  | nil => rfl
  | cons path paths ih =>
    have hpath := w.length_admitted_add parser maxBytes path
    simp only [List.flatMap_cons, List.length_append]
    omega

end Workspace

theorem Analysis.ofFiles_tellsOf (w : Workspace) (parser : Parser) (maxBytes : Int) (root : Path)
    (paths : List Path) :
    (Analysis.ofFiles root (paths.map fun p => (p, w.analyzeFile parser (some maxBytes) p))).TellsOf
      w parser maxBytes paths := by
  set files := paths.map fun p => (p, w.analyzeFile parser (some maxBytes) p) with hfiles
  have hendpoints : (Analysis.ofFiles root files).endpoints =
      firstOccurrences (paths.flatMap (w.admitted parser maxBytes)) := by
    simp only [hfiles, Analysis.ofFiles, aggregate_eq_firstOccurrences, List.map_map,
      Function.comp_def, w.analyzeFile_endpoints, ← List.flatMap_def]
  have hduplicates : (Analysis.ofFiles root files).duplicates =
      (paths.flatMap (w.admitted parser maxBytes)).length -
        (firstOccurrences (paths.flatMap (w.admitted parser maxBytes))).length := by
    have htotal : FileAnalysis.total (fun f => f.endpoints.length) files =
        (paths.flatMap (w.admitted parser maxBytes)).length :=
      w.total_analyzeFile parser maxBytes paths fun path =>
        congrArg List.length (w.analyzeFile_endpoints parser maxBytes path)
    rw [← hendpoints, ← htotal]
    rfl
  have hcallSites : (Analysis.ofFiles root files).callSites =
      (paths.flatMap (w.calls parser maxBytes)).length :=
    w.total_analyzeFile parser maxBytes paths (w.analyzeFile_callSites parser maxBytes)
  have hrejected : (Analysis.ofFiles root files).rejected =
      (paths.flatMap (w.rejectedCalls parser maxBytes)).length :=
    w.total_analyzeFile parser maxBytes paths (w.analyzeFile_rejected parser maxBytes)
  have hfailed : (Analysis.ofFiles root files).filesFailed =
      paths.filter fun path => (w.fileCalls? parser maxBytes path).isNone := by
    simp only [hfiles, Analysis.ofFiles, List.filter_map, List.map_map, Function.comp_def,
      w.analyzeFile_failed, List.map_id']
  have hindex := EndpointIndex.length_entries_extend {} (paths.flatMap (w.admitted parser maxBytes))
  rw [EndpointIndex.entries_extend] at hindex
  simp only [List.length_nil, Nat.zero_add, Nat.add_zero] at hindex
  have hcalls := w.length_flatMap_admitted_add parser maxBytes paths
  refine ⟨hendpoints, ?_, ?_, ?_, hcallSites, hrejected, ?_, ?_, hfailed, ?_⟩
  · rw [hendpoints]
    exact firstOccurrences_sublist _
  · rw [hendpoints]
    exact firstOccurrences_nodup _
  · intro e he
    rw [hendpoints, mem_target_firstOccurrences]
    exact List.mem_map_of_mem he
  · omega
  · rw [hcallSites, hrejected, hduplicates, hendpoints]
    omega
  · intro path hpath
    rw [hfailed, List.mem_filter, Option.isNone_iff_eq_none] at hpath
    rw [Workspace.calls, hpath.2, Option.getD_none]

namespace Workspace

theorem comesBefore_iff (w : Workspace) (p q : Path) :
    w.comesBefore p q = true ↔ w.pathText p ≤ w.pathText q := by
  rw [comesBefore, Bool.not_eq_true', decide_eq_false_iff_not]
  exact String.not_lt

theorem takeSigned_isPrefix {α : Type} (n : Int) (items : List α) :
    takeSigned n items <+: items := by
  unfold takeSigned
  split <;> exact List.take_prefix _ _

theorem scan_pairwise {w : Workspace} {o : ScanOptions} {root : Path} {paths : List Path}
    (h : w.scan o root = .ok paths) : paths.Pairwise fun p q => w.pathText p ≤ w.pathText q := by
  have hsorted : ((w.candidates o root).mergeSort w.comesBefore).Pairwise
      fun p q => w.comesBefore p q = true := by
    apply List.pairwise_mergeSort
    · intro p q r hpq hqr
      rw [comesBefore_iff] at *
      exact String.le_trans hpq hqr
    · intro p q
      rw [Bool.or_eq_true, comesBefore_iff, comesBefore_iff]
      exact String.le_total _ _
  have hsub : paths.Sublist ((w.candidates o root).mergeSort w.comesBefore) := by
    unfold scan at h
    split at h
    · cases h
      cases o.limit with
      | none => exact List.Sublist.refl _
      | some n => exact (takeSigned_isPrefix n _).sublist
    · cases h
  exact (hsorted.sublist hsub).imp fun {p q} hpq => (w.comesBefore_iff p q).1 hpq

theorem analyze_of_scan {w : Workspace} {parser : Parser} {depth : Nat} {settings : Settings}
    {limit : Option Int} {root : Path} {paths : List Path} (hroot : w.isFolder root = true)
    (hscan : w.scan ⟨settings.extensions, some settings.ignoredDirs, limit⟩ (w.resolve root) =
      .ok paths) :
    w.analyze parser depth settings limit root =
      if paths.any (w.breaksOff parser depth (some settings.maxFileBytes)) then .error .tooDeep
      else .ok (.ofFiles (w.resolve root)
        (paths.map fun p => (p, w.analyzeFile parser (some settings.maxFileBytes) p))) := by
  simp only [analyze, hroot, if_true, hscan]

/-- An analysis that comes to an end tells of the files of the scan, which stand in the order of
their paths: of their endpoints, and of what became of every call. -/
theorem analyze_tellsOf {w : Workspace} {parser : Parser} {depth : Nat} {settings : Settings}
    {limit : Option Int} {root : Path} {a : Analysis}
    (h : w.analyze parser depth settings limit root = .ok a) :
    ∃ paths : List Path,
      w.scan ⟨settings.extensions, some settings.ignoredDirs, limit⟩ (w.resolve root) =
        .ok paths ∧
      (paths.Pairwise fun p q => w.pathText p ≤ w.pathText q) ∧
      a.TellsOf w parser settings.maxFileBytes paths := by
  unfold analyze at h
  split at h
  · cases hscan :
      w.scan ⟨settings.extensions, some settings.ignoredDirs, limit⟩ (w.resolve root) with
    | error e => simp [hscan] at h
    | ok paths =>
      simp only [hscan] at h
      refine ⟨paths, rfl, scan_pairwise hscan, ?_⟩
      split at h
      · cases h
      · rw [← Except.ok.inj h]
        exact Analysis.ofFiles_tellsOf w parser settings.maxFileBytes (w.resolve root) paths
  · cases h

/-- A program that calls `fetch('/api/a')`. -/
def fetchProgram : Node :=
  let leaf kind field text children :=
    Node.mk { kind, field, bytes := Text.Utf8.encode text } children
  let target :=
    leaf "string" none "'/api/a'".toList [leaf "string_fragment" none "/api/a".toList []]
  leaf "program" none [] [leaf "call_expression" none []
    [leaf "identifier" (some "function") "fetch".toList [],
      leaf "arguments" (some "arguments") [] [target]]]

/-- Two empty files and one of a single byte. -/
def threeFiles : Workspace where
  base := "/w"
  files := .folder [("w", .folder [("b.js", .file []), ("c.js", .file [0]), ("a.js", .file [])])]

theorem sorted_threeFiles :
    (threeFiles.candidates
        ⟨({} : Settings).extensions, some ({} : Settings).ignoredDirs, none⟩ ⟨false, []⟩).mergeSort
      threeFiles.comesBefore = [⟨false, ["a.js"]⟩, ⟨false, ["b.js"]⟩, ⟨false, ["c.js"]⟩] := by
  have hfound :
      threeFiles.candidates ⟨({} : Settings).extensions, some ({} : Settings).ignoredDirs, none⟩
      ⟨false, []⟩ = [⟨false, ["b.js"]⟩, ⟨false, ["c.js"]⟩, ⟨false, ["a.js"]⟩] := by decide +kernel
  have hba : threeFiles.comesBefore ⟨false, ["b.js"]⟩ ⟨false, ["a.js"]⟩ = false := by decide +kernel
  have hbc : threeFiles.comesBefore ⟨false, ["b.js"]⟩ ⟨false, ["c.js"]⟩ = true := by decide +kernel
  rw [hfound]
  simp [List.mergeSort, hba, hbc]

theorem analyze_threeFiles : ∃ a,
    threeFiles.analyze (fun _ _ => fetchProgram) 9 { maxFileBytes := 0 } none ⟨false, []⟩ = .ok a ∧
    a.callSites = 2 ∧ a.rejected = 0 ∧ a.duplicates = 1 ∧ a.filesFailed = [⟨false, ["c.js"]⟩] ∧
    ∃ paths : List Path,
      threeFiles.scan ⟨({} : Settings).extensions, some ({} : Settings).ignoredDirs, none⟩
        ⟨false, []⟩ = .ok paths ∧
      (paths.Pairwise fun p q => threeFiles.pathText p ≤ threeFiles.pathText q) ∧
      a.TellsOf threeFiles (fun _ _ => fetchProgram) 0 paths := by
  have hrun : threeFiles.analyze (fun _ _ => fetchProgram) 9 { maxFileBytes := 0 } none ⟨false, []⟩ =
      .ok (.ofFiles ⟨false, []⟩ ([⟨false, ["a.js"]⟩, ⟨false, ["b.js"]⟩, ⟨false, ["c.js"]⟩].map fun p =>
        (p, threeFiles.analyzeFile (fun _ _ => fetchProgram) (some 0) p))) := by
    have hscan : threeFiles.scan ⟨({} : Settings).extensions, some ({} : Settings).ignoredDirs, none⟩
        ⟨false, []⟩ = .ok [⟨false, ["a.js"]⟩, ⟨false, ["b.js"]⟩, ⟨false, ["c.js"]⟩] := by
      rw [← sorted_threeFiles]
      rfl
    exact (analyze_of_scan (by decide +kernel) hscan).trans (if_neg (by decide +kernel))
  exact ⟨_, hrun, by decide +kernel, by decide +kernel, by decide +kernel, by decide +kernel,
    analyze_tellsOf hrun⟩

end Workspace

end RouteCensus
