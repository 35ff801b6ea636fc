import RouteCensus.Command.Run
import RouteCensus.Proofs.Workspace.Writes

/-! # Scanning twice

A scan that writes its contracts changes the workspace that it reads.  Run again,
it finds the same endpoints and writes the same document with another time, unless
the contracts went to a place where source files are looked for, or to the file
that the settings come from.
-/

namespace RouteCensus

namespace Workspace

variable {w w' : Workspace}

/-- Settings depend on the environment and on the bytes of one file. -/
theorem settings_congr (henvironment : w.environment = w'.environment)
    (hbytes : w.fileBytes? (Path.ofText ".env") = w'.fileBytes? (Path.ofText ".env")) :
    w.settings [] = w'.settings [] := by
  have hfile : w.fileVariables? ".env" = w'.fileVariables? ".env" := by
    simp only [fileVariables?, hbytes, henvironment]
  have hfiles : (Settings.Lookup.ofValues []).files = [".env"] := rfl
  simp only [settings, hfiles, List.mapM_cons, List.mapM_nil, hfile, henvironment]

theorem isFolder_of_analyze {parser : Parser} {depth : Nat} {settings : Settings}
    {limit : Option Int} {root : Path} {a : Analysis}
    (h : w.analyze parser depth settings limit root = .ok a) : w.isFolder root = true := by
  unfold analyze at h
  split at h
  · next hroot => exact hroot
  · cases h

theorem not_mem_of_mem_locate {p : Path} (hp : ∀ name ∈ p.parts, '/' ∉ name.toList) :
    ∀ name ∈ w.locate p, '/' ∉ name.toList := by
  intro name hname
  unfold locate at hname
  split at hname
  · exact hp name hname
  · rcases List.mem_append.1 hname with hname | hname
    · exact Path.not_mem_of_mem_ofText w.base name hname
    · exact hp name hname

/-- The parts of a path that is resolved hold no separator. -/
theorem not_mem_of_mem_resolve {p : Path} (hp : ∀ name ∈ p.parts, '/' ∉ name.toList) :
    ∀ name ∈ (w.resolve p).parts, '/' ∉ name.toList := by
  intro name hname
  unfold resolve at hname
  split at hname
  · exact not_mem_of_mem_locate hp name (Path.mem_of_mem_collapse hname)
  · exact hp name (Path.mem_of_mem_collapse hname)

theorem not_mem_of_expandUser? {p path : Path} (h : w.expandUser? p = some path)
    (hp : ∀ name ∈ p.parts, '/' ∉ name.toList) : ∀ name ∈ path.parts, '/' ∉ name.toList := by
  unfold expandUser? at h
  split at h
  · split at h
    · cases h
    · next hrelative _ _ home _ =>
      split at h
      · cases h
      · obtain rfl := Option.some.inj h
        intro name hname
        simp only [Path.join, hrelative] at hname
        rcases List.mem_append.1 hname with hname | hname
        · exact Path.not_mem_of_mem_ofText _ name hname
        · exact hp name (List.mem_of_mem_tail hname)
  · obtain rfl := Option.some.inj h
    exact hp

end Workspace

namespace Command

open Workspace

variable {w w' : Workspace}

/-- Paths are given in relation to the base and the homes, which a write keeps. -/
theorem pathOf_write {path : Path} {bytes : List UInt8} (h : w.write path bytes = .ok w')
    (s : String) : pathOf w' s = pathOf w s := by
  obtain ⟨files, -, rfl⟩ := exists_of_write h
  rfl

theorem contractsPath_write {path : Path} {bytes : List UInt8} (h : w.write path bytes = .ok w')
    (hsettings : w'.settings [] = w.settings []) (asked : Option String) :
    contractsPath w' asked = contractsPath w asked := by
  simp only [contractsPath, hsettings, pathOf_write h]

theorem contractsPath_of_given {asked : String} (h : asked.isEmpty = false) (w : Workspace) :
    contractsPath w (some asked) = pathOf w asked := by
  simp [contractsPath, Option.filter, h]

theorem not_mem_of_pathOf {s : String} {path : Path} (h : pathOf w s = .ok path) :
    ∀ name ∈ path.parts, '/' ∉ name.toList := by
  unfold pathOf at h
  split at h
  · cases h
  · next given hgiven =>
    obtain rfl := Except.ok.inj h
    exact not_mem_of_mem_resolve
      (not_mem_of_expandUser? hgiven (Path.not_mem_of_mem_ofText s))

theorem not_mem_of_contractsPath {asked : Option String} {path : Path}
    (h : contractsPath w asked = .ok path) : ∀ name ∈ w.locate path, '/' ∉ name.toList := by
  apply not_mem_of_mem_locate
  unfold contractsPath at h
  split at h
  · exact not_mem_of_pathOf h
  · split at h
    · cases h
    · split at h
      · exact not_mem_of_pathOf h
      · obtain rfl := Except.ok.inj h
        decide +kernel

/-- What is said when contracts have been written. -/
def writtenItems (w : Workspace) (format : String) (path : Path) : List Item :=
  if isJsonFormat format then [] else
    [.message s!"[bold green]Wrote[/bold green] contracts to: {w.pathText path}"]

/-- A scan that gets as far as writing the contracts of its analysis to a path. -/
structure Scan.Writes (now : Timestamp) (host : Host) (w : Workspace) (o : Scan) (source : Path)
    (settings : Settings) (a : Analysis) (path : Path) (w' : Workspace) : Prop where
  source_eq : pathOf w o.source = .ok source
  settings_eq : w.settings [] = .ok settings
  analyze_eq : w.analyze host.parser host.depth settings o.maxFiles source = .ok a
  printed : (host.console.printAll (scanItems w o.format a)).2 = none
  write : o.write = true
  path_eq : contractsPath w o.out = .ok path
  written : w.writeContracts path (.ofScan now (w.pathText a.root) a.endpoints) = .ok w'

namespace Scan

variable {now now' : Timestamp} {host : Host} {o : Scan} {settings : Settings} {a : Analysis}
  {source path : Path}

theorem Writes.runScan_eq (h : Writes now host w o source settings a path w') :
    runScan now host w o = .ended w' 0
      ((host.console.printAll (scanItems w o.format a)).1 ++
        (host.console.printAll (writtenItems w o.format path)).1)
      (host.console.printAll (writtenItems w o.format path)).2 := by
  have hprinted := h.printed
  simp only [runScan, h.source_eq, h.settings_eq, h.analyze_eq]
  generalize host.console.printAll (scanItems w o.format a) = printed at hprinted ⊢
  obtain ⟨text, failure⟩ := printed
  obtain rfl : failure = none := hprinted
  simp only [h.write, if_true, writeReport, h.path_eq, h.written]
  rfl

theorem exitCode_ended (w : Workspace) (output : List Char)
    (failure : Option Terminal.Markup.Error) :
    (Outcome.ended w 0 output failure).exitCode = 0 ↔ failure = none := by
  cases failure <;> simp [Outcome.ended, Outcome.broken]

/-- A scan that is told to write and ends well has written. -/
theorem writes_of_exitCode (hexit : (runScan now host w o).exitCode = 0) (hwrite : o.write = true) :
    ∃ source settings a path w', Writes now host w o source settings a path w' := by
  unfold runScan at hexit
  cases hsource : pathOf w o.source with
  | error cause => simp [hsource, Outcome.broken] at hexit
  | ok source =>
  simp only [hsource] at hexit
  cases hsettings : w.settings [] with
  | error cause => simp [hsettings, Outcome.broken] at hexit
  | ok settings =>
  simp only [hsettings] at hexit
  cases hanalyze : w.analyze host.parser host.depth settings o.maxFiles source with
  | error cause => cases cause <;> simp [hanalyze, Outcome.usage, Outcome.broken] at hexit
  | ok a =>
  simp only [hanalyze] at hexit
  cases hprint : host.console.printAll (scanItems w o.format a) with
  | mk text failure =>
  cases failure with
  | some cause => simp [hprint, exitCode_ended] at hexit
  | none =>
  simp only [hprint, hwrite, if_true, writeReport] at hexit
  cases hpath : contractsPath w o.out with
  | error cause => simp [hpath, Outcome.broken] at hexit
  | ok path =>
  simp only [hpath] at hexit
  cases hwritten : w.writeContracts path (.ofScan now (w.pathText a.root) a.endpoints) with
  | error cause => simp [hwritten, Outcome.broken] at hexit
  | ok w' =>
  exact ⟨source, settings, a, path, w', hsource, hsettings, hanalyze, by rw [hprint], hwrite, hpath,
    hwritten⟩

theorem printAll_scanItems_of_json {format : String} (h : isJsonFormat format = true)
    (console : Console) (w : Workspace) (a : Analysis) :
    console.printAll (scanItems w format a) =
      (((Json.arr (a.endpoints.map Endpoint.toJson)).pretty .ascii).toList ++ ['\n'], none) := by
  simp [scanItems, h, endpointsJson, Console.printAll, Console.lines]

theorem scanItems_congr (hbase : w.base = w'.base) (format : String) (a : Analysis) :
    scanItems w format a = scanItems w' format a := by
  have hroot : w.pathText a.root = w'.pathText a.root := congrArg (fun base => a.root.text base) hbase
  rw [scanItems, scanItems, hroot]

theorem writtenItems_congr (hbase : w.base = w'.base) (format : String) (path : Path) :
    writtenItems w format path = writtenItems w' format path := by
  have hpath : w.pathText path = w'.pathText path := congrArg (fun base => path.text base) hbase
  rw [writtenItems, writtenItems, hpath]

/-- The write does not reach the file that the settings come from. -/
theorem Writes.settings_again (hw : w.Proper) (h : Writes now host w o source settings a path w')
    (hvariables : w.place path ≠ w.place (Path.ofText ".env")) : w'.settings [] = .ok settings := by
  have hwrite : w.write path (Contracts.ofScan now (w.pathText a.root) a.endpoints).bytes = .ok w' :=
    h.written
  have hlocate : w.locate (Path.ofText ".env") = (Path.ofText w.base).parts ++ [".env"] := by
    have hparts : Path.ofText ".env" = ⟨false, [".env"]⟩ := by decide +kernel
    rw [hparts]
    rfl
  have hdots : ".." ∉ w.locate (Path.ofText ".env") := by
    rw [hlocate, List.mem_append, not_or]
    exact ⟨hw.base, by decide⟩
  rw [place.eq_1 w (Path.ofText ".env"), Path.collapse_of_not_mem hdots] at hvariables
  rw [← h.settings_eq]
  exact settings_congr (environment_write hwrite)
    (fileBytes?_write_of_ne hwrite hdots hvariables.symm)

/-- A scan that has written finds the same and writes to the same place when it is run again. -/
theorem Writes.again (hw : w.Proper) (h : Writes now host w o source settings a path w')
    (hsources : ∀ way, settings.scope.Covers way →
      w.place path ≠ w.place source ++ way)
    (hvariables : w.place path ≠ w.place (Path.ofText ".env")) (now' : Timestamp) :
    ∃ w'', Writes now' host w' o source settings a path w'' := by
  have hwrite : w.write path (Contracts.ofScan now (w.pathText a.root) a.endpoints).bytes = .ok w' :=
    h.written
  have hnames := not_mem_of_contractsPath h.path_eq
  have hbase : w'.base = w.base := base_write hwrite
  have hsettings := h.settings_again hw hvariables
  have hroot := isFolder_of_analyze h.analyze_eq
  have hsame : SameAccepted w w' settings.scope source := sameAccepted_write hwrite hroot hsources
  obtain ⟨w'', hagain⟩ := Workspace.write_again hwrite
    (Contracts.ofScan now' (w.pathText a.root) a.endpoints).bytes
  refine ⟨w'', (pathOf_write hwrite _).trans h.source_eq, hsettings, ?_, ?_, h.write, ?_, ?_⟩
  · rw [← hsame.analyze_eq hw (Proper.write hwrite hnames hw), h.analyze_eq]
  · rw [scanItems_congr hbase]
    exact h.printed
  · rw [contractsPath_write hwrite (hsettings.trans h.settings_eq.symm)]
    exact h.path_eq
  · rw [pathText, hbase]
    exact hagain

theorem Writes.fileBytes?_eq (h : Writes now host w o source settings a path w') :
    w'.fileBytes? path = some (Contracts.ofScan now (w.pathText a.root) a.endpoints).bytes :=
  fileBytes?_write h.written

end Scan

theorem ended_workspace (w w' : Workspace) (exitCode : Nat) (output : List Char)
    (failure : Option Terminal.Markup.Error) :
    Outcome.ended w' exitCode output failure =
      { Outcome.ended w exitCode output failure with workspace := w' } := by
  cases failure <;> rfl

/-- An analysis depends on the accepted files alone.  So a scan can be repeated that writes its
contracts neither where source files are looked for nor over the file of its settings: it finds and
prints the same, and writes the same document but for the time. -/
theorem scan_again (host : Host) :
    (∀ {w w' : Workspace} {settings : Settings} {root : Path}, w.Proper → w'.Proper →
      SameAccepted w w' settings.scope root → ∀ limit,
        w.analyze host.parser host.depth settings limit root =
          w'.analyze host.parser host.depth settings limit root) ∧
    (∀ {now w words o}, Request.ofWords? words = some (.scan o) → o.write = true →
      (run now host w words).exitCode = 0 →
      ∃ source settings a path w', Scan.Writes now host w o source settings a path w') ∧
    ∀ {now w w' words o source settings a path}, w.Proper →
      Request.ofWords? words = some (.scan o) →
      Scan.Writes now host w o source settings a path w' →
      (∀ way, settings.scope.Covers way → w.place path ≠ w.place source ++ way) →
      w.place path ≠ w.place (Path.ofText ".env") →
      (run now host w words).workspace = w' ∧
      w'.fileBytes? path = some (Contracts.ofScan now (w.pathText a.root) a.endpoints).bytes ∧
      ∀ now', ∃ w'', Scan.Writes now' host w' o source settings a path w'' ∧
        run now' host w' words = { run now host w words with workspace := w'' } ∧
        w''.fileBytes? path =
          some (Contracts.ofScan now' (w.pathText a.root) a.endpoints).bytes := by
  have hrun : ∀ {now w words o}, Request.ofWords? words = some (.scan o) →
      run now host w words = runScan now host w o := by
    intro now w words o hwords
    rw [run, hwords]
  refine ⟨fun hw hw' hsame limit => hsame.analyze_eq hw hw' host.parser host.depth limit, ?_, ?_⟩
  · intro now w words o hwords hwrite hexit
    rw [hrun hwords] at hexit
    exact Scan.writes_of_exitCode hexit hwrite
  · intro now w w' words o source settings a path hw hwords h hsources hvariables
    have hbase : w'.base = w.base := base_write h.written
    rw [hrun hwords, h.runScan_eq]
    refine ⟨?_, h.fileBytes?_eq, fun now' => ?_⟩
    · rw [ended_workspace w]
    · obtain ⟨w'', hagain⟩ := h.again hw hsources hvariables now'
      refine ⟨w'', hagain, ?_, ?_⟩
      · rw [hrun hwords, hagain.runScan_eq, Scan.scanItems_congr hbase,
          Scan.writtenItems_congr hbase, ← ended_workspace]
      · rw [hagain.fileBytes?_eq, pathText, hbase]
        rfl

/-- A folder with one source file. -/
def oneSource : Workspace where
  base := "/w"
  files := .folder [("w", .folder [("src", .folder [("a.js", .file [])])])]

/-- The contracts may lie inside the folder that is scanned. -/
theorem scan_again_oneSource :
    let words := ["scan", "src", "--out", "src/contracts.json", "--format", "json"]
    let host := Host.usual fun _ _ => fetchProgram
    let first := run ⟨2024, 5, 6, 7, 8, 9, 0, some 0⟩ host oneSource words
    let second := run ⟨2025, 1, 1, 0, 0, 0, 0, some 0⟩ host first.workspace words
    first.exitCode = 0 ∧ second.exitCode = 0 ∧ second.output = first.output ∧
    ∃ root endpoints,
      first.workspace.fileBytes? ⟨false, ["src", "contracts.json"]⟩ =
        some (Contracts.ofScan ⟨2024, 5, 6, 7, 8, 9, 0, some 0⟩ root endpoints).bytes ∧
      second.workspace.fileBytes? ⟨false, ["src", "contracts.json"]⟩ =
        some (Contracts.ofScan ⟨2025, 1, 1, 0, 0, 0, 0, some 0⟩ root endpoints).bytes := by
  intro words host first second
  have hwords : Request.ofWords? words = some (.scan
    { source := "src", out := some "src/contracts.json", format := "json" }) := by decide +kernel
  have hexit : first.exitCode = 0 := by decide +kernel
  obtain ⟨-, hwrites, hagain⟩ := scan_again host
  obtain ⟨source, settings, a, path, w', h⟩ := hwrites hwords rfl hexit
  obtain rfl : ⟨false, ["src"]⟩ = source := Except.ok.inj h.source_eq
  obtain rfl : {} = settings := Except.ok.inj h.settings_eq
  obtain rfl : ⟨false, ["src", "contracts.json"]⟩ = path := Except.ok.inj h.path_eq
  have hsources : ∀ way, ({} : Settings).scope.Covers way →
      oneSource.place ⟨false, ["src", "contracts.json"]⟩ ≠
        oneSource.place ⟨false, ["src"]⟩ ++ way := by
    intro way hcovers hplace
    have hpath : oneSource.place ⟨false, ["src", "contracts.json"]⟩ =
        oneSource.place ⟨false, ["src"]⟩ ++ ["contracts.json"] := by decide +kernel
    obtain rfl := List.append_cancel_left (hpath.symm.trans hplace)
    exact absurd hcovers (by decide +kernel)
  obtain ⟨rfl, hfirst, hsecond⟩ := hagain (by decide +kernel) hwords h hsources (by decide +kernel)
  obtain ⟨w'', -, hrun, hbytes⟩ := hsecond ⟨2025, 1, 1, 0, 0, 0, 0, some 0⟩
  have hrun : second = { first with workspace := w'' } := hrun
  rw [hrun]
  exact ⟨hexit, hexit, rfl, _, _, hfirst, hbytes⟩

/-- A folder with one source file, and settings that ask for other files. -/
def otherSuffix : Workspace where
  base := "/w"
  files := .folder [("w", .folder
    [(".env", .file (Text.Utf8.encode "BACKLIST_EXTENSIONS=.ts".toList)),
      ("src", .folder [("a.js", .file [])])])]

/-- How many endpoints a scan of a folder finds, if it comes to an end. -/
def endpointCount? (host : Host) (w : Workspace) (source : Path) : Option Nat :=
  match w.settings [] with
  | .error _ => none
  | .ok settings =>
    match w.analyze host.parser host.depth settings none source with
    | .error _ => none
    | .ok a => some a.endpoints.length

/-- Contracts that are written over the settings change what the next scan finds. -/
theorem scan_over_settings :
    let o : Scan := { source := "src", out := some ".env", format := "json" }
    let host := Host.usual fun _ _ => fetchProgram
    let source : Path := ⟨false, ["src"]⟩
    let path : Path := ⟨false, [".env"]⟩
    otherSuffix.Proper ∧ ∃ settings settings' a a' w' w'',
      (∀ way, settings.scope.Covers way →
        otherSuffix.place path ≠ otherSuffix.place source ++ way) ∧
      Scan.Writes ⟨2024, 5, 6, 7, 8, 9, 0, some 0⟩ host otherSuffix o source settings a path w' ∧
      Scan.Writes ⟨2025, 1, 1, 0, 0, 0, 0, some 0⟩ host w' o source settings' a' path w'' ∧
      a.endpoints.length = 0 ∧ a'.endpoints.length = 1 := by
  intro o host source path
  have hcount : endpointCount? host otherSuffix source = some 0 := by decide +kernel
  have hcount' : endpointCount? host
      (runScan ⟨2024, 5, 6, 7, 8, 9, 0, some 0⟩ host otherSuffix o).workspace source = some 1 := by
    decide +kernel
  obtain ⟨found, settings, a, _, w', h⟩ := Scan.writes_of_exitCode
    (show (runScan ⟨2024, 5, 6, 7, 8, 9, 0, some 0⟩ host otherSuffix o).exitCode = 0 by
      decide +kernel) rfl
  have hfound : pathOf otherSuffix "src" = .ok found := h.source_eq
  obtain rfl : source = found := Except.ok.inj hfound
  obtain rfl : path = _ := Except.ok.inj h.path_eq
  have hend : (runScan ⟨2024, 5, 6, 7, 8, 9, 0, some 0⟩ host otherSuffix o).workspace = w' := by
    rw [h.runScan_eq, ended_workspace w']
  have hplaces : ∀ way, otherSuffix.place path ≠ otherSuffix.place source ++ way := by
    intro way hplace
    have hends : otherSuffix.place path = ["w", ".env"] ∧
        otherSuffix.place source = ["w", "src"] := by decide +kernel
    rw [hends.1, hends.2] at hplace
    simp at hplace
  simp only [endpointCount?, h.settings_eq] at hcount
  simp only [endpointCount?, hend] at hcount'
  split at hcount'
  · cases hcount'
  · next settings' hsettings' =>
    split at hcount'
    · cases hcount'
    · next a' ha' =>
      obtain ⟨w'', hagain⟩ := Workspace.write_again h.written
        (Contracts.ofScan ⟨2025, 1, 1, 0, 0, 0, 0, some 0⟩ (w'.pathText a'.root) a'.endpoints).bytes
      have hsource : pathOf w' o.source = .ok source := (pathOf_write h.written _).trans h.source_eq
      have hpath : contractsPath w' o.out = .ok path := by
        rw [contractsPath_of_given (by decide +kernel), pathOf_write h.written]
        rfl
      refine ⟨by decide +kernel, settings, settings', a, a', w', w'', fun way _ => hplaces way, h,
        ⟨hsource, hsettings', ha', by rw [Scan.printAll_scanItems_of_json (by decide +kernel)], rfl,
          hpath, hagain⟩, ?_, Option.some.inj hcount'⟩
      have hanalyze : otherSuffix.analyze host.parser host.depth settings none source = .ok a :=
        h.analyze_eq
      simpa [hanalyze] using hcount

end Command

end RouteCensus
