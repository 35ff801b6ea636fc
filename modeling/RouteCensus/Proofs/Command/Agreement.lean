import RouteCensus.Proofs.Call.SourceOrder
import RouteCensus.Proofs.Command.Scan
import RouteCensus.Proofs.Contracts.RoundTrip
import RouteCensus.Proofs.Text.Pieces
import RouteCensus.Proofs.Workspace.Isolation

/-! # Listing what was scanned

The contracts that a scan writes are read again with all their endpoints, so a
listing of them prints the elements that the scan has printed, as far as the
filters admit them.  The filters are stated on the printed elements.
-/

namespace RouteCensus

/-- The row of a node is a number of 32 bits. -/
def Node.RowFits (n : Node) : Prop :=
  n.label.row < 0x100000000

instance : DecidablePred Node.RowFits := fun _ => inferInstanceAs (Decidable (_ < _))

/-- The nodes of all trees have rows of 32 bits. -/
def Parser.CountsRows (parser : Parser) : Prop :=
  ∀ grammar source, (parser grammar source).Every Node.RowFits

namespace Json

/-- The text of a member of an object. -/
def memberText? (name : String) (item : Json) : Option String :=
  (item.member? name).bind text?

theorem digitCount_le_mostDigits {n : Nat} (h : n ≤ 0x100000000) : digitCount n ≤ mostDigits := by
  have hten : (Nat.toDigits 10 n).length ≤ 10 := by
    rw [Nat.length_toDigits_le_iff (by decide) (by decide)]
    omega
  exact Nat.le_trans hten (by decide +kernel)

end Json

theorem Node.line_of_mem_observations {root : Node} (h : root.Every RowFits) {call : Observation}
    (hcall : call ∈ root.observations) : ∃ n : Nat, n ≤ 0x100000000 ∧ call.line = n := by
  rw [← root.filterMap_observation_foundCalls] at hcall
  obtain ⟨found, hfound, hobservation⟩ := List.mem_filterMap.1 hcall
  have hspot : found.spot ∈ root.spots := by
    have hmem : found.spot ∈ root.spots.filter Spot.isCall :=
      root.map_spot_foundCalls ▸ List.mem_map_of_mem hfound
    exact (List.mem_filter.1 hmem).1
  refine ⟨found.spot.node.line, ?_, root.line_of_foundCalls hfound hobservation⟩
  exact (Node.every_of_mem_spotsFrom h found.spot hspot).self

namespace Workspace

variable {w : Workspace} {parser : Parser} {depth : Nat}

theorem exists_of_mem_admitted {maxBytes : Int} {path : Path} {e : Endpoint}
    (he : e ∈ w.admitted parser maxBytes path) :
    ∃ grammar source, ∃ call ∈ (parser grammar source).observations,
      call.describe? (w.pathText path) = some e := by
  obtain ⟨call, hcall, hdescribe⟩ := List.mem_filterMap.1 he
  unfold calls fileCalls? at hcall
  split at hcall
  · cases hcall
  · split at hcall
    · cases hcall
    · split at hcall
      · next tree htree =>
        obtain ⟨grammar, rfl, -⟩ := exists_of_parseSource_eq_ok htree
        exact ⟨grammar, _, call, hcall, hdescribe⟩
      · cases hcall

/-- The endpoints of an analysis come from the calls of its files. -/
theorem exists_of_analyze {settings : Settings} {limit : Option Int} {root : Path} {a : Analysis}
    (h : w.analyze parser depth settings limit root = .ok a) {e : Endpoint} (he : e ∈ a.endpoints) :
    ∃ path grammar source, ∃ call ∈ (parser grammar source).observations,
      call.describe? (w.pathText path) = some e := by
  unfold analyze at h
  split at h
  · dsimp only at h
    split at h
    · cases h
    · next paths _ =>
      split at h
      · cases h
      · obtain rfl := Except.ok.inj h
        have hsub := (Analysis.ofFiles_tellsOf w parser settings.maxFileBytes (w.resolve root)
          paths).endpoints_sublist
        obtain ⟨path, -, hadmitted⟩ := List.mem_flatMap.1 (hsub.subset he)
        exact ⟨path, exists_of_mem_admitted hadmitted⟩
  · cases h

end Workspace

theorem Observation.of_describe? {call : Observation} {sourceFile : String} {e : Endpoint}
    (h : call.describe? sourceFile = some e) :
    e.sourceLine = call.line ∧ ∀ fields ∈ e.requestBody, fields ∈ call.body := by
  unfold Observation.describe? at h
  split at h
  · obtain ⟨method, -, rfl⟩ := Option.map_eq_some_iff.1 h
    refine ⟨rfl, ?_⟩
    intro fields hfields
    dsimp only at hfields
    split at hfields
    · exact hfields
    · cases hfields
  · cases h

/-- The document of a scan can be read again. -/
theorem Contracts.wellFormed_ofScan {w : Workspace} {parser : Parser} {depth : Nat}
    {settings : Settings} {limit : Option Int} {root : Path} {a : Analysis} {now : Timestamp}
    (hnow : now.Valid) (hparser : parser.CountsRows)
    (h : w.analyze parser depth settings limit root = .ok a) (name : String) :
    (Contracts.ofScan now name a.endpoints).WellFormed Json.mostDigits where
  time_admitted := ⟨_, Timestamp.check_wireText hnow⟩
  version_digits := Json.digitCount_le_mostDigits (show 1 ≤ 0x100000000 by decide)
  line_digits := by
    intro e he
    obtain ⟨path, grammar, source, call, hcall, hdescribe⟩ := Workspace.exists_of_analyze h he
    obtain ⟨n, hn, hline⟩ := Node.line_of_mem_observations (hparser grammar source) hcall
    rw [(Observation.of_describe? hdescribe).1, hline]
    exact Json.digitCount_le_mostDigits hn
  keys_nodup := by
    intro e he fields hfields
    obtain ⟨path, grammar, source, call, hcall, hdescribe⟩ := Workspace.exists_of_analyze h he
    exact Node.observations_nodup hcall fields ((Observation.of_describe? hdescribe).2 fields hfields)

namespace Command

open Workspace

/-- A filter that is given and not empty is met. -/
def Meets (filter : Option String) (test : String → Prop) : Prop :=
  ∀ s ∈ filter, s ≠ "" → test s

/-- Whether the filters of a listing admit a printed element. -/
def Listing.Admits (l : Listing) (item : Json) : Prop :=
  Meets l.method (fun m => item.memberText? "method" = some (Text.upcase m)) ∧
  Meets l.routeContains (fun s => ∃ route ∈ item.memberText? "route", s.toList <:+: route.toList) ∧
  Meets l.controller fun c =>
    ∃ name ∈ item.memberText? "controllerName", Text.downcase name = Text.downcase c

instance (filter : Option String) (test : String → Prop) [DecidablePred test] :
    Decidable (Meets filter test) :=
  inferInstanceAs (Decidable (∀ s ∈ filter, s ≠ "" → test s))

instance (l : Listing) (item : Json) : Decidable (l.Admits item) :=
  inferInstanceAs (Decidable (_ ∧ _ ∧ _))

theorem meets_iff (filter : Option String) (test : String → Bool) :
    Meets filter (fun s => test s = true) ↔
      (filter.filter fun s => !s.isEmpty).all test = true := by
  cases filter with
  | none => simp [Meets]
  | some s => by_cases hs : s = "" <;> simp [Meets, hs]

theorem meets_of_empty {filter : Option String} (h : filter.getD "" = "") (test : String → Prop) :
    Meets filter test := by
  rintro s hs hgiven
  rw [Option.mem_def.1 hs, Option.getD_some] at h
  exact absurd h hgiven

namespace Listing

/-- On the element of an endpoint the filters test what they test on the endpoint. -/
theorem admits_toJson (l : Listing) (e : Endpoint) : l.Admits e.toJson ↔ l.selects e = true := by
  have hmembers : e.toJson.memberText? "method" = some e.method.word ∧
      e.toJson.memberText? "route" = some e.route ∧
      e.toJson.memberText? "controllerName" = some e.controllerName := ⟨rfl, rfl, rfl⟩
  simp only [Admits, hmembers, selects, Bool.and_eq_true, ← meets_iff, Text.occurs_iff, beq_iff_eq,
    Option.mem_some_iff, Option.some.injEq, exists_eq_left', and_assoc]

/-- The elements of the listed endpoints are those that are admitted, up to the limit. -/
theorem map_rows (l : Listing) (endpoints : List Endpoint) :
    (l.rows endpoints).map Endpoint.toJson =
      ((endpoints.map Endpoint.toJson).filter fun item => l.Admits item).take l.limit.toNat := by
  rw [rows, List.map_take, List.filter_map]
  simp only [Function.comp_def, admits_toJson, Bool.decide_eq_true]

theorem mem_of_mem_rows {l : Listing} {endpoints : List Endpoint} {e : Endpoint}
    (h : e ∈ l.rows endpoints) : e ∈ endpoints :=
  (List.mem_filter.1 (List.mem_of_mem_take h)).1

/-- Without filters and with a limit that is high enough, all elements are listed. -/
theorem take_filter_admits {l : Listing}
    (h : ∀ filter ∈ [l.method, l.routeContains, l.controller], filter.getD "" = "")
    {items : List Json} (hlimit : items.length ≤ l.limit) :
    (items.filter fun item => l.Admits item).take l.limit.toNat = items := by
  have hadmits : ∀ item, l.Admits item := by
    intro item
    refine ⟨?_, ?_, ?_⟩ <;> exact meets_of_empty (h _ (by simp)) _
  rw [List.filter_eq_self.2 fun item _ => decide_eq_true (hadmits item), List.take_of_length_le]
  omega

end Listing

/-- A text is the array of the given elements, which are read from it again; four levels of
nesting are enough. -/
structure Prints (output : String) (items : List Json) : Prop where
  output_eq : output = (Json.arr items).pretty .ascii ++ "\n"
  read_eq : ∀ levels, 4 ≤ levels → Json.read levels output.toList = .ok (.arr items)

theorem prints_endpoints {endpoints : List Endpoint}
    (hlines : ∀ e ∈ endpoints, Json.digitCount e.sourceLine ≤ Json.mostDigits)
    (hkeys : ∀ e ∈ endpoints, ∀ fields ∈ e.requestBody, (fields.map Prod.fst).Nodup) :
    Prints ((Json.arr (endpoints.map Endpoint.toJson)).pretty .ascii ++ "\n")
      (endpoints.map Endpoint.toJson) where
  output_eq := rfl
  read_eq := by
    intro levels hlevels
    obtain ⟨depth, rfl⟩ := Nat.exists_eq_add_of_le' hlevels
    have hplain : (Json.arr (endpoints.map Endpoint.toJson)).Plain Json.mostDigits (depth + 4) :=
      ⟨Nat.succ_pos _, Json.plainItems_map fun e he =>
        e.toJson_plain Json.mostDigits depth (hlines e he) (hkeys e he)⟩
    rw [String.toList_append, Json.pretty, String.toList_ofList]
    exact Json.read_write hplain

variable {now : Timestamp} {host : Host} {w w' : Workspace} {o : Scan} {l : Listing}
  {settings : Settings} {a : Analysis} {source path : Path}

theorem Scan.Writes.runScan_of_json (h : Writes now host w o source settings a path w')
    (hjson : isJsonFormat o.format = true) :
    runScan now host w o =
      { output := (Json.arr (a.endpoints.map Endpoint.toJson)).pretty .ascii ++ "\n"
        workspace := w' } := by
  have hnote : writtenItems w o.format path = [] := if_pos hjson
  rw [h.runScan_eq, printAll_scanItems_of_json hjson, hnote]
  simp [Console.printAll, Outcome.ended, String.ofList_append]

/-- Contracts that a scan has written are read again with all endpoints that it has found. -/
theorem Scan.Writes.readContracts_eq (h : Writes now host w o source settings a path w')
    (hnow : now.Valid) (hparser : host.parser.CountsRows) {levels : Nat} (hlevels : 5 ≤ levels) :
    w'.readContracts levels path = .ok (.ofScan now (w.pathText a.root) a.endpoints) := by
  have hc := Contracts.wellFormed_ofScan hnow hparser h.analyze_eq (w.pathText a.root)
  rw [Workspace.readContracts_eq h.written, hc.ofBytes_bytes hlevels]
  rfl

theorem runList_of_json {c : Contracts} (hpath : contractsPath w l.contracts = .ok path)
    (hread : w.readContracts host.levels path = .ok c) (hjson : isJsonFormat l.format = true) :
    runList host w l =
      { output := (Json.arr ((l.rows c.endpoints).map Endpoint.toJson)).pretty .ascii ++ "\n"
        workspace := w } := by
  simp [runList, hpath, hread, finish, listItems, hjson, endpointsJson, Console.printAll,
    Console.lines, Outcome.ended, String.ofList_append]

/-- A scan that prints its endpoints as elements of an array and writes them to a file is followed by
a listing of this file: it ends well, and prints those elements that its filters admit, in the same
order and up to its limit.  Without filters and limit it prints the same text.  The listing takes
five levels of nesting or more, and may run elsewhere otherwise. -/
theorem list_after_scan {scanWords listWords : List String} {file : String} (hnow : now.Valid)
    (hparser : host.parser.CountsRows)
    (hscan : Request.ofWords? scanWords = some (.scan o)) (hout : o.out = some file)
    (hfile : file.isEmpty = false) (hwrite : o.write = true)
    (hjson : isJsonFormat o.format = true) (hexit : (run now host w scanWords).exitCode = 0)
    (hlist : Request.ofWords? listWords = some (.list l)) (hcontracts : l.contracts = some file)
    (hjson' : isJsonFormat l.format = true) (now' : Timestamp) {host' : Host}
    (hlevels : 5 ≤ host'.levels) :
    let scanned := run now host w scanWords
    let listed := run now' host' scanned.workspace listWords
    listed.exitCode = 0 ∧ ∃ source settings a path, ∃ items : List Json,
      Scan.Writes now host w o source settings a path scanned.workspace ∧
      items = a.endpoints.map Endpoint.toJson ∧
      Prints scanned.output items ∧
      Prints listed.output ((items.filter fun item => l.Admits item).take l.limit.toNat) ∧
      ((∀ filter ∈ [l.method, l.routeContains, l.controller], filter.getD "" = "") →
        items.length ≤ l.limit → listed.output = scanned.output) := by
  have hrun : run now host w scanWords = runScan now host w o := by rw [run, hscan]
  rw [hrun] at hexit ⊢
  obtain ⟨source, settings, a, path, w', h⟩ := Scan.writes_of_exitCode hexit hwrite
  have hpath : contractsPath w' l.contracts = .ok path := by
    rw [hcontracts, contractsPath_of_given hfile, pathOf_write h.written,
      ← contractsPath_of_given hfile, ← hout]
    exact h.path_eq
  have hc := Contracts.wellFormed_ofScan hnow hparser h.analyze_eq (w.pathText a.root)
  have hlisted : run now' host' w' listWords = runList host' w' l := by rw [run, hlist]
  rw [h.runScan_of_json hjson]
  dsimp only
  rw [hlisted, runList_of_json hpath (h.readContracts_eq hnow hparser hlevels) hjson']
  dsimp only [Contracts.ofScan]
  refine ⟨rfl, source, settings, a, path, _, h, rfl, ?_, ?_, ?_⟩
  · exact prints_endpoints hc.line_digits hc.keys_nodup
  · rw [← l.map_rows]
    exact prints_endpoints (fun e he => hc.line_digits e (Listing.mem_of_mem_rows he))
      fun e he => hc.keys_nodup e (Listing.mem_of_mem_rows he)
  · intro hfilters hlimit
    rw [l.map_rows, Listing.take_filter_admits hfilters hlimit]

/-- A program that calls `fetch('/api/a')` and `fetch('/api/b')`. -/
def twoFetches : Node :=
  let leaf kind field text children :=
    Node.mk { kind, field, bytes := Text.Utf8.encode text } children
  let fetch target := leaf "call_expression" none []
    [leaf "identifier" (some "function") "fetch".toList [],
      leaf "arguments" (some "arguments") []
        [leaf "string" none [] [leaf "string_fragment" none target []]]]
  leaf "program" none [] [fetch "/api/a".toList, fetch "/api/b".toList]

theorem countsRows_twoFetches : Parser.CountsRows fun _ _ => twoFetches := by
  have hrows : twoFetches.Every Node.RowFits := by decide +kernel
  exact fun _ _ => hrows

/-- Of two endpoints that were scanned, the one is listed whose route has the given part. -/
theorem list_after_scan_twoFetches :
    let l : Listing :=
      { contracts := some "c.json", method := some "", routeContains := some "b", format := "JSON" }
    let host := Host.usual fun _ _ => twoFetches
    let scanned := run ⟨2024, 5, 6, 7, 8, 9, 0, some 0⟩ host oneSource
      ["scan", "src", "--out", "c.json", "--format", "json"]
    let listed := run ⟨2025, 1, 1, 0, 0, 0, 0, some 0⟩ host scanned.workspace
      ["endpoints", "list", "-c", "c.json", "--method=", "--route-contains", "b", "--format", "JSON"]
    scanned.exitCode = 0 ∧ listed.exitCode = 0 ∧ ∃ first second : Json,
      first.memberText? "route" = some "/api/a" ∧ second.memberText? "route" = some "/api/b" ∧
      ¬ l.Admits first ∧ l.Admits second ∧
      Prints scanned.output [first, second] ∧ Prints listed.output [second] := by
  intro l host
  have hexit : (run ⟨2024, 5, 6, 7, 8, 9, 0, some 0⟩ host oneSource
      ["scan", "src", "--out", "c.json", "--format", "json"]).exitCode = 0 := by decide +kernel
  obtain ⟨hend, source, settings, a, path, items, h, rfl, hscanned, hlisted, -⟩ := list_after_scan
    (show (⟨2024, 5, 6, 7, 8, 9, 0, some 0⟩ : Timestamp).Valid by constructor <;> decide +kernel)
    countsRows_twoFetches
    (show Request.ofWords? ["scan", "src", "--out", "c.json", "--format", "json"] =
      some (.scan { source := "src", out := some "c.json", format := "json" }) by decide +kernel)
    rfl (by decide +kernel) rfl (by decide +kernel) hexit
    (show Request.ofWords? ["endpoints", "list", "-c", "c.json", "--method=", "--route-contains", "b",
      "--format", "JSON"] = some (.list l) by decide +kernel)
    rfl (by decide +kernel) ⟨2025, 1, 1, 0, 0, 0, 0, some 0⟩ (show 5 ≤ host.levels by decide)
  obtain rfl : {} = settings := Except.ok.inj h.settings_eq
  obtain rfl : ⟨false, ["src"]⟩ = source := Except.ok.inj h.source_eq
  have hfound : (oneSource.analyze host.parser host.depth {} none ⟨false, ["src"]⟩).toOption.map
      (fun a => a.endpoints.map fun e => (e.route, l.selects e)) =
      some [("/api/a", false), ("/api/b", true)] := by decide +kernel
  rw [h.analyze_eq] at hfound
  obtain ⟨first, tail, hendpoints, hfirst, htail⟩ := List.map_eq_cons_iff.1 (Option.some.inj hfound)
  obtain ⟨second, _, rfl, hsecond, hnil⟩ := List.map_eq_cons_iff.1 htail
  obtain rfl := List.map_eq_nil_iff.1 hnil
  obtain ⟨hfirst, hrejected⟩ := Prod.mk.inj hfirst
  obtain ⟨hsecond, hselected⟩ := Prod.mk.inj hsecond
  have hadmits : ¬ l.Admits first.toJson ∧ l.Admits second.toJson := by
    rw [l.admits_toJson, l.admits_toJson, hrejected, hselected]
    exact ⟨Bool.false_ne_true, rfl⟩
  have hrows : ([first, second].map Endpoint.toJson).filter (fun item => l.Admits item) =
      [second.toJson] := by simp [hadmits]
  rw [hendpoints] at hscanned hlisted
  rw [hrows] at hlisted
  exact ⟨hexit, hend, first.toJson, second.toJson, congrArg some hfirst, congrArg some hsecond,
    hadmits.1, hadmits.2, hscanned, hlisted⟩

end Command

end RouteCensus
