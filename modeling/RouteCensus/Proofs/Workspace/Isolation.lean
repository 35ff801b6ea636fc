import RouteCensus.Proofs.Call.Words
import RouteCensus.Proofs.Expr.Leaves
import RouteCensus.Proofs.Workspace.Accepted
import Mathlib.Data.Finset.Card

/-! # Fault isolation

Accepted files may be given bytes with which they fail: too many, or such that no
grammar accepts them.  The analysis of the others does not notice: it comes out as
if the failing files were deleted, apart from the number of files and the list of
the failed ones.  Only a file that can be parsed but is nested too deeply makes a
whole analysis break off.
-/

namespace RouteCensus

/-- An edit of files: the bytes of the file at a place afterwards, none if it is deleted. -/
abbrev Edit := List String → List UInt8 → Option (List UInt8)

namespace Entry

mutual

/-- An entry after an edit, where `trail` leads to the entry; none for a deleted file. -/
def edit? (change : Edit) (trail : List String) : Entry → Option Entry
  | file bytes => (change trail bytes).map file
  | folder entries => some (folder (editAmong change trail entries))

def editAmong (change : Edit) (trail : List String) : List (String × Entry) → List (String × Entry)
  | [] => []
  | (name, e) :: rest =>
    ((e.edit? change (trail ++ [name])).map fun e => (name, e)).toList ++
      editAmong change trail rest

end

variable {change : Edit} {trail : List String}

theorem mem_editAmong {entries : List (String × Entry)} {name : String} {e : Entry} :
    (name, e) ∈ editAmong change trail entries ↔
      ∃ old, (name, old) ∈ entries ∧ old.edit? change (trail ++ [name]) = some e := by
  induction entries with
  | nil => simp [editAmong]
  | cons entry entries ih =>
    obtain ⟨other, old⟩ := entry
    rw [editAmong, List.mem_append, ih, Option.mem_toList, Option.map_eq_some_iff]
    constructor
    · rintro (⟨e', hedit, heq⟩ | ⟨old', hold, hedit⟩)
      · obtain ⟨rfl, rfl⟩ := Prod.mk.inj heq
        exact ⟨old, List.mem_cons_self, hedit⟩
      · exact ⟨old', List.mem_cons_of_mem _ hold, hedit⟩
    · rintro ⟨old', hold, hedit⟩
      rcases List.mem_cons.1 hold with heq | hold
      · obtain ⟨rfl, rfl⟩ := Prod.mk.inj heq
        exact .inl ⟨e, hedit, rfl⟩
      · exact .inr ⟨old', hold, hedit⟩

theorem names_editAmong (change : Edit) (trail : List String) (entries : List (String × Entry)) :
    ((editAmong change trail entries).map Prod.fst).Sublist (entries.map Prod.fst) := by
  induction entries with
  | nil => exact List.Sublist.refl _
  | cons entry entries ih =>
    rw [editAmong, List.map_append]
    cases entry.2.edit? change (trail ++ [entry.1]) with
    | none => exact ih.cons _
    | some e => exact ih.cons_cons _

theorem childIn?_editAmong {entries : List (String × Entry)} (hnames : (entries.map Prod.fst).Nodup)
    (name : String) :
    childIn? name (editAmong change trail entries) =
      (childIn? name entries).bind fun e => e.edit? change (trail ++ [name]) := by
  have hnames' := hnames.sublist (names_editAmong change trail entries)
  ext e
  rw [Option.bind_eq_some_iff]
  constructor
  · intro h
    obtain ⟨old, hold, hedit⟩ := mem_editAmong.1 (mem_of_childIn? h)
    exact ⟨old, childIn?_of_mem hnames hold, hedit⟩
  · rintro ⟨old, hold, hedit⟩
    exact childIn?_of_mem hnames' (mem_editAmong.2 ⟨old, mem_of_childIn? hold, hedit⟩)

/-- At the end of a way in an edited tree stands the edited entry. -/
theorem Proper.at?_edit {e : Entry} (h : e.Proper) (change : Edit) (trail way : List String) :
    ((e.edit? change trail).bind fun e => e.at? way) =
      (e.at? way).bind fun e => e.edit? change (trail ++ way) := by
  induction way generalizing e trail with
  | nil => simp [Entry.at?]
  | cons name way ih =>
    cases e with
    | file bytes =>
      cases hbytes : change trail bytes <;> simp [Entry.edit?, Entry.at?, child?, hbytes]
    | folder entries =>
      simp only [Entry.edit?, Option.bind_some, Entry.at?, child?, childIn?_editAmong h.1]
      cases hchild : childIn? name entries with
      | none => rfl
      | some child =>
        have hproper := (properAmong_iff.1 h.2 _ (mem_of_childIn? hchild)).2
        have hstep := ih hproper (trail ++ [name])
        rwa [List.append_assoc, List.singleton_append] at hstep

mutual

theorem Proper.edit? : ∀ {e e' : Entry} {trail : List String}, e.Proper →
    e.edit? change trail = some e' → e'.Proper
  | file bytes, e', trail, _, h => by
    obtain ⟨bytes', -, rfl⟩ := Option.map_eq_some_iff.1 h
    trivial
  | folder entries, e', trail, hproper, h => by
    obtain rfl := Option.some.inj h
    exact ⟨hproper.1.sublist (names_editAmong change trail entries), hproper.2.editAmong⟩

theorem ProperAmong.editAmong : ∀ {entries : List (String × Entry)} {trail : List String},
    ProperAmong entries → ProperAmong (editAmong change trail entries)
  | [], _, _ => trivial
  | (name, e) :: rest, trail, h => by
    obtain ⟨hname, he, hrest⟩ := h
    rw [Entry.editAmong]
    cases hedit : e.edit? change (trail ++ [name]) with
    | none => exact hrest.editAmong
    | some e' => exact ⟨hname, he.edit? hedit, hrest.editAmong⟩

end

end Entry

namespace Workspace

/-- The workspace after an edit of its files. -/
def edit (w : Workspace) (change : Edit) : Workspace :=
  { w with files := (w.files.edit? change []).getD (.folder []) }

variable {w : Workspace} {change : Edit} {o : ScanOptions} {root : Path}

theorem Proper.edit (hw : w.Proper) (change : Edit) : (w.edit change).Proper := by
  refine ⟨?_, hw.base⟩
  cases hedit : w.files.edit? change [] with
  | none => simp [Workspace.edit, hedit, Entry.Proper, Entry.ProperAmong]
  | some files =>
    simp only [Workspace.edit, hedit, Option.getD_some]
    exact hw.files.edit? hedit

theorem Proper.at?_edit (hw : w.Proper) (hroot : w.isFolder root = true) (place : List String) :
    (w.edit change).files.at? place =
      (w.files.at? place).bind fun e => e.edit? change place := by
  obtain ⟨entries, hfiles⟩ := isFolder_iff.1 hroot 0 (Nat.zero_le _)
  have hfiles : w.files = .folder entries := Option.some.inj hfiles
  have hplace := hw.files.at?_edit change [] place
  rw [List.nil_append] at hplace
  rw [← hplace, Workspace.edit, hfiles]
  rfl

/-- Folders stay where they are. -/
theorem Proper.isFolder_edit (hw : w.Proper) (hroot : w.isFolder root = true) (change : Edit) :
    (w.edit change).isFolder root = true := by
  refine isFolder_iff.2 fun n hn => ?_
  obtain ⟨entries, hfolder⟩ := isFolder_iff.1 hroot n hn
  refine ⟨Entry.editAmong change (Path.collapse ((w.locate root).take n)) entries, ?_⟩
  change (w.edit change).files.at? (Path.collapse ((w.locate root).take n)) = _
  rw [hw.at?_edit hroot, hfolder]
  rfl

theorem Proper.accepts_edit (hw : w.Proper) (hroot : w.isFolder root = true) {way : List String}
    {bytes : List UInt8} :
    (w.edit change).Accepts o root way bytes ↔
      ∃ old, w.Accepts o root way old ∧ change (w.place root ++ way) old = some bytes := by
  change (w.edit change).files.at? (w.place root ++ way) = _ ∧ _ ↔ _
  rw [hw.at?_edit hroot, Option.bind_eq_some_iff]
  constructor
  · rintro ⟨⟨e, he, hedit⟩, hcovers⟩
    cases e with
    | file old =>
      obtain ⟨new, hnew, heq⟩ := Option.map_eq_some_iff.1 hedit
      obtain rfl := Entry.file.inj heq
      exact ⟨old, ⟨he, hcovers⟩, hnew⟩
    | folder entries => cases hedit
  · rintro ⟨old, ⟨hold, hcovers⟩, hnew⟩
    exact ⟨⟨.file old, hold, by rw [Entry.edit?, hnew]; rfl⟩, hcovers⟩

/-- Where a place lies below a folder, if it does. -/
def wayBelow? (folder place : List String) : Option (List String) :=
  if place.take folder.length = folder then some (place.drop folder.length) else none

theorem wayBelow?_append (folder way : List String) : wayBelow? folder (folder ++ way) = some way := by
  simp [wayBelow?]

/-- The workspace where the files at some ways from a folder have other bytes. -/
def refill (w : Workspace) (root : Path) (ways : Finset (List String))
    (content : List String → List UInt8) : Workspace :=
  w.edit fun place bytes =>
    match wayBelow? (w.place root) place with
    | some way => some (if way ∈ ways then content way else bytes)
    | none => some bytes

/-- The workspace without the files at some ways from a folder. -/
def delete (w : Workspace) (root : Path) (ways : Finset (List String)) : Workspace :=
  w.edit fun place bytes =>
    match wayBelow? (w.place root) place with
    | some way => if way ∈ ways then none else some bytes
    | none => some bytes

variable {ways : Finset (List String)} {content : List String → List UInt8}

theorem Proper.accepts_refill (hw : w.Proper) (hroot : w.isFolder root = true) {way : List String}
    {bytes : List UInt8} :
    (w.refill root ways content).Accepts o root way bytes ↔
      ∃ old, w.Accepts o root way old ∧ bytes = if way ∈ ways then content way else old := by
  simp only [refill, hw.accepts_edit hroot, wayBelow?_append, Option.some.injEq, eq_comm]

theorem Proper.accepts_delete (hw : w.Proper) (hroot : w.isFolder root = true) {way : List String}
    {bytes : List UInt8} :
    (w.delete root ways).Accepts o root way bytes ↔ way ∉ ways ∧ w.Accepts o root way bytes := by
  simp only [delete, hw.accepts_edit hroot, wayBelow?_append]
  by_cases hway : way ∈ ways
  · simp [hway]
  · simp [hway]

end Workspace

/-- Bytes with which the analysis of a file fails: too many, or such that neither the grammar of
the file nor the one to fall back on accepts the text. -/
def Fails (parser : Parser) (maxBytes : Int) (path : Path) (bytes : List UInt8) : Prop :=
  maxBytes < bytes.length ∨
    (parser (Grammar.ofPath path) (String.ofList (Text.Utf8.decodeLenient bytes))).label.damaged =
        true ∧
      ∀ g ∈ (Grammar.ofPath path).fallback?,
        (parser g (String.ofList (Text.Utf8.decodeLenient bytes))).label.damaged = true

/-- Bytes with which the search for the calls of a file breaks off: they can be parsed, but are
nested too deeply. -/
def Breaks (parser : Parser) (depth : Nat) (maxBytes : Int) (path : Path) (bytes : List UInt8) :
    Prop :=
  bytes.length ≤ maxBytes ∧
    ∃ tree, parseSource parser (String.ofList (Text.Utf8.decodeLenient bytes))
      (Grammar.ofPath path) = .ok tree ∧ tree.tooDeep depth = true

theorem exists_of_parseSource_eq_ok {parser : Parser} {source : String} {grammar : Grammar}
    {tree : Node} (h : parseSource parser source grammar = .ok tree) :
    ∃ g, tree = parser g source ∧ tree.label.damaged = false := by
  simp only [parseSource] at h
  split at h
  · split at h
    · next retry hretry =>
      obtain rfl := Except.ok.inj h
      rw [Option.filter_eq_some_iff, Option.map_eq_some_iff] at hretry
      obtain ⟨⟨g, -, rfl⟩, hwhole⟩ := hretry
      exact ⟨g, rfl, by simpa using hwhole⟩
    · cases h
  · next hwhole =>
    obtain rfl := Except.ok.inj h
    exact ⟨grammar, rfl, by simpa using hwhole⟩

theorem parseSource_of_damaged {parser : Parser} {source : String} {grammar : Grammar}
    (h : (parser grammar source).label.damaged = true)
    (hfallback : ∀ g ∈ grammar.fallback?, (parser g source).label.damaged = true) :
    ∃ e, parseSource parser source grammar = .error e := by
  cases hg : grammar.fallback? with
  | none => simp [parseSource, h, hg]
  | some g => simp [parseSource, h, hg, Option.filter, hfallback g hg]

namespace Workspace

variable {w : Workspace} {parser : Parser} {depth : Nat} {maxBytes : Int} {path : Path}
  {bytes : List UInt8}

theorem fileCalls?_of_fails (hbytes : w.fileBytes? path = some bytes)
    (h : Fails parser maxBytes path bytes) : w.fileCalls? parser maxBytes path = none := by
  rcases h with hlarge | ⟨hdamaged, hfallback⟩
  · simp [fileCalls?, hbytes, hlarge]
  · obtain ⟨e, he⟩ := parseSource_of_damaged hdamaged hfallback
    simp [fileCalls?, hbytes, he]

theorem breaksOff_iff (hbytes : w.fileBytes? path = some bytes) :
    w.breaksOff parser depth (some maxBytes) path = true ↔
      Breaks parser depth maxBytes path bytes := by
  by_cases hlarge : maxBytes < bytes.length
  · have hsize : ¬ (bytes.length : Int) ≤ maxBytes := by omega
    simp [breaksOff, hbytes, hlarge, Breaks, hsize]
  · have hsize : (bytes.length : Int) ≤ maxBytes := by omega
    cases hparse : parseSource parser (String.ofList (Text.Utf8.decodeLenient bytes))
      (Grammar.ofPath path) <;> simp [breaksOff, hbytes, hlarge, Breaks, hsize, hparse]

theorem not_breaks_of_fails (h : Fails parser maxBytes path bytes) :
    ¬ Breaks parser depth maxBytes path bytes := by
  rintro ⟨hsize, tree, hparse, -⟩
  rcases h with hlarge | ⟨hdamaged, hfallback⟩
  · omega
  · obtain ⟨e, he⟩ := parseSource_of_damaged hdamaged hfallback
    rw [he] at hparse
    cases hparse

end Workspace

/-- Items that add nothing may be left out. -/
theorem flatMap_eq_flatMap_filter {α β : Type} {items : List α} {keep : α → Bool}
    {f g : α → List β} (hgone : ∀ a ∈ items, keep a = false → f a = [])
    (hkept : ∀ a ∈ items, keep a = true → f a = g a) :
    items.flatMap f = (items.filter keep).flatMap g := by
  induction items with
  | nil => rfl
  | cons a items ih =>
    have hrest := ih (fun b hb => hgone b (List.mem_cons_of_mem a hb))
      fun b hb => hkept b (List.mem_cons_of_mem a hb)
    cases hkeep : keep a with
    | true => simp [hkeep, hkept a List.mem_cons_self hkeep, hrest]
    | false => simp [hkeep, hgone a List.mem_cons_self hkeep, hrest]

/-- How an analysis with failing files compares to the one without them. -/
structure Analysis.Isolates (a without : Analysis) (w : Workspace) (root : Path)
    (ways : Finset (List String)) : Prop where
  endpoints_eq : a.endpoints = without.endpoints
  callSites_eq : a.callSites = without.callSites
  rejected_eq : a.rejected = without.rejected
  duplicates_eq : a.duplicates = without.duplicates
  filesScanned_eq : a.filesScanned = without.filesScanned + ways.card
  /-- The failed files are the failing ones and those that fail without them, in the order of their
  paths; they are named as seen from the folder. -/
  filesFailed_eq : ∃ failed : List (List String),
    a.filesFailed = failed.map (w.resolve root).below ∧
    a.failedNames = failed.map (String.intercalate "/") ∧
    (failed.Pairwise fun p q =>
      w.pathText ((w.resolve root).below p) < w.pathText ((w.resolve root).below q)) ∧
    ∀ way, way ∈ failed ↔ way ∈ ways ∨ (w.resolve root).below way ∈ without.filesFailed

namespace Workspace

variable {w : Workspace} {parser : Parser} {depth : Nat} {settings : Settings} {root : Path}
  {ways : Finset (List String)} {content : List String → List UInt8} {paths paths₀ : List Path}

/-- Whether a path is not one of the given ones below a folder. -/
def outside (folder : Path) (ways : Finset (List String)) (path : Path) : Bool :=
  decide (∀ way ∈ ways, path ≠ folder.below way)

theorem outside_below (folder : Path) (way : List String) :
    outside folder ways (folder.below way) = true ↔ way ∉ ways := by
  simp only [outside, decide_eq_true_eq, ne_eq, (folder.below_injective).eq_iff]
  exact ⟨fun h hway => h way hway rfl, fun h other hother heq => h (heq ▸ hother)⟩

/-- The files that are left when some are deleted are the others of those that have been refilled. -/
theorem Proper.lists_delete (hw : w.Proper) (hroot : w.isFolder root = true) {o : ScanOptions}
    (hlists : (w.refill root ways content).Lists o root paths)
    (hlists₀ : (w.delete root ways).Lists o root paths₀) :
    paths₀ = paths.filter (outside (w.resolve root) ways) := by
  have hfilter : (w.delete root ways).Lists o root
      (paths.filter (outside (w.resolve root) ways)) := by
    refine ⟨hlists.sorted.filter _, fun path => ?_⟩
    rw [List.mem_filter, hlists.mem_iff]
    change (∃ way bytes, _ ∧ path = (w.resolve root).below way) ∧ _ ↔
      ∃ way bytes, _ ∧ path = (w.resolve root).below way
    constructor
    · rintro ⟨⟨way, bytes, hway, rfl⟩, hout⟩
      rw [outside_below] at hout
      obtain ⟨old, hold, -⟩ := (hw.accepts_refill hroot).1 hway
      exact ⟨way, old, (hw.accepts_delete hroot).2 ⟨hout, hold⟩, rfl⟩
    · rintro ⟨way, bytes, hway, rfl⟩
      obtain ⟨hout, hold⟩ := (hw.accepts_delete hroot).1 hway
      exact ⟨⟨way, _, (hw.accepts_refill hroot).2 ⟨bytes, hold, rfl⟩, rfl⟩,
        (outside_below _ way).2 hout⟩
  exact hlists₀.unique hfilter rfl fun path => by rw [hlists₀.mem_iff, hfilter.mem_iff]

theorem Proper.refill (hw : w.Proper) : (w.refill root ways content).Proper :=
  Proper.edit hw _

theorem Proper.delete (hw : w.Proper) : (w.delete root ways).Proper :=
  Proper.edit hw _

/-- A refilled file has the bytes that make it fail. -/
theorem Proper.fileBytes?_refill_of_mem (hw : w.Proper) (hroot : w.isFolder root = true)
    {o : ScanOptions} (hlists : (w.refill root ways content).Lists o root paths) {path : Path}
    (hpath : path ∈ paths) (hin : outside (w.resolve root) ways path = false) :
    ∃ way ∈ ways, path = (w.resolve root).below way ∧
      (w.refill root ways content).fileBytes? path = some (content way) := by
  obtain ⟨way, bytes, hway, rfl⟩ := (hlists.mem_iff path).1 hpath
  have hmem : way ∈ ways := by
    by_contra hnot
    rw [← outside_below (w.resolve root) way] at hnot
    exact Bool.false_ne_true (hin.symm.trans hnot)
  refine ⟨way, hmem, rfl, ?_⟩
  rw [(Proper.refill hw).fileBytes?_of_accepts hway]
  obtain ⟨old, -, hbytes⟩ := (hw.accepts_refill hroot).1 hway
  rw [hbytes, if_pos hmem]

/-- Any other file has its own bytes. -/
theorem Proper.fileBytes?_refill_of_notMem (hw : w.Proper) (hroot : w.isFolder root = true)
    {o : ScanOptions} (hlists : (w.refill root ways content).Lists o root paths) {path : Path}
    (hpath : path ∈ paths) (hout : outside (w.resolve root) ways path = true) :
    (w.refill root ways content).fileBytes? path = (w.delete root ways).fileBytes? path := by
  obtain ⟨way, bytes, hway, rfl⟩ := (hlists.mem_iff path).1 hpath
  have hnot : way ∉ ways := (outside_below (w.resolve root) way).1 hout
  obtain ⟨old, hold, hbytes⟩ := (hw.accepts_refill hroot).1 hway
  rw [if_neg hnot] at hbytes
  subst hbytes
  have hkept : (w.delete root ways).Accepts o root way bytes :=
    (hw.accepts_delete hroot).2 ⟨hnot, hold⟩
  rw [(Proper.refill hw).fileBytes?_of_accepts hway]
  exact ((Proper.delete hw).fileBytes?_of_accepts hkept).symm

section Refill

variable (hw : w.Proper) (hroot : w.isFolder root = true)
  (hways : ∀ way ∈ ways, ∃ bytes, w.Accepts settings.scope root way bytes)
  (hfails : ∀ way ∈ ways,
    Fails parser settings.maxFileBytes ((w.resolve root).below way) (content way))
  (hlists : (w.refill root ways content).Lists settings.scope root paths)
  (hlists₀ : (w.delete root ways).Lists settings.scope root paths₀)

include hw hroot hfails hlists in
/-- A refilled file has no calls, any other file has those it had. -/
theorem fileCalls?_refill {path : Path} (hpath : path ∈ paths) :
    (w.refill root ways content).fileCalls? parser settings.maxFileBytes path =
      if outside (w.resolve root) ways path then
        (w.delete root ways).fileCalls? parser settings.maxFileBytes path
      else none := by
  cases hout : outside (w.resolve root) ways path with
  | true =>
    rw [if_pos rfl]
    simp only [fileCalls?, hw.fileBytes?_refill_of_notMem hroot hlists hpath hout]
  | false =>
    obtain ⟨way, hway, rfl, hbytes⟩ := hw.fileBytes?_refill_of_mem hroot hlists hpath hout
    exact fileCalls?_of_fails hbytes (hfails way hway)

include hw hroot hfails hlists hlists₀ in
/-- What is made of the calls, file by file, is the same with and without the refilled files. -/
theorem flatMap_calls_refill {β : Type} (use : Path → List Observation → List β)
    (hnone : ∀ path, use path [] = []) :
    (paths.flatMap fun p =>
        use p ((w.refill root ways content).calls parser settings.maxFileBytes p)) =
      paths₀.flatMap fun p => use p ((w.delete root ways).calls parser settings.maxFileBytes p) := by
  rw [hw.lists_delete hroot hlists hlists₀]
  apply flatMap_eq_flatMap_filter
  · intro p hp hout
    simp [calls, fileCalls?_refill hw hroot hfails hlists hp, hout, hnone]
  · intro p hp hout
    simp [calls, fileCalls?_refill hw hroot hfails hlists hp, hout]

include hw hroot hways hlists in
theorem mem_paths_of_mem_ways {way : List String} (hway : way ∈ ways) :
    (w.resolve root).below way ∈ paths := by
  obtain ⟨bytes, hbytes⟩ := hways way hway
  exact (hlists.mem_iff _).2 ⟨way, _, (hw.accepts_refill hroot).2 ⟨bytes, hbytes, rfl⟩, rfl⟩

include hw hroot hways hlists hlists₀ in
theorem length_paths_refill : paths.length = paths₀.length + ways.card := by
  have hfiles : (paths.filter fun p => !outside (w.resolve root) ways p).toFinset =
      ways.image (w.resolve root).below := by
    ext path
    rw [List.mem_toFinset, List.mem_filter, Finset.mem_image, Bool.not_eq_true']
    constructor
    · rintro ⟨hpath, hout⟩
      obtain ⟨way, hway, rfl, -⟩ := hw.fileBytes?_refill_of_mem hroot hlists hpath hout
      exact ⟨way, hway, rfl⟩
    · rintro ⟨way, hway, rfl⟩
      refine ⟨mem_paths_of_mem_ways hw hroot hways hlists hway, ?_⟩
      rw [Bool.eq_false_iff, ne_eq, outside_below, not_not]
      exact hway
  have hcard := congrArg Finset.card hfiles
  rw [List.toFinset_card_of_nodup (hlists.nodup.filter _),
    Finset.card_image_of_injective _ (w.resolve root).below_injective] at hcard
  rw [hw.lists_delete hroot hlists hlists₀, ← hcard]
  exact List.length_eq_length_filter_add _

include hw hroot hways hfails hlists hlists₀ in
theorem below_mem_failed_iff (way : List String) :
    ((w.resolve root).below way ∈ paths.filter fun path =>
        ((w.refill root ways content).fileCalls? parser settings.maxFileBytes path).isNone) ↔
      way ∈ ways ∨ (w.resolve root).below way ∈ paths₀.filter fun path =>
        ((w.delete root ways).fileCalls? parser settings.maxFileBytes path).isNone := by
  rw [hw.lists_delete hroot hlists hlists₀, List.mem_filter, List.mem_filter, List.mem_filter,
    outside_below]
  by_cases hway : way ∈ ways
  · have hpath := mem_paths_of_mem_ways hw hroot hways hlists hway
    have hcalls := fileCalls?_refill hw hroot hfails hlists hpath
    rw [if_neg (by rw [outside_below]; exact not_not.2 hway)] at hcalls
    simp [hway, hpath, hcalls]
  · simp only [hway, false_or, not_false_eq_true, and_true]
    refine and_congr_right fun hpath => ?_
    rw [fileCalls?_refill hw hroot hfails hlists hpath, if_pos ((outside_below _ way).2 hway)]

include hw hroot hways hfails hlists hlists₀ in
/-- The step from files to their merged outcome. -/
theorem isolates_refill :
    (Analysis.ofFiles (w.resolve root) (paths.map fun p =>
      (p, (w.refill root ways content).analyzeFile parser (some settings.maxFileBytes) p))).Isolates
      (Analysis.ofFiles (w.resolve root) (paths₀.map fun p =>
        (p, (w.delete root ways).analyzeFile parser (some settings.maxFileBytes) p))) w root ways := by
  set folder := w.resolve root with hfolder
  have htells := Analysis.ofFiles_tellsOf (w.refill root ways content) parser
    settings.maxFileBytes folder paths
  have htells₀ := Analysis.ofFiles_tellsOf (w.delete root ways) parser
    settings.maxFileBytes folder paths₀
  have hadmitted := flatMap_calls_refill hw hroot hfails hlists hlists₀
    (fun path calls => calls.filterMap fun call => call.describe? (w.pathText path)) fun _ => rfl
  have hcalls := flatMap_calls_refill hw hroot hfails hlists hlists₀
    (fun _ calls => calls) fun _ => rfl
  have hrejected := flatMap_calls_refill hw hroot hfails hlists hlists₀
    (fun path calls => calls.filter fun call => (call.describe? (w.pathText path)).isNone)
    fun _ => rfl
  refine ⟨?_, ?_, ?_, ?_, ?_, ?_⟩
  · exact htells.endpoints_eq.trans ((congrArg _ hadmitted).trans htells₀.endpoints_eq.symm)
  · exact htells.callSites_eq.trans ((congrArg _ hcalls).trans htells₀.callSites_eq.symm)
  · exact htells.rejected_eq.trans ((congrArg _ hrejected).trans htells₀.rejected_eq.symm)
  · exact htells.duplicates_eq.trans ((congrArg (fun endpoints =>
      (({} : EndpointIndex).extend endpoints).duplicates) hadmitted).trans htells₀.duplicates_eq.symm)
  · simpa [Analysis.ofFiles] using length_paths_refill hw hroot hways hlists hlists₀
  · rw [htells.failed_eq, htells₀.failed_eq]
    set files := paths.filter fun path =>
      ((w.refill root ways content).fileCalls? parser settings.maxFileBytes path).isNone with hfiles
    have hbelow : ∀ path ∈ files, folder.below (path.parts.drop folder.parts.length) = path := by
      intro path hpath
      obtain ⟨way, bytes, -, rfl⟩ := (hlists.mem_iff path).1 (List.mem_filter.1 hpath).1
      exact congrArg folder.below (folder.drop_below way)
    have hback : (files.map fun path => path.parts.drop folder.parts.length).map folder.below =
        files := by
      rw [List.map_map]
      exact (List.map_congr_left hbelow).trans (List.map_id files)
    refine ⟨files.map fun path => path.parts.drop folder.parts.length, hback.symm, ?_, ?_, ?_⟩
    · rw [Analysis.failedNames, htells.failed_eq, List.map_map]
      rfl
    · rw [List.pairwise_map]
      refine (hlists.sorted.filter _).imp_of_mem fun {p q} hp hq hlt => ?_
      rw [hbelow p hp, hbelow q hq]
      exact hlt
    · intro way
      rw [← below_mem_failed_iff hw hroot hways hfails hlists hlists₀, ← hfiles]
      nth_rewrite 2 [← hback]
      exact (List.mem_map_of_injective folder.below_injective).symm

include hw hroot hfails hlists hlists₀ in
theorem any_breaksOff_refill :
    paths.any ((w.refill root ways content).breaksOff parser depth (some settings.maxFileBytes)) =
      paths₀.any ((w.delete root ways).breaksOff parser depth (some settings.maxFileBytes)) := by
  rw [hw.lists_delete hroot hlists hlists₀, List.any_filter, Bool.eq_iff_iff, List.any_eq_true,
    List.any_eq_true]
  refine exists_congr fun path => and_congr_right fun hpath => ?_
  cases hout : outside (w.resolve root) ways path with
  | true =>
    have hbytes := hw.fileBytes?_refill_of_notMem hroot hlists hpath hout
    rw [breaksOff_congr hbytes, Bool.true_and]
  | false =>
    obtain ⟨way, hway, rfl, hbytes⟩ := hw.fileBytes?_refill_of_mem hroot hlists hpath hout
    simp [breaksOff_iff hbytes, not_breaks_of_fails (hfails way hway)]

end Refill

theorem Lists.any_breaksOff_iff (hw : w.Proper) {o : ScanOptions} (hlists : w.Lists o root paths) :
    paths.any (w.breaksOff parser depth (some settings.maxFileBytes)) = true ↔
      ∃ way bytes, w.Accepts o root way bytes ∧
        Breaks parser depth settings.maxFileBytes ((w.resolve root).below way) bytes := by
  rw [List.any_eq_true]
  constructor
  · rintro ⟨path, hpath, hbreaks⟩
    obtain ⟨way, bytes, hway, rfl⟩ := (hlists.mem_iff path).1 hpath
    exact ⟨way, bytes, hway, (breaksOff_iff (hw.fileBytes?_of_accepts hway)).1 hbreaks⟩
  · rintro ⟨way, bytes, hway, hbreaks⟩
    exact ⟨_, (hlists.mem_iff _).2 ⟨way, bytes, hway, rfl⟩,
      (breaksOff_iff (hw.fileBytes?_of_accepts hway)).2 hbreaks⟩

/-- An analysis of all accepted files breaks off only because of a file that is nested too deeply. -/
theorem Proper.analyze_eq_error_iff (hw : w.Proper) (hroot : w.isFolder root = true)
    {cause : AnalysisError} :
    w.analyze parser depth settings none root = .error cause ↔
      cause = .tooDeep ∧ ∃ way bytes, w.Accepts settings.scope root way bytes ∧
        Breaks parser depth settings.maxFileBytes ((w.resolve root).below way) bytes := by
  obtain ⟨paths, hlists, hrun⟩ := hw.analyze_eq hroot parser depth settings none
  rw [← hlists.any_breaksOff_iff hw, hrun]
  change (if paths.any _ then _ else _) = _ ↔ _
  cases paths.any (w.breaksOff parser depth (some settings.maxFileBytes)) with
  | true => simp [eq_comm]
  | false => simp

theorem Proper.delete_eq_error_iff (hw : w.Proper) (hroot : w.isFolder root = true)
    {cause : AnalysisError} :
    (w.delete root ways).analyze parser depth settings none root = .error cause ↔
      cause = .tooDeep ∧ ∃ way bytes, way ∉ ways ∧ w.Accepts settings.scope root way bytes ∧
        Breaks parser depth settings.maxFileBytes ((w.resolve root).below way) bytes := by
  rw [(Proper.delete hw).analyze_eq_error_iff (hw.isFolder_edit hroot _)]
  simp only [hw.accepts_delete hroot, and_assoc]
  rfl

/-- A failing file does not break an analysis off. -/
theorem Proper.refill_eq_error_iff (hw : w.Proper) (hroot : w.isFolder root = true)
    (hfails : ∀ way ∈ ways,
      Fails parser settings.maxFileBytes ((w.resolve root).below way) (content way))
    {cause : AnalysisError} :
    (w.refill root ways content).analyze parser depth settings none root = .error cause ↔
      cause = .tooDeep ∧ ∃ way bytes, way ∉ ways ∧ w.Accepts settings.scope root way bytes ∧
        Breaks parser depth settings.maxFileBytes ((w.resolve root).below way) bytes := by
  rw [(Proper.refill hw).analyze_eq_error_iff (hw.isFolder_edit hroot _)]
  refine and_congr_right fun _ => exists_congr fun way => exists_congr fun bytes => ?_
  change _ ∧ Breaks parser depth settings.maxFileBytes ((w.resolve root).below way) bytes ↔ _
  rw [hw.accepts_refill hroot]
  by_cases hway : way ∈ ways
  · simp only [hway, if_true, not_true_eq_false, false_and, iff_false, not_and]
    rintro ⟨old, -, rfl⟩
    exact not_breaks_of_fails (hfails way hway)
  · simp [hway]

/-- Files that fail do not disturb the analysis of the others, and nothing but a file that is
nested too deeply makes it break off: grammars are known, and endpoints are made without issues. -/
theorem analyze_refill {w : Workspace} (hw : w.Proper) {parser : Parser} {depth : Nat}
    {settings : Settings} {root : Path} (hroot : w.isFolder root = true) {ways : Finset (List String)}
    {content : List String → List UInt8}
    (hways : ∀ way ∈ ways, ∃ bytes, w.Accepts settings.scope root way bytes)
    (hfails : ∀ way ∈ ways,
      Fails parser settings.maxFileBytes ((w.resolve root).below way) (content way)) :
    (∀ without, (w.delete root ways).analyze parser depth settings none root = .ok without →
      ∃ a, (w.refill root ways content).analyze parser depth settings none root = .ok a ∧
        a.Isolates without w root ways) ∧
    (∀ cause, (w.delete root ways).analyze parser depth settings none root = .error cause →
      (w.refill root ways content).analyze parser depth settings none root = .error cause) ∧
    (∀ cause, (w.refill root ways content).analyze parser depth settings none root = .error cause ↔
      cause = .tooDeep ∧ ∃ way bytes, way ∉ ways ∧ w.Accepts settings.scope root way bytes ∧
        Breaks parser depth settings.maxFileBytes ((w.resolve root).below way) bytes) ∧
    (∀ path, Grammar.ofName? (Grammar.ofPath path).name = some (Grammar.ofPath path)) ∧
    ∀ (tree : Node), ∀ call ∈ tree.observations, ∀ file,
      call.report.describe file = .ok (call.describe? file) := by
  refine ⟨?_, ?_, fun cause => hw.refill_eq_error_iff hroot hfails, fun path => ?_,
    fun tree call hcall file => Node.describe_report hcall file⟩
  · intro without hwithout
    obtain ⟨paths, hlists, hrun⟩ :=
      (Proper.refill hw).analyze_eq (hw.isFolder_edit hroot _) parser depth settings none
    obtain ⟨paths₀, hlists₀, hrun₀⟩ :=
      (Proper.delete hw).analyze_eq (hw.isFolder_edit hroot _) parser depth settings none
    have hfolder : (w.refill root ways content).resolve root = w.resolve root := rfl
    have hfolder₀ : (w.delete root ways).resolve root = w.resolve root := rfl
    rw [keptBy, hfolder, any_breaksOff_refill hw hroot hfails hlists hlists₀] at hrun
    rw [hrun₀, keptBy, hfolder₀] at hwithout
    split at hwithout
    · cases hwithout
    · next hbreaks =>
      obtain rfl := Except.ok.inj hwithout
      exact ⟨_, hrun.trans (if_neg hbreaks),
        isolates_refill hw hroot hways hfails hlists hlists₀⟩
  · intro cause hcause
    rw [hw.delete_eq_error_iff hroot] at hcause
    exact (hw.refill_eq_error_iff hroot hfails).2 hcause
  · cases Grammar.ofPath path <;> decide

/-- A parser that accepts nothing but empty sources. -/
def emptyOnly : Parser := fun _ source =>
  if source.isEmpty then fetchProgram else .mk { kind := "program", damaged := true } []

/-- One of three files becomes too large and one damaged; the third is analysed as if alone. -/
theorem analyze_refill_threeFiles :
    let ways : Finset (List String) := {["b.js"], ["c.js"]}
    let content := fun way : List String => if way = ["b.js"] then [33] else [0, 0]
    let settings : Settings := { maxFileBytes := 1 }
    ∃ a without,
      (threeFiles.delete ⟨false, []⟩ ways).analyze emptyOnly 9 settings none ⟨false, []⟩ =
        .ok without ∧
      (threeFiles.refill ⟨false, []⟩ ways content).analyze emptyOnly 9 settings none ⟨false, []⟩ =
        .ok a ∧
      a.Isolates without threeFiles ⟨false, []⟩ ways := by
  intro ways content settings
  have hways : ∀ way ∈ ways, ∃ bytes, threeFiles.Accepts settings.scope ⟨false, []⟩ way bytes := by
    intro way hway
    rcases Finset.mem_insert.1 hway with rfl | hway
    · exact ⟨[], rfl, by decide +kernel⟩
    · obtain rfl := Finset.mem_singleton.1 hway
      exact ⟨[0], rfl, by decide +kernel⟩
  have hfails : ∀ way ∈ ways,
      Fails emptyOnly settings.maxFileBytes ((threeFiles.resolve ⟨false, []⟩).below way)
        (content way) := by
    intro way hway
    rcases Finset.mem_insert.1 hway with rfl | hway
    · exact .inr ⟨by decide +kernel, fun g _ => by cases g <;> decide +kernel⟩
    · obtain rfl := Finset.mem_singleton.1 hway
      exact .inl (by decide)
  have hshallow : ∀ {path bytes}, ¬ Breaks emptyOnly 9 settings.maxFileBytes path bytes := by
    rintro path bytes ⟨-, tree, htree, hdeep⟩
    obtain ⟨g, rfl, -⟩ := exists_of_parseSource_eq_ok htree
    unfold emptyOnly at hdeep
    split at hdeep
    · exact absurd hdeep (by decide +kernel)
    · exact absurd hdeep (by decide +kernel)
  obtain ⟨hok, herror, hcause, -⟩ := analyze_refill (show threeFiles.Proper by decide +kernel)
    (show threeFiles.isFolder ⟨false, []⟩ = true by decide +kernel) hways hfails
  cases hrun : (threeFiles.delete ⟨false, []⟩ ways).analyze emptyOnly 9 settings none ⟨false, []⟩ with
  | error cause =>
    obtain ⟨-, way, bytes, -, -, hbreaks⟩ := (hcause cause).1 (herror cause hrun)
    exact absurd hbreaks hshallow
  | ok without =>
    obtain ⟨a, ha, hisolates⟩ := hok without hrun
    exact ⟨a, without, rfl, ha, hisolates⟩

/-- The sum of one name with itself, taken `n` times. -/
def longSum : Nat → Node
  | 0 => .mk { kind := "identifier", field := some "left", bytes := [97] } []
  | n + 1 =>
    .mk { kind := "binary_expression", field := some "left" }
      [longSum n, .mk { kind := "+", field := some "operator", named := false, bytes := [43] } [],
        .mk { kind := "identifier", field := some "right", bytes := [97] } []]

/-- The name `fetch` where it is called. -/
def fetchName : Node :=
  .mk { kind := "identifier", field := some "function", bytes := Text.Utf8.encode "fetch".toList } []

/-- A call of `fetch` with a long sum. -/
def sumCall (n : Nat) : Node :=
  .mk { kind := "call_expression" }
    [fetchName, .mk { kind := "arguments", field := some "arguments" } [longSum n]]

theorem field_longSum (n : Nat) : (longSum n).label.field = some "left" := by
  cases n <;> rfl

/-- Every name but the first adds a level. -/
theorem sumDepth_longSum (n : Nat) : (longSum n).sumDepth = n + 1 := by
  induction n with
  | zero => decide +kernel
  | succ n ih =>
    have hlabel : ∀ label children, (Node.mk label children).label = label := fun _ _ => rfl
    have hright : Node.sumDepth
        (.mk { kind := "identifier", field := some "right", bytes := [97] } []) = 1 := by
      decide +kernel
    have hplus : (Node.mk
        { kind := "+", field := some "operator", named := false, bytes := [43] } []).text = "+" := by
      decide +kernel
    have hsum : (longSum (n + 1)).isSum = true := by
      simp [longSum, Node.isSum, Node.kind, hlabel, Node.role?, Node.children, field_longSum, hplus]
    rw [longSum] at hsum ⊢
    rw [Node.sumDepth, if_neg (by decide +kernel), if_pos hsum]
    simp only [Node.sideDepth?, field_longSum, hlabel, ih, hright]
    simp
    omega

theorem hasDeepUrl_longSum {limit n : Nat} (hlimit : 1 ≤ limit) (h : limit ≤ n)
    (resolve : Resolver) : (longSum n).hasDeepUrl limit resolve = true := by
  obtain ⟨n, rfl⟩ : ∃ k, n = k + 1 := ⟨n - 1, by omega⟩
  have hkind : (longSum (n + 1)).kind = "binary_expression" := rfl
  have hunwrap : (longSum (n + 1)).unwrap = longSum (n + 1) :=
    Node.unwrap_of_not_wrapper (by rw [hkind]; decide)
  have hsource : (longSum (n + 1)).urlSource? resolve = some (longSum (n + 1)) := by
    rw [Node.urlSource?, hunwrap, hkind]
    exact if_neg (by decide)
  have htextual : (longSum (n + 1)).isTextual = false := by
    rw [Node.isTextual, hkind]
    decide
  rw [Node.hasDeepUrl, hsource, Option.any_some, htextual, sumDepth_longSum]
  simp only [Bool.not_false, Bool.true_and, decide_eq_true_eq]
  omega

/-- A program with such a call. -/
def sumProgram (n : Nat) : Node :=
  .mk { kind := "program" } [sumCall n]

theorem tooDeep_sumProgram {limit n : Nat} (hlimit : 1 ≤ limit) (h : limit ≤ n) :
    (sumProgram n).tooDeep limit = true := by
  have hsite : callSite? ScopeTable.program (sumCall n) =
      some ⟨fetchName, [longSum n], ScopeTable.program, 1⟩ := by
    cases n <;> rfl
  have hfetch : (fetchName.kind == "identifier" && fetchName.text == "fetch" ||
      (calledVerb? fetchName).isSome) = true := by decide +kernel
  have htarget : CallSite.target? ⟨fetchName, [longSum n], ScopeTable.program, 1⟩ =
      some (longSum n) := if_pos hfetch
  refine Bool.or_eq_true_iff.2 (.inr (List.any_eq_true.2
    ⟨⟨fetchName, [longSum n], ScopeTable.program, 1⟩, ?_, ?_⟩))
  · refine List.mem_append_right _ (List.mem_append_left _ (List.mem_append_left _ ?_))
    exact Option.mem_toList.2 hsite
  · rw [htarget, Option.any_some]
    exact hasDeepUrl_longSum hlimit h _

/-- A single source file. -/
def oneSourceFile : Workspace where
  base := "/w"
  files := .folder [("w", .folder [("a.js", .file [])])]

/-- A sum of a thousand names breaks the analysis off, although its file can be read and parsed. -/
theorem analyze_longSum :
    oneSourceFile.Proper ∧ oneSourceFile.Accepts ({} : Settings).scope ⟨false, []⟩ ["a.js"] [] ∧
    parseSource (fun _ _ => sumProgram 999) "" .javascript = .ok (sumProgram 999) ∧
    oneSourceFile.analyze (fun _ _ => sumProgram 999) 985 {} none ⟨false, []⟩ = .error .tooDeep := by
  have hproper : oneSourceFile.Proper := by decide +kernel
  have haccepts : oneSourceFile.Accepts ({} : Settings).scope ⟨false, []⟩ ["a.js"] [] :=
    ⟨rfl, by decide +kernel⟩
  have hparse : ∀ source, parseSource (fun _ _ => sumProgram 999) source .javascript =
      .ok (sumProgram 999) := fun _ => rfl
  refine ⟨hproper, haccepts, hparse "", ?_⟩
  refine (hproper.analyze_eq_error_iff (by decide +kernel)).2 ⟨rfl, ["a.js"], [], haccepts, ?_⟩
  exact ⟨by decide, sumProgram 999, hparse _, tooDeep_sumProgram (by decide) (by decide)⟩

end Workspace

end RouteCensus
