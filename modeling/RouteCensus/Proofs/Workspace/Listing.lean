import RouteCensus.Proofs.Workspace.Accepted

/-! # What a scan lists

A scan lists the files that its options select by their suffixes and by the
folders between the scanned one and the file.  The list is in the strict order of
path texts.  It depends neither on the order in which the entries of folders are
listed nor on the names of the scanned folder and of the folders above it.
-/

namespace RouteCensus

/-- What a scan asks of a file: one of the suffixes, in any case of letters, and no ignored name
among the folders between the scanned one and the file. -/
structure ScanOptions.Selects (o : ScanOptions) (folders : List String) (name : String) : Prop where
  suffix : ∃ suffix ∈ if o.extensions = [] then ({} : Settings).extensions else o.extensions,
    Text.downcase suffix = Text.downcase (Path.suffixOf name)
  unignored : ∀ folder ∈ folders, folder ∉ o.ignored.getD ({} : Settings).ignoredDirs

theorem ScanOptions.covers_concat_iff (o : ScanOptions) (folders : List String) (name : String) :
    o.Covers (folders ++ [name]) ↔ o.Selects folders name := by
  have hwanted : o.wants (folders ++ [name]) = true ↔
      ∃ suffix ∈ if o.extensions = [] then ({} : Settings).extensions else o.extensions,
        Text.downcase suffix = Text.downcase (Path.suffixOf name) := by
    simp [wants, suffixes]
  have hignored : (∀ folder ∈ (folders ++ [name]).dropLast, ignoresName o.ignored folder = false) ↔
      ∀ folder ∈ folders, folder ∉ o.ignored.getD ({} : Settings).ignoredDirs := by
    simp [ignoresName]
  constructor
  · intro h
    exact ⟨hwanted.1 h.wanted, hignored.1 h.unignored⟩
  · intro h
    exact ⟨by simp, hwanted.2 h.suffix, hignored.2 h.unignored⟩

namespace Entry

mutual

/-- The same tree with the entries of its folders listed in another order. -/
inductive Relisted : Entry → Entry → Prop where
  | file (bytes : List UInt8) : Relisted (file bytes) (file bytes)
  | folder {entries moved entries' : List (String × Entry)} (each : RelistedAll entries moved)
    (order : moved.Perm entries') : Relisted (folder entries) (folder entries')

inductive RelistedAll : List (String × Entry) → List (String × Entry) → Prop where
  | nil : RelistedAll [] []
  | cons {name : String} {e e' : Entry} {entries entries' : List (String × Entry)}
    (first : Relisted e e') (rest : RelistedAll entries entries') :
    RelistedAll ((name, e) :: entries) ((name, e') :: entries')

end

theorem RelistedAll.exists_right {entries entries' : List (String × Entry)} {name : String}
    {e : Entry} (h : RelistedAll entries entries') (he : (name, e) ∈ entries) :
    ∃ e', (name, e') ∈ entries' ∧ e.Relisted e' := by
  induction entries generalizing entries' with
  | nil => cases he
  | cons entry entries ih =>
    cases h with
    | cons first rest =>
      rcases List.mem_cons.1 he with heq | he
      · obtain ⟨rfl, rfl⟩ := Prod.mk.inj heq
        exact ⟨_, List.mem_cons_self, first⟩
      · obtain ⟨e', he', hrelisted⟩ := ih rest he
        exact ⟨e', List.mem_cons_of_mem _ he', hrelisted⟩

theorem RelistedAll.exists_left {entries entries' : List (String × Entry)} {name : String}
    {e' : Entry} (h : RelistedAll entries entries') (he : (name, e') ∈ entries') :
    ∃ e, (name, e) ∈ entries ∧ e.Relisted e' := by
  induction entries generalizing entries' with
  | nil =>
    cases h
    cases he
  | cons entry entries ih =>
    cases h with
    | cons first rest =>
      rcases List.mem_cons.1 he with heq | he
      · obtain ⟨rfl, rfl⟩ := Prod.mk.inj heq
        exact ⟨_, List.mem_cons_self, first⟩
      · obtain ⟨e, he, hrelisted⟩ := ih rest he
        exact ⟨e, List.mem_cons_of_mem _ he, hrelisted⟩

/-- The same files are found at the same places, whatever the order of listing. -/
theorem Relisted.at?_eq_file_iff {e e' : Entry} (h : e.Relisted e') (he : e.Proper)
    (he' : e'.Proper) (way : List String) (bytes : List UInt8) :
    e.at? way = some (.file bytes) ↔ e'.at? way = some (.file bytes) := by
  induction way generalizing e e' with
  | nil => cases h <;> simp [at?]
  | cons name way ih =>
    cases h with
    | file bytes => rfl
    | folder each order =>
      rw [at?_cons_iff he.1, at?_cons_iff he'.1]
      have hproper := properAmong_iff.1 he.2
      have hproper' := properAmong_iff.1 he'.2
      constructor
      · rintro ⟨child, hchild, hfile⟩
        obtain ⟨child', hmem, hrelisted⟩ := each.exists_right hchild
        have hchild' := order.subset hmem
        exact ⟨child', hchild', (ih hrelisted (hproper _ hchild).2 (hproper' _ hchild').2).1 hfile⟩
      · rintro ⟨child', hchild', hfile⟩
        obtain ⟨child, hchild, hrelisted⟩ := each.exists_left (order.symm.subset hchild')
        exact ⟨child, hchild, (ih hrelisted (hproper _ hchild).2 (hproper' _ hchild').2).2 hfile⟩

end Entry

namespace Workspace

variable {w : Workspace} {o : ScanOptions} {root : Path}

theorem append_lt_append_iff (front s t : String) : front ++ s < front ++ t ↔ s < t := by
  have hchars : ∀ front s t : List Char, front ++ s < front ++ t ↔ s < t := by
    intro front s t
    induction front with
    | nil => rfl
    | cons c front ih => simp [ih]
  rw [String.lt_iff, String.lt_iff, String.toList_append, String.toList_append, hchars]

/-- Paths below a folder are ordered like their texts as seen from the folder. -/
theorem pathText_below_lt_iff (w : Workspace) (folder : Path) {p q : List String} (hp : p ≠ [])
    (hq : q ≠ []) : w.pathText (folder.below p) < w.pathText (folder.below q) ↔
      String.intercalate "/" p < String.intercalate "/" q := by
  rw [pathText, pathText, Path.text_below w.base folder hp, Path.text_below w.base folder hq,
    append_lt_append_iff]

/-- A folder is scanned the same under its path without double dots. -/
theorem Proper.scan_resolve (hw : w.Proper) (hroot : w.isFolder root = true) :
    w.scan o (w.resolve root) = w.scan o root := by
  have hfound : w.find? (w.resolve root) = w.find? root := by
    rw [isFolder, Option.any_eq_true] at hroot
    obtain ⟨e, he, -⟩ := hroot
    obtain ⟨-, outer, htrail⟩ := Entry.Trail.of_follow [] (w.locate root) .start he
    rw [hw.find?_resolve, he]
    exact htrail.at?_eq
  have hfolder : w.isFolder (w.resolve root) = true := by rwa [isFolder, hfound]
  rw [scan, scan, if_pos hroot, if_pos hfolder]
  simp only [candidates, hfound, resolve_resolve]

/-- A scan without a limit, seen from the scanned folder. -/
theorem Proper.exists_ways (hw : w.Proper) (hroot : w.isFolder root = true)
    (hlimit : o.limit = none) :
    ∃ ways : List (List String), w.scan o root = .ok (ways.map (w.resolve root).below) ∧
      (ways.Pairwise fun p q => String.intercalate "/" p < String.intercalate "/" q) ∧
      ∀ way, way ∈ ways ↔ ∃ bytes, w.Accepts o root way bytes := by
  obtain ⟨paths, hlists, hscan⟩ := hw.exists_lists hroot o none
  have hoptions : ({ o with limit := none } : ScanOptions) = o := by rw [← hlimit]
  rw [hoptions, hw.scan_resolve hroot] at hscan
  obtain ⟨ways, rfl⟩ : ∃ ways : List (List String), paths = ways.map (w.resolve root).below := by
    refine ⟨paths.map fun path => path.parts.drop (w.resolve root).parts.length, ?_⟩
    rw [List.map_map]
    refine (List.map_id paths).symm.trans (List.map_congr_left fun path hpath => ?_)
    obtain ⟨way, bytes, -, rfl⟩ := (hlists.mem_iff path).1 hpath
    rw [Function.comp_apply, Path.drop_below, id_eq]
  have hmem : ∀ way, way ∈ ways ↔ ∃ bytes, w.Accepts o root way bytes := by
    intro way
    rw [← List.mem_map_of_injective (w.resolve root).below_injective, hlists.mem_iff]
    constructor
    · rintro ⟨other, bytes, haccepts, hpath⟩
      rw [(w.resolve root).below_injective hpath]
      exact ⟨bytes, haccepts⟩
    · rintro ⟨bytes, haccepts⟩
      exact ⟨way, bytes, haccepts, rfl⟩
  refine ⟨ways, hscan, ?_, hmem⟩
  refine (List.pairwise_map.1 hlists.sorted).imp_of_mem fun {p q} hp hq hlt => ?_
  obtain ⟨_, hp⟩ := (hmem p).1 hp
  obtain ⟨_, hq⟩ := (hmem q).1 hq
  exact (w.pathText_below_lt_iff _ hp.2.ne_nil hq.2.ne_nil).1 hlt

/-- Two lists of ways in strict order with the same members are equal. -/
theorem ways_unique {ways ways' : List (List String)}
    (h : ways.Pairwise fun p q => String.intercalate "/" p < String.intercalate "/" q)
    (h' : ways'.Pairwise fun p q => String.intercalate "/" p < String.intercalate "/" q)
    (hmem : ∀ way, way ∈ ways ↔ way ∈ ways') : ways = ways' := by
  have hnodup : ∀ {l : List (List String)}, (l.Pairwise fun p q =>
      String.intercalate "/" p < String.intercalate "/" q) → l.Nodup := by
    intro l hl
    refine hl.imp fun {p q} hlt heq => ?_
    rw [heq] at hlt
    exact String.lt_irrefl _ hlt
  have hperm := (List.perm_ext_iff_of_nodup (hnodup h) (hnodup h')).2 hmem
  apply hperm.eq_of_pairwise _ h h'
  intro p q _ _ hpq hqp
  exact absurd hqp (String.lt_asymm hpq)

/-- A scan without a limit gives the files that its options select, in the strict order of their
path texts.  The same folder, with its entries listed in any order and wherever it stands, gives the
same files. -/
theorem scan_selects (hw : w.Proper) (hroot : w.isFolder root = true) (hlimit : o.limit = none) :
    ∃ ways : List (List String),
      w.scan o root = .ok (ways.map (w.resolve root).below) ∧
      ((ways.map fun way => w.pathText ((w.resolve root).below way)).Pairwise (· < ·)) ∧
      (∀ way, way ∈ ways ↔ ∃ folders name bytes, way = folders ++ [name] ∧
        w.files.at? (w.place root ++ way) = some (.file bytes) ∧ o.Selects folders name) ∧
      ∀ (w' : Workspace) (root' : Path) (tree tree' : Entry), w'.Proper →
        w'.isFolder root' = true → w.files.at? (w.place root) = some tree →
        w'.files.at? (w'.place root') = some tree' → tree.Relisted tree' →
          w'.scan o root' = .ok (ways.map (w'.resolve root').below) := by
  obtain ⟨ways, hscan, hsorted, hmem⟩ := hw.exists_ways hroot hlimit
  refine ⟨ways, hscan, ?_, ?_, ?_⟩
  · rw [List.pairwise_map]
    refine hsorted.imp_of_mem fun {p q} hp hq hlt => ?_
    obtain ⟨_, hp⟩ := (hmem p).1 hp
    obtain ⟨_, hq⟩ := (hmem q).1 hq
    exact (w.pathText_below_lt_iff _ hp.2.ne_nil hq.2.ne_nil).2 hlt
  · intro way
    rw [hmem]
    constructor
    · rintro ⟨bytes, hfile, hcovers⟩
      obtain ⟨folders, name, rfl⟩ := (List.eq_nil_or_concat' way).resolve_left hcovers.ne_nil
      exact ⟨folders, name, bytes, rfl, hfile, (o.covers_concat_iff folders name).1 hcovers⟩
    · rintro ⟨folders, name, bytes, rfl, hfile, hselects⟩
      exact ⟨bytes, hfile, (o.covers_concat_iff folders name).2 hselects⟩
  · intro w' root' tree tree' hw' hroot' htree htree' hrelisted
    obtain ⟨ways', hscan', hsorted', hmem'⟩ := hw'.exists_ways hroot' hlimit
    have hways : ways = ways' := by
      apply ways_unique hsorted hsorted'
      intro way
      have hfile := fun bytes => hrelisted.at?_eq_file_iff (hw.files.at? htree)
        (hw'.files.at? htree') way bytes
      simp only [hmem, hmem', Accepts, Entry.at?_append, htree, htree', Option.bind_some, hfile]
    rw [hscan', hways]

/-- A folder with an ignored folder in it, inside of another one with an ignored name. -/
def nestedFolders : Workspace where
  base := "/dist"
  files := .folder [("dist", .folder [("src", .folder [
    ("z", .folder [("App.TSX", .file []), ("build", .folder [("c.js", .file [])])]),
    ("b.css", .file []), ("a.js", .file [])])])]

/-- The same folder under an ignored name, with its entries in another order. -/
def movedFolders : Workspace where
  base := "/w"
  files := .folder [("w", .folder [("out", .folder [
    ("a.js", .file []),
    ("z", .folder [("build", .folder [("c.js", .file [])]), ("App.TSX", .file [])]),
    ("b.css", .file [])])])]

theorem scan_nestedFolders :
    ∃ ways : List (List String),
      nestedFolders.scan {} ⟨false, ["src"]⟩ = .ok (ways.map (Path.below ⟨false, ["src"]⟩)) ∧
      movedFolders.scan {} ⟨false, ["out"]⟩ = .ok (ways.map (Path.below ⟨false, ["out"]⟩)) ∧
      ["z", "App.TSX"] ∈ ways ∧ ["z", "build", "c.js"] ∉ ways := by
  have hproper : nestedFolders.Proper := by decide +kernel
  have hroot : nestedFolders.isFolder ⟨false, ["src"]⟩ = true := by decide +kernel
  obtain ⟨ways, hscan, -, hmem, hmoved⟩ := scan_selects (o := {}) hproper hroot rfl
  refine ⟨ways, hscan, ?_, ?_, ?_⟩
  · have hmovedProper : movedFolders.Proper := by decide +kernel
    refine hmoved movedFolders ⟨false, ["out"]⟩ _ _ hmovedProper (by decide +kernel) rfl rfl ?_
    refine .folder (.cons (.folder (.cons (.file _) (.cons ?_ .nil)) (.swap _ _ _))
      (.cons (.file _) (.cons (.file _) .nil)))
      (((List.Perm.swap _ _ _).cons _).trans (.swap _ _ _))
    exact .folder (.cons (.file _) .nil) (.refl _)
  · refine (hmem _).2 ⟨["z"], "App.TSX", [], rfl, rfl, ?_⟩
    exact ⟨⟨".tsx", by decide, by decide +kernel⟩, by decide⟩
  · intro h
    obtain ⟨folders, name, bytes, hway, -, hselects⟩ := (hmem _).1 h
    have hfolders : ["z", "build"] ++ ["c.js"] = folders ++ [name] := hway
    obtain ⟨rfl, -⟩ := List.append_inj' hfolders rfl
    exact hselects.unignored "build" (by decide) (by decide)

end Workspace

end RouteCensus
