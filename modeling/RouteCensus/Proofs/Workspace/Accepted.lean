import RouteCensus.Proofs.Workspace.Files
import RouteCensus.Proofs.Workspace.Report
import Mathlib.Data.List.Sort

/-! # Accepted files

A scan accepts the files below a folder that have one of the wanted suffixes and
that no ignored folder on the way from the folder holds.  In a proper file tree,
where the names in a folder are different and do not hold the separator, it lists
exactly these files, each once and in the strict order of their path texts.  An
analysis therefore depends on nothing but the accepted files and their bytes.
-/

namespace RouteCensus

/-- A text that can be the name of a file or folder. -/
def IsEntryName (name : String) : Prop :=
  '/' ∉ name.toList ∧ name ≠ ".."

instance (name : String) : Decidable (IsEntryName name) :=
  inferInstanceAs (Decidable (_ ∧ _))

namespace Entry

mutual

/-- In every folder the names are proper and different. -/
def Proper : Entry → Prop
  | file _ => True
  | folder entries => (entries.map Prod.fst).Nodup ∧ ProperAmong entries

def ProperAmong : List (String × Entry) → Prop
  | [] => True
  | (name, e) :: rest => IsEntryName name ∧ e.Proper ∧ ProperAmong rest

end

mutual

def decidableProper : (e : Entry) → Decidable e.Proper
  | file _ => isTrue trivial
  | folder entries =>
    have := decidableProperAmong entries
    inferInstanceAs (Decidable ((entries.map Prod.fst).Nodup ∧ ProperAmong entries))

def decidableProperAmong : (entries : List (String × Entry)) → Decidable (ProperAmong entries)
  | [] => isTrue trivial
  | (name, e) :: rest =>
    have := decidableProper e
    have := decidableProperAmong rest
    inferInstanceAs (Decidable (IsEntryName name ∧ e.Proper ∧ ProperAmong rest))

end

instance (e : Entry) : Decidable e.Proper :=
  e.decidableProper

theorem properAmong_iff {entries : List (String × Entry)} :
    ProperAmong entries ↔ ∀ entry ∈ entries, IsEntryName entry.1 ∧ entry.2.Proper := by
  induction entries with
  | nil => simp [ProperAmong]
  | cons entry entries ih => simp [ProperAmong, ih, and_assoc]

theorem mem_of_childIn? {name : String} {e : Entry} {entries : List (String × Entry)}
    (h : childIn? name entries = some e) : (name, e) ∈ entries := by
  obtain ⟨entry, hentry, rfl⟩ := Option.map_eq_some_iff.1 h
  have hname : entry.1 = name := by simpa using List.find?_some hentry
  exact hname ▸ List.mem_of_find?_eq_some hentry

theorem childIn?_of_mem {name : String} {e : Entry} {entries : List (String × Entry)}
    (hnames : (entries.map Prod.fst).Nodup) (h : (name, e) ∈ entries) :
    childIn? name entries = some e := by
  induction entries with
  | nil => cases h
  | cons entry entries ih =>
    rw [List.map_cons, List.nodup_cons] at hnames
    rcases List.mem_cons.1 h with rfl | h
    · simp [childIn?]
    · have hne : entry.1 ≠ name := by
        rintro rfl
        exact hnames.1 (List.mem_map.2 ⟨_, h, rfl⟩)
      rw [childIn?, List.find?_cons_of_neg (by simpa using hne)]
      exact ih hnames.2 h

/-- What the way to an entry tells of the entry below a folder. -/
theorem at?_cons_iff {entries : List (String × Entry)} (hnames : (entries.map Prod.fst).Nodup)
    {name : String} {rest : List String} {e : Entry} :
    (folder entries).at? (name :: rest) = some e ↔
      ∃ child, (name, child) ∈ entries ∧ child.at? rest = some e := by
  rw [at?, child?, Option.bind_eq_some_iff]
  constructor
  · rintro ⟨child, hchild, h⟩
    exact ⟨child, mem_of_childIn? hchild, h⟩
  · rintro ⟨child, hchild, h⟩
    exact ⟨child, childIn?_of_mem hnames hchild, h⟩

/-- A file at the end of a way through folders that are not skipped. -/
def Shows (skip : String → Bool) (e : Entry) (way : List String) : Prop :=
  (∃ bytes, e.at? way = some (file bytes)) ∧ ∀ name ∈ way.dropLast, skip name = false

theorem shows_file (skip : String → Bool) (bytes : List UInt8) (way : List String) :
    (file bytes).Shows skip way ↔ way = [] := by
  cases way with
  | nil => simp [Shows, at?]
  | cons name rest => simp [Shows, at?, child?]

theorem shows_folder_nil (skip : String → Bool) (entries : List (String × Entry)) :
    ¬ (folder entries).Shows skip [] := by
  simp [Shows, at?]

/-- The first folder on the way to a file is not skipped, and the file may have any name. -/
theorem shows_folder_cons {skip : String → Bool} {entries : List (String × Entry)}
    (hnames : (entries.map Prod.fst).Nodup) {name : String} {rest : List String} :
    (folder entries).Shows skip (name :: rest) ↔
      ∃ child, (name, child) ∈ entries ∧ (child.isFolder && skip name) = false ∧
        child.Shows skip rest := by
  have hskip : ∀ {child : Entry} {bytes : List UInt8}, child.at? rest = some (file bytes) →
      ((∀ other ∈ (name :: rest).dropLast, skip other = false) ↔
        (child.isFolder && skip name) = false ∧ ∀ other ∈ rest.dropLast, skip other = false) := by
    intro child bytes h
    cases rest with
    | nil =>
      obtain rfl : child = file bytes := Option.some.inj h
      simp [isFolder]
    | cons next rest =>
      cases child with
      | file b => cases h
      | folder inner =>
        rw [List.dropLast_cons_of_ne_nil (List.cons_ne_nil next rest)]
        simp [isFolder]
  unfold Shows
  constructor
  · rintro ⟨⟨bytes, h⟩, hway⟩
    obtain ⟨child, hchild, h⟩ := (at?_cons_iff hnames).1 h
    obtain ⟨hfirst, hrest⟩ := (hskip h).1 hway
    exact ⟨child, hchild, hfirst, ⟨bytes, h⟩, hrest⟩
  · rintro ⟨child, hchild, hfirst, ⟨bytes, h⟩, hrest⟩
    exact ⟨⟨bytes, (at?_cons_iff hnames).2 ⟨child, hchild, h⟩⟩, (hskip h).2 ⟨hfirst, hrest⟩⟩

mutual

theorem mem_filesBelow (skip : String → Bool) : ∀ {e : Entry}, e.Proper →
    ∀ {trail parts : List String}, parts ∈ e.filesBelow skip trail ↔
      ∃ way, parts = trail ++ way ∧ e.Shows skip way
  | file bytes, _, trail, parts => by
    simp [filesBelow, shows_file]
  | folder entries, h, trail, parts => by
    rw [filesBelow, mem_filesAmong skip h.2]
    constructor
    · rintro ⟨name, child, way, hchild, rfl, hskip, hway⟩
      exact ⟨name :: way, rfl, (shows_folder_cons h.1).2 ⟨child, hchild, hskip, hway⟩⟩
    · rintro ⟨way, rfl, hway⟩
      cases way with
      | nil => exact absurd hway (shows_folder_nil skip entries)
      | cons name way =>
        obtain ⟨child, hchild, hskip, hway⟩ := (shows_folder_cons h.1).1 hway
        exact ⟨name, child, way, hchild, rfl, hskip, hway⟩

theorem mem_filesAmong (skip : String → Bool) : ∀ {entries : List (String × Entry)},
    ProperAmong entries → ∀ {trail parts : List String}, parts ∈ filesAmong skip trail entries ↔
      ∃ name child way, (name, child) ∈ entries ∧ parts = trail ++ name :: way ∧
        (child.isFolder && skip name) = false ∧ child.Shows skip way
  | [], _, trail, parts => by simp [filesAmong]
  | (name, e) :: rest, h, trail, parts => by
    obtain ⟨-, he, hrest⟩ := h
    rw [filesAmong, List.mem_append, mem_filesAmong skip hrest]
    have hhead : parts ∈ (if e.isFolder && skip name then [] else
        e.filesBelow skip (trail ++ [name])) ↔
        ∃ way, parts = trail ++ name :: way ∧ (e.isFolder && skip name) = false ∧
          e.Shows skip way := by
      cases hskip : e.isFolder && skip name with
      | true => simp
      | false =>
        rw [if_neg (by simp), mem_filesBelow skip he]
        simp
    rw [hhead]
    constructor
    · rintro (⟨way, h⟩ | ⟨other, child, way, hchild, h⟩)
      · exact ⟨name, e, way, List.mem_cons_self, h⟩
      · exact ⟨other, child, way, List.mem_cons_of_mem _ hchild, h⟩
    · rintro ⟨other, child, way, hchild, h⟩
      rcases List.mem_cons.1 hchild with heq | hchild
      · obtain ⟨rfl, rfl⟩ := Prod.mk.inj heq
        exact .inl ⟨way, h⟩
      · exact .inr ⟨other, child, way, hchild, h⟩

end

mutual

theorem filesBelow_nodup (skip : String → Bool) : ∀ {e : Entry}, e.Proper →
    ∀ trail : List String, (e.filesBelow skip trail).Nodup
  | file bytes, _, trail => by simp [filesBelow]
  | folder entries, h, trail => by
    rw [filesBelow]
    exact filesAmong_nodup skip h.1 h.2 trail

theorem filesAmong_nodup (skip : String → Bool) : ∀ {entries : List (String × Entry)},
    (entries.map Prod.fst).Nodup → ProperAmong entries →
      ∀ trail : List String, (filesAmong skip trail entries).Nodup
  | [], _, _, trail => by simp [filesAmong]
  | (name, e) :: rest, hnames, h, trail => by
    rw [List.map_cons, List.nodup_cons] at hnames
    obtain ⟨-, he, hrest⟩ := h
    rw [filesAmong, List.nodup_append]
    refine ⟨?_, filesAmong_nodup skip hnames.2 hrest trail, ?_⟩
    · split
      · exact List.nodup_nil
      · exact filesBelow_nodup skip he _
    · -- Files below different entries of a folder differ in the part behind the folder.
      rintro p hp q hq rfl
      obtain ⟨other, child, way, hchild, rfl, -⟩ := (mem_filesAmong skip hrest).1 hq
      split at hp
      · cases hp
      · obtain ⟨way', hway', -⟩ := (mem_filesBelow skip he).1 hp
        rw [List.append_assoc, List.append_cancel_left_eq, List.singleton_append,
          List.cons.injEq] at hway'
        exact hnames.1 (List.mem_map.2 ⟨_, hchild, hway'.1⟩)

end

/-- The names on the way to an entry of a proper tree are proper. -/
theorem Proper.isEntryName_of_at? {root e : Entry} (h : root.Proper) {way : List String}
    (hway : root.at? way = some e) : ∀ name ∈ way, IsEntryName name := by
  induction way generalizing root with
  | nil => exact fun name hname => absurd hname List.not_mem_nil
  | cons first way ih =>
    cases root with
    | file bytes => cases hway
    | folder entries =>
      obtain ⟨child, hchild, hway⟩ := (at?_cons_iff h.1).1 hway
      obtain ⟨hfirst, hproper⟩ := properAmong_iff.1 h.2 _ hchild
      intro name hname
      rcases List.mem_cons.1 hname with rfl | hname
      · exact hfirst
      · exact ih hproper hway name hname

/-- A part of a proper tree is proper. -/
theorem Proper.at? {root e : Entry} (h : root.Proper) {way : List String}
    (hway : root.at? way = some e) : e.Proper := by
  induction way generalizing root with
  | nil =>
    obtain rfl := Option.some.inj hway
    exact h
  | cons first way ih =>
    cases root with
    | file bytes => cases hway
    | folder entries =>
      obtain ⟨child, hchild, hway⟩ := (at?_cons_iff h.1).1 hway
      exact ih (properAmong_iff.1 h.2 _ hchild).2 hway

end Entry

namespace Path

/-- A path that does not climb out of a folder is collapsed inside it. -/
theorem collapse_append {folder parts : List String} (hfolder : ".." ∉ folder)
    (hparts : climbs 0 parts = false) :
    collapse (folder ++ parts) = folder ++ collapse parts := by
  have hinside : ∀ (parts done : List String), climbs done.length parts = false →
      parts.foldl (fun done part => if part == ".." then done.drop 1 else part :: done)
          (done ++ folder.reverse) =
        parts.foldl (fun done part => if part == ".." then done.drop 1 else part :: done) done ++
          folder.reverse := by
    intro parts
    induction parts with
    | nil => exact fun done _ => rfl
    | cons part parts ih =>
      intro done hclimbs
      rw [climbs] at hclimbs
      rw [List.foldl_cons, List.foldl_cons]
      by_cases hpart : part = ".."
      · simp only [hpart, beq_self_eq_true, if_true, Bool.or_eq_false_iff, beq_eq_false_iff_ne] at *
        cases done with
        | nil => exact absurd rfl hclimbs.1
        | cons first done => exact ih done hclimbs.2
      · simp only [beq_iff_eq, hpart, if_false] at *
        exact ih (part :: done) hclimbs
  have hstart : folder.foldl (fun done part => if part == ".." then done.drop 1 else part :: done)
      [] = folder.reverse := by
    rw [← List.reverse_eq_iff]
    exact collapse_of_not_mem hfolder
  rw [collapse, List.foldl_append, hstart, ← List.nil_append folder.reverse, hinside parts [] hparts,
    List.reverse_append, List.reverse_reverse]
  rfl

/-- The path of something below a folder. -/
def below (folder : Path) (parts : List String) : Path :=
  { folder with parts := folder.parts ++ parts }

theorem below_injective (folder : Path) : Function.Injective folder.below := by
  intro p q h
  simpa [below] using h

theorem drop_below (folder : Path) (way : List String) :
    (folder.below way).parts.drop folder.parts.length = way :=
  List.drop_left

/-- The text before the texts of the paths below a folder. -/
def stem (base : String) (folder : Path) : String :=
  if folder.absolute && folder.parts.isEmpty then "/" else folder.text base ++ "/"

theorem intercalate_append (sep : String) {p q : List String} (hp : p ≠ []) (hq : q ≠ []) :
    sep.intercalate (p ++ q) = sep.intercalate p ++ sep ++ sep.intercalate q := by
  induction p with
  | nil => exact absurd rfl hp
  | cons first p ih =>
    cases p with
    | nil =>
      obtain ⟨next, rest, rfl⟩ := List.exists_cons_of_ne_nil hq
      rw [List.singleton_append, String.intercalate_cons_cons, String.intercalate_singleton]
    | cons second p =>
      rw [List.cons_append, List.cons_append, String.intercalate_cons_cons,
        String.intercalate_cons_cons, ← List.cons_append, ih (List.cons_ne_nil second p)]
      simp only [String.append_assoc]

theorem text_below (base : String) (folder : Path) {parts : List String} (h : parts ≠ []) :
    (folder.below parts).text base = stem base folder ++ String.intercalate "/" parts := by
  obtain ⟨absolute, above⟩ := folder
  cases above with
  | nil => cases absolute <;> simp [text, below, stem, h, String.append_assoc]
  | cons first above =>
    have hsplit := intercalate_append "/" (List.cons_ne_nil first above) h
    rw [List.cons_append] at hsplit
    cases absolute <;> simp only [text, below, stem, hsplit, List.isEmpty_cons, Bool.and_false,
      Bool.false_eq_true, if_false, if_true, List.cons_append, String.append_assoc]

/-- Below a folder, different paths have different texts. -/
theorem text_below_injective {base : String} {folder : Path} {p q : List String} (hp : p ≠ [])
    (hq : q ≠ []) (hpnames : ∀ name ∈ p, IsEntryName name) (hqnames : ∀ name ∈ q, IsEntryName name)
    (h : (folder.below p).text base = (folder.below q).text base) : p = q := by
  have hsplit : ∀ {parts : List String}, parts ≠ [] → (∀ name ∈ parts, IsEntryName name) →
      (String.intercalate "/" parts).toList.splitOn '/' = parts.map String.toList := by
    intro parts hne hnames
    rw [String.toList_intercalate]
    apply List.splitOn_intercalate
    · intro chars hchars
      obtain ⟨name, hname, rfl⟩ := List.mem_map.1 hchars
      exact (hnames name hname).1
    · simpa using hne
  rw [text_below base folder hp, text_below base folder hq, String.append_right_inj] at h
  apply List.map_injective_iff.2 fun _ _ => String.toList_injective
  rw [← hsplit hp hpnames, ← hsplit hq hqnames, h]

end Path

namespace Workspace

/-- A workspace in a proper file tree, whose own folder is given by a path without double dots. -/
structure Proper (w : Workspace) : Prop where
  files : w.files.Proper
  base : ".." ∉ (Path.ofText w.base).parts

instance (w : Workspace) : Decidable w.Proper :=
  decidable_of_iff (w.files.Proper ∧ ".." ∉ (Path.ofText w.base).parts)
    ⟨fun h => ⟨h.1, h.2⟩, fun h => ⟨h.files, h.base⟩⟩

theorem locate_resolve {w : Workspace} (hbase : ".." ∉ (Path.ofText w.base).parts) (p : Path) :
    w.locate (w.resolve p) = w.place p := by
  obtain ⟨absolute, parts⟩ := p
  cases absolute with
  | true => rfl
  | false =>
    cases hclimbs : Path.climbs 0 parts with
    | true => simp [locate, resolve, place, Path.leaves, hclimbs]
    | false =>
      have hinside := Path.collapse_append hbase hclimbs
      simp [locate, resolve, place, Path.leaves, hclimbs, hinside]

theorem resolve_resolve (w : Workspace) (p : Path) : w.resolve (w.resolve p) = w.resolve p := by
  have hcollapsed : ∀ (absolute : Bool) (parts : List String), ".." ∉ parts →
      w.resolve ⟨absolute, parts⟩ = ⟨absolute, parts⟩ := by
    intro absolute parts hparts
    have hstays : ∀ depth, Path.climbs depth parts = false := by
      induction parts with
      | nil => exact fun depth => rfl
      | cons part parts ih =>
        rw [List.mem_cons, not_or] at hparts
        intro depth
        rw [Path.climbs, if_neg (by simpa using Ne.symm hparts.1)]
        exact ih hparts.2 (depth + 1)
    simp [resolve, Path.leaves, hstays, Path.collapse_of_not_mem hparts]
  conv_lhs => arg 2; unfold resolve
  conv_rhs => unfold resolve
  split <;> exact hcollapsed _ _ (Path.not_mem_collapse _)

end Workspace

namespace Entry

/-- Following a path that leads somewhere passes folders, and ends at the place that the collapsed
path names. -/
theorem Trail.of_follow {root here e : Entry} {outer : List Entry} (seen rest : List String)
    (h : Trail root (Path.collapse seen) outer here) (hrest : follow outer here rest = some e) :
    (∀ n < rest.length, root.HasFolder (Path.collapse (seen ++ rest.take n))) ∧
      ∃ outer', Trail root (Path.collapse (seen ++ rest)) outer' e := by
  induction rest generalizing seen outer here with
  | nil =>
    obtain rfl := Option.some.inj hrest
    exact ⟨fun n hn => absurd hn (Nat.not_lt_zero n), outer, by rwa [List.append_nil]⟩
  | cons part rest ih =>
    have hnext : ∀ {next outer entries}, here = folder entries →
        Trail root (Path.collapse (seen ++ [part])) outer next → follow outer next rest = some e →
          (∀ n < (part :: rest).length,
            root.HasFolder (Path.collapse (seen ++ (part :: rest).take n))) ∧
          ∃ outer', Trail root (Path.collapse (seen ++ part :: rest)) outer' e := by
      intro next outer' entries hhere htrail hfollow
      obtain ⟨hfolders, htrail⟩ := ih (seen ++ [part]) htrail hfollow
      rw [List.append_assoc, List.singleton_append] at htrail
      refine ⟨fun n hn => ?_, htrail⟩
      cases n with
      | zero =>
        rw [List.take_zero, List.append_nil]
        exact ⟨entries, hhere ▸ h.at?_eq⟩
      | succ n =>
        have hfolder := hfolders n (Nat.lt_of_succ_lt_succ hn)
        rwa [List.append_assoc, List.singleton_append] at hfolder
    rw [Path.collapse_concat] at hnext
    rw [follow.eq_def] at hrest
    by_cases hpart : part = ".."
    · simp only [hpart, beq_self_eq_true, if_true] at hnext hrest ⊢
      split at hrest
      · exact hnext rfl h.up hrest
      · obtain ⟨hnames, -⟩ := h.top
        rw [hnames, List.dropLast_nil] at hnext
        exact hnext rfl (hnames ▸ h) hrest
      · cases hrest
    · simp only [beq_iff_eq, hpart, if_false] at hnext hrest
      split at hrest
      · next child hchild =>
        cases here with
        | file bytes => cases hchild
        | folder entries => exact hnext rfl (h.down hchild) hrest
      · cases hrest

/-- A path leads to a folder if every part of it does. -/
theorem any_isFolder_find?_iff {root : Entry} {parts : List String} :
    (root.find? parts).any isFolder = true ↔
      ∀ n ≤ parts.length, root.HasFolder (Path.collapse (parts.take n)) := by
  rw [Option.any_eq_true]
  constructor
  · rintro ⟨e, hfound, hfolder⟩ n hn
    obtain ⟨hbefore, outer, htrail⟩ := Trail.of_follow [] parts .start hfound
    rcases Nat.lt_or_eq_of_le hn with hlt | rfl
    · exact hbefore n hlt
    · rw [List.take_length]
      cases e with
      | file bytes => cases hfolder
      | folder entries => exact ⟨entries, htrail.at?_eq⟩
  · intro hfolders
    obtain ⟨entries, hlast⟩ := hfolders parts.length (Nat.le_refl _)
    rw [List.take_length] at hlast
    refine ⟨.folder entries, ?_, rfl⟩
    rw [find?, Trail.follow_eq [] parts .start fun n hn => hfolders n (Nat.le_of_lt hn),
      List.nil_append, hlast]

end Entry

namespace Workspace

variable {w : Workspace}

theorem not_mem_place (w : Workspace) (p : Path) : ".." ∉ w.place p :=
  Path.not_mem_collapse _

theorem Proper.find?_resolve (hw : w.Proper) (p : Path) :
    w.find? (w.resolve p) = w.files.at? (w.place p) := by
  rw [find?, locate_resolve hw.base, Entry.find?, Entry.follow_eq_at? (w.not_mem_place p)]

theorem isFolder_iff {p : Path} : w.isFolder p = true ↔
    ∀ n ≤ (w.locate p).length, w.files.HasFolder (Path.collapse ((w.locate p).take n)) :=
  Entry.any_isFolder_find?_iff

/-- A folder is also found under its path without double dots. -/
theorem folder_at_place {root : Path} (hroot : w.isFolder root = true) :
    w.files.HasFolder (w.place root) := by
  have hlast := isFolder_iff.1 hroot (w.locate root).length (Nat.le_refl _)
  rwa [List.take_length] at hlast

theorem locate_below (w : Workspace) (folder : Path) (parts : List String) :
    w.locate (folder.below parts) = w.locate folder ++ parts := by
  cases habsolute : folder.absolute <;> simp [locate, Path.below, habsolute]

end Workspace

/-- A way from the scanned folder that ends in a name with a wanted suffix and passes no ignored
folder. -/
structure ScanOptions.Covers (o : ScanOptions) (way : List String) : Prop where
  ne_nil : way ≠ []
  wanted : o.wants way = true
  unignored : ∀ name ∈ way.dropLast, ignoresName o.ignored name = false

instance (o : ScanOptions) (way : List String) : Decidable (o.Covers way) :=
  decidable_of_iff (way ≠ [] ∧ o.wants way = true ∧
      ∀ name ∈ way.dropLast, ignoresName o.ignored name = false)
    ⟨fun h => ⟨h.1, h.2.1, h.2.2⟩, fun h => ⟨h.ne_nil, h.wanted, h.unignored⟩⟩

/-- The file at the end of a way from the scanned folder is accepted and has the given bytes. -/
def Workspace.Accepts (w : Workspace) (o : ScanOptions) (root : Path) (way : List String)
    (bytes : List UInt8) : Prop :=
  w.files.at? (w.place root ++ way) = some (.file bytes) ∧ o.Covers way

namespace Workspace

variable {w w' : Workspace} {o : ScanOptions} {root : Path}

/-- The accepted files are those that a walk from the scanned folder lists and that are wanted. -/
theorem Proper.mem_candidates (hw : w.Proper) (hroot : w.isFolder root = true) {path : Path} :
    path ∈ w.candidates o (w.resolve root) ↔
      ∃ way bytes, w.Accepts o root way bytes ∧ path = (w.resolve root).below way := by
  obtain ⟨entries, hfolder⟩ := folder_at_place hroot
  have hproper := hw.files.at? hfolder
  have hfiles : w.candidates o (w.resolve root) =
      ((Entry.filesBelow (ignoresName o.ignored) [] (.folder entries)).filter o.wants).map
        (w.resolve root).below := by
    simp only [candidates, hw.find?_resolve, hfolder, resolve_resolve, Entry.filesBelow]
    rfl
  have hat : ∀ way, w.files.at? (w.place root ++ way) = (Entry.folder entries).at? way := by
    intro way
    rw [Entry.at?_append, hfolder, Option.bind_some]
  rw [hfiles, List.mem_map]
  constructor
  · rintro ⟨way, hway, rfl⟩
    rw [List.mem_filter, Entry.mem_filesBelow _ hproper] at hway
    obtain ⟨⟨_, rfl, ⟨bytes, hfile⟩, hskip⟩, hwants⟩ := hway
    refine ⟨_, bytes, ⟨(hat _).trans hfile, ?_, hwants, hskip⟩, rfl⟩
    rintro rfl
    cases hfile
  · rintro ⟨way, bytes, ⟨hfile, hcovers⟩, rfl⟩
    rw [hat] at hfile
    refine ⟨way, List.mem_filter.2 ⟨?_, hcovers.wanted⟩, rfl⟩
    exact (Entry.mem_filesBelow _ hproper).2 ⟨way, rfl, ⟨bytes, hfile⟩, hcovers.unignored⟩

theorem Proper.candidates_nodup (hw : w.Proper) (hroot : w.isFolder root = true) :
    (w.candidates o (w.resolve root)).Nodup := by
  obtain ⟨entries, hfolder⟩ := folder_at_place hroot
  simp only [candidates, hw.find?_resolve, hfolder, resolve_resolve]
  have hdifferent := Entry.filesBelow_nodup (ignoresName o.ignored) (hw.files.at? hfolder) []
  rw [Entry.filesBelow] at hdifferent
  refine (hdifferent.filter _).map fun p q hpq => ?_
  simpa using hpq

theorem Proper.isEntryName_of_accepts (hw : w.Proper) {way : List String} {bytes : List UInt8}
    (h : w.Accepts o root way bytes) : ∀ name ∈ way, IsEntryName name :=
  fun name hname => hw.files.isEntryName_of_at? h.1 name (List.mem_append_right _ hname)

/-- An accepted file is found under its path. -/
theorem Proper.fileBytes?_of_accepts (hw : w.Proper) {way : List String} {bytes : List UInt8}
    (h : w.Accepts o root way bytes) :
    w.fileBytes? ((w.resolve root).below way) = some bytes := by
  have hdots : ".." ∉ w.place root ++ way := fun hmem =>
    (hw.files.isEntryName_of_at? h.1 _ hmem).2 rfl
  rw [fileBytes?, find?, locate_below, locate_resolve hw.base, Entry.find?,
    Entry.follow_eq_at? hdots, h.1]

/-- A scan without a limit lists exactly the accepted files, each once, in the strict order of
their path texts. -/
structure Lists (w : Workspace) (o : ScanOptions) (root : Path) (paths : List Path) : Prop where
  sorted : paths.Pairwise fun p q => w.pathText p < w.pathText q
  mem_iff : ∀ path, path ∈ paths ↔
    ∃ way bytes, w.Accepts o root way bytes ∧ path = (w.resolve root).below way

theorem Lists.nodup {paths : List Path} (h : w.Lists o root paths) : paths.Nodup := by
  refine h.sorted.imp fun {p q} hlt heq => ?_
  rw [heq] at hlt
  exact String.lt_irrefl _ hlt

/-- Two lists of the same files are equal. -/
theorem Lists.unique {paths paths' : List Path} (h : w.Lists o root paths)
    (h' : w'.Lists o root paths') (hbase : w.base = w'.base)
    (hmem : ∀ path, path ∈ paths ↔ path ∈ paths') : paths = paths' := by
  have hsorted' := h'.sorted
  simp only [pathText, ← hbase] at hsorted'
  have hperm := (List.perm_ext_iff_of_nodup h.nodup h'.nodup).2 hmem
  apply hperm.eq_of_pairwise _ h.sorted hsorted'
  intro p q _ _ hpq hqp
  exact absurd hqp (String.lt_asymm hpq)

/-- The files that a limit leaves of a list. -/
def keptBy (limit : Option Int) (paths : List Path) : List Path :=
  match limit with
  | some n => takeSigned n paths
  | none => paths

theorem keptBy_sublist (limit : Option Int) (paths : List Path) :
    (keptBy limit paths).Sublist paths := by
  cases limit with
  | none => exact List.Sublist.refl paths
  | some n => exact (takeSigned_isPrefix n paths).sublist

theorem Proper.exists_lists (hw : w.Proper) (hroot : w.isFolder root = true) (o : ScanOptions)
    (limit : Option Int) :
    ∃ paths, w.Lists o root paths ∧
      w.scan { o with limit := limit } (w.resolve root) = .ok (keptBy limit paths) := by
  have hfolder : w.isFolder (w.resolve root) = true := by
    obtain ⟨entries, hfolder⟩ := folder_at_place hroot
    rw [isFolder, hw.find?_resolve, hfolder]
    rfl
  set paths := (w.candidates o (w.resolve root)).mergeSort w.comesBefore with hpaths
  have hmem : ∀ path, path ∈ paths ↔
      ∃ way bytes, w.Accepts o root way bytes ∧ path = (w.resolve root).below way := by
    intro path
    rw [hpaths, (List.mergeSort_perm _ _).mem_iff, hw.mem_candidates hroot]
  have hscan : ∀ limit,
      w.scan { o with limit := limit } (w.resolve root) = .ok (keptBy limit paths) := by
    intro limit
    rw [scan, if_pos hfolder]
    rfl
  have hle : paths.Pairwise fun p q => w.pathText p ≤ w.pathText q := scan_pairwise (hscan none)
  have hnodup : paths.Nodup :=
    (List.mergeSort_perm _ _).nodup_iff.2 (hw.candidates_nodup hroot)
  refine ⟨paths, ⟨?_, hmem⟩, hscan limit⟩
  refine (hle.and hnodup).imp_of_mem fun {p q} hp hq hpq => ?_
  obtain ⟨way, bytes, hway, rfl⟩ := (hmem p).1 hp
  obtain ⟨way', bytes', hway', rfl⟩ := (hmem q).1 hq
  refine Std.lt_of_le_of_ne hpq.1 fun htext => hpq.2 (congrArg _ ?_)
  exact Path.text_below_injective hway.2.ne_nil hway'.2.ne_nil (hw.isEntryName_of_accepts hway)
    (hw.isEntryName_of_accepts hway') htext

end Workspace

/-- What a scan with these settings looks for. -/
def Settings.scope (settings : Settings) : ScanOptions :=
  { extensions := settings.extensions, ignored := some settings.ignoredDirs }

namespace Workspace

variable {w w' : Workspace} {parser : Parser} {depth : Nat} {settings : Settings} {root : Path}

theorem Proper.analyze_eq (hw : w.Proper) (hroot : w.isFolder root = true) (parser : Parser)
    (depth : Nat) (settings : Settings) (limit : Option Int) :
    ∃ paths, w.Lists settings.scope root paths ∧
      w.analyze parser depth settings limit root =
        if (keptBy limit paths).any (w.breaksOff parser depth (some settings.maxFileBytes)) then
          .error .tooDeep
        else .ok (.ofFiles (w.resolve root) ((keptBy limit paths).map fun p =>
          (p, w.analyzeFile parser (some settings.maxFileBytes) p))) := by
  obtain ⟨paths, hlists, hscan⟩ := hw.exists_lists hroot settings.scope limit
  exact ⟨paths, hlists, analyze_of_scan hroot hscan⟩

/-- Two workspaces with the same accepted files below a folder: the same paths, and the same bytes
at each of them. -/
structure SameAccepted (w w' : Workspace) (o : ScanOptions) (root : Path) : Prop where
  base_eq : w.base = w'.base
  isFolder_eq : w.isFolder root = w'.isFolder root
  accepts_iff : ∀ way bytes, w.Accepts o root way bytes ↔ w'.Accepts o root way bytes

theorem resolve_congr (h : w.base = w'.base) (p : Path) : w.resolve p = w'.resolve p := by
  simp only [resolve, locate, h]

/-- The outcome for a file depends on its path and its bytes. -/
theorem analyzeFile_congr (hbase : w.base = w'.base) {path : Path}
    (hbytes : w.fileBytes? path = w'.fileBytes? path) (parser : Parser) (limit : Option Int) :
    w.analyzeFile parser limit path = w'.analyzeFile parser limit path := by
  simp only [analyzeFile, hbytes, pathText, hbase]

theorem breaksOff_congr {path : Path} (hbytes : w.fileBytes? path = w'.fileBytes? path)
    (parser : Parser) (depth : Nat) (limit : Option Int) :
    w.breaksOff parser depth limit path = w'.breaksOff parser depth limit path := by
  simp only [breaksOff, hbytes]

/-- An analysis depends on nothing but the accepted files. -/
theorem SameAccepted.analyze_eq (h : SameAccepted w w' settings.scope root) (hw : w.Proper)
    (hw' : w'.Proper) (parser : Parser) (depth : Nat) (limit : Option Int) :
    w.analyze parser depth settings limit root = w'.analyze parser depth settings limit root := by
  cases hroot : w.isFolder root with
  | false =>
    have hroot' : w'.isFolder root = false := h.isFolder_eq ▸ hroot
    simp only [analyze, hroot, hroot', Bool.false_eq_true, if_false]
  | true =>
    have hroot' : w'.isFolder root = true := h.isFolder_eq ▸ hroot
    obtain ⟨paths, hlists, hrun⟩ := hw.analyze_eq hroot parser depth settings limit
    obtain ⟨paths', hlists', hrun'⟩ := hw'.analyze_eq hroot' parser depth settings limit
    have hpaths : paths = paths' := by
      apply hlists.unique hlists' h.base_eq
      intro path
      simp only [hlists.mem_iff, hlists'.mem_iff, h.accepts_iff, resolve_congr h.base_eq]
    subst hpaths
    have hbytes : ∀ path ∈ keptBy limit paths, w.fileBytes? path = w'.fileBytes? path := by
      intro path hpath
      obtain ⟨way, bytes, hway, rfl⟩ :=
        (hlists.mem_iff path).1 ((keptBy_sublist limit paths).subset hpath)
      rw [hw.fileBytes?_of_accepts hway, resolve_congr h.base_eq,
        hw'.fileBytes?_of_accepts ((h.accepts_iff _ _).1 hway)]
    have hany : (keptBy limit paths).any (w.breaksOff parser depth (some settings.maxFileBytes)) =
        (keptBy limit paths).any (w'.breaksOff parser depth (some settings.maxFileBytes)) := by
      rw [Bool.eq_iff_iff, List.any_eq_true, List.any_eq_true]
      exact exists_congr fun path => and_congr_right fun hpath => by
        rw [breaksOff_congr (hbytes path hpath)]
    have hmap : ((keptBy limit paths).map fun p =>
          (p, w.analyzeFile parser (some settings.maxFileBytes) p)) =
        (keptBy limit paths).map fun p =>
          (p, w'.analyzeFile parser (some settings.maxFileBytes) p) :=
      List.map_congr_left fun path hpath => by
        rw [analyzeFile_congr h.base_eq (hbytes path hpath)]
    rw [hrun, hrun', hany, hmap, resolve_congr h.base_eq]

end Workspace

end RouteCensus
