import RouteCensus.Proofs.Text.Pieces
import RouteCensus.Proofs.Workspace.Accepted
import RouteCensus.Proofs.Workspace.Effects

/-! # What a write leaves alone

Writing a file may create folders on its path.  All other files keep their bytes,
folders stay folders, and a proper file tree stays proper.
-/

namespace RouteCensus

namespace Path

theorem mem_of_mem_collapse {part : String} {parts : List String} (h : part ∈ collapse parts) :
    part ∈ parts := by
  induction parts using List.reverseRecOn with
  | nil => exact h
  | append_singleton parts last ih =>
    rw [collapse_concat] at h
    rw [List.mem_append]
    split at h
    · exact .inl (ih (List.dropLast_subset _ h))
    · rcases List.mem_append.1 h with h | h
      · exact .inl (ih h)
      · exact .inr h

theorem isEntryName_of_mem_collapse {parts : List String} (h : ∀ name ∈ parts, '/' ∉ name.toList) :
    ∀ name ∈ collapse parts, IsEntryName name :=
  fun name hname => ⟨h name (mem_of_mem_collapse hname),
    fun hdots => not_mem_collapse parts (hdots ▸ hname)⟩

theorem not_mem_of_mem_splitOn {c : Char} {chars piece : List Char}
    (h : piece ∈ chars.splitOn c) : c ∉ piece := by
  intro hc
  rw [List.splitOn_eq_splitOnP] at h
  simpa using Text.not_of_mem_splitOnP h c hc

/-- The parts of a path that is read from a text hold no separator. -/
theorem not_mem_of_mem_ofText (s : String) : ∀ name ∈ (ofText s).parts, '/' ∉ name.toList := by
  intro name hname
  obtain ⟨chars, hchars, rfl⟩ := List.mem_map.1 hname
  rw [String.toList_ofList]
  exact not_mem_of_mem_splitOn (List.mem_filter.1 hchars).1

end Path

namespace Entry

theorem mem_setIn {name : String} {e : Entry} {entries : List (String × Entry)}
    {entry : String × Entry} (h : entry ∈ setIn name e entries) :
    entry = (name, e) ∨ entry ∈ entries := by
  induction entries with
  | nil => exact .inl (List.mem_singleton.1 h)
  | cons first entries ih =>
    rw [setIn] at h
    split at h
    · rcases List.mem_cons.1 h with h | h
      · exact .inl h
      · exact .inr (List.mem_cons_of_mem _ h)
    · rcases List.mem_cons.1 h with rfl | h
      · exact .inr List.mem_cons_self
      · exact (ih h).imp_right (List.mem_cons_of_mem _)

theorem names_setIn_nodup {name : String} {e : Entry} {entries : List (String × Entry)}
    (h : (entries.map Prod.fst).Nodup) : ((setIn name e entries).map Prod.fst).Nodup := by
  induction entries with
  | nil => exact List.nodup_singleton name
  | cons first entries ih =>
    rw [List.map_cons, List.nodup_cons] at h
    rw [setIn]
    split
    · next heq => exact List.nodup_cons.2 ⟨heq ▸ h.1, h.2⟩
    · next hne =>
      refine List.nodup_cons.2 ⟨fun hmem => ?_, ih h.2⟩
      obtain ⟨entry, hentry, heq⟩ := List.mem_map.1 hmem
      rcases mem_setIn hentry with rfl | hentry
      · exact hne heq.symm
      · exact h.1 (List.mem_map.2 ⟨entry, hentry, heq⟩)

theorem Proper.setAt {new root : Entry} (hnew : new.Proper) (hroot : root.Proper)
    {p : List String} (hp : ∀ name ∈ p, IsEntryName name) : (setAt new p root).Proper := by
  induction p generalizing root with
  | nil => exact hnew
  | cons name p ih =>
    cases root with
    | file old => trivial
    | folder entries =>
      have hchild : ((childIn? name entries).getD (folder [])).Proper := by
        cases hfound : childIn? name entries with
        | none => exact ⟨List.nodup_nil, trivial⟩
        | some child => exact (properAmong_iff.1 hroot.2 _ (mem_of_childIn? hfound)).2
      refine ⟨names_setIn_nodup hroot.1, properAmong_iff.2 fun entry hentry => ?_⟩
      rcases mem_setIn hentry with rfl | hentry
      · exact ⟨hp name List.mem_cons_self,
          ih hchild fun other hother => hp other (List.mem_cons_of_mem _ hother)⟩
      · exact properAmong_iff.1 hroot.2 entry hentry

/-- The step lemma: creating a folder keeps a tree proper. -/
theorem makeFolder_proper {inTheWay : WriteError} {parts : List String} {root root' : Entry}
    (h : makeFolder inTheWay (Path.collapse parts) root = .ok root')
    (hnames : ∀ name ∈ parts, '/' ∉ name.toList) (hroot : root.Proper) : root'.Proper := by
  rw [makeFolder] at h
  split at h
  · obtain rfl := Except.ok.inj h
    exact hroot
  · cases h
  · obtain rfl := Except.ok.inj h
    have hempty : (folder []).Proper := ⟨List.nodup_nil, trivial⟩
    exact hempty.setAt hroot (Path.isEntryName_of_mem_collapse hnames)

theorem exists_of_bind_eq_ok {ε α β : Type} {x : Except ε α} {f : α → Except ε β} {b : β}
    (h : x >>= f = .ok b) :
    ∃ a, x = .ok a ∧ f a = .ok b := by
  cases x with
  | error e => cases h
  | ok a => exact ⟨a, rfl, h⟩

/-- The run lemma: so does creating the folders of a path. -/
theorem makeFirst_proper {parts : List String} {root root' : Entry} {n : Nat}
    (h : root.makeFirst parts n = .ok root') (hnames : ∀ name ∈ parts, '/' ∉ name.toList)
    (hroot : root.Proper) : root'.Proper := by
  induction n generalizing root' with
  | zero =>
    obtain rfl := Except.ok.inj h
    exact hroot
  | succ n ih =>
    rw [makeFirst_succ] at h
    obtain ⟨middle, hfirst, hlast⟩ := exists_of_bind_eq_ok h
    exact makeFolder_proper hlast (fun name hname => hnames name (List.take_subset n parts hname))
      (ih hfirst)

section Write

variable {root root' : Entry} {parts : List String} {bytes : List UInt8}

theorem write_proper (h : root.write parts bytes = .ok root')
    (hnames : ∀ name ∈ parts, '/' ∉ name.toList) (hroot : root.Proper) : root'.Proper := by
  obtain ⟨middle, hmade, h⟩ := exists_of_bind_eq_ok h
  have hmiddle := makeFirst_proper hmade
    (fun name hname => hnames name (List.dropLast_subset _ hname)) hroot
  dsimp only at h
  split at h
  · cases h
  · obtain rfl := Except.ok.inj h
    have hfile : (file bytes).Proper := trivial
    exact hfile.setAt hmiddle (Path.isEntryName_of_mem_collapse hnames)

/-- Writing a file keeps all other files. -/
theorem file_write_iff (h : root.write parts bytes = .ok root') {q : List String}
    (hq : q ≠ Path.collapse parts) {old : List UInt8} :
    root'.at? q = some (file old) ↔ root.at? q = some (file old) := by
  rw [← contentAt?_eq_file_iff, ← contentAt?_eq_file_iff]
  exact ((of_write_eq_ok h).2.kept q hq).file_iff

/-- Writing a file keeps all folders. -/
theorem HasFolder.write {q : List String} (hq : root.HasFolder q)
    (h : root.write parts bytes = .ok root') :
    root'.HasFolder q := by
  obtain ⟨hfree, hwritten⟩ := of_write_eq_ok h
  rw [← contentAt?_eq_folder_iff] at hq ⊢
  refine (hwritten.kept q ?_).eq_some hq
  rintro rfl
  exact hfree (.folder hq)

end Write

end Entry

namespace Workspace

variable {w w' : Workspace} {path root : Path} {bytes : List UInt8}

section Write

variable (h : w.write path bytes = .ok w') (hnames : ∀ name ∈ w.locate path, '/' ∉ name.toList)

include h in
theorem base_write : w'.base = w.base := by
  obtain ⟨files, -, rfl⟩ := exists_of_write h
  rfl

include h in
theorem environment_write : w'.environment = w.environment := by
  obtain ⟨files, -, rfl⟩ := exists_of_write h
  rfl

include h hnames in
theorem Proper.write (hw : w.Proper) : w'.Proper := by
  obtain ⟨files, hfiles, rfl⟩ := exists_of_write h
  exact ⟨Entry.write_proper hfiles hnames hw.files, hw.base⟩

include h in
theorem isFolder_write (hroot : w.isFolder root = true) : w'.isFolder root = true := by
  obtain ⟨files, hfiles, rfl⟩ := exists_of_write h
  exact isFolder_iff.2 fun n hn => (isFolder_iff.1 hroot n hn).write hfiles

include h in
/-- A write to a place that no accepted file can have keeps the accepted files. -/
theorem sameAccepted_write {o : ScanOptions} (hroot : w.isFolder root = true)
    (hplace : ∀ way, o.Covers way → w.place path ≠ w.place root ++ way) :
    SameAccepted w w' o root := by
  refine ⟨(base_write h).symm, hroot.trans (isFolder_write h hroot).symm, ?_⟩
  obtain ⟨files, hfiles, rfl⟩ := exists_of_write h
  intro way old
  refine and_congr_left fun hcovers => ?_
  exact (Entry.file_write_iff hfiles (hplace way hcovers).symm).symm

include h in
/-- A file at another place keeps its bytes. -/
theorem fileBytes?_write_of_ne {other : Path} (hdots : ".." ∉ w.locate other)
    (hplace : w.locate other ≠ w.place path) : w'.fileBytes? other = w.fileBytes? other := by
  obtain ⟨files, hfiles, rfl⟩ := exists_of_write h
  have hfile : ∀ old, files.at? (w.locate other) = some (.file old) ↔
      w.files.at? (w.locate other) = some (.file old) := fun _ =>
    Entry.file_write_iff hfiles hplace
  have hbytes : ∀ (v : Workspace) old, v.locate other = w.locate other →
      (v.fileBytes? other = some old ↔ v.files.at? (w.locate other) = some (.file old)) := by
    intro v old hlocate
    rw [fileBytes?, find?, hlocate, Entry.find?, Entry.follow_eq_at? hdots]
    cases hfound : v.files.at? (w.locate other) with
    | none => simp
    | some e => cases e <;> simp
  ext old
  exact (hbytes { w with files := files } old rfl).trans ((hfile old).trans (hbytes w old rfl).symm)

end Write

end Workspace

end RouteCensus
