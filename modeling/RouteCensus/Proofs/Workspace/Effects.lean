import RouteCensus.Proofs.Workspace.Files

/-! # The effect of a write

What can be seen of a file tree is which places are folders, and which are files
with which bytes.  A write succeeds unless its path goes through a file or ends at
a folder.  It then creates the folders on its path that are missing, and sets one
file.  A write that fails changes no file and removes nothing.  It leaves folders
behind only if its path goes on with double dots after a folder that it created.
-/

namespace RouteCensus

/-- Following the parts of a path leads to the place at some time. -/
def Path.Visits (parts place : List String) : Prop :=
  ∃ n ≤ parts.length, Path.collapse (parts.take n) = place

theorem Path.visits_take {parts : List String} {n : Nat} (hn : n < parts.length) :
    Path.Visits parts.dropLast (Path.collapse (parts.take n)) := by
  refine ⟨n, by rw [List.length_dropLast]; omega, ?_⟩
  rw [List.dropLast_eq_take, List.take_take, Nat.min_eq_left (by omega)]

/-- What is at a place. -/
inductive Content where
  | folder
  | file (bytes : List UInt8)
  deriving DecidableEq, Repr

namespace Entry

def content : Entry → Content
  | folder _ => .folder
  | file bytes => .file bytes

/-- What is at the end of a path without double dots, if anything is. -/
def contentAt? (root : Entry) (place : List String) : Option Content :=
  (root.at? place).map content

theorem contentAt?_eq_folder_iff {root : Entry} {place : List String} :
    root.contentAt? place = some .folder ↔ root.HasFolder place := by
  rw [contentAt?, HasFolder]
  cases root.at? place with
  | none => simp
  | some e => cases e <;> simp [content]

theorem contentAt?_eq_file_iff {root : Entry} {place : List String} {bytes : List UInt8} :
    root.contentAt? place = some (.file bytes) ↔ root.at? place = some (.file bytes) := by
  rw [contentAt?]
  cases root.at? place with
  | none => simp
  | some e => cases e <;> simp [content]

theorem contentAt?_of_no_child {new : Entry} (hnew : ∀ name, new.child? name = none)
    (place : List String) :
    new.contentAt? place = if place = [] then some new.content else none := by
  cases place with
  | nil => rfl
  | cons name rest => simp [contentAt?, at?, hnew]

theorem contentAt?_cons (e : Entry) (name : String) (place : List String) :
    e.contentAt? (name :: place) = (e.child? name).bind fun child => child.contentAt? place := by
  rw [contentAt?, at?, Option.map_bind]
  rfl

theorem childIn?_setIn_self (name : String) (e : Entry) (entries : List (String × Entry)) :
    childIn? name (setIn name e entries) = some e := by
  induction entries with
  | nil => simp [setIn, childIn?]
  | cons entry entries ih =>
    rw [setIn]
    split
    · simp [childIn?]
    · next hne =>
      rw [childIn?, List.find?_cons_of_neg (by simpa using hne)]
      exact ih

theorem childIn?_setIn_of_ne {name other : String} (h : other ≠ name) (e : Entry)
    (entries : List (String × Entry)) :
    childIn? other (setIn name e entries) = childIn? other entries := by
  induction entries with
  | nil => simp [setIn, childIn?, Ne.symm h]
  | cons entry entries ih =>
    rw [setIn]
    split
    · next heq => simp [childIn?, heq, Ne.symm h]
    · by_cases hother : entry.1 = other
      · simp [childIn?, hother]
      · rw [childIn?, childIn?, List.find?_cons_of_neg (by simpa using hother),
          List.find?_cons_of_neg (by simpa using hother)]
        exact ih

/-- A change in a folder, where there is no folder yet, is seen at its own place only. -/
theorem contentAt?_setAt {new root : Entry} {p : List String} (hnew : ∀ name, new.child? name = none)
    (hparent : p = [] ∨ root.contentAt? p.dropLast = some .folder)
    (hfree : root.contentAt? p ≠ some .folder) (q : List String) :
    (setAt new p root).contentAt? q = if q = p then some new.content else root.contentAt? q := by
  induction p generalizing root q with
  | nil =>
    cases root with
    | folder entries => exact absurd rfl hfree
    | file bytes =>
      rw [setAt, contentAt?_of_no_child hnew, contentAt?_of_no_child fun _ => rfl]
      split <;> rfl
  | cons name p ih =>
    have hfolder := hparent.resolve_left (List.cons_ne_nil name p)
    cases root with
    | file bytes => cases p <;> cases hfolder
    | folder entries =>
      cases q with
      | nil => rfl
      | cons other q =>
        rw [setAt, contentAt?_cons, contentAt?_cons, child?, child?]
        by_cases hname : other = name
        · subst hname
          rw [childIn?_setIn_self, Option.bind_some]
          simp only [List.cons.injEq, true_and]
          rw [contentAt?_cons, child?] at hfree
          cases hchild : childIn? other entries with
          | none =>
            -- the folder that holds the new entry exists, so nothing else is on the way
            obtain rfl : p = [] := by
              cases p with
              | nil => rfl
              | cons next p =>
                rw [List.dropLast_cons_of_ne_nil (List.cons_ne_nil next p), contentAt?_cons, child?,
                  hchild] at hfolder
                cases hfolder
            rw [setAt, contentAt?_of_no_child hnew, Option.bind_none]
          | some child =>
            rw [hchild] at hfree
            refine ih ?_ hfree q
            cases p with
            | nil => exact .inl rfl
            | cons next p =>
              rw [List.dropLast_cons_of_ne_nil (List.cons_ne_nil next p), contentAt?_cons, child?,
                hchild] at hfolder
              exact .inr hfolder
        · have hother : other :: q ≠ name :: p := fun h => hname (List.cons.inj h).1
          rw [if_neg hother, childIn?_setIn_of_ne hname]

/-- The tree after the first `n` folders on a path have been created, none of which is a file. -/
structure Makes (root : Entry) (parts : List String) (n : Nat) (made : Entry) : Prop where
  folder : ∀ k < n, made.contentAt? (Path.collapse (parts.take k)) = some .folder
  other : ∀ place, (∀ k < n, Path.collapse (parts.take k) ≠ place) →
    made.contentAt? place = root.contentAt? place
  noFile : ∀ k < n, ∀ bytes, root.contentAt? (Path.collapse (parts.take k)) ≠ some (.file bytes)

section Folders

variable {root made made' : Entry} {parts : List String} {n : Nat}

theorem folder_dropLast {place : List String} (h : root.contentAt? place = some .folder) :
    root.contentAt? place.dropLast = some .folder :=
  contentAt?_eq_folder_iff.2 (contentAt?_eq_folder_iff.1 h).dropLast

/-- Where the folders before some part exist, the place behind it lies in one of them or at the
root. -/
theorem parent_take (hn : n ≤ parts.length)
    (h : ∀ k < n, root.contentAt? (Path.collapse (parts.take k)) = some .folder) :
    Path.collapse (parts.take n) = [] ∨
      root.contentAt? (Path.collapse (parts.take n)).dropLast = some .folder := by
  cases n with
  | zero => exact .inl rfl
  | succ n =>
    right
    have hbefore := h n (Nat.lt_succ_self n)
    rw [← List.take_append_getElem hn, Path.collapse_concat]
    split
    · exact folder_dropLast (folder_dropLast hbefore)
    · rw [List.dropLast_concat]
      exact hbefore

theorem makeFirst_succ (root : Entry) (parts : List String) (n : Nat) :
    root.makeFirst parts (n + 1) =
      root.makeFirst parts n >>=
        makeFolder (root.inTheWay parts n) (Path.collapse (parts.take n)) := by
  rw [makeFirst, List.range_succ, List.foldlM_append]
  simp only [List.foldlM_cons, List.foldlM_nil, bind_pure]
  rfl

theorem makeFolder_of_hasFolder (inTheWay : WriteError)
    (h : root.HasFolder (Path.collapse parts)) :
    makeFolder inTheWay (Path.collapse parts) root = .ok root := by
  obtain ⟨entries, h⟩ := h
  rw [makeFolder, find?_collapse, h]

theorem makeFirst_of_hasFolder (h : ∀ k < n, root.HasFolder (Path.collapse (parts.take k))) :
    root.makeFirst parts n = .ok root := by
  induction n with
  | zero => rfl
  | succ n ih =>
    rw [makeFirst_succ, ih fun k hk => h k (Nat.lt_succ_of_lt hk)]
    exact makeFolder_of_hasFolder _ (h n (Nat.lt_succ_self n))

theorem Makes.start (root : Entry) (parts : List String) : root.Makes parts 0 root :=
  ⟨fun k hk => absurd hk (Nat.not_lt_zero k), fun _ _ => rfl,
    fun k hk => absurd hk (Nat.not_lt_zero k)⟩

/-- What is no folder now was there from the start. -/
theorem Makes.contentAt?_eq (h : root.Makes parts n made) {place : List String}
    (hne : made.contentAt? place ≠ some .folder) :
    root.contentAt? place = made.contentAt? place := by
  refine (h.other place fun k hk heq => hne ?_).symm
  rw [← heq, h.folder k hk]

/-- Where a folder is now, there was no file. -/
theorem Makes.ne_file (h : root.Makes parts n made) {place : List String}
    (hfolder : made.contentAt? place = some .folder) (bytes : List UInt8) :
    root.contentAt? place ≠ some (.file bytes) := by
  by_cases hmade : ∃ k < n, Path.collapse (parts.take k) = place
  · obtain ⟨k, hk, rfl⟩ := hmade
    exact h.noFile k hk bytes
  · rw [← h.other place fun k hk heq => hmade ⟨k, hk, heq⟩, hfolder]
    simp

theorem Makes.succ (h : root.Makes parts n made)
    (hmade' : ∀ place, made'.contentAt? place =
      if place = Path.collapse (parts.take n) then some .folder else made.contentAt? place)
    (hnofile : ∀ bytes, root.contentAt? (Path.collapse (parts.take n)) ≠ some (.file bytes)) :
    root.Makes parts (n + 1) made' := by
  refine ⟨fun k hk => ?_, fun place hplace => ?_, fun k hk => ?_⟩
  · rw [hmade']
    split
    · rfl
    · next hne =>
      rcases Nat.lt_succ_iff_lt_or_eq.1 hk with hlt | rfl
      · exact h.folder k hlt
      · exact absurd rfl hne
  · rw [hmade', if_neg (hplace n (Nat.lt_succ_self n)).symm,
      h.other place fun k hk => hplace k (Nat.lt_succ_of_lt hk)]
  · rcases Nat.lt_succ_iff_lt_or_eq.1 hk with hlt | rfl
    · exact h.noFile k hlt
    · exact hnofile

/-- The step lemma: the next folder is there, is created, or is a file. -/
theorem Makes.makeFolder_cases (h : root.Makes parts n made) (hn : n ≤ parts.length)
    (cause : WriteError) :
    (∃ made', makeFolder cause (Path.collapse (parts.take n)) made = .ok made' ∧
      root.Makes parts (n + 1) made') ∨
    (makeFolder cause (Path.collapse (parts.take n)) made = .error ⟨cause, made⟩ ∧
      ∃ bytes, root.contentAt? (Path.collapse (parts.take n)) = some (.file bytes)) := by
  rw [makeFolder, find?_collapse]
  cases hfound : made.at? (Path.collapse (parts.take n)) with
  | none =>
    have hnone : made.contentAt? (Path.collapse (parts.take n)) = none := by
      rw [contentAt?, hfound]
      rfl
    have hfree : made.contentAt? (Path.collapse (parts.take n)) ≠ some .folder := by simp [hnone]
    refine .inl ⟨_, rfl, h.succ (fun place => ?_) fun bytes => ?_⟩
    · exact contentAt?_setAt (fun _ => rfl) (parent_take hn h.folder) hfree place
    · rw [h.contentAt?_eq hfree, hnone]
      simp
  | some e =>
    cases e with
    | folder entries =>
      have hfolder : made.contentAt? (Path.collapse (parts.take n)) = some .folder :=
        contentAt?_eq_folder_iff.2 ⟨entries, hfound⟩
      refine .inl ⟨made, rfl, h.succ (fun place => ?_) (h.ne_file hfolder)⟩
      split
      · next heq => rw [heq, hfolder]
      · rfl
    | file bytes =>
      have hfile := contentAt?_eq_file_iff.2 hfound
      exact .inr ⟨rfl, bytes, (h.contentAt?_eq (by simp [hfile])).trans hfile⟩

/-- The run lemma: the first folders of a path are created up to the first one that is a file. -/
theorem makeFirst_cases (root : Entry) {parts : List String} {n : Nat} (hn : n ≤ parts.length + 1) :
    (∃ made, root.makeFirst parts n = .ok made ∧ root.Makes parts n made) ∨
    ∃ k < n, ∃ made, root.makeFirst parts n = .error ⟨root.inTheWay parts k, made⟩ ∧
      root.makeFirst parts k = .ok made ∧ root.Makes parts k made ∧
      ∃ bytes, root.contentAt? (Path.collapse (parts.take k)) = some (.file bytes) := by
  induction n with
  | zero => exact .inl ⟨root, rfl, .start root parts⟩
  | succ n ih =>
    rw [makeFirst_succ]
    rcases ih (Nat.le_of_succ_le hn) with ⟨made, hloop, hmakes⟩ | ⟨k, hk, made, hloop, hrest⟩
    · rw [hloop]
      rcases hmakes.makeFolder_cases (Nat.le_of_succ_le_succ hn) (root.inTheWay parts n) with
        ⟨made', hstep, hmakes'⟩ | ⟨hstep, hfile⟩
      · exact .inl ⟨made', hstep, hmakes'⟩
      · exact .inr ⟨n, Nat.lt_succ_self n, made, hstep, hloop, hmakes, hfile⟩
    · rw [hloop]
      exact .inr ⟨k, Nat.lt_succ_of_lt hk, made, rfl, hrest⟩

end Folders

/-- A write to the path cannot be made. -/
inductive Blocked (root : Entry) (parts : List String) : Prop where
  | throughFile {place : List String} {bytes : List UInt8} (h : Path.Visits parts.dropLast place)
    (hfile : root.contentAt? place = some (.file bytes)) : Blocked root parts
  | folder (h : root.contentAt? (Path.collapse parts) = some .folder) : Blocked root parts
  /-- The path ends where it has been before, so that a folder is there at the latest by then. -/
  | visited (h : Path.Visits parts.dropLast (Path.collapse parts)) : Blocked root parts

/-- A place is as it was, but that a folder on the path may have been created there. -/
def KeptAt (root : Entry) (parts : List String) (root' : Entry) (place : List String) : Prop :=
  root'.contentAt? place = root.contentAt? place ∨
    Path.Visits parts.dropLast place ∧ root.contentAt? place = none ∧
      root'.contentAt? place = some .folder

/-- What a write that succeeds makes of a tree. -/
structure Written (root : Entry) (parts : List String) (bytes : List UInt8) (root' : Entry) :
    Prop where
  target : root'.contentAt? (Path.collapse parts) = some (.file bytes)
  folders : ∀ place, Path.Visits parts.dropLast place → root'.contentAt? place = some .folder
  kept : ∀ place, place ≠ Path.collapse parts → root.KeptAt parts root' place

section Write

variable {root made root' : Entry} {parts : List String} {bytes : List UInt8}

theorem Makes.folder_of_visits (h : root.Makes parts (parts.length + 1) made) {place : List String}
    (hplace : Path.Visits parts place) : made.contentAt? place = some .folder := by
  obtain ⟨n, hn, rfl⟩ := hplace
  exact h.folder n (Nat.lt_succ_of_le hn)

theorem Makes.keptAt {n : Nat} (h : root.Makes parts.dropLast n made)
    (hn : n ≤ parts.dropLast.length + 1) (place : List String) : root.KeptAt parts made place := by
  by_cases hmade : ∃ k < n, Path.collapse (parts.dropLast.take k) = place
  · obtain ⟨k, hk, rfl⟩ := hmade
    cases hbefore : root.contentAt? (Path.collapse (parts.dropLast.take k)) with
    | none => exact .inr ⟨⟨k, by omega, rfl⟩, hbefore, h.folder k hk⟩
    | some content =>
      cases content with
      | folder => exact .inl ((h.folder k hk).trans hbefore.symm)
      | file bytes => exact absurd hbefore (h.noFile k hk bytes)
  · exact .inl (h.other place fun k hk heq => hmade ⟨k, hk, heq⟩)

theorem Makes.not_blocked (h : root.Makes parts.dropLast (parts.dropLast.length + 1) made)
    (hfree : made.contentAt? (Path.collapse parts) ≠ some .folder) : ¬ root.Blocked parts := by
  rintro (⟨⟨n, hn, rfl⟩, hfile⟩ | hfolder | hvisited)
  · exact h.noFile n (Nat.lt_succ_of_le hn) _ hfile
  · exact hfree ((h.contentAt?_eq hfree).symm.trans hfolder)
  · exact hfree (h.folder_of_visits hvisited)

theorem Makes.blocked (h : root.Makes parts.dropLast (parts.dropLast.length + 1) made)
    (hfolder : made.contentAt? (Path.collapse parts) = some .folder) : root.Blocked parts := by
  by_cases hvisited : Path.Visits parts.dropLast (Path.collapse parts)
  · exact .visited hvisited
  · refine .folder (Eq.trans ?_ hfolder)
    exact (h.other _ fun k hk heq => hvisited ⟨k, Nat.le_of_lt_succ hk, heq⟩).symm

/-- A write whose path is not blocked sets one file in the folders of its path. -/
theorem Makes.written (h : root.Makes parts.dropLast (parts.dropLast.length + 1) made)
    (hfree : made.contentAt? (Path.collapse parts) ≠ some .folder) (bytes : List UInt8) :
    root.Written parts bytes (setAt (file bytes) (Path.collapse parts) made) := by
  have hparent := parent_take (Nat.le_refl parts.length) fun n hn =>
    h.folder_of_visits (Path.visits_take hn)
  rw [List.take_length] at hparent
  have hset := contentAt?_setAt (fun _ => rfl : ∀ name, (file bytes).child? name = none) hparent
    hfree
  refine ⟨by rw [hset, if_pos rfl]; rfl, fun place hplace => ?_, fun place hplace => ?_⟩
  · have hfolder := h.folder_of_visits hplace
    rw [hset, if_neg, hfolder]
    rintro rfl
    exact hfree hfolder
  · rw [KeptAt, hset, if_neg hplace]
    exact h.keptAt (Nat.le_refl _) place

/-- Above something that exists all folders exist, and none is created. -/
theorem makeFirst_of_at? {e : Entry} {whole : List String} {n : Nat} (h : root.at? whole = some e)
    (hdots : ".." ∉ whole) (hn : n ≤ whole.length) (htake : ∀ k < n, parts.take k = whole.take k) :
    root.makeFirst parts n = .ok root := by
  apply makeFirst_of_hasFolder
  intro k hk
  rw [htake k hk, Path.collapse_of_not_mem fun hmem => hdots (List.take_subset k whole hmem)]
  apply hasFolder_of_at?_append (q := whole.drop k)
  · rw [List.take_append_drop, h]
  · simp only [ne_eq, List.drop_eq_nil_iff]
    omega

/-- Without double dots a folder at the end of a path has not been created on the way to it. -/
theorem Makes.eq_root (h : root.Makes parts.dropLast (parts.dropLast.length + 1) made)
    (hmade : root.makeFolders parts.dropLast = .ok made)
    (hfolder : made.contentAt? (Path.collapse parts) = some .folder) (hdots : ".." ∉ parts) :
    made = root := by
  rw [Path.collapse_of_not_mem hdots] at hfolder
  cases parts using List.reverseRecOn with
  | nil =>
    cases root with
    | folder entries => exact (Except.ok.inj hmade).symm
    | file bytes => cases hmade
  | append_singleton front last =>
    rw [List.dropLast_concat] at h hmade
    have hnew : ∀ k < front.length + 1, Path.collapse (front.take k) ≠ front ++ [last] := by
      intro k hk heq
      rw [Path.collapse_of_not_mem fun hmem =>
        hdots (List.mem_append_left _ (List.take_subset k front hmem))] at heq
      have hlength := congrArg List.length heq
      simp only [List.length_take, List.length_append, List.length_singleton] at hlength
      omega
    rw [h.other _ hnew] at hfolder
    obtain ⟨entries, hat⟩ := contentAt?_eq_folder_iff.1 hfolder
    have hsame : root.makeFolders front = .ok root :=
      makeFirst_of_at? hat hdots (by simp) fun k hk =>
        (List.take_append_of_le_length (Nat.le_of_lt_succ hk)).symm
    exact Except.ok.inj (hmade.symm.trans hsame)

theorem write_of_folder (hmade : root.makeFolders parts.dropLast = .ok made)
    (hfolder : made.contentAt? (Path.collapse parts) = some .folder) (bytes : List UInt8) :
    root.write parts bytes = .error ⟨.targetIsFolder, made⟩ := by
  obtain ⟨entries, hat⟩ := contentAt?_eq_folder_iff.1 hfolder
  rw [← find?_collapse] at hat
  simp only [write, hmade, bind, Except.bind, hat]

theorem write_of_free (hmade : root.makeFolders parts.dropLast = .ok made)
    (hfree : made.contentAt? (Path.collapse parts) ≠ some .folder) (bytes : List UInt8) :
    root.write parts bytes = .ok (setAt (file bytes) (Path.collapse parts) made) := by
  simp only [write, hmade, bind, Except.bind, find?_collapse]
  cases hat : made.at? (Path.collapse parts) with
  | none => rfl
  | some e =>
    cases e with
    | file old => rfl
    | folder entries => exact absurd (contentAt?_eq_folder_iff.2 ⟨entries, hat⟩) hfree

/-- A write succeeds unless its path is blocked.  If it fails it has created at most folders on its
path, and nothing at all if there are no double dots in it. -/
theorem write_cases (root : Entry) (parts : List String) (bytes : List UInt8) :
    (¬ root.Blocked parts ∧
      ∃ root', root.write parts bytes = .ok root' ∧ root.Written parts bytes root') ∨
    (root.Blocked parts ∧ ∃ failure, root.write parts bytes = .error failure ∧
      (∀ place, root.KeptAt parts failure.left place) ∧ (".." ∉ parts → failure.left = root)) := by
  rcases makeFirst_cases root (Nat.le_refl (parts.dropLast.length + 1)) with
    ⟨made, hmade, hmakes⟩ | ⟨k, hk, made, hmade, hbefore, hmakes, old, hfile⟩
  · by_cases hfolder : made.contentAt? (Path.collapse parts) = some .folder
    · exact .inr ⟨hmakes.blocked hfolder, _, write_of_folder hmade hfolder bytes,
        hmakes.keptAt (Nat.le_refl _), hmakes.eq_root hmade hfolder⟩
    · exact .inl ⟨hmakes.not_blocked hfolder, _, write_of_free hmade hfolder bytes,
        hmakes.written hfolder bytes⟩
  · refine .inr ⟨.throughFile ⟨k, Nat.le_of_lt_succ hk, rfl⟩ hfile,
      ⟨root.inTheWay parts.dropLast k, made⟩, ?_, hmakes.keptAt (Nat.le_of_lt hk), fun hdots => ?_⟩
    · rw [write, makeFolders, hmade]
      rfl
    · -- the file is there from the start, and so are the folders above it
      have hdots' : ".." ∉ parts.dropLast.take k := fun hmem =>
        hdots (List.dropLast_subset _ (List.take_subset k _ hmem))
      rw [Path.collapse_of_not_mem hdots'] at hfile
      have hsame : root.makeFirst parts.dropLast k = .ok root :=
        makeFirst_of_at? (contentAt?_eq_file_iff.1 hfile) hdots'
          (by rw [List.length_take]; omega) fun j hj => by
            rw [List.take_take, Nat.min_eq_left (Nat.le_of_lt hj)]
      exact Except.ok.inj (hbefore.symm.trans hsame)

theorem of_write_eq_ok (h : root.write parts bytes = .ok root') :
    ¬ root.Blocked parts ∧ root.Written parts bytes root' := by
  rcases write_cases root parts bytes with ⟨hfree, root'', hok, hwritten⟩ | ⟨-, failure, herror, -⟩
  · obtain rfl := Except.ok.inj (hok.symm.trans h)
    exact ⟨hfree, hwritten⟩
  · cases herror.symm.trans h

/-- What there is stays. -/
theorem KeptAt.eq_some {place : List String} {content : Content}
    (h : root.KeptAt parts root' place) (hbefore : root.contentAt? place = some content) :
    root'.contentAt? place = some content := by
  rcases h with hsame | ⟨-, hnone, -⟩
  · exact hsame.trans hbefore
  · cases hnone.symm.trans hbefore

/-- No file is added. -/
theorem KeptAt.file_iff {place : List String} (h : root.KeptAt parts root' place) :
    root'.contentAt? place = some (.file bytes) ↔ root.contentAt? place = some (.file bytes) := by
  refine ⟨fun hafter => ?_, h.eq_some⟩
  rcases h with hsame | ⟨-, -, hfolder⟩
  · exact hsame.symm.trans hafter
  · cases hfolder.symm.trans hafter

/-- Where the places on the way are folders, a path leads to the place that it names. -/
theorem find?_eq_at? (h : ∀ place, Path.Visits parts.dropLast place →
      root.contentAt? place = some .folder) :
    root.find? parts = root.at? (Path.collapse parts) :=
  Trail.follow_eq [] parts .start fun _ hn =>
    contentAt?_eq_folder_iff.1 (h _ (Path.visits_take hn))

theorem Written.find?_eq (h : root.Written parts bytes root') :
    root'.find? parts = some (.file bytes) :=
  (find?_eq_at? h.folders).trans (contentAt?_eq_file_iff.1 h.target)

/-- A file that was written can be written again. -/
theorem Written.not_blocked (h : root.Written parts bytes root') : ¬ root'.Blocked parts := by
  rintro (⟨hvisits, hfile⟩ | hfolder | hvisited)
  · cases (h.folders _ hvisits).symm.trans hfile
  · cases h.target.symm.trans hfolder
  · cases h.target.symm.trans (h.folders _ hvisited)

end Write

end Entry

namespace Workspace

variable {w w' : Workspace} {path : Path} {bytes : List UInt8}

theorem write_cases (w : Workspace) (path : Path) (bytes : List UInt8) :
    (¬ w.files.Blocked (w.locate path) ∧ ∃ files,
      w.write path bytes = .ok { w with files := files } ∧
      w.files.Written (w.locate path) bytes files) ∨
    (w.files.Blocked (w.locate path) ∧ ∃ cause left,
      w.write path bytes = .error ⟨cause, { w with files := left }⟩ ∧
      (∀ place, w.files.KeptAt (w.locate path) left place) ∧
      (".." ∉ w.locate path → left = w.files)) := by
  rcases w.files.write_cases (w.locate path) bytes with
    ⟨hfree, files, hfiles, hwritten⟩ | ⟨hblocked, failure, hfiles, hkept⟩
  · exact .inl ⟨hfree, files, by rw [write, hfiles, withFiles], hwritten⟩
  · exact .inr ⟨hblocked, failure.cause, failure.left, by rw [write, hfiles, withFiles], hkept⟩

theorem exists_of_write (h : w.write path bytes = .ok w') :
    ∃ files, w.files.write (w.locate path) bytes = .ok files ∧ w' = { w with files := files } := by
  rw [write] at h
  cases hfiles : w.files.write (w.locate path) bytes with
  | error failure => rw [hfiles] at h; cases h
  | ok files =>
    rw [hfiles] at h
    exact ⟨files, rfl, (Except.ok.inj h).symm⟩

theorem fileBytes?_write (h : w.write path bytes = .ok w') : w'.fileBytes? path = some bytes := by
  obtain ⟨files, hfiles, rfl⟩ := exists_of_write h
  have hfound : files.find? (w.locate path) = some (.file bytes) :=
    (Entry.of_write_eq_ok hfiles).2.find?_eq
  have hlocate : locate { w with files := files } path = w.locate path := rfl
  rw [fileBytes?, find?, hlocate, hfound]

theorem write_again (h : w.write path bytes = .ok w') (bytes' : List UInt8) :
    ∃ w'', w'.write path bytes' = .ok w'' := by
  obtain ⟨files, hfiles, rfl⟩ := exists_of_write h
  rcases write_cases { w with files := files } path bytes' with ⟨-, files', hok, -⟩ | ⟨hblocked, -⟩
  · exact ⟨_, hok⟩
  · exact absurd hblocked (Entry.of_write_eq_ok hfiles).2.not_blocked

end Workspace

end RouteCensus
