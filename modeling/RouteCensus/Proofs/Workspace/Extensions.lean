import Mathlib.Data.Option.Basic
import RouteCensus.Proofs.Text.LowerCase
import RouteCensus.Workspace.Scan

/-! # Spellings of extensions

A list of extensions can be written in many ways: each with or without a dot, in any
ASCII case, between blanks, and with empty items among them.  All ways to write the
same names give the same settings, wherever the text comes from.  The extensions in
the settings, joined by commas, give themselves.  A scan looks for them as they are,
or for the default ones if there are none.
-/

namespace RouteCensus

theorem Checked.map_ap {α β γ : Type} (g : β → γ) (f : Checked (α → β)) (part : Checked α) :
    Except.map g (f.ap part) = Checked.ap (Except.map (g ∘ ·) f) part := by
  cases f <;> cases part <;> rfl

namespace Settings

/-- The name of an extension, without its dot. -/
structure IsExtensionName (name : List Char) : Prop where
  ne_nil : name ≠ []
  comma : ',' ∉ name
  dot : '.' ∉ name
  head : ∀ c ∈ name.head?, Text.isBlank c = false
  last : Text.EndsPlain name

/-- An item for a name: the name in any ASCII case, possibly behind a dot, between blanks. -/
inductive ItemOf (name : List Char) : List Char → Prop where
  | intro (before dot word after : List Char) (hbefore : ∀ c ∈ before, Text.isBlank c = true)
    (hdot : dot = [] ∨ dot = ['.']) (hword : word.map Char.toLower = name.map Char.toLower)
    (hafter : ∀ c ∈ after, Text.isBlank c = true) :
    ItemOf name (before ++ (dot ++ word ++ after))

/-- Items for the names in their order, with empty ones among them. -/
inductive ItemsOf : List String → List (List Char) → Prop where
  | nil : ItemsOf [] []
  | empty {names : List String} {items : List (List Char)} {item : List Char}
    (hitem : ∀ c ∈ item, Text.isBlank c = true) (h : ItemsOf names items) :
    ItemsOf names (item :: items)
  | name {names : List String} {items : List (List Char)} {name : String} {item : List Char}
    (hitem : ItemOf name.toList item) (h : ItemsOf names items) :
    ItemsOf (name :: names) (item :: items)

/-- The text writes the names as items between commas. -/
def Written (names : List String) (text : String) : Prop :=
  ∃ items, ItemsOf names items ∧ text.toList = [','].intercalate items

/-- The extension with a name. -/
def extension (name : String) : String :=
  "." ++ Text.downcase name

section Names

variable {name word : List Char}

theorem map_eq_of_map_toLower {α : Type} {f : Char → α} (hf : ∀ c, f c.toLower = f c)
    (h : word.map Char.toLower = name.map Char.toLower) : word.map f = name.map f := by
  have hlower : ∀ s : List Char, s.map f = (s.map Char.toLower).map f := by
    intro s
    rw [List.map_map]
    exact List.map_congr_left fun c _ => (hf c).symm
  rw [hlower, h, ← hlower]

theorem not_mem_of_map_toLower {d : Char} (hd : ∀ c : Char, (c.toLower == d) = (c == d))
    (h : word.map Char.toLower = name.map Char.toLower) (hname : d ∉ name) : d ∉ word := by
  have hsame := map_eq_of_map_toLower (f := (· == d)) hd h
  intro hword
  have hmem : (d == d) ∈ name.map (· == d) := hsame ▸ List.mem_map_of_mem hword
  obtain ⟨c, hc, heq⟩ := List.mem_map.1 hmem
  rw [beq_self_eq_true, beq_iff_eq] at heq
  exact hname (heq ▸ hc)

theorem isBlank_toLower (c : Char) : Text.isBlank c.toLower = Text.isBlank c :=
  Text.apply_toLower Text.isBlank (by decide +kernel) c

/-- A name in another ASCII case is a name. -/
theorem IsExtensionName.of_map_toLower (h : IsExtensionName name)
    (hword : word.map Char.toLower = name.map Char.toLower) : IsExtensionName word := by
  have hblank := map_eq_of_map_toLower isBlank_toLower hword
  refine ⟨?_, ?_, ?_, ?_, ?_⟩
  · rintro rfl
    exact h.ne_nil (List.map_eq_nil_iff.1 hword.symm)
  · exact not_mem_of_map_toLower (Text.apply_toLower (· == ',') (by decide)) hword h.comma
  · exact not_mem_of_map_toLower (Text.apply_toLower (· == '.') (by decide)) hword h.dot
  · have hhead : ∀ b ∈ (name.map Text.isBlank).head?, b = false := by
      rw [List.head?_map, Option.forall_mem_map]
      exact h.head
    rwa [← hblank, List.head?_map, Option.forall_mem_map] at hhead
  · have hlast : ∀ b ∈ (name.map Text.isBlank).getLast?, b = false := by
      rw [List.getLast?_map, Option.forall_mem_map]
      exact h.last
    rwa [← hblank, List.getLast?_map, Option.forall_mem_map] at hlast

/-- A name in lower case is a name. -/
theorem IsExtensionName.lower (h : IsExtensionName name) : IsExtensionName (Text.lower name) where
  ne_nil heq := h.ne_nil (Text.lowerAfter_eq_nil heq)
  comma hmem := by
    obtain ⟨c, hc, hlowers⟩ := Text.lowers_of_mem_lowerAfter hmem
    exact h.comma (hlowers.comma.1 rfl ▸ hc)
  dot hmem := by
    obtain ⟨c, hc, hlowers⟩ := Text.lowers_of_mem_lowerAfter hmem
    exact h.dot (hlowers.dot.1 rfl ▸ hc)
  head := Text.isBlank_head?_lower h.head
  last := Text.endsPlain_lowerAfter false h.last

theorem lower_dot (s : List Char) : Text.lower ('.' :: s) = '.' :: Text.lower s := by
  -- A sigma behind the dot has no cased letter before it either way.
  have hcontext : (if Text.caseIgnorableRuns.has '.' then false else Text.casedRuns.has '.') =
      false := by decide +kernel
  rw [Text.lower, Text.lowerAfter, hcontext]
  rfl

theorem toList_extension (name : String) :
    (extension name).toList = '.' :: Text.lower name.toList := by
  rw [extension, String.toList_append, Text.toList_downcase]
  rfl

theorem extension_eq_of_lower {s t : String} (h : Text.lower s.toList = Text.lower t.toList) :
    extension s = extension t := by
  rw [← String.toList_inj, toList_extension, toList_extension, h]

theorem extension_downcase (name : String) : extension (Text.downcase name) = extension name := by
  apply extension_eq_of_lower
  rw [Text.toList_downcase, Text.lower_lower]

theorem downcase_extension (name : String) :
    Text.downcase (extension name) = extension name := by
  rw [← String.toList_inj, Text.toList_downcase, toList_extension, lower_dot, Text.lower_lower]

end Names

section Items

variable {names : List String} {name item : List Char} {items : List (List Char)}

/-- The item without the blanks around it is read as the extension, with or without the dot. -/
theorem ItemOf.exists_trim_eq (h : ItemOf name item) (hname : IsExtensionName name) :
    ∃ spelled, Text.trim item = spelled ∧ spelled ≠ [] ∧
      normalExtension (String.ofList spelled) = extension (String.ofList name) := by
  obtain ⟨before, dot, word, after, hbefore, hdot, hword, hafter⟩ := h
  have hwordName := hname.of_map_toLower hword
  have hlower : Text.lower word = Text.lower name := Text.lower_eq_of_map_toLower hword
  obtain ⟨last, hlast⟩ := List.getLast?_isSome.2 hwordName.ne_nil |> Option.isSome_iff_exists.1
  refine ⟨dot ++ word, ?_, by simp [hwordName.ne_nil], ?_⟩
  · have hend : (dot ++ word).getLast? = some last := by
      rw [List.getLast?_append, hlast, Option.some_or]
    have hhead : ∀ c ∈ (dot ++ word).head?, Text.isBlank c = false := by
      rcases hdot with rfl | rfl
      · exact hwordName.head
      · rintro c hc
        obtain rfl : '.' = c := Option.some.inj hc
        decide
    rw [Text.trim_append hbefore hhead hend (hwordName.last last hlast),
      List.rdropWhile_eq_nil_iff.2 hafter, List.append_nil]
  · rcases hdot with rfl | rfl
    · have hplain : ¬ (word.head? == some '.') = true := fun hdot =>
        hwordName.dot (List.mem_of_head? (beq_iff_eq.1 hdot))
      rw [normalExtension, String.toList_ofList, List.nil_append, if_neg hplain]
      exact extension_eq_of_lower (by rw [String.toList_ofList, String.toList_ofList, hlower])
    · rw [normalExtension, String.toList_ofList, List.singleton_append, List.head?_cons,
        if_pos (beq_self_eq_true _), ← String.toList_inj, Text.toList_downcase, toList_extension,
        String.toList_ofList, String.toList_ofList, lower_dot, hlower]

theorem ItemOf.comma_not_mem (h : ItemOf name item) (hname : IsExtensionName name) :
    ',' ∉ item := by
  obtain ⟨before, dot, word, after, hbefore, hdot, hword, hafter⟩ := h
  have hblank : ∀ {s : List Char}, (∀ c ∈ s, Text.isBlank c = true) → ',' ∉ s :=
    fun hs hmem => absurd (hs ',' hmem) (by decide)
  simp only [List.mem_append, not_or]
  refine ⟨hblank hbefore, ⟨?_, (hname.of_map_toLower hword).comma⟩, hblank hafter⟩
  rcases hdot with rfl | rfl <;> simp

theorem ItemsOf.comma_not_mem (h : ItemsOf names items)
    (hnames : ∀ name ∈ names, IsExtensionName name.toList) : ∀ item ∈ items, ',' ∉ item := by
  induction h with
  | nil => simp
  | empty hitem _ ih =>
    rw [List.forall_mem_cons]
    exact ⟨fun hmem => absurd (hitem ',' hmem) (by decide), ih hnames⟩
  | name hitem _ ih =>
    rw [List.forall_mem_cons] at hnames ⊢
    exact ⟨hitem.comma_not_mem hnames.1, ih hnames.2⟩

/-- The items that are left when blanks and empty items are gone. -/
def keptItems (items : List (List Char)) : List String :=
  ((items.map Text.trim).filter fun item => !item.isEmpty).map String.ofList

theorem ItemsOf.map_keptItems (h : ItemsOf names items)
    (hnames : ∀ name ∈ names, IsExtensionName name.toList) :
    (keptItems items).map normalExtension = names.map extension := by
  induction h with
  | nil => rfl
  | @empty names items item hitem _ ih =>
    have htrim : Text.trim item = [] := by
      rw [Text.trim_eq, List.dropWhile_eq_nil_iff.2 hitem, List.rdropWhile_nil]
    rw [keptItems, List.map_cons, htrim, List.filter_cons_of_neg (by simp)]
    exact ih hnames
  | @name names items name item hitem _ ih =>
    rw [List.forall_mem_cons] at hnames
    obtain ⟨spelled, htrim, hne, hnormal⟩ := hitem.exists_trim_eq hnames.1
    rw [String.ofList_toList] at hnormal
    rw [keptItems, List.map_cons, htrim, List.filter_cons_of_pos (by simp [hne]), List.map_cons,
      List.map_cons, List.map_cons, hnormal]
    exact congrArg _ (ih hnames.2)

theorem Written.map_commaItems {text : String} (h : Written names text)
    (hnames : ∀ name ∈ names, IsExtensionName name.toList) :
    (commaItems text.toList).map normalExtension = names.map extension := by
  obtain ⟨items, hitems, htext⟩ := h
  -- No items at all are written like one empty item.
  by_cases hne : items = []
  · subst hne
    cases hitems
    rw [htext]
    rfl
  · have hsplit : text.toList.splitOn ',' = items := by
      rw [htext, List.splitOn_intercalate ',' (hitems.comma_not_mem hnames) hne]
    rw [commaItems, hsplit]
    exact hitems.map_keptItems hnames

/-- The extensions joined by commas write the names in lower case. -/
theorem written_extensions (names : List String) :
    Written (names.map Text.downcase) (String.intercalate "," (names.map extension)) := by
  refine ⟨(names.map extension).map String.toList, ?_, String.toList_intercalate⟩
  induction names with
  | nil => exact .nil
  | cons name names ih =>
    refine .name ?_ ih
    rw [toList_extension, Text.toList_downcase]
    have hitem : ItemOf (Text.lower name.toList) _ :=
      .intro [] ['.'] (Text.lower name.toList) [] (by simp) (.inr rfl) rfl (by simp)
    rwa [List.append_nil] at hitem

end Items

section Loading

variable {values : Values} {environment : List (String × String)} {file : List EnvFile.Variable}

theorem key_extensions (l : Lookup) : l.key "extensions" = "extensions" := by
  rw [Lookup.key]
  split
  · rfl
  · decide +kernel

/-- A value for the extensions says nothing about the lookup. -/
theorem ofValues_extensions (value : Json) (values : Values) :
    Lookup.ofValues (("extensions", value) :: values) = Lookup.ofValues values :=
  rfl

theorem find?_extensions (l : Lookup) (value : Json) :
    find? l (("extensions", value) :: values) environment file "extensions" = some value := by
  rw [find?, given?, List.find?_cons_of_pos (by simp [key_extensions])]
  rfl

theorem find?_of_ne (l : Lookup) (value : Json) {name : String} (h : name ≠ "extensions") :
    find? l (("extensions", value) :: values) environment file name =
      find? l values environment file name := by
  rw [find?, find?, given?, List.find?_cons_of_neg (by simp [key_extensions, h.symm]), given?]

/-- The settings with checked extensions and the other values from a lookup. -/
def loadWith (find? : String → Option Json) (extensions : Checked (List String)) :
    Checked Settings :=
  let defaults : Settings := {}
  (Checked.ap (.ok Settings.mk) extensions)
  |> (Checked.ap · (setting find? "ignored_dirs" defaults.ignoredDirs checkItems))
  |> (Checked.ap · (setting find? "max_file_bytes" defaults.maxFileBytes Check.integer))
  |> (Checked.ap · (setting find? "workers" defaults.workers checkWorkers))
  |> (Checked.ap · (setting find? "contracts_path" defaults.contractsPath
      (Check.nullable Check.string)))
  |> (Checked.ap · (setting find? "debug" defaults.debug Check.truth))

theorem load_eq_loadWith (values : Values) (environment : List (String × String))
    (file : List EnvFile.Variable) :
    load values environment file =
      loadWith (find? (.ofValues values) values environment file)
        (setting (find? (.ofValues values) values environment file) "extensions"
          ({} : Settings).extensions checkExtensions) :=
  rfl

theorem loadWith_congr {lookup lookup' : String → Option Json}
    (h : ∀ name, name ≠ "extensions" → lookup name = lookup' name)
    (extensions : Checked (List String)) :
    loadWith lookup extensions = loadWith lookup' extensions := by
  have hsetting : ∀ {α : Type} {name : String}, name ≠ "extensions" →
      ∀ (default : α) (check : Json → Checked α),
        setting lookup name default check = setting lookup' name default check := by
    intro α name hne default check
    rw [setting, setting, h name hne]
  rw [loadWith, loadWith, hsetting (by decide), hsetting (by decide), hsetting (by decide),
    hsetting (by decide), hsetting (by decide)]

theorem loadWith_ok (lookup : String → Option Json) (extensions extensions' : List String) :
    loadWith lookup (.ok extensions) =
      Except.map (fun s => { s with extensions := extensions })
        (loadWith lookup (.ok extensions')) := by
  rw [loadWith, loadWith]
  simp only [Checked.map_ap]
  rfl

theorem setting_of_commaItems {text : String} {extensions : List String}
    (h : (commaItems text.toList).map normalExtension = extensions)
    {lookup : String → Option Json} (hfind : lookup "extensions" = some (.string text)) :
    setting lookup "extensions" ({} : Settings).extensions checkExtensions = .ok extensions := by
  rw [setting, hfind, ← h]
  rfl

/-- The text gives the extensions wherever it stands, whatever the other settings are. -/
def Gives (text : String) (extensions : List String) : Prop :=
  ∀ (values : Values) (environment : List (String × String)) (file : List EnvFile.Variable),
    find? (.ofValues values) values environment file "extensions" = some (.string text) →
      load values environment file =
        Except.map (fun s => { s with extensions := extensions })
          (load (("extensions", .arr []) :: values) environment file)

theorem gives_of_commaItems {text : String} {extensions : List String}
    (h : (commaItems text.toList).map normalExtension = extensions) : Gives text extensions := by
  intro values environment file hfind
  have hempty : setting (find? (.ofValues values) (("extensions", .arr []) :: values) environment
      file) "extensions" ({} : Settings).extensions checkExtensions = .ok [] := by
    rw [setting, find?_extensions]
    rfl
  rw [load_eq_loadWith, setting_of_commaItems h hfind, load_eq_loadWith, ofValues_extensions,
    hempty, loadWith_congr fun name hne => find?_of_ne _ _ hne]
  exact loadWith_ok _ _ _

theorem load_of_commaItems {text : String} {extensions : List String}
    (h : (commaItems text.toList).map normalExtension = extensions) :
    load [("extensions", .string text)] [] [] = .ok { extensions := extensions } := by
  rw [load_eq_loadWith, setting_of_commaItems h (find?_extensions _ _),
    loadWith_congr fun name hne => find?_of_ne _ _ hne]
  rfl

theorem Written.gives {names : List String} {text : String} (h : Written names text)
    (hnames : ∀ name ∈ names, IsExtensionName name.toList) : Gives text (names.map extension) :=
  gives_of_commaItems (h.map_commaItems hnames)

/-- The settings come from sources in which the text stands for the extensions. -/
def LoadsFrom (text : String) (s : Settings) : Prop :=
  ∃ (values : Values) (environment : List (String × String)) (file : List EnvFile.Variable),
    find? (.ofValues values) values environment file "extensions" = some (.string text) ∧
      load values environment file = .ok s

theorem Gives.extensions_eq {text : String} {extensions : List String} {s : Settings}
    (h : Gives text extensions) (hs : LoadsFrom text s) : s.extensions = extensions := by
  obtain ⟨values, environment, file, hfind, hload⟩ := hs
  rw [h values environment file hfind] at hload
  cases hother : load (("extensions", .arr []) :: values) environment file with
  | error issues =>
    rw [hother] at hload
    cases hload
  | ok other =>
    rw [hother] at hload
    exact (congrArg Settings.extensions (Except.ok.inj hload)).symm

/-- The extensions in lower case are the ones that a scan looks for. -/
theorem suffixes_extension (names : List String) (o : ScanOptions) :
    ScanOptions.suffixes { o with extensions := names.map extension } =
      if names = [] then ({} : Settings).extensions else names.map extension := by
  cases names with
  | nil =>
    show ({} : Settings).extensions.map Text.downcase = _
    decide +kernel
  | cons name names =>
    show ((name :: names).map extension).map Text.downcase = _
    rw [if_neg (List.cons_ne_nil _ _), List.map_map]
    exact List.map_congr_left fun name _ => downcase_extension name

/-- Every way to write the names gives their extensions.  These give themselves and are what
a scan looks for, so that it finds the same files for every way. -/
theorem extensions_of_written {names : List String}
    (hnames : ∀ name ∈ names, IsExtensionName name.toList) :
    (∀ text, Written names text →
      Gives text (names.map extension) ∧
        load [("extensions", .string text)] [] [] = .ok { extensions := names.map extension }) ∧
      Gives (String.intercalate "," (names.map extension)) (names.map extension) ∧
      (∀ {text text' : String} {s s' : Settings}, Written names text → Written names text' →
        LoadsFrom text s → LoadsFrom text' s' →
          s.extensions = s'.extensions ∧
            ∀ (w : Workspace) (o : ScanOptions) (root : Path),
              w.scan { o with extensions := s.extensions } root =
                w.scan { o with extensions := s'.extensions } root) ∧
      ∀ o : ScanOptions, ScanOptions.suffixes { o with extensions := names.map extension } =
        if names = [] then ({} : Settings).extensions else names.map extension := by
  refine ⟨?_, ?_, ?_, suffixes_extension names⟩
  · intro text htext
    exact ⟨htext.gives hnames, load_of_commaItems (htext.map_commaItems hnames)⟩
  · have hlower : ∀ name ∈ names.map Text.downcase, IsExtensionName name.toList := by
      intro name hname
      obtain ⟨name, hmem, rfl⟩ := List.mem_map.1 hname
      rw [Text.toList_downcase]
      exact (hnames name hmem).lower
    have hsame : (names.map Text.downcase).map extension = names.map extension := by
      rw [List.map_map]
      exact List.map_congr_left fun name _ => extension_downcase name
    exact hsame ▸ (written_extensions names).gives hlower
  · intro text text' s s' htext htext' hs hs'
    have hsame : s.extensions = s'.extensions :=
      ((htext.gives hnames).extensions_eq hs).trans ((htext'.gives hnames).extensions_eq hs').symm
    refine ⟨hsame, fun w o root => ?_⟩
    rw [hsame]

theorem extensions_oddSpelling :
    (∀ name ∈ ["TS", "vue"], IsExtensionName name.toList) ∧
      Written ["TS", "vue"] " .ts,\t,Vue" ∧ Written ["TS", "vue"] "Ts ,.VUE" ∧
      load [] [("backlist_Extensions", " .ts,\t,Vue")] [] =
        .ok { extensions := [".ts", ".vue"] } ∧
      ∃ s s', LoadsFrom " .ts,\t,Vue" s ∧ LoadsFrom "Ts ,.VUE" s' ∧
        s.extensions = s'.extensions := by
  have hnames : ∀ name ∈ ["TS", "vue"], IsExtensionName name.toList := by
    simp only [List.forall_mem_cons]
    refine ⟨⟨by decide, by decide, by decide, ?_, ?_⟩, ⟨by decide, by decide, by decide, ?_, ?_⟩,
      by simp⟩
    all_goals
      rintro c ⟨⟩
      decide
  have hfirst : Written ["TS", "vue"] " .ts,\t,Vue" :=
    ⟨[" .ts".toList, ['\t'], "Vue".toList],
      .name (.intro [' '] ['.'] "ts".toList [] (by simp; decide) (.inr rfl) rfl (by simp))
        (.empty (by simp; decide)
          (.name (.intro [] [] "Vue".toList [] (by simp) (.inl rfl) rfl (by simp)) .nil)), rfl⟩
  have hsecond : Written ["TS", "vue"] "Ts ,.VUE" :=
    ⟨["Ts ".toList, ".VUE".toList],
      .name (.intro [] [] "Ts".toList [' '] (by simp) (.inl rfl) rfl (by simp; decide))
        (.name (.intro [] ['.'] "VUE".toList [] (by simp) (.inr rfl) rfl (by simp)) .nil), rfl⟩
  obtain ⟨hgives, -, hsame, -⟩ := extensions_of_written hnames
  have hextensions : ["TS", "vue"].map extension = [".ts", ".vue"] := by decide +kernel
  have hfind : find? (.ofValues []) [] [("backlist_Extensions", " .ts,\t,Vue")] [] "extensions" =
      some (.string " .ts,\t,Vue") := rfl
  have hload : load [] [("backlist_Extensions", " .ts,\t,Vue")] [] =
      .ok { extensions := [".ts", ".vue"] } := by
    rw [(hgives _ hfirst).1 _ _ _ hfind, hextensions]
    rfl
  have hs : LoadsFrom " .ts,\t,Vue" { extensions := [".ts", ".vue"] } := ⟨_, _, _, hfind, hload⟩
  have hs' : LoadsFrom "Ts ,.VUE" { extensions := ["TS", "vue"].map extension } :=
    ⟨_, [], [], find?_extensions _ _, (hgives _ hsecond).2⟩
  exact ⟨hnames, hfirst, hsecond, hload, _, _, hs, hs', (hsame hfirst hsecond hs hs').1⟩

end Loading

end Settings
end RouteCensus
