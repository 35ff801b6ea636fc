import RouteCensus.Proofs.Json.Scalars

/-! # Reading written values

The indented form of a value is read as the value.  Values are meant without
fractions, with proper text for strings, each name once in an object, and within
the limits of reading.
-/

namespace RouteCensus.Json

mutual

/-- A value that is spelt by its written form: its whole numbers have no more than the given digits,
and inside of it further ones may be nested `depth` times. -/
def Plain (digits depth : Nat) : Json → Prop
  | null => True
  | bool _ => True
  | int n => digitCount n ≤ digits
  | real _ => False
  | str s => ∃ t, s = .text t
  | arr items => 0 < depth ∧ PlainItems digits (depth - 1) items
  | obj members =>
    0 < depth ∧ (members.map Prod.fst).Nodup ∧ PlainMembers digits (depth - 1) members

def PlainItems (digits depth : Nat) : List Json → Prop
  | [] => True
  | item :: items => item.Plain digits depth ∧ PlainItems digits depth items

def PlainMembers (digits depth : Nat) : List (JsonString × Json) → Prop
  | [] => True
  | (name, value) :: members =>
    (∃ t, name = .text t) ∧ value.Plain digits depth ∧ PlainMembers digits depth members

end

variable {charset : Charset}

/-- No gap, no closing bracket and no byte order mark. -/
def Opens (c : Char) : Prop :=
  isGap c = false ∧ c ≠ ']' ∧ c ≠ '\ufeff'

instance : DecidablePred Opens := fun _ => inferInstanceAs (Decidable (_ ∧ _))

theorem opens_of_isDigit {c : Char} (h : isDigit c = true) : Opens c := by
  have hne : ∀ d : Char, isDigit d = false → c ≠ d := by
    rintro d hd rfl
    rw [hd] at h
    cases h
  simp [Opens, isGap, hne ' ' rfl, hne '\t' rfl, hne '\n' rfl, hne '\r' rfl, hne ']' rfl,
    hne '\ufeff' rfl]

theorem Plain.ne_real {digits depth : Nat} {v : Json} (h : v.Plain digits depth) (x : Double) :
    v ≠ .real x := by
  rintro rfl
  exact h

theorem write_eq_cons {v : Json} (charset : Charset) (indent : Nat) (h : ∀ x, v ≠ .real x) :
    ∃ c tail, write charset indent v = c :: tail ∧ Opens c := by
  cases v with
  | null => exact ⟨'n', _, rfl, by decide⟩
  | bool b =>
    cases b with
    | true => exact ⟨'t', _, rfl, by decide⟩
    | false => exact ⟨'f', _, rfl, by decide⟩
  | int n =>
    obtain ⟨c, tail, hc, -, hwritten⟩ := writeInt_eq n
    rw [write, hwritten]
    split
    · exact ⟨'-', _, rfl, by decide⟩
    · exact ⟨c, tail, rfl, opens_of_isDigit hc⟩
  | real x => exact absurd rfl (h x)
  | str s => exact ⟨'"', _, by rw [write]; rfl, by decide⟩
  | arr items => cases items <;> exact ⟨'[', _, by rw [write]; rfl, by decide⟩
  | obj members =>
    rcases members with _ | ⟨⟨name, value⟩, members⟩ <;> exact ⟨'\x7b', _, by rw [write]; rfl,
      by decide⟩

theorem skipGap_newLine (depth : Nat) (s : List Char) :
    skipGap (newLine depth ++ s) = skipGap s := by
  have hgap : ∀ c ∈ newLine depth, isGap c = true := by
    intro c hc
    rcases List.mem_cons.1 hc with rfl | hc
    · rfl
    · rw [(List.mem_replicate.1 hc).2]
      rfl
  rw [skipGap, skipGap, List.dropWhile_append_of_pos hgap]

theorem skipGap_write {v : Json} (indent : Nat) (h : ∀ x, v ≠ .real x) (rest : List Char) :
    skipGap (write charset indent v ++ rest) = write charset indent v ++ rest := by
  obtain ⟨c, tail, hwritten, hopens⟩ := write_eq_cons charset indent h
  rw [hwritten, List.cons_append, skipGap,
    List.dropWhile_cons_of_neg (by rw [hopens.1]; exact Bool.false_ne_true)]

theorem closes_writeItems (indent close : Nat) (items : List Json) (rest : List Char) :
    Closes (writeItems charset indent items ++ (newLine close ++ rest)) := by
  intro c hc
  cases items with
  | nil => exact .inr (Option.mem_some_iff.1 hc).symm
  | cons item items =>
    rw [writeItems] at hc
    exact .inl (Option.mem_some_iff.1 hc).symm

theorem closes_writeMembers (indent close : Nat) (members : List (JsonString × Json))
    (rest : List Char) :
    Closes (writeMembers charset indent members ++ (newLine close ++ rest)) := by
  intro c hc
  rcases members with _ | ⟨⟨name, value⟩, members⟩
  · exact .inr (Option.mem_some_iff.1 hc).symm
  · rw [writeMembers] at hc
    exact .inl (Option.mem_some_iff.1 hc).symm

theorem setMember_of_not_mem {name : JsonString} (value : Json) {seen : List (JsonString × Json)}
    (h : name ∉ seen.map Prod.fst) : setMember name value seen = seen ++ [(name, value)] := by
  induction seen with
  | nil => rfl
  | cons m seen ih =>
    rw [List.map_cons, List.mem_cons, not_or] at h
    rw [setMember, if_neg (Ne.symm h.1), ih h.2, List.cons_append]

theorem readValue_writeString (fuel depth : Nat) (s : String) (rest : List Char) :
    readValue (fuel + 1) depth (writeString charset (.text s) ++ rest) =
      .ok (.str (.text s), rest) := by
  rw [writeString_append, readValue, readString_flatMap_writeChar]
  rfl

theorem readValue_writeInt (fuel depth : Nat) (n : Int) {rest : List Char} (hrest : Closes rest) :
    readValue (fuel + 1) depth (writeInt n ++ rest) =
      checkNumber (writeInt n ++ rest) (.int n, rest) := by
  have hconstant := readConstant?_writeInt n rest
  have hnumber := readNumber?_writeInt n hrest
  obtain ⟨c, tail, hc, -, hwritten⟩ := writeInt_eq n
  have hne : ∀ d : Char, isDigit d = false → c ≠ d := by
    rintro d hd rfl
    rw [hd] at hc
    cases hc
  have hplain : ∀ d : Char, isDigit d = false → d ≠ '-' → ∀ tail,
      writeInt n ++ rest ≠ d :: tail := by
    intro d hd hsign tail h
    rw [hwritten] at h
    split at h
    · exact hsign (List.cons.inj h).1.symm
    · exact hne d hd (List.cons.inj h).1
  rw [readValue]
  · simp only [hconstant, hnumber]
  · exact fun tail => hplain '"' rfl (by decide) tail
  · exact fun tail => hplain '\x7b' rfl (by decide) tail
  · exact fun tail => hplain '[' rfl (by decide) tail

theorem readValue_array (fuel depth : Nat) {s tail : List Char} {c : Char}
    (hs : skipGap s = c :: tail) (hc : c ≠ ']') :
    readValue (fuel + 1) (depth + 1) ('[' :: s) =
      (readItems fuel depth [] (c :: tail)).map fun (items, rest) => (.arr items, rest) := by
  simp only [readValue.eq_def, hs]
  split
  · next hdepth => exact absurd hdepth (Nat.succ_ne_zero _)
  · next h => exact absurd (List.cons.inj h).1 hc
  · next hdepth _ =>
    cases hdepth
    rfl

theorem readValue_object (fuel depth : Nat) {s tail : List Char} {c : Char}
    (hs : skipGap s = c :: tail)
    (hc : c ≠ '\x7d') : readValue (fuel + 1) (depth + 1) ('\x7b' :: s) =
      (readMembers fuel depth [] (c :: tail)).map fun (members, rest) => (.obj members, rest) := by
  simp only [readValue.eq_def, hs]
  split
  · next hdepth => exact absurd hdepth (Nat.succ_ne_zero _)
  · next h => exact absurd (List.cons.inj h).1 hc
  · next hdepth _ =>
    cases hdepth
    rfl

mutual

/-- A written value is read again, with enough fuel for its text and enough depth for its parts. -/
theorem readValue_write (v : Json) (indent fuel depth : Nat) (rest : List Char)
    (hplain : v.Plain mostDigits depth)
    (hfuel : 2 * (write charset indent v).length ≤ fuel + 1) (hrest : Closes rest) :
    readValue fuel depth (write charset indent v ++ rest) = .ok (v, rest) := by
  obtain ⟨fuel, rfl⟩ : ∃ k, fuel = k + 1 := by
    obtain ⟨c, tail, hwritten, -⟩ := write_eq_cons charset indent hplain.ne_real
    rw [hwritten, List.length_cons] at hfuel
    exact ⟨fuel - 1, by omega⟩
  match v with
  | null => rfl
  | bool true => rfl
  | bool false => rfl
  | int n =>
    rw [write, readValue_writeInt fuel depth n hrest, checkNumber_writeInt n hrest,
      if_neg (Nat.not_lt.2 hplain)]
  | real x => exact absurd hplain (by simp [Plain])
  | str s =>
    obtain ⟨t, rfl⟩ := hplain
    rw [write, readValue_writeString]
  | arr [] =>
    obtain ⟨depth, rfl⟩ : ∃ k, depth = k + 1 := ⟨depth - 1, by have := hplain.1; omega⟩
    rfl
  | obj [] =>
    obtain ⟨depth, rfl⟩ : ∃ k, depth = k + 1 := ⟨depth - 1, by have := hplain.1; omega⟩
    rfl
  | arr (item :: items) =>
    obtain ⟨hdepth, hitem, hitems⟩ := hplain
    obtain ⟨depth, rfl⟩ : ∃ k, depth = k + 1 := ⟨depth - 1, by omega⟩
    have hread := readItems_write item items (indent + 1) indent fuel depth [] rest hitem hitems (by
      simp only [write, List.length_cons, List.length_append] at hfuel
      omega)
    obtain ⟨c, tail, hwritten, hopens⟩ := write_eq_cons charset (indent + 1) hitem.ne_real
    simp only [write, List.cons_append, List.append_assoc, List.nil_append]
    have hgap : skipGap (newLine (indent + 1) ++ (write charset (indent + 1) item ++
        (writeItems charset (indent + 1) items ++ (newLine indent ++ ']' :: rest)))) =
        c :: (tail ++ (writeItems charset (indent + 1) items ++ (newLine indent ++ ']' :: rest))) := by
      rw [skipGap_newLine, skipGap_write (indent + 1) hitem.ne_real, hwritten, List.cons_append]
    rw [readValue_array fuel depth hgap hopens.2.1, ← List.cons_append, ← hwritten, hread]
    rfl
  | obj ((name, value) :: members) =>
    obtain ⟨hdepth, hnames, ⟨t, rfl⟩, hvalue, hmembers⟩ := hplain
    obtain ⟨depth, rfl⟩ : ∃ k, depth = k + 1 := ⟨depth - 1, by omega⟩
    have hread := readMembers_write t value members (indent + 1) indent fuel depth [] rest
      hnames hvalue hmembers (by
      simp only [write, List.length_cons, List.length_append] at hfuel
      omega)
    rw [writeString_append] at hread
    simp only [write, List.cons_append, List.append_assoc, List.nil_append]
    rw [readValue_object fuel depth (by rw [skipGap_newLine, writeString_append]; rfl) (by decide),
      hread]
    rfl
  termination_by fuel

theorem readItems_write (item : Json) (items : List Json) (indent close fuel depth : Nat)
    (seen : List Json)
    (rest : List Char) (hitem : item.Plain mostDigits depth)
    (hitems : PlainItems mostDigits depth items)
    (hfuel : 2 * ((write charset indent item).length +
      (writeItems charset indent items).length) ≤ fuel) :
    readItems fuel depth seen (write charset indent item ++
      (writeItems charset indent items ++ (newLine close ++ ']' :: rest))) =
      .ok (seen.reverse ++ item :: items, rest) := by
  have hstart : 1 ≤ (write charset indent item).length := by
    obtain ⟨c, tail, hwritten, -⟩ := write_eq_cons charset indent hitem.ne_real
    rw [hwritten]
    exact Nat.succ_le_succ (Nat.zero_le _)
  obtain ⟨fuel, rfl⟩ : ∃ k, fuel = k + 1 := ⟨fuel - 1, by omega⟩
  rw [readItems,
    readValue_write item indent fuel depth _ hitem (by omega) (closes_writeItems _ _ _ _)]
  cases items with
  | nil =>
    simp only [writeItems, List.nil_append, skipGap_newLine]
    simp [skipGap, isGap]
  | cons next items =>
    obtain ⟨hnext, hitems⟩ := hitems
    have hread := readItems_write next items indent close fuel depth (item :: seen) rest
      hnext hitems (by
      simp only [writeItems, List.length_cons, List.length_append] at hfuel
      omega)
    simp only [writeItems, List.cons_append, List.append_assoc] at hread ⊢
    simp only [show ∀ s, skipGap (',' :: s) = ',' :: s from fun _ => rfl, skipGap_newLine,
      skipGap_write indent hnext.ne_real, hread]
    simp
  termination_by fuel

theorem readMembers_write (name : String) (value : Json) (members : List (JsonString × Json))
    (indent close fuel depth : Nat) (seen : List (JsonString × Json)) (rest : List Char)
    (hnames : (seen.map Prod.fst ++ (JsonString.text name :: members.map Prod.fst)).Nodup)
    (hvalue : value.Plain mostDigits depth) (hmembers : PlainMembers mostDigits depth members)
    (hfuel : 2 * ((writeString charset (.text name)).length +
      (write charset indent value).length + (writeMembers charset indent members).length) ≤ fuel) :
    readMembers fuel depth seen
    (writeString charset (.text name) ++ (": ".toList ++ (write charset indent value ++
      (writeMembers charset indent members ++ (newLine close ++ '\x7d' :: rest))))) =
      .ok (seen ++ (.text name, value) :: members, rest) := by
  have hstart : 1 ≤ (writeString charset (.text name)).length := Nat.succ_le_succ (Nat.zero_le _)
  obtain ⟨fuel, rfl⟩ : ∃ k, fuel = k + 1 := ⟨fuel - 1, by omega⟩
  have hnew : JsonString.text name ∉ seen.map Prod.fst := by
    intro h
    exact (List.nodup_append.1 hnames).2.2 _ h _ List.mem_cons_self rfl
  have hread := readValue_write value indent fuel depth
    (writeMembers charset indent members ++ (newLine close ++ '\x7d' :: rest)) hvalue (by omega)
    (closes_writeMembers _ _ _ _)
  rw [writeString_append, readMembers, readString_flatMap_writeChar]
  simp only [show ∀ s, skipGap (": ".toList ++ s) = ':' :: ' ' :: s from fun _ => rfl,
    show ∀ s, skipGap (' ' :: s) = skipGap s from fun _ => rfl,
    skipGap_write indent hvalue.ne_real, hread, setMember_of_not_mem value hnew]
  cases members with
  | nil =>
    simp only [writeMembers, List.nil_append, skipGap_newLine]
    simp [skipGap, isGap]
  | cons next members =>
    obtain ⟨nextName, nextValue⟩ := next
    obtain ⟨⟨t, rfl⟩, hnext, hmembers⟩ := hmembers
    have hmore := readMembers_write t nextValue members indent close fuel depth
      (seen ++ [(.text name, value)]) rest
      (by simpa using hnames) hnext hmembers (by
        simp only [writeMembers, List.length_cons, List.length_append] at hfuel
        omega)
    simp only [writeMembers, List.cons_append, List.append_assoc, List.nil_append] at hmore ⊢
    simp only [show ∀ s, skipGap (',' :: s) = ',' :: s from fun _ => rfl, skipGap_newLine]
    rw [writeString_append] at hmore ⊢
    simp only [show ∀ s, skipGap ('"' :: s) = '"' :: s from fun _ => rfl, hmore]
  termination_by fuel

end

theorem readStop_cons {c : Char} (levels : Nat) (tail : List Char) (hc : Opens c) :
    readStop levels (c :: tail) =
      match readValue (2 * (c :: tail).length + 2) levels (c :: tail) with
      | .error stop => .error stop
      | .ok (value, rest) =>
        match skipGap rest with
        | [] => .ok value
        | rest => .error (.extra, rest) := by
  have hgap : skipGap (c :: tail) = c :: tail := by
    rw [skipGap, List.dropWhile_cons_of_neg (by rw [hc.1]; exact Bool.false_ne_true)]
  unfold readStop
  split
  · next h => exact absurd (List.cons.inj h).1 hc.2.2
  · generalize skipGap (c :: tail) = text at hgap
    subst hgap
    rfl

/-- The text of a plain value is read as the value. -/
theorem read_write {v : Json} {levels : Nat} (h : v.Plain mostDigits levels) :
    read levels (write charset 0 v ++ ['\n']) = .ok v := by
  obtain ⟨c, tail, hwritten, hopens⟩ := write_eq_cons charset 0 h.ne_real
  have hread : readValue (2 * (write charset 0 v ++ ['\n']).length + 2) levels
      (write charset 0 v ++ ['\n']) = .ok (v, ['\n']) := by
    apply readValue_write v 0 _ levels ['\n'] h
    · rw [List.length_append]
      omega
    · exact fun c hc => .inr (Option.mem_some_iff.1 hc).symm
  rw [hwritten, List.cons_append] at hread ⊢
  rw [read, readStop_cons levels _ hopens, hread]
  rfl

end RouteCensus.Json
