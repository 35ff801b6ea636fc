import RouteCensus.Proofs.Json.Limits
import RouteCensus.Proofs.Json.RoundTrip

/-! # Written values that are not read again

Writing spells whole numbers of any length.  A plain value is therefore read
again, or it holds a number that is too long, and then this limit stops reading.
-/

namespace RouteCensus.Json

variable {charset : Charset} {digits : Nat}

theorem valueOf_write {v : Json} (indent : Nat) {depth : Nat} {rest : List Char}
    (hplain : v.Plain mostDigits depth) (hrest : Closes rest) :
    valueOf depth (write charset indent v ++ rest) = .ok (v, rest) := by
  apply readValue_write v indent _ depth rest hplain
  · rw [List.length_append]
    omega
  · exact hrest

theorem memberName_write (name : String) {value : Json} (indent : Nat)
    (hvalue : ∀ x, value ≠ .real x) (rest : List Char) :
    memberName (writeString charset (.text name) ++ (": ".toList ++ (write charset indent value ++
      rest))) = .ok (.text name, write charset indent value ++ rest) := by
  have hcolon : skipGap (": ".toList ++ (write charset indent value ++ rest)) =
      ':' :: ' ' :: (write charset indent value ++ rest) :=
    rfl
  have hgap : skipGap (' ' :: (write charset indent value ++ rest)) =
      write charset indent value ++ rest :=
    skipGap_write indent hvalue rest
  rw [writeString_append, memberName_colon (readString_flatMap_writeChar name _) hcolon, hgap]

mutual

/-- The reading of a value that is written with too long a number is stopped. -/
theorem limited_write (v : Json) (indent depth : Nat) (rest : List Char)
    (hplain : v.Plain digits depth) (hlong : ¬ v.Plain mostDigits depth) (hrest : Closes rest) :
    Limited (valueOf depth (write charset indent v ++ rest)) := by
  match v with
  | null => exact absurd trivial hlong
  | bool b => exact absurd trivial hlong
  | int n =>
    rw [write, valueOf, readValue_writeInt _ depth n hrest, checkNumber_writeInt n hrest,
      if_pos (Nat.not_le.1 hlong)]
    exact ⟨_, rfl, rfl⟩
  | real x => exact absurd hplain (by simp [Plain])
  | str s => exact absurd hplain hlong
  | arr [] => exact absurd ⟨hplain.1, trivial⟩ hlong
  | obj [] => exact absurd ⟨hplain.1, List.nodup_nil, trivial⟩ hlong
  | arr (item :: items) =>
    obtain ⟨hdepth, hitems⟩ := hplain
    obtain ⟨depth, rfl⟩ : ∃ k, depth = k + 1 := ⟨depth - 1, by omega⟩
    have hinner := limited_writeItems item items (indent + 1) indent depth [] rest hitems
      fun hshort => hlong ⟨hdepth, hshort⟩
    simp only [write, List.cons_append, List.append_assoc, List.nil_append]
    rw [valueOf_eq, limited_array_iff]
    refine .inr ⟨depth, rfl, ?_⟩
    rw [skipGap_newLine, skipGap_write (indent + 1) hitems.1.ne_real]
    obtain ⟨c, tail, hwritten, hopens⟩ := write_eq_cons charset (indent + 1) hitems.1.ne_real
    refine ⟨?_, hinner⟩
    rw [hwritten, List.cons_append, List.head?_cons]
    exact fun h => hopens.2.1 (Option.some.inj h)
  | obj ((name, value) :: members) =>
    obtain ⟨hdepth, hnames, ⟨t, rfl⟩, hmembers⟩ := hplain
    obtain ⟨depth, rfl⟩ : ∃ k, depth = k + 1 := ⟨depth - 1, by omega⟩
    have hinner := limited_writeMembers t value members (indent + 1) indent depth [] rest
      hmembers.1 hmembers.2 fun hvalue hshort => hlong ⟨hdepth, hnames, ⟨t, rfl⟩, hvalue, hshort⟩
    rw [writeString_append] at hinner
    simp only [write, List.cons_append, List.append_assoc, List.nil_append]
    rw [valueOf_eq, limited_object_iff]
    refine .inr ⟨depth, rfl, ?_⟩
    rw [skipGap_newLine, writeString_append]
    exact ⟨by simp [skipGap, isGap], hinner⟩
  termination_by sizeOf v

theorem limited_writeItems (item : Json) (items : List Json) (indent close depth : Nat)
    (seen : List Json) (rest : List Char) (hplain : PlainItems digits depth (item :: items))
    (hlong : ¬ PlainItems mostDigits depth (item :: items)) :
    Limited (itemsOf depth seen (write charset indent item ++
      (writeItems charset indent items ++ (newLine close ++ ']' :: rest)))) := by
  obtain ⟨hitem, hitems⟩ := hplain
  rw [itemsOf_eq, itemsWith, limited_elementWith_iff (by decide)]
  by_cases hshort : item.Plain mostDigits depth
  · cases items with
    | nil => exact absurd ⟨hshort, trivial⟩ hlong
    | cons next items =>
      have hinner := limited_writeItems next items indent close depth (item :: seen) rest hitems
        fun h => hlong ⟨hshort, h⟩
      have hcomma : skipGap (writeItems charset indent (next :: items) ++
          (newLine close ++ ']' :: rest)) =
          ',' :: (newLine indent ++ (write charset indent next ++
            (writeItems charset indent items ++ (newLine close ++ ']' :: rest)))) := by
        simp only [writeItems, List.cons_append, List.append_assoc]
        rfl
      refine .inr ⟨item, _, _, valueOf_write indent hshort (closes_writeItems _ _ _ _), hcomma, ?_⟩
      rwa [skipGap_newLine, skipGap_write indent hitems.1.ne_real]
  · exact .inl (limited_write item indent depth _ hitem hshort (closes_writeItems _ _ _ _))
  termination_by sizeOf (item :: items)

theorem limited_writeMembers (name : String) (value : Json) (members : List (JsonString × Json))
    (indent close depth : Nat) (seen : List (JsonString × Json)) (rest : List Char)
    (hvalue : value.Plain digits depth) (hmembers : PlainMembers digits depth members)
    (hlong : value.Plain mostDigits depth → ¬ PlainMembers mostDigits depth members) :
    Limited (membersOf depth seen (writeString charset (.text name) ++ (": ".toList ++
      (write charset indent value ++
        (writeMembers charset indent members ++ (newLine close ++ '\x7d' :: rest)))))) := by
  rw [membersOf_eq, limited_membersWith_iff]
  refine ⟨_, _, memberName_write name indent hvalue.ne_real _, ?_⟩
  by_cases hshort : value.Plain mostDigits depth
  · have hlong := hlong hshort
    match members with
    | [] => exact absurd trivial hlong
    | (next, nextValue) :: members =>
      obtain ⟨⟨t, rfl⟩, hnext, hmembers⟩ := hmembers
      have hinner := limited_writeMembers t nextValue members indent close depth
        (setMember (.text name) value seen) rest hnext hmembers
        fun hnext' h => hlong ⟨⟨t, rfl⟩, hnext', h⟩
      have hcomma : skipGap (writeMembers charset indent ((.text t, nextValue) :: members) ++
          (newLine close ++ '\x7d' :: rest)) =
          ',' :: (newLine indent ++ (writeString charset (.text t) ++ (": ".toList ++
            (write charset indent nextValue ++ (writeMembers charset indent members ++
              (newLine close ++ '\x7d' :: rest)))))) := by
        simp only [writeMembers, List.cons_append, List.append_assoc]
        rfl
      refine .inr ⟨value, _, _, valueOf_write indent hshort (closes_writeMembers _ _ _ _), hcomma,
        ?_⟩
      rw [skipGap_newLine]
      rw [writeString_append] at hinner ⊢
      exact hinner
  · exact .inl (limited_write value indent depth _ hvalue hshort (closes_writeMembers _ _ _ _))
  termination_by 1 + sizeOf value + sizeOf members

end

/-- The text of a plain value with too long a number is refused for a limit. -/
theorem read_write_long {v : Json} {levels : Nat} (hplain : v.Plain digits levels)
    (hlong : ¬ v.Plain mostDigits levels) :
    ∃ e, read levels (write charset 0 v ++ ['\n']) = .error e ∧ e.fault.isLimit = true := by
  obtain ⟨c, tail, hwritten, hopens⟩ := write_eq_cons charset 0 hplain.ne_real
  have hmark : (write charset 0 v ++ ['\n']).head? ≠ some '\ufeff' := by
    rw [hwritten, List.cons_append, List.head?_cons]
    exact fun h => hopens.2.2 (Option.some.inj h)
  have hstop : Limited (readStop levels (write charset 0 v ++ ['\n'])) := by
    rw [limited_readStop_of_value hmark, skipGap_write 0 hplain.ne_real]
    exact limited_write v 0 levels ['\n'] hplain hlong fun c hc =>
      .inr (Option.mem_some_iff.1 hc).symm
  obtain ⟨stop, hstop, hlimit⟩ := hstop
  exact ⟨_, by rw [read, hstop]; rfl, hlimit⟩

end RouteCensus.Json
