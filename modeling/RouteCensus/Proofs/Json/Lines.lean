import RouteCensus.Proofs.Json.RoundTrip
import RouteCensus.Text.Lines

/-! # Ends of lines in written values

Written text has line feeds only, since a carriage return inside of a string is
escaped.  So bringing the ends of lines to one form does not change it.
-/

namespace RouteCensus

theorem Text.unixLines_of_not_mem {s : List Char} (h : '\r' ∉ s) : Text.unixLines s = s := by
  fun_induction Text.unixLines s with
  | case1 => rfl
  | case2 rest ih => exact absurd List.mem_cons_self h
  | case3 rest _ ih => exact absurd List.mem_cons_self h
  | case4 c rest _ _ ih => rw [ih fun hmem => h (List.mem_cons_of_mem c hmem)]

namespace Json

theorem hexDigit_ne {n : Nat} (h : n < 16) : hexDigit n ≠ '\r' := by
  have hall : ∀ n, n < 16 → hexDigit n ≠ '\r' := by decide
  exact hall n h

theorem not_mem_unitEscape (n : Nat) : '\r' ∉ unitEscape n := by
  have hdigit : ∀ k, '\r' ≠ hexDigit (k % 16) :=
    fun k => (hexDigit_ne (Nat.mod_lt k (by omega))).symm
  simp [unitEscape, hdigit]

theorem not_mem_codeEscape (n : Nat) : '\r' ∉ codeEscape n := by
  unfold codeEscape
  split <;> simp [not_mem_unitEscape]

theorem not_mem_writeChar (c : Char) : '\r' ∉ writeChar .unicode c := by
  obtain ⟨e, he, hwritten⟩ | hwritten | ⟨-, -, hlow, hwritten⟩ := writeChar_cases .unicode c
  · have hne : '\r' ≠ e := by
      rintro rfl
      cases he
    simp [hwritten, hne]
  · rw [hwritten]
    exact not_mem_codeEscape _
  · have hne : '\r' ≠ c := by
      rintro rfl
      exact absurd hlow (by decide)
    simp [hwritten, hne]

theorem not_mem_writeString (s : String) : '\r' ∉ writeString .unicode (.text s) := by
  simp [writeString, not_mem_writeChar]

theorem not_mem_writeInt (n : Int) : '\r' ∉ writeInt n := by
  have hdigits : '\r' ∉ Nat.toDigits 10 n.natAbs :=
    fun h => absurd (isDigit_of_mem_toDigits h) (by decide)
  unfold writeInt
  split
  · simp [hdigits]
  · exact hdigits

theorem not_mem_newLine (depth : Nat) : '\r' ∉ newLine depth := by
  simp [newLine]

mutual

theorem not_mem_write {digits depth : Nat} (indent : Nat) :
    ∀ {v : Json}, v.Plain digits depth → '\r' ∉ write .unicode indent v
  | null, _ => by rw [write]; decide
  | bool true, _ => by rw [write]; decide
  | bool false, _ => by rw [write]; decide
  | int n, _ => by rw [write]; exact not_mem_writeInt n
  | real _, h => h.elim
  | str s, ⟨t, ht⟩ => by rw [write, ht]; exact not_mem_writeString t
  | arr [], _ => by rw [write]; decide
  | arr (item :: items), h => by
    have hitem := not_mem_write (indent + 1) h.2.1
    have hitems := not_mem_writeItems (indent + 1) h.2.2
    simp [write, hitem, hitems, not_mem_newLine]
  | obj [], _ => by rw [write]; decide
  | obj ((name, value) :: members), h => by
    obtain ⟨-, -, ⟨t, rfl⟩, hvalue, hmembers⟩ := h
    have hwritten := not_mem_write (indent + 1) hvalue
    have hmore := not_mem_writeMembers (indent + 1) hmembers
    simp [write, hwritten, hmore, not_mem_newLine, not_mem_writeString]

theorem not_mem_writeItems {digits depth : Nat} (indent : Nat) :
    ∀ {items : List Json}, PlainItems digits depth items → '\r' ∉ writeItems .unicode indent items
  | [], _ => by rw [writeItems]; exact List.not_mem_nil
  | item :: items, h => by
    have hitem := not_mem_write indent h.1
    have hitems := not_mem_writeItems indent h.2
    simp [writeItems, hitem, hitems, not_mem_newLine]

theorem not_mem_writeMembers {digits depth : Nat} (indent : Nat) :
    ∀ {members : List (JsonString × Json)},
      PlainMembers digits depth members → '\r' ∉ writeMembers .unicode indent members
  | [], _ => by rw [writeMembers]; exact List.not_mem_nil
  | (name, value) :: members, h => by
    obtain ⟨⟨t, rfl⟩, hvalue, hmembers⟩ := h
    have hwritten := not_mem_write indent hvalue
    have hmore := not_mem_writeMembers indent hmembers
    simp [writeMembers, hwritten, hmore, not_mem_newLine, not_mem_writeString]

end

theorem unixLines_write {v : Json} {digits depth : Nat} (h : v.Plain digits depth) :
    Text.unixLines (write .unicode 0 v ++ ['\n']) = write .unicode 0 v ++ ['\n'] := by
  apply Text.unixLines_of_not_mem
  rw [List.mem_append, not_or]
  exact ⟨not_mem_write 0 h, by decide⟩

end Json

end RouteCensus
