import RouteCensus.Json.Reader
import RouteCensus.Json.Writer
import Mathlib.Tactic.Common

/-! # Reading written strings and numbers

A string or a whole number that was written is read again, whatever follows it
in the text of a document.
-/

namespace RouteCensus.Json

theorem hexDigit?_hexDigit {n : Nat} (h : n < 16) : hexDigit? (hexDigit n) = some n := by
  have hall : ∀ n, n < 16 → hexDigit? (hexDigit n) = some n := by decide
  exact hall n h

theorem hexUnit?_unitEscape {n : Nat} {more : List Char} (hn : n < 0x10000) (hmore : more ≠ []) :
    hexUnit? (hexDigit (n / 4096 % 16) :: hexDigit (n / 256 % 16) :: hexDigit (n / 16 % 16) :: hexDigit (n % 16) ::
      more) = some n := by
  obtain ⟨c, more, rfl⟩ := List.exists_cons_of_ne_nil hmore
  have hvalue : (n / 4096 % 16 * 16 + n / 256 % 16) * 256 + n / 16 % 16 * 16 + n % 16 = n := by
    omega
  simp only [hexUnit?, hexDigit?_hexDigit (Nat.mod_lt _ (by omega : 0 < 16)), Option.bind_eq_bind,
    Option.bind_some, Option.pure_def, hvalue]

theorem toNat_proper (c : Char) : c.toNat < 0xD800 ∨ 0xDFFF < c.toNat ∧ c.toNat < 0x110000 :=
  c.valid

variable {charset : Charset}

/-- A character is written as a backslash and a letter, as the escape of its code, or as itself. -/
theorem writeChar_cases (charset : Charset) (c : Char) :
    (∃ e, simpleEscape? e = some c ∧ writeChar charset c = ['\\', e]) ∨
    writeChar charset c = codeEscape c.toNat ∨
    (c ≠ '"' ∧ c ≠ '\\' ∧ 0x20 ≤ c.toNat ∧ writeChar charset c = [c]) := by
  by_cases hshort : c ∈ ['"', '\\', '\n', '\r', '\t', '\x08', '\x0c']
  · left
    simp only [List.mem_cons, List.not_mem_nil, or_false] at hshort
    rcases hshort with rfl | rfl | rfl | rfl | rfl | rfl | rfl <;> exact ⟨_, rfl, rfl⟩
  · right
    simp only [List.mem_cons, List.not_mem_nil, or_false, not_or] at hshort
    obtain ⟨hquote, hslash, hn, hr, ht, hb, hf⟩ := hshort
    simp only [writeChar, beq_iff_eq, hquote, hslash, hn, hr, ht, hb, hf, if_false]
    split
    · exact .inl rfl
    · next hlow =>
      split
      · exact .inl rfl
      · exact .inr ⟨hquote, hslash, by omega, rfl⟩

theorem readUnits_escape (start : List Char) (seen : List Nat) {s : List Char} {n k : Nat}
    (h : unicodeEscape s = .ok (n, k)) :
    readUnits start seen 0 ('\\' :: 'u' :: s) = readUnits start (n :: seen) k ('u' :: s) := by
  have hunit : stringUnit start '\\' ('u' :: s) = .ok (n, k) := h
  rw [readUnits]
  simp only [hunit]
  rfl

/-- An escape is read as its unit, unless that is the first half of a pair. -/
theorem readUnits_unitEscape (start : List Char) (seen : List Nat) {n : Nat} {more : List Char}
    (hn : n < 0x10000) (hhigh : isHighHalf n = false) (hmore : more ≠ []) :
    readUnits start seen 0 (unitEscape n ++ more) = readUnits start (n :: seen) 0 more := by
  have hread : unicodeEscape ((unitEscape n).drop 2 ++ more) = .ok (n, 5) := by
    have hunit := hexUnit?_unitEscape hn hmore
    simp only [unitEscape, List.drop_succ_cons, List.drop_zero, List.cons_append, List.nil_append,
      unicodeEscape, hunit, hhigh]
  exact readUnits_escape start seen hread

/-- The escapes of two halves are taken together. -/
theorem unicodeEscape_pair {high low : Nat} {more : List Char} (hhigh : isHighHalf high = true)
    (hlow : isLowHalf low = true) (hmore : more ≠ []) :
    unicodeEscape ((unitEscape high).drop 2 ++ (unitEscape low ++ more)) =
      .ok (joinHalves high low, 11) := by
  have hbounds : high < 0x10000 ∧ low < 0x10000 := by
    simp only [isHighHalf, isLowHalf, Bool.and_eq_true, decide_eq_true_eq] at hhigh hlow
    omega
  have hfirst := hexUnit?_unitEscape hbounds.1
    (show unitEscape low ++ more ≠ [] by simp [unitEscape])
  have hsecond := hexUnit?_unitEscape hbounds.2 hmore
  have hlength : ∀ a b c d : Char, ¬ (a :: b :: c :: d :: more).length < 5 := by
    have := List.length_pos_iff.2 hmore
    simp only [List.length_cons]
    omega
  simp only [unitEscape, List.drop_succ_cons, List.drop_zero, List.cons_append, List.nil_append]
    at hfirst ⊢
  simp only [unicodeEscape, hfirst, hhigh, List.drop_succ_cons, List.drop_zero, hlength, if_false,
    hsecond, hlow, if_true]

theorem readUnits_pair (start : List Char) (seen : List Nat) {high low : Nat} {more : List Char}
    (hhigh : isHighHalf high = true) (hlow : isLowHalf low = true) (hmore : more ≠ []) :
    readUnits start seen 0 (unitEscape high ++ unitEscape low ++ more) =
      readUnits start (joinHalves high low :: seen) 0 more := by
  rw [List.append_assoc]
  exact readUnits_escape start seen (unicodeEscape_pair hhigh hlow hmore)

/-- The escape of a character is read as its code, whether it takes one unit or two. -/
theorem readUnits_codeEscape (start : List Char) (seen : List Nat) (c : Char) {more : List Char}
    (hmore : more ≠ []) :
    readUnits start seen 0 (codeEscape c.toNat ++ more) =
      readUnits start (c.toNat :: seen) 0 more := by
  have hproper := toNat_proper c
  by_cases hunit : c.toNat < 0x10000
  · have hhigh : isHighHalf c.toNat = false := by
      simp only [isHighHalf, Bool.and_eq_false_iff, decide_eq_false_iff_not]
      omega
    rw [codeEscape, if_pos hunit, readUnits_unitEscape start seen hunit hhigh hmore]
  · have hhigh : isHighHalf (0xD800 + (c.toNat - 0x10000) / 0x400) = true := by
      simp only [isHighHalf, Bool.and_eq_true, decide_eq_true_eq]
      omega
    have hlow : isLowHalf (0xDC00 + (c.toNat - 0x10000) % 0x400) = true := by
      simp only [isLowHalf, Bool.and_eq_true, decide_eq_true_eq]
      omega
    have hjoin : joinHalves (0xD800 + (c.toNat - 0x10000) / 0x400)
        (0xDC00 + (c.toNat - 0x10000) % 0x400) = c.toNat := by
      unfold joinHalves
      omega
    rw [codeEscape, if_neg hunit, readUnits_pair start seen hhigh hlow hmore, hjoin]

/-- The step lemma: what was written for one character is read as its code point. -/
theorem readUnits_writeChar (start : List Char) (seen : List Nat) (c : Char) {more : List Char}
    (hmore : more ≠ []) :
    readUnits start seen 0 (writeChar charset c ++ more) =
      readUnits start (c.toNat :: seen) 0 more := by
  obtain ⟨e, he, hwritten⟩ | hwritten | ⟨hquote, hslash, hlow, hwritten⟩ :=
    writeChar_cases charset c
  · have hu : e ≠ 'u' := by
      rintro rfl
      cases he
    rw [hwritten]
    simp only [List.cons_append, List.nil_append, readUnits, stringUnit]
    simp [he]
  · rw [hwritten, readUnits_codeEscape start seen c hmore]
  · have hcontrol : ¬ c.toNat < 0x20 := by omega
    rw [hwritten]
    simp only [List.cons_append, List.nil_append, readUnits, stringUnit, beq_iff_eq, hquote, hslash,
      hcontrol, if_false]

theorem readUnits_flatMap_writeChar (start : List Char) (s : List Char) (rest : List Char)
    (seen : List Nat) :
    readUnits start seen 0 (s.flatMap (writeChar charset) ++ '"' :: rest) =
      .ok (.ofCodes (seen.reverse ++ s.map Char.toNat), rest) := by
  induction s generalizing seen with
  | nil => simp [readUnits]
  | cons c s ih =>
    rw [List.flatMap_cons, List.append_assoc, readUnits_writeChar start seen c (by simp), ih]
    simp

theorem ofCodes_toNat (s : List Char) :
    JsonString.ofCodes (s.map Char.toNat) = .text (String.ofList s) := by
  have hproper : ∀ c : Char, JsonString.isSurrogate c.toNat = false := by
    intro c
    have hvalid := toNat_proper c
    simp only [JsonString.isSurrogate, Bool.and_eq_false_iff, decide_eq_false_iff_not]
    omega
  have hany : (s.map Char.toNat).any JsonString.isSurrogate = false := by
    simp [List.any_map, Function.comp_def, hproper]
  rw [JsonString.ofCodes, hany, List.map_map]
  simp [Function.comp_def, Char.ofNat_toNat]

theorem writeString_append (s : String) (rest : List Char) :
    writeString charset (.text s) ++ rest =
      '"' :: (s.toList.flatMap (writeChar charset) ++ '"' :: rest) := by
  simp [writeString]

theorem readString_flatMap_writeChar (s : String) (rest : List Char) :
    readString (s.toList.flatMap (writeChar charset) ++ '"' :: rest) = .ok (.text s, rest) := by
  rw [readString, readUnits_flatMap_writeChar, List.reverse_nil, List.nil_append, ofCodes_toNat,
    String.ofList_toList]

theorem isDigit_eq (c : Char) : isDigit c = c.isDigit := by
  simp only [isDigit, Char.isDigit, Char.le_def, ge_iff_le]

theorem digitsValue_eq (digits : List Char) :
    digitsValue digits = Nat.ofDigitChars 10 digits 0 := by
  simp only [digitsValue, Nat.ofDigitChars_eq_foldl, Nat.mul_comm 10]
  rfl

theorem digitsValue_toDigits (n : Nat) : digitsValue (Nat.toDigits 10 n) = n := by
  rw [digitsValue_eq, Nat.ofDigitChars_ten_toDigits]

theorem isDigit_of_mem_toDigits {n : Nat} {c : Char} (h : c ∈ Nat.toDigits 10 n) :
    isDigit c = true := by
  rw [isDigit_eq]
  exact Nat.isDigit_of_mem_toDigits (by omega) (by omega) h

/-- Only the number zero starts with the digit zero. -/
theorem toDigits_eq_cons {n : Nat} (h : 0 < n) :
    ∃ c tail, Nat.toDigits 10 n = c :: tail ∧ c ≠ '0' := by
  induction n using Nat.strongRecOn with
  | ind n ih =>
    by_cases hn : n < 10
    · have hdigit : ∀ n, n < 10 → 0 < n → n.digitChar ≠ '0' := by decide
      exact ⟨n.digitChar, [], Nat.toDigits_of_lt_base hn, hdigit n hn h⟩
    · obtain ⟨c, tail, hhead, hc⟩ := ih (n / 10) (by omega) (by omega)
      refine ⟨c, tail ++ [(n % 10).digitChar], ?_, hc⟩
      rw [Nat.toDigits_of_base_le (by omega) (by omega), hhead, List.cons_append]

/-- The text ends here, or goes on as it does behind a value. -/
def Closes (rest : List Char) : Prop :=
  ∀ c ∈ rest.head?, c = ',' ∨ c = '\n'

theorem span_digits {digits rest : List Char} (hdigits : ∀ c ∈ digits, isDigit c = true)
    (hrest : Closes rest) :
    (digits ++ rest).takeWhile isDigit = digits ∧ (digits ++ rest).dropWhile isDigit = rest := by
  have hstop : rest.takeWhile isDigit = [] ∧ rest.dropWhile isDigit = rest := by
    cases rest with
    | nil => exact ⟨rfl, rfl⟩
    | cons c rest => rcases hrest c rfl with rfl | rfl <;> exact ⟨rfl, rfl⟩
  rw [List.takeWhile_append_of_pos hdigits, List.dropWhile_append_of_pos hdigits, hstop.1, hstop.2,
    List.append_nil]
  exact ⟨rfl, rfl⟩

theorem wholeDigits?_toDigits (n : Nat) {rest : List Char} (hrest : Closes rest) :
    wholeDigits? (Nat.toDigits 10 n ++ rest) = some (Nat.toDigits 10 n, rest) := by
  obtain ⟨htake, hdrop⟩ := span_digits (fun c => isDigit_of_mem_toDigits (n := n)) hrest
  by_cases hn : n = 0
  · subst hn
    rfl
  · obtain ⟨c, tail, hdigits, hc⟩ := toDigits_eq_cons (Nat.pos_of_ne_zero hn)
    have hdigit : isDigit c = true :=
      isDigit_of_mem_toDigits (n := n) (by rw [hdigits]; exact List.mem_cons_self)
    rw [hdigits] at htake hdrop ⊢
    simp only [wholeDigits?.eq_def, List.cons_append] at htake hdrop ⊢
    rw [if_pos hdigit, htake, hdrop]

theorem fractionDigits_of_closes {rest : List Char} (h : Closes rest) :
    fractionDigits rest = ([], rest) := by
  cases rest with
  | nil => rfl
  | cons c rest => rcases h c rfl with rfl | rfl <;> rfl

theorem exponentPart?_of_closes {rest : List Char} (h : Closes rest) :
    exponentPart? rest = none := by
  cases rest with
  | nil => rfl
  | cons c rest => rcases h c rfl with rfl | rfl <;> rfl

theorem readUnsigned?_of_wholeDigits? {s whole rest : List Char} (negative : Bool)
    (hwhole : wholeDigits? s = some (whole, rest)) (hrest : Closes rest) :
    readUnsigned? negative s =
      some (.int (if negative then -(digitsValue whole : Int) else digitsValue whole), rest) := by
  simp only [readUnsigned?, hwhole, Option.bind_eq_bind, Option.bind_some,
    fractionDigits_of_closes hrest, exponentPart?_of_closes hrest, List.isEmpty_nil, if_true,
      Option.pure_def]

theorem readNumber?_of_isDigit {c : Char} (tail : List Char) (hc : isDigit c = true) :
    readNumber? (c :: tail) = readUnsigned? false (c :: tail) := by
  have hsign : c ≠ '-' := by
    rintro rfl
    exact absurd hc (by decide)
  unfold readNumber?
  split
  · next h => exact absurd (List.cons.inj h).1 hsign
  · rfl

/-- A written number as its sign and its digits.  Proofs go on from this form, because evaluating
the digits would run through all numbers up to `n`. -/
theorem writeInt_eq (n : Int) : ∃ c tail, isDigit c = true ∧ Nat.toDigits 10 n.natAbs = c :: tail ∧
    writeInt n = if n < 0 then '-' :: c :: tail else c :: tail := by
  cases hdigits : Nat.toDigits 10 n.natAbs with
  | nil => exact absurd hdigits Nat.toDigits_ne_nil
  | cons c tail =>
    have hc : isDigit c = true :=
      isDigit_of_mem_toDigits (n := n.natAbs) (by rw [hdigits]; exact List.mem_cons_self)
    exact ⟨c, tail, hc, rfl, by rw [writeInt, hdigits]⟩

theorem readNumber?_writeInt (n : Int) {rest : List Char} (hrest : Closes rest) :
    readNumber? (writeInt n ++ rest) = some (.int n, rest) := by
  obtain ⟨c, tail, hc, hdigits, hwritten⟩ := writeInt_eq n
  have hwhole := wholeDigits?_toDigits n.natAbs hrest
  have hvalue := digitsValue_toDigits n.natAbs
  rw [hdigits] at hwhole hvalue
  rw [hwritten]
  split
  · have hn : -(n.natAbs : Int) = n := by omega
    rw [List.cons_append, readNumber?, readUnsigned?_of_wholeDigits? true hwhole hrest, if_pos rfl,
      hvalue, hn]
  · have hn : (n.natAbs : Int) = n := by omega
    rw [List.cons_append, readNumber?_of_isDigit _ hc, ← List.cons_append,
      readUnsigned?_of_wholeDigits? false hwhole hrest, if_neg Bool.false_ne_true, hvalue, hn]

/-- The digits by which the length of a number is judged are those that were written. -/
theorem takeWhile_writeInt (n : Int) {rest : List Char} (hrest : Closes rest) :
    ((writeInt n ++ rest).dropWhile (· == '-')).takeWhile isDigit = Nat.toDigits 10 n.natAbs := by
  obtain ⟨c, tail, hc, hdigits, hwritten⟩ := writeInt_eq n
  have hspan := (span_digits (fun c => isDigit_of_mem_toDigits (n := n.natAbs)) hrest).1
  rw [hdigits] at hspan ⊢
  have hsign : (c == '-') = false := by
    rw [beq_eq_false_iff_ne]
    rintro rfl
    exact absurd hc (by decide)
  have hdrop : ((c :: tail) ++ rest).dropWhile (· == '-') = (c :: tail) ++ rest := by
    rw [List.cons_append, List.dropWhile_cons_of_neg (by rw [hsign]; exact Bool.false_ne_true)]
  rw [hwritten]
  split
  · rw [List.cons_append, List.dropWhile_cons_of_pos rfl, hdrop, hspan]
  · rw [hdrop, hspan]

/-- The digits of a whole number, not counting its sign. -/
def digitCount (n : Int) : Nat :=
  (Nat.toDigits 10 n.natAbs).length

/-- Ten to the given power, the least number with one digit more. -/
def powTen (n : Nat) : Int :=
  Int.ofNat (Nat.pow 10 n)

theorem digitCount_powTen (n : Nat) : digitCount (powTen n) = n + 1 := by
  change (Nat.toDigits 10 (10 ^ n)).length = n + 1
  have hupper : (Nat.toDigits 10 (10 ^ n)).length ≤ n + 1 := by
    rw [Nat.length_toDigits_le_iff (by decide) (Nat.succ_pos n)]
    exact Nat.pow_lt_pow_succ (by decide)
  have hlower : ¬ (Nat.toDigits 10 (10 ^ n)).length ≤ n := by
    cases n with
    | zero => decide
    | succ n =>
      rw [Nat.length_toDigits_le_iff (by decide) (Nat.succ_pos n)]
      exact Nat.lt_irrefl _
  omega

theorem checkNumber_writeInt (n : Int) {rest : List Char} (hrest : Closes rest) :
    checkNumber (writeInt n ++ rest) (.int n, rest) =
      if mostDigits < digitCount n then .error (.longNumber (digitCount n), writeInt n ++ rest)
      else .ok (.int n, rest) := by
  simp only [checkNumber, takeWhile_writeInt n hrest]
  rfl

theorem readConstant?_writeInt (n : Int) (rest : List Char) :
    readConstant? (writeInt n ++ rest) = none := by
  obtain ⟨c, tail, hc, -, hwritten⟩ := writeInt_eq n
  have hne : ∀ d : Char, isDigit d = false → d ≠ c := by
    rintro d hd rfl
    rw [hd] at hc
    cases hc
  rw [hwritten]
  split <;>
    simp [readConstant?, constants, List.isPrefixOf, hne 'n' rfl, hne 't' rfl, hne 'f' rfl,
      hne 'N' rfl, hne 'I' rfl, hne '-' rfl]

end RouteCensus.Json
