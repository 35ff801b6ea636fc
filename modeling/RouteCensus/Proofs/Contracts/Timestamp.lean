import RouteCensus.Proofs.Contracts.Calendar
import RouteCensus.Proofs.Json.Scalars

/-! # Timestamps in stored form

The timestamps that a check lets pass are those of the calendar from year 1 to
year 9999, and each of them is read again from the form in which it is stored.
-/

namespace RouteCensus.Timestamp

/-- A day of the calendar, a time of that day, and an offset of less than a day. -/
structure Valid (t : Timestamp) : Prop where
  year_pos : 1 ≤ t.year
  year_le : t.year ≤ 9999
  month_pos : 1 ≤ t.month
  month_le : t.month ≤ 12
  day_pos : 1 ≤ t.day
  day_le : t.day ≤ monthDays t.year t.month
  hour_le : t.hour ≤ 23
  minute_le : t.minute ≤ 59
  second_le : t.second ≤ 59
  microsecond_le : t.microsecond ≤ 999999
  offset_le : ∀ minutes ∈ t.offset, minutes.natAbs ≤ 1439

theorem monthDays_le (year month : Nat) : monthDays year month ≤ 31 := by
  unfold monthDays
  split
  · split <;> omega
  · split <;> omega

theorem length_padded {width n : Nat} (h : (Nat.toDigits 10 n).length ≤ width) :
    (padded width n).length = width := by
  simp only [padded, List.length_append, List.length_replicate]
  omega

theorem isDigit_of_mem_padded {width n : Nat} {c : Char} (h : c ∈ padded width n) :
    Json.isDigit c = true := by
  rcases List.mem_append.1 h with h | h
  · rw [(List.mem_replicate.1 h).2]
    rfl
  · exact Json.isDigit_of_mem_toDigits h

theorem digitsValue_padded (width n : Nat) : Json.digitsValue (padded width n) = n := by
  rw [padded, Json.digitsValue_eq, Nat.ofDigitChars_append, Nat.ofDigitChars_replicate_zero,
    Nat.mul_zero, Nat.ofDigitChars_ten_toDigits]

theorem takeDigits?_padded {width n : Nat} (h : (Nat.toDigits 10 n).length ≤ width)
    (rest : List Char) :
    takeDigits? width (padded width n ++ rest) = some (n, rest) := by
  have hlength := length_padded h
  have htake : (padded width n ++ rest).take width = padded width n := by
    rw [List.take_append_of_le_length (by omega), List.take_of_length_le (by omega)]
  have hdrop : (padded width n ++ rest).drop width = rest := by
    rw [List.drop_append_of_le_length (by omega), List.drop_of_length_le (by omega),
      List.nil_append]
  have hall : (padded width n).all Json.isDigit = true :=
    List.all_eq_true.2 fun c => isDigit_of_mem_padded
  simp [takeDigits?, htake, hdrop, hlength, hall, digitsValue_padded]

/-- Two digits are enough for a number below a hundred. -/
theorem length_toDigits_le_two {n : Nat} (h : n ≤ 99) : (Nat.toDigits 10 n).length ≤ 2 :=
  (Nat.length_toDigits_le_iff (by omega) (by omega)).2 (by omega)

theorem takeDate?_padded {t : Timestamp} (h : t.Valid) (rest : List Char) :
    takeDate? (padded 4 t.year ++ '-' :: (padded 2 t.month ++ '-' :: (padded 2 t.day ++ rest))) =
      some ({ year := t.year, month := t.month, day := t.day }, rest) := by
  have hday := Nat.le_trans h.day_le (monthDays_le _ _)
  have hyear : (Nat.toDigits 10 t.year).length ≤ 4 :=
    (Nat.length_toDigits_le_iff (by omega) (by omega)).2 (by have := h.year_le; omega)
  have hmonth := length_toDigits_le_two (n := t.month) (by have := h.month_le; omega)
  have hdigits := length_toDigits_le_two (n := t.day) (by omega)
  simp [takeDate?, takeDigits?_padded hyear, takeDigits?_padded hmonth, takeDigits?_padded hdigits,
    takeChar?, h.month_pos, h.month_le, h.day_pos, h.day_le]

theorem endOffset?_offsetChars {minutes : Int} (h : minutes.natAbs ≤ 1439) :
    endOffset? (offsetChars minutes) = some (some minutes) := by
  obtain ⟨hours, rest, hhours, hrest, hhour, hminute, hsum⟩ : ∃ hours rest,
      minutes.natAbs / 60 = hours ∧
      minutes.natAbs % 60 = rest ∧ hours ≤ 23 ∧ rest ≤ 59 ∧ minutes.natAbs = hours * 60 + rest :=
    ⟨_, _, rfl, rfl, by omega, by omega, by omega⟩
  have hfront := length_toDigits_le_two (n := hours) (by omega)
  have hend := takeDigits?_padded (length_toDigits_le_two (n := rest) (by omega)) []
  rw [List.append_nil] at hend
  rw [offsetChars, hhours, hrest]
  split
  · have hvalue : -((hours : Int) * 60 + rest) = minutes := by omega
    rw [← hvalue]
    simp [endOffset?, negativeSign?, takeDigits?_padded hfront, takeChar?, hend, hhour, hminute]
  · have hvalue : (hours : Int) * 60 + rest = minutes := by omega
    rw [← hvalue]
    simp [endOffset?, negativeSign?, takeDigits?_padded hfront, takeChar?, hend, hhour, hminute]

/-- An offset starts with no digit, no point and no comma. -/
theorem wireOffset_head (offset : Option Int) :
    ∀ c ∈ (wireOffset offset).head?, c = 'Z' ∨ c = '+' ∨ c = '-' := by
  intro c hc
  cases offset with
  | none => cases hc
  | some minutes =>
    rw [wireOffset] at hc
    split at hc
    · exact .inl (Option.mem_some_iff.1 hc).symm
    · rw [offsetChars, List.cons_append] at hc
      split at hc
      · exact .inr (.inr (Option.mem_some_iff.1 hc).symm)
      · exact .inr (.inl (Option.mem_some_iff.1 hc).symm)

theorem endOffset?_wireOffset {offset : Option Int}
    (h : ∀ minutes ∈ offset, minutes.natAbs ≤ 1439) :
    endOffset? (wireOffset offset) = some offset := by
  cases offset with
  | none => rfl
  | some minutes =>
    rw [wireOffset]
    split
    · next hzero =>
      rw [hzero]
      rfl
    · exact endOffset?_offsetChars (h minutes rfl)

theorem takeFraction?_fractionChars {micro : Nat} (h : micro ≤ 999999) (offset : Option Int) :
    takeFraction? (fractionChars micro ++ wireOffset offset) = some (micro, wireOffset offset) := by
  have hhead := wireOffset_head offset
  generalize wireOffset offset = rest at hhead
  have hstop : takeFraction? rest = some (0, rest) ∧ rest.takeWhile Json.isDigit = [] ∧
      rest.dropWhile Json.isDigit = rest := by
    cases rest with
    | nil => exact ⟨rfl, rfl, rfl⟩
    | cons c rest => rcases hhead c rfl with rfl | rfl | rfl <;> exact ⟨rfl, rfl, rfl⟩
  rw [fractionChars]
  split
  · next hzero =>
    rw [hzero]
    exact hstop.1
  · have hlength : (padded 6 micro).length = 6 :=
      length_padded ((Nat.length_toDigits_le_iff (by omega) (by omega)).2 (by omega))
    have hdigits : ∀ c ∈ padded 6 micro, Json.isDigit c = true := fun c => isDigit_of_mem_padded
    have htake : (padded 6 micro ++ rest).takeWhile Json.isDigit = padded 6 micro := by
      rw [List.takeWhile_append_of_pos hdigits, hstop.2.1, List.append_nil]
    have hdrop : (padded 6 micro ++ rest).dropWhile Json.isDigit = rest := by
      rw [List.dropWhile_append_of_pos hdigits, hstop.2.2]
    have hne : (padded 6 micro).isEmpty = false := by
      rw [List.isEmpty_eq_false_iff, ← List.length_pos_iff]
      omega
    have hkept : (padded 6 micro).take 6 = padded 6 micro := List.take_of_length_le (by omega)
    simp [takeFraction?, htake, hdrop, hne, hkept, hlength, digitsValue_padded]

theorem takeSeconds?_padded {t : Timestamp} (h : t.Valid) :
    takeSeconds? (':' :: (padded 2 t.second ++
      (fractionChars t.microsecond ++ wireOffset t.offset))) =
      some (t.second, t.microsecond, wireOffset t.offset) := by
  have hsecond := length_toDigits_le_two (n := t.second) (by have := h.second_le; omega)
  simp [takeSeconds?, takeDigits?_padded hsecond, takeFraction?_fractionChars h.microsecond_le]

theorem ofDateTimeText?_wireText {t : Timestamp} (h : t.Valid) :
    ofDateTimeText? (t.dateTimeChars ++ wireOffset t.offset) = some t := by
  have hhour := length_toDigits_le_two (n := t.hour) (by have := h.hour_le; omega)
  have hminute := length_toDigits_le_two (n := t.minute) (by have := h.minute_le; omega)
  simp only [dateTimeChars, List.append_assoc, List.cons_append]
  simp [ofDateTimeText?, takeDate?_padded h, takeDigits?_padded hhour, takeDigits?_padded hminute,
    takeChar?, takeSeconds?_padded h, endOffset?_wireOffset h.offset_le, h.hour_le, h.minute_le,
    h.second_le]

theorem check_wireText {t : Timestamp} (h : t.Valid) : check (.string t.wireText) = .ok t := by
  have hyear : t.year ≠ 0 := by
    have := h.year_pos
    omega
  simp [check, Json.string, wireText, ofText?, ofDateTimeText?_wireText h, hyear]

/-! What a check lets pass -/

theorem digitsValue_lt {digits : List Char} (h : ∀ c ∈ digits, Json.isDigit c = true) :
    Json.digitsValue digits < Nat.pow 10 digits.length := by
  rw [Json.digitsValue_eq]
  induction digits with
  | nil => decide
  | cons c digits ih =>
    have hc : c.toNat - '0'.toNat ≤ 9 := by
      have hdigit := h c List.mem_cons_self
      simp only [Json.isDigit, Bool.and_eq_true, decide_eq_true_eq, Char.le_def,
        UInt32.le_iff_toNat_le] at hdigit
      have hnine : c.toNat ≤ 57 := hdigit.2
      have hzero : '0'.toNat = 48 := rfl
      omega
    have htail := ih fun d hd => h d (List.mem_cons_of_mem c hd)
    rw [Nat.ofDigitChars_cons, Nat.ofDigitChars_eq_ofDigitChars_zero, Nat.mul_zero, Nat.zero_add]
    have hhead := Nat.mul_le_mul_left (Nat.pow 10 digits.length) hc
    rw [List.length_cons,
      show Nat.pow 10 (digits.length + 1) = Nat.pow 10 digits.length * 10 from rfl]
    change Nat.pow 10 digits.length * (c.toNat - '0'.toNat) + _ < _
    omega

theorem lt_of_takeDigits? {width n : Nat} {s rest : List Char}
    (h : takeDigits? width s = some (n, rest)) :
    n < Nat.pow 10 width := by
  simp only [takeDigits?] at h
  split at h
  · next hdigits =>
    rw [Bool.and_eq_true, beq_iff_eq, List.all_eq_true] at hdigits
    obtain ⟨rfl, -⟩ := Prod.mk.inj (Option.some.inj h)
    have hlt := digitsValue_lt hdigits.2
    rwa [hdigits.1] at hlt
  · cases h

/-- A date that was read is a day of the calendar, but for the year zero. -/
theorem takeDate?_spec {s rest : List Char} {date : Timestamp}
    (h : takeDate? s = some (date, rest)) :
    ∃ year month day,
      date = { year := year, month := month, day := day } ∧ year ≤ 9999 ∧ 1 ≤ month ∧ month ≤ 12 ∧
      1 ≤ day ∧ day ≤ monthDays year month := by
  simp only [takeDate?, Option.bind_eq_bind, Option.bind_eq_some_iff] at h
  obtain ⟨⟨year, s1⟩, hyear, s2, -, ⟨month, s3⟩, -, s4, -, ⟨day, s5⟩, -, h⟩ := h
  split at h
  · next hdate =>
    simp only [Bool.and_eq_true, decide_eq_true_eq] at hdate
    obtain ⟨rfl, -⟩ := Prod.mk.inj (Option.some.inj h)
    have hlt : year < 10000 := lt_of_takeDigits? hyear
    exact ⟨year, month, day, rfl, by omega, hdate.1.1.1, hdate.1.1.2, hdate.1.2, hdate.2⟩
  · cases h

theorem mul_pow_le {value k : Nat} (hk : k ≤ 6) (h : value < Nat.pow 10 k) :
    value * Nat.pow 10 (6 - k) ≤ 999999 := by
  have hpow : Nat.pow 10 k * Nat.pow 10 (6 - k) = 1000000 := by
    change 10 ^ k * 10 ^ (6 - k) = _
    rw [← Nat.pow_add, Nat.add_sub_cancel' hk]
  have hpos : 0 < Nat.pow 10 (6 - k) := Nat.pow_pos (by omega)
  have hmul := Nat.mul_le_mul_right (Nat.pow 10 (6 - k)) (Nat.succ_le_of_lt h)
  rw [Nat.succ_mul, hpow] at hmul
  omega

theorem takeFraction?_le {s rest : List Char} {micro : Nat}
    (h : takeFraction? s = some (micro, rest)) :
    micro ≤ 999999 := by
  cases s with
  | nil =>
    obtain ⟨rfl, -⟩ := Prod.mk.inj (Option.some.inj h)
    omega
  | cons c s =>
    simp only [takeFraction?] at h
    split at h
    · split at h
      · cases h
      · obtain ⟨rfl, -⟩ := Prod.mk.inj (Option.some.inj h)
        have hdigits : ∀ c ∈ (s.takeWhile Json.isDigit).take 6, Json.isDigit c = true := fun c hc =>
          List.all_eq_true.1 List.all_takeWhile c (List.mem_of_mem_take hc)
        exact mul_pow_le (List.length_take_le 6 _) (digitsValue_lt hdigits)
    · obtain ⟨rfl, -⟩ := Prod.mk.inj (Option.some.inj h)
      omega

theorem takeSeconds?_le {s rest : List Char} {second micro : Nat}
    (h : takeSeconds? s = some (second, micro, rest)) :
    micro ≤ 999999 := by
  simp only [takeSeconds?, Option.bind_eq_bind] at h
  split at h
  · simp only [Option.bind_eq_some_iff] at h
    obtain ⟨⟨n, s1⟩, -, ⟨m, s2⟩, hmicro, h⟩ := h
    obtain ⟨-, hrest⟩ := Prod.mk.inj (Option.some.inj h)
    obtain ⟨rfl, -⟩ := Prod.mk.inj hrest
    exact takeFraction?_le hmicro
  · obtain ⟨-, hrest⟩ := Prod.mk.inj (Option.some.inj h)
    obtain ⟨rfl, -⟩ := Prod.mk.inj hrest
    omega

theorem endOffset?_le {s : List Char} {offset : Option Int} (h : endOffset? s = some offset) :
    ∀ minutes ∈ offset, minutes.natAbs ≤ 1439 := by
  intro minutes hminutes
  unfold endOffset? at h
  split at h
  · rw [← Option.some.inj h] at hminutes
    cases hminutes
  · rw [← Option.some.inj h, Option.mem_some_iff] at hminutes
    rw [← hminutes]
    decide
  · rw [← Option.some.inj h, Option.mem_some_iff] at hminutes
    rw [← hminutes]
    decide
  · simp only [Option.bind_eq_bind, Option.bind_eq_some_iff] at h
    obtain ⟨negative, -, ⟨hours, s1⟩, -, ⟨rest, s2⟩, -, h⟩ := h
    split at h
    · next hbounds =>
      simp only [Bool.and_eq_true, decide_eq_true_eq] at hbounds
      rw [← Option.some.inj h, Option.mem_some_iff] at hminutes
      rw [← hminutes]
      split <;> omega
    · cases h

theorem valid_of_ofDateTimeText? {s : List Char} {t : Timestamp} (h : ofDateTimeText? s = some t)
    (hyear : t.year ≠ 0) :
    t.Valid := by
  simp only [ofDateTimeText?, Option.bind_eq_bind, Option.bind_eq_some_iff] at h
  obtain ⟨⟨date, s1⟩, hdate, h⟩ := h
  obtain ⟨year, month, day, rfl, hyearLe, hmonthPos, hmonthLe, hdayPos, hdayLe⟩ :=
    takeDate?_spec hdate
  split at h
  · split at h
    · simp only [Option.bind_eq_some_iff] at h
      obtain ⟨⟨hour, s2⟩, -, s3, -, ⟨minute, s4⟩, -, ⟨second, micro, s5⟩, hseconds, offset, hoffset,
          h⟩ := h
      split at h
      · next htime =>
        simp only [Bool.and_eq_true, decide_eq_true_eq] at htime
        obtain rfl := Option.some.inj h
        exact ⟨Nat.pos_of_ne_zero hyear, hyearLe, hmonthPos, hmonthLe, hdayPos, hdayLe, htime.1.1,
          htime.1.2, htime.2, takeSeconds?_le hseconds, endOffset?_le hoffset⟩
      · cases h
    · cases h
  · cases h

theorem valid_of_ofDateText? {s : List Char} {t : Timestamp} (h : ofDateText? s = some t)
    (hyear : t.year ≠ 0) :
    t.Valid := by
  unfold ofDateText? at h
  split at h
  · next date hdate =>
    obtain ⟨year, month, day, rfl, hyearLe, hmonthPos, hmonthLe, hdayPos, hdayLe⟩ :=
      takeDate?_spec hdate
    obtain rfl := Option.some.inj h
    exact ⟨Nat.pos_of_ne_zero hyear, hyearLe, hmonthPos, hmonthLe, hdayPos, hdayLe, Nat.zero_le _,
      Nat.zero_le _, Nat.zero_le _, Nat.zero_le _, by simp⟩
  · cases h

theorem valid_of_ofMicroseconds? {micros : Int} {t : Timestamp}
    (h : ofMicroseconds? micros = some t) : t.Valid := by
  simp only [ofMicroseconds?] at h
  split at h
  · next hrange =>
    obtain ⟨hlow, hhigh⟩ : -62135596800 ≤ micros.fdiv 1000000 ∧
        micros.fdiv 1000000 ≤ 253402300799 := hrange
    have hmicro : 0 ≤ micros.fmod 1000000 ∧ micros.fmod 1000000 < 1000000 :=
      ⟨Int.fmod_nonneg_of_pos _ (by omega), Int.fmod_lt_of_pos _ (by omega)⟩
    have hepoch : (epochDays : Int) * 86400 = 62162035200 := rfl
    rw [hepoch] at h
    generalize micros.fdiv 1000000 = seconds at *
    generalize micros.fmod 1000000 = micro at *
    obtain ⟨hyearPos, hyearLe, hmonthPos, hmonthLe, hdayPos, hdayLe⟩ :=
      @ofDays_spec ((seconds + 62162035200).toNat / 86400) (by omega) (by omega)
    have hhour : (seconds + 62162035200).toNat % 86400 / 3600 ≤ 23 := by omega
    have hminute : (seconds + 62162035200).toNat % 86400 / 60 % 60 ≤ 59 := by omega
    have hsecond : (seconds + 62162035200).toNat % 86400 % 60 ≤ 59 := by omega
    have hsmall : micro.toNat ≤ 999999 := by omega
    obtain rfl := Option.some.inj h
    exact ⟨hyearPos, hyearLe, hmonthPos, hmonthLe, hdayPos, hdayLe, hhour, hminute, hsecond, hsmall,
      by simp⟩
  · cases h

theorem valid_of_ofDecimal? {negative : Bool} {whole : Nat} {decimals : List Char} {t : Timestamp}
    (h : ofDecimal? negative whole decimals = some t) : t.Valid := by
  simp only [ofDecimal?, Option.bind_eq_bind, Option.bind_eq_some_iff] at h
  obtain ⟨⟨n, d⟩, -, h⟩ := h
  dsimp only at h
  generalize (if negative = true then -n else n) = n at h
  split at h
  · simp only [Option.bind_eq_some_iff] at h
    obtain ⟨⟨m, e⟩, -, h⟩ := h
    exact valid_of_ofMicroseconds? h
  · exact valid_of_ofMicroseconds? h

theorem valid_of_ofUnsignedText? {negative : Bool} {s : List Char} {t : Timestamp}
    (h : ofUnsignedText? negative s = some t) : t.Valid := by
  simp only [ofUnsignedText?] at h
  split at h
  · cases h
  · split at h
    · exact valid_of_ofMicroseconds? h
    · split at h
      · exact valid_of_ofDecimal? h
      · cases h
    · cases h

theorem valid_of_ofNumberText? {s : List Char} {t : Timestamp} (h : ofNumberText? s = some t) :
    t.Valid := by
  unfold ofNumberText? at h
  split at h <;> exact valid_of_ofUnsignedText? h

theorem valid_of_ofText? {s : List Char} {t : Timestamp} (h : ofText? s = some t)
    (hyear : t.year ≠ 0) : t.Valid := by
  rw [ofText?, Option.orElse_eq_orElse, Option.orElse_eq_or, Option.orElse_eq_or,
    Option.or_eq_some_iff, Option.or_eq_some_iff] at h
  rcases h with h | ⟨-, h | ⟨-, h⟩⟩
  · exact valid_of_ofDateTimeText? h hyear
  · exact valid_of_ofNumberText? h
  · exact valid_of_ofDateText? h hyear

/-- Every timestamp that a check lets pass is valid. -/
theorem valid_of_check {v : Json} {t : Timestamp} (h : check v = .ok t) : t.Valid := by
  cases v with
  | str s =>
    cases s with
    | text s =>
      simp only [check] at h
      split at h
      · next found htext =>
        split at h
        · cases h
        · next hyear =>
          obtain rfl := Except.ok.inj h
          exact valid_of_ofText? htext hyear
      · cases h
    | broken codes => cases h
  | int n =>
    simp only [check] at h
    split at h
    · cases hint : ofInt? n with
      | none => rw [hint] at h; cases h
      | some found =>
        rw [hint] at h
        obtain rfl := Except.ok.inj h
        exact valid_of_ofMicroseconds? hint
    · cases h
  | real x =>
    simp only [check] at h
    cases hreal : ofDouble? x with
    | none => rw [hreal] at h; cases h
    | some found =>
      rw [hreal] at h
      obtain rfl := Except.ok.inj h
      simp only [ofDouble?, Option.bind_eq_bind, Option.bind_eq_some_iff] at hreal
      obtain ⟨⟨n, d⟩, -, hreal⟩ := hreal
      exact valid_of_ofMicroseconds? hreal
  | null => cases h
  | bool b => cases h
  | arr items => cases h
  | obj members => cases h

end RouteCensus.Timestamp
