import Suite.Calendar.Timestamp
import Suite.Proofs.Failing

/-!
# Reading timestamps that were written

The text of a timestamp is read part by part. Each reader takes the digits that one part was written
with, up to the first character that is no digit, and leaves what comes after them.

## Key results

- `number_digits`: a number is read from its digits
- `yearField_yearText`, `fraction_fractionText`: the two parts of no fixed length
- `parse_text`: a timestamp that can occur is read from its text
-/

namespace Suite.Timestamp

/-- The year is one there is, the date is in the calendar, and the time is one of a day. -/
structure IsValid (t : Timestamp) : Prop where
  year : minYear ≤ t.year ∧ t.year ≤ maxYear
  month : 1 ≤ t.month ∧ t.month ≤ 12
  day : 1 ≤ t.day ∧ t.day ≤ monthLength t.year t.month
  hour : t.hour ≤ 23
  minute : t.minute ≤ 59
  second : t.second ≤ 60
  nanosecond : t.nanosecond < 1000000000

/-- Nothing more of a number comes next. -/
def NoDigit (rest : List Char) : Prop := rest.takeWhile Char.isDigit = []

/-- A text that begins with something else does not begin with a digit. -/
private theorem noDigit_cons {c : Char} (h : c.isDigit = false) (rest : List Char) :
    NoDigit (c :: rest) := by
  rw [NoDigit, List.takeWhile_cons, h]
  rfl

variable {width n : Nat} {rest : List Char}

/-! ### Digits -/

/-- A number with a width has zeros in front of its digits, as many as are missing. -/
private theorem toList_digits (width n : Nat) :
    (digits width n).toList =
      List.replicate (width - (Nat.toDigits 10 n).length) '0' ++ Nat.toDigits 10 n :=
  String.toList_ofList

/-- All characters of a number with a width are digits. -/
private theorem isDigit_of_mem_digits {c : Char} (h : c ∈ (digits width n).toList) :
    c.isDigit = true := by
  rw [toList_digits, List.mem_append] at h
  rcases h with h | h
  · rw [List.eq_of_mem_replicate h]
    rfl
  · exact Nat.isDigit_of_mem_toDigits (by decide) (by decide) h

/-- A number has a digit, whatever its width. -/
private theorem digits_ne_nil (width n : Nat) : (digits width n).toList ≠ [] := by
  rw [toList_digits]
  exact List.append_ne_nil_of_right_ne_nil _ Nat.toDigits_ne_nil

/-- A number that fits is written with exactly so many digits. -/
private theorem length_digits (hwidth : 0 < width) (h : n < Nat.pow 10 width) :
    (digits width n).toList.length = width := by
  have hle := (Nat.length_toDigits_le_iff (b := 10) (by decide) hwidth).2 h
  rw [toList_digits, List.length_append, List.length_replicate]
  omega

/-- The digits stand for the number. -/
private theorem foldl_digits (width n : Nat) :
    (digits width n).toList.foldl (fun n c => n * 10 + (c.toNat - 48)) 0 = n := by
  have hstep : (fun n c => n * 10 + (c.toNat - 48)) =
      fun (n : Nat) (c : Char) => 10 * n + (c.toNat - '0'.toNat) := by
    funext n c
    rw [Nat.mul_comm]
    rfl
  rw [hstep, ← Nat.ofDigitChars_eq_foldl, toList_digits, Nat.ofDigitChars_append,
    Nat.ofDigitChars_replicate_zero, Nat.mul_zero, Nat.ofDigitChars_ten_toDigits]

/-! ### Numbers -/

/-- Nine digits are not too many for a number. -/
private theorem le_numberMax (h : n < 1000000000) : n ≤ numberMax := by
  have hmax : numberMax = 9223372036854775807 := rfl
  omega

/-- A number is read from its digits, however many of them may be read. -/
theorem number_digits {most : Option Nat} (hmax : n ≤ numberMax)
    (hmost : ∀ k, most = some k → (digits width n).toList.length ≤ k) (hrest : NoDigit rest) :
    number most ((digits width n).toList ++ rest) = .ok (n, rest) := by
  have hrun : ((digits width n).toList ++ rest).takeWhile Char.isDigit =
      (digits width n).toList := by
    rw [List.takeWhile_append_of_pos fun c hc => isDigit_of_mem_digits hc, hrest, List.append_nil]
  have hne := digits_ne_nil width n
  unfold number
  cases most with
  | some k => simp [hrun, List.take_of_length_le (hmost k rfl), hne, foldl_digits, hmax]
  | none => simp [hrun, hne, foldl_digits, hmax]

/-- Digits are no blanks. -/
private theorem isBlank_of_isDigit {c : Char} (h : c.isDigit = true) : Text.isBlank c = false := by
  simp only [Char.isDigit, Bool.and_eq_true, decide_eq_true_eq] at h
  have hlow : 48 ≤ c.toNat := h.1
  have hhigh : c.toNat ≤ 57 := h.2
  simp only [Text.isBlank, Char.le_def, UInt32.le_iff_toNat_le, Char.reduceVal,
    UInt32.reduceToNat, Char.toNat_val, Bool.or_eq_false_iff, Bool.and_eq_false_imp,
    decide_eq_true_eq, decide_eq_false_iff_not, beq_eq_false_iff_ne, ← Char.toNat_inj,
    Char.reduceToNat, ne_eq]
  omega

/-- Nothing is taken off in front of a character that is not blank. -/
private theorem trimLeft_cons {c : Char} (h : Text.isBlank c = false) (rest : List Char) :
    Text.trimLeft (c :: rest) = c :: rest :=
  List.dropWhile_cons_of_neg (by simp [h])

/-- No blanks stand before a number. -/
private theorem trimLeft_digits (width n : Nat) (rest : List Char) :
    Text.trimLeft ((digits width n).toList ++ rest) = (digits width n).toList ++ rest := by
  obtain ⟨c, cs, hcs⟩ := List.exists_cons_of_ne_nil (digits_ne_nil width n)
  have hc : c.isDigit = true := isDigit_of_mem_digits (hcs ▸ List.mem_cons_self)
  rw [hcs, List.cons_append, trimLeft_cons (isBlank_of_isDigit hc)]

/-- A number within bounds is read from two digits. -/
private theorem field_digits {low high : Nat} (hlow : low ≤ n) (hhigh : n ≤ high) (h : high < 100)
    (hrest : NoDigit rest) : field low high ((digits 2 n).toList ++ rest) = .ok (n, rest) := by
  have hfits : n < 100 := by omega
  have hlength : (digits 2 n).toList.length = 2 := length_digits (by decide) hfits
  have hnumber : number (some 2) ((digits 2 n).toList ++ rest) = .ok (n, rest) :=
    number_digits (le_numberMax (by omega)) (fun k hk => by cases hk; omega) hrest
  rw [field, trimLeft_digits, hnumber, Except.ok_bind]
  exact if_pos (by simp [hlow, hhigh])

/-- A mark is read where it stands. -/
private theorem mark_cons {c : Char} (h : Text.isBlank c = false) (rest : List Char) :
    mark c (c :: rest) = .ok ((), rest) := by
  rw [mark, trimLeft_cons h]
  exact if_pos rfl

/-! ### Years -/

section Years

variable {s : List Char}

/-- Years of nine digits are read. -/
private theorem within_yearLimit {year : Int} (h : year.natAbs < 1000000000) :
    (-yearLimit ≤ year && year < yearLimit) = true := by
  have hlimit : yearLimit = 2147483648 := rfl
  rw [Bool.and_eq_true, decide_eq_true_eq, decide_eq_true_eq]
  omega

/-- A year with a minus is read as the number behind it, below zero. -/
private theorem yearField_minus (h : number none s = .ok (n, rest)) (hn : n < 1000000000) :
    yearField ('-' :: s) = .ok (-n, rest) := by
  unfold yearField
  rw [trimLeft_cons (by decide)]
  simp only [h, Except.ok_map, Except.ok_bind]
  exact if_pos (within_yearLimit (by omega))

/-- A year with a plus is read as the number behind it. -/
private theorem yearField_plus (h : number none s = .ok (n, rest)) (hn : n < 1000000000) :
    yearField ('+' :: s) = .ok (n, rest) := by
  unfold yearField
  rw [trimLeft_cons (by decide)]
  -- Only the case of a plus sign can be the one that is read.
  split
  · rename_i heq
    exact absurd (List.cons.inj heq).1 (by decide)
  · rename_i heq
    obtain rfl := (List.cons.inj heq).2
    rw [h, Except.ok_map, Except.ok_bind]
    exact if_pos (within_yearLimit (by omega))
  · rename_i hplus
    exact absurd rfl (hplus s)

/-- A year without a sign is read as a number of four digits. -/
private theorem yearField_plain {c : Char} (hc : c.isDigit = true)
    (h : number (some 4) (c :: s) = .ok (n, rest)) (hn : n < 1000000000) :
    yearField (c :: s) = .ok (n, rest) := by
  -- A digit is no sign, so the year is read as it stands.
  have hminus : c ≠ '-' := fun h => absurd (h ▸ hc) (by decide)
  have hplus : c ≠ '+' := fun h => absurd (h ▸ hc) (by decide)
  unfold yearField
  rw [trimLeft_cons (isBlank_of_isDigit hc)]
  split
  · rename_i heq
    exact absurd (List.cons.inj heq).1 hminus
  · rename_i heq
    exact absurd (List.cons.inj heq).1 hplus
  · rw [h, Except.ok_map, Except.ok_bind]
    exact if_pos (within_yearLimit (by omega))

end Years

/-- A year is read from four digits, or from more after a sign. -/
theorem yearField_yearText {year : Int} (hyear : minYear ≤ year ∧ year ≤ maxYear)
    (hrest : NoDigit rest) : yearField ((yearText year).toList ++ rest) = .ok (year, rest) := by
  have hlow : -262143 ≤ year := hyear.1
  have hhigh : year ≤ 262142 := hyear.2
  -- What comes after a sign.
  have hsigned : number none ((digits 4 year.natAbs).toList ++ rest) = .ok (year.natAbs, rest) :=
    number_digits (le_numberMax (by omega)) (fun _ h => nomatch h) hrest
  unfold yearText
  split
  · rename_i hplain
    rw [Bool.and_eq_true, decide_eq_true_eq, decide_eq_true_eq] at hplain
    have hfits : year.toNat < 10000 := by omega
    have hlength : (digits 4 year.toNat).toList.length = 4 := length_digits (by decide) hfits
    have hfour : number (some 4) ((digits 4 year.toNat).toList ++ rest) = .ok (year.toNat, rest) :=
      number_digits (le_numberMax (by omega)) (fun k hk => by cases hk; omega) hrest
    obtain ⟨c, cs, hcs⟩ := List.exists_cons_of_ne_nil (digits_ne_nil 4 year.toNat)
    have hc : c.isDigit = true := isDigit_of_mem_digits (hcs ▸ List.mem_cons_self)
    rw [hcs, List.cons_append] at hfour ⊢
    rw [yearField_plain hc hfour (by omega), Int.toNat_of_nonneg (by omega)]
  · split
    · rw [String.toList_append]
      have hminus := yearField_minus hsigned (by omega)
      rwa [show -(year.natAbs : Int) = year by omega] at hminus
    · rw [String.toList_append]
      have hplus := yearField_plus hsigned (by omega)
      rwa [show (year.natAbs : Int) = year by omega] at hplus

/-! ### Fractions -/

/-- A fraction is read from so many digits as it was written with. -/
private theorem fraction_digits {places value : Nat} (hplaces : 0 < places) (hle : places ≤ 9)
    (h : value < Nat.pow 10 places) (hrest : NoDigit rest) :
    fraction ('.' :: ((digits places value).toList ++ rest)) =
      .ok (value * Nat.pow 10 (9 - places), rest) := by
  have hlength := length_digits hplaces h
  have hpow : Nat.pow 10 places ≤ 1000000000 := Nat.pow_le_pow_right (by decide) hle
  have hvalue : value < 1000000000 := Nat.lt_of_lt_of_le h hpow
  have hnumber : number (some 9) ((digits places value).toList ++ rest) = .ok (value, rest) :=
    number_digits (le_numberMax hvalue) (fun k hk => by cases hk; omega) hrest
  -- All digits belong to the number, so none are dropped after it.
  have hdrop : rest.dropWhile Char.isDigit = rest := by
    have happend := List.takeWhile_append_dropWhile (p := Char.isDigit) (l := rest)
    rwa [hrest, List.nil_append] at happend
  simp only [fraction, hnumber, Except.ok_bind, hdrop, List.length_append, hlength,
    Nat.add_sub_cancel]
  rfl

/-- A fraction is written with some digits after a point, or not at all. -/
private theorem fractionText_eq (h : n < 1000000000) :
    (n = 0 ∧ fractionText n = "") ∨
      ∃ places value, 0 < places ∧ places ≤ 9 ∧ value < Nat.pow 10 places ∧
        value * Nat.pow 10 (9 - places) = n ∧ fractionText n = "." ++ digits places value := by
  unfold fractionText
  -- As many groups of three digits are written as the number needs.
  split
  · rename_i hn
    exact .inl ⟨hn, rfl⟩
  · split
    · have hvalue : n / 1000000 < 1000 := by omega
      have hvalues : n / 1000000 * 1000000 = n := by omega
      exact .inr ⟨3, n / 1000000, by decide, by decide, hvalue, hvalues, rfl⟩
    · split
      · have hvalue : n / 1000 < 1000000 := by omega
        have hvalues : n / 1000 * 1000 = n := by omega
        exact .inr ⟨6, n / 1000, by decide, by decide, hvalue, hvalues, rfl⟩
      · exact .inr ⟨9, n, by decide, by decide, h, Nat.mul_one n, rfl⟩

/-- What stands behind the seconds does not begin with a digit. -/
private theorem noDigit_fractionText (h : n < 1000000000) :
    NoDigit ((fractionText n).toList ++ ['Z']) := by
  obtain ⟨-, htext⟩ | ⟨places, value, -, -, -, -, htext⟩ := fractionText_eq h
  · rw [htext]
    exact noDigit_cons rfl []
  · rw [htext, String.toList_append]
    exact noDigit_cons rfl _

/-- A written fraction of a second is read as the nanoseconds that it was written for. -/
theorem fraction_fractionText (h : n < 1000000000) :
    fraction ((fractionText n).toList ++ ['Z']) = .ok (n, ['Z']) := by
  obtain ⟨rfl, htext⟩ | ⟨places, value, hplaces, hle, hvalue, rfl, htext⟩ := fractionText_eq h
  · rw [htext]
    rfl
  · rw [htext, String.toList_append]
    exact fraction_digits hplaces hle hvalue (noDigit_cons rfl [])

/-! ### Timestamps -/

/-- A time without an offset is the time itself. -/
private theorem atOffset_zero {t : Timestamp} (h : t.IsValid) : atOffset t 0 = .ok t := by
  have hhour := h.hour
  have hminute := h.minute
  have hday : dayMinutes = 1440 := rfl
  -- Without an offset the minutes stay within the day, and the day stays.
  have hbefore : ¬((t.hour : Int) * 60 + t.minute - 0 < 0) := by omega
  have hafter : ¬(dayMinutes ≤ (t.hour : Int) * 60 + t.minute - 0) := by omega
  have hrest : (((t.hour : Int) * 60 + t.minute - 0) % dayMinutes).toNat =
      t.hour * 60 + t.minute := by
    rw [hday]
    omega
  have hdiv : (t.hour * 60 + t.minute) / 60 = t.hour := by omega
  have hmod : (t.hour * 60 + t.minute) % 60 = t.minute := by omega
  unfold atOffset
  simp only [if_neg hbefore, if_neg hafter, hrest, hdiv, hmod]
  exact if_pos (by simp [h.year])

/-- The characters of a written timestamp, field by field. -/
private theorem toList_text (t : Timestamp) :
    t.text.toList =
      (yearText t.year).toList ++ ('-' :: ((digits 2 t.month).toList ++
        ('-' :: ((digits 2 t.day).toList ++ ('T' :: ((digits 2 t.hour).toList ++
          (':' :: ((digits 2 t.minute).toList ++ (':' :: ((digits 2 t.second).toList ++
            ((fractionText t.nanosecond).toList ++ ['Z']))))))))))) := by
  simp [text, String.toList_append]

/-- No month has more than 31 days. -/
private theorem monthLength_le (year : Int) (month : Nat) : monthLength year month ≤ 31 := by
  unfold monthLength
  split
  · split <;> omega
  · split <;> omega

/-- A timestamp is read from its text. -/
theorem parse_text {t : Timestamp} (h : t.IsValid) : parse t.text = .ok t := by
  -- What each reader takes from the text, whatever comes after the next mark.
  have hyear rest : yearField ((yearText t.year).toList ++ '-' :: rest) =
      .ok (t.year, '-' :: rest) :=
    yearField_yearText h.year (noDigit_cons rfl rest)
  have hmonth rest : field 1 12 ((digits 2 t.month).toList ++ '-' :: rest) =
      .ok (t.month, '-' :: rest) :=
    field_digits h.month.1 h.month.2 (by decide) (noDigit_cons rfl rest)
  have hday rest : field 1 31 ((digits 2 t.day).toList ++ 'T' :: rest) = .ok (t.day, 'T' :: rest) :=
    field_digits h.day.1 (Nat.le_trans h.day.2 (monthLength_le _ _)) (by decide)
      (noDigit_cons rfl rest)
  have hhour rest : field 0 23 ((digits 2 t.hour).toList ++ ':' :: rest) =
      .ok (t.hour, ':' :: rest) :=
    field_digits (Nat.zero_le _) h.hour (by decide) (noDigit_cons rfl rest)
  have hminute rest : field 0 59 ((digits 2 t.minute).toList ++ ':' :: rest) =
      .ok (t.minute, ':' :: rest) :=
    field_digits (Nat.zero_le _) h.minute (by decide) (noDigit_cons rfl rest)
  have hsecond := field_digits (Nat.zero_le _) h.second (by decide)
    (noDigit_fractionText h.nanosecond)
  have hfraction := fraction_fractionText h.nanosecond
  have hdash rest : mark '-' ('-' :: rest) = .ok ((), rest) := mark_cons (by decide) rest
  have hcolon rest : mark ':' (':' :: rest) = .ok ((), rest) := mark_cons (by decide) rest
  have hdateEnd rest : dateEnd ('T' :: rest) = .ok ((), rest) := rfl
  have hoffset : offset (Text.trimLeft ['Z']) = .ok (0, []) := rfl
  -- What is read is in the calendar.
  have hrange : (t.year < minYear || maxYear < t.year || monthLength t.year t.month < t.day) =
      false := by
    simp [h.year, h.day]
  simp only [parse, toList_text, hyear, hdash, hmonth, hday, hdateEnd, hhour, hcolon, hminute,
    hsecond, hfraction, hoffset, hrange, Except.ok_bind]
  exact atOffset_zero h

/-- The last second of a leap day that has one second more. -/
example : parse "-0044-02-29T23:59:60.120Z" = .ok ⟨-44, 2, 29, 23, 59, 60, 120000000⟩ := by
  rfl

end Suite.Timestamp
