import Mathlib.Data.List.TakeWhile
import SecretAccess.Instant.Reading
import SecretAccess.Proofs.Instant.Calendar
import SecretAccess.Proofs.Number.Whole

namespace SecretAccess.Instant

def paddedChars (width n : Nat) : List Char :=
  List.replicate (width - (Nat.toDigits 10 n).length) '0' ++ Nat.toDigits 10 n

theorem toList_padded (width n : Nat) : (padded width n).toList = paddedChars width n := String.toList_ofList

theorem isDigit_of_mem_paddedChars {width n : Nat} {c : Char} (h : c ∈ paddedChars width n) : isDigit c = true := by
  rcases List.mem_append.1 h with hzero | hdigit
  · rw [(List.mem_replicate.1 hzero).2]
    rfl
  · exact isDigit_of_isDigit (Nat.isDigit_of_mem_toDigits (by decide) (by decide) hdigit)

theorem length_paddedChars {width n : Nat} (hwidth : 0 < width) (h : n < 10 ^ width) :
    (paddedChars width n).length = width := by
  have hdigits := (Nat.length_toDigits_le_iff (by decide) hwidth).2 h
  rw [paddedChars, List.length_append, List.length_replicate]
  omega

theorem ofDigitChars_paddedChars (width n : Nat) : Nat.ofDigitChars 10 (paddedChars width n) 0 = n := by
  rw [paddedChars, Nat.ofDigitChars_append, Nat.ofDigitChars_replicate_zero, Nat.mul_zero,
    Nat.ofDigitChars_ten_toDigits]

namespace Scan

theorem exists_addDigit (value length : Nat) {counted : Nat} (h : counted < 9) (c : Char) :
    ∃ counted' ≤ counted + 1,
      addDigit value counted length c = .number (10 * value + (c.toNat - 48)) counted' (length + 1) := by
  refine ⟨if counted = 0 ∧ c = '0' then 0 else counted + 1, by split <;> omega, ?_⟩
  rw [addDigit, if_pos h]

theorem exists_foldl_digits {cs : List Char} (h : ∀ c ∈ cs, isDigit c = true) (tokens : List Token)
    {value counted length : Nat} (hcounted : counted + cs.length ≤ 9) :
    ∃ counted', cs.foldl add ⟨tokens, .number value counted length⟩ =
      ⟨tokens, .number (Nat.ofDigitChars 10 cs value) counted' (length + cs.length)⟩ := by
  induction cs generalizing value counted length with
  | nil => exact ⟨counted, rfl⟩
  | cons c cs ih =>
      rw [List.length_cons] at hcounted
      obtain ⟨next, hnext, hdigit⟩ := exists_addDigit value length (by omega : counted < 9) c
      have hadd : add ⟨tokens, .number value counted length⟩ c =
          ⟨tokens, .number (10 * value + (c.toNat - 48)) next (length + 1)⟩ := by
        simp only [add, h c List.mem_cons_self, if_true, hdigit]
      obtain ⟨last, hlast⟩ := ih (fun d hd => h d (List.mem_cons_of_mem c hd)) (by omega : next + cs.length ≤ 9)
      have hzero : '0'.toNat = 48 := rfl
      refine ⟨last, ?_⟩
      rw [List.foldl_cons, hadd, hlast, Nat.ofDigitChars_cons, hzero, List.length_cons, Nat.add_assoc, Nat.add_comm 1]

def Fresh (s : Scan) : Prop := ∀ c, isDigit c = true → s.add c = start s.close c

theorem fresh_nothing (tokens : List Token) : Fresh ⟨tokens, .nothing⟩ := fun _ _ => rfl

theorem fresh_word (tokens : List Token) (letters : List Char) : Fresh ⟨tokens, .word letters⟩ := fun c hc => by
  have hletter : isLetter c = false := by
    have hcode := isDigit_iff.1 hc
    have hlow : ¬ 'A' ≤ c := fun h => by
      have hcapital : 65 ≤ c.toNat := h
      omega
    simp [isLetter, hlow]
  simp only [add, hletter, if_false, Bool.false_eq_true]

theorem Fresh.foldl_number {s : Scan} (h : s.Fresh) {width n : Nat} (hwidth : 0 < width) (hfew : width ≤ 9)
    (hn : n < 10 ^ width) {c : Char} (hc : isDigit c = false) (rest : List Char) :
    (paddedChars width n ++ c :: rest).foldl add s = rest.foldl add (start (s.close ++ [.number n width]) c) := by
  have hlength := length_paddedChars hwidth hn
  have hdigits : ∀ d ∈ paddedChars width n, isDigit d = true := fun _ => isDigit_of_mem_paddedChars
  have hbegins : (paddedChars width n).foldl add s = (paddedChars width n).foldl add ⟨s.close, .number 0 0 0⟩ := by
    cases hchars : paddedChars width n with
    | nil =>
        rw [hchars, List.length_nil] at hlength
        omega
    | cons d ds =>
        have hd : isDigit d = true := hdigits d (hchars ▸ List.mem_cons_self)
        rw [List.foldl_cons, List.foldl_cons, h d hd]
        simp only [start, add, hd, if_true]
  obtain ⟨counted, hfold⟩ := @exists_foldl_digits _ hdigits s.close 0 0 0 (by omega)
  rw [List.foldl_append, List.foldl_cons, hbegins, hfold, ofDigitChars_paddedChars, hlength, Nat.zero_add]
  simp only [add, hc, close, if_false, Bool.false_eq_true]

end Scan

structure Civil where
  year : Int
  month : Nat
  dom : Nat
  hour : Nat
  minute : Nat
  second : Nat
  millisecond : Nat

/-- The parts are such as a calendar and a clock show, and the year has no more than six digits. -/
structure Civil.Valid (c : Civil) : Prop where
  year : c.year.natAbs < 10 ^ 6
  month : 1 ≤ c.month ∧ c.month ≤ 12
  dom : 1 ≤ c.dom ∧ c.dom ≤ 31
  hour : c.hour < 24
  minute : c.minute < 60
  second : c.second < 60
  millisecond : c.millisecond < 1000

namespace Civil

def restChars (c : Civil) : List Char :=
  paddedChars 2 c.month ++ '-' :: (paddedChars 2 c.dom ++ 'T' :: (paddedChars 2 c.hour ++ ':' ::
    (paddedChars 2 c.minute ++ ':' :: (paddedChars 2 c.second ++ '.' :: (paddedChars 3 c.millisecond ++ ['Z'])))))

def restTokens (c : Civil) : List Token :=
  [.number c.month 2, .sign '-', .number c.dom 2, .word .timeMark 1, .number c.hour 2, .sign ':', .number c.minute 2,
    .sign ':', .number c.second 2, .sign '.', .number c.millisecond 3, .word (.zone 0) 1]

variable {c : Civil} (h : c.Valid)

include h

theorem Valid.foldl_restChars (tokens : List Token) :
    (c.restChars.foldl Scan.add ⟨tokens, .nothing⟩).close = tokens ++ c.restTokens := by
  have hsign {sign : Char} (hs : sign = '-' ∨ sign = ':' ∨ sign = '.') (tokens : List Token) :
      Scan.start tokens sign = ⟨tokens ++ [.sign sign], .nothing⟩ := by
    rcases hs with rfl | rfl | rfl <;> rfl
  have hmark (tokens : List Token) : Scan.start tokens 'T' = ⟨tokens, .word ['t']⟩ := rfl
  have hzone (tokens : List Token) : Scan.start tokens 'Z' = ⟨tokens, .word ['z']⟩ := rfl
  have hmonth : c.month < 10 ^ 2 := by have := h.month; omega
  have hdom : c.dom < 10 ^ 2 := by have := h.dom; omega
  have hhour : c.hour < 10 ^ 2 := by have := h.hour; omega
  have hminute : c.minute < 10 ^ 2 := by have := h.minute; omega
  have hsecond : c.second < 10 ^ 2 := by have := h.second; omega
  rw [restChars, (Scan.fresh_nothing _).foldl_number (by decide) (by decide) hmonth rfl, hsign (by decide),
    (Scan.fresh_nothing _).foldl_number (by decide) (by decide) hdom rfl, hmark,
    (Scan.fresh_word _ _).foldl_number (by decide) (by decide) hhour rfl, hsign (by decide),
    (Scan.fresh_nothing _).foldl_number (by decide) (by decide) hminute rfl, hsign (by decide),
    (Scan.fresh_nothing _).foldl_number (by decide) (by decide) hsecond rfl, hsign (by decide),
    (Scan.fresh_nothing _).foldl_number (by decide) (by decide) h.millisecond rfl, hzone]
  have htime : Word.ofLetters ['t'] = .timeMark := by decide
  have hutc : Word.ofLetters ['z'] = .zone 0 := by decide
  simp [Scan.close, restTokens, htime, hutc]

theorem Valid.iso_tokens : Reading.iso (tokens ((yearText c.year).toList ++ '-' :: c.restChars)) =
    Reading.isoAfterYear [c.year] (.sign '-' :: c.restTokens) := by
  have hdash (tokens : List Token) : Scan.start tokens '-' = ⟨tokens ++ [.sign '-'], .nothing⟩ := rfl
  have hyear := h.year
  rw [yearText]
  by_cases hplain : 0 ≤ c.year ∧ c.year ≤ 9999
  · have hiso (y : Nat) (rest : List Token) : Reading.iso (.number y 4 :: rest) = Reading.isoAfterYear [(y : Int)] rest :=
      rfl
    rw [if_pos hplain, toList_padded, tokens, (Scan.fresh_nothing _).foldl_number (by decide) (by decide) (by omega) rfl,
      hdash, h.foldl_restChars, Scan.close, List.nil_append, List.append_assoc, List.singleton_append,
      List.singleton_append, hiso, Int.toNat_of_nonneg hplain.1]
  · have hsign (sign : Char) (hs : sign = '-' ∨ sign = '+') :
        tokens (sign :: (paddedChars 6 c.year.natAbs ++ '-' :: c.restChars)) =
          .sign sign :: .number c.year.natAbs 6 :: .sign '-' :: c.restTokens := by
      have hadd : Scan.add ⟨[], .nothing⟩ sign = ⟨[.sign sign], .nothing⟩ := by rcases hs with rfl | rfl <;> rfl
      rw [tokens, List.foldl_cons, hadd, (Scan.fresh_nothing _).foldl_number (by decide) (by decide) hyear rfl, hdash,
        h.foldl_restChars]
      rfl
    rw [if_neg hplain, String.toList_append, toList_padded]
    by_cases hnegative : c.year < 0
    · rw [if_pos hnegative]
      change Reading.iso (tokens ('-' :: (paddedChars 6 c.year.natAbs ++ '-' :: c.restChars))) = _
      rw [hsign '-' (.inl rfl)]
      have hiso (y : Nat) (rest : List Token) (hy : y ≠ 0) :
          Reading.iso (.sign '-' :: .number y 6 :: rest) = Reading.isoAfterYear [-(y : Int)] rest := if_neg hy
      rw [hiso _ _ (by omega)]
      congr 2
      omega
    · rw [if_neg hnegative]
      change Reading.iso (tokens ('+' :: (paddedChars 6 c.year.natAbs ++ '-' :: c.restChars))) = _
      rw [hsign '+' (.inr rfl)]
      have hiso (y : Nat) (rest : List Token) :
          Reading.iso (.sign '+' :: .number y 6 :: rest) = Reading.isoAfterYear [(y : Int)] rest := rfl
      rw [hiso]
      congr 2
      omega

theorem Valid.isMonth_eq : isMonth c.month = true := by
  have hmonth := h.month
  simp only [isMonth, Bool.and_eq_true, decide_eq_true_iff]
  omega

theorem Valid.isDayOfMonth_eq : isDayOfMonth c.dom = true := by
  have hdom := h.dom
  simp only [isDayOfMonth, Bool.and_eq_true, decide_eq_true_iff]
  omega

def reading (c : Civil) : Reading :=
  { Reading.empty with
    date := [c.year, c.month, c.dom], begun := true, time := [c.hour, c.minute, c.second, c.millisecond]
    ahead := some true, hours := some 0, minutes := some 0 }

theorem Valid.isoAfterYear_eq : Reading.isoAfterYear [c.year] (.sign '-' :: c.restTokens) = .whole c.reading := by
  simp [Reading.isoAfterYear, Reading.isoAfterMonth, Reading.isoAfterDate, Reading.isoTime, Reading.isoOffset,
    Reading.isoClock, Reading.milliseconds, restTokens, reading, h.isMonth_eq, h.isDayOfMonth_eq, h.hour, h.minute,
    h.second]

def instant (c : Civil) : Instant :=
  dayOfDate c.year c.month c.dom * dayLength +
    ((((c.hour * 60 + c.minute) * 60 + c.second) * 1000 + c.millisecond : Nat) : Int)

theorem Valid.instant?_reading (hrange : inRange c.instant = true) : c.reading.instant? true = some c.instant := by
  have hcalendar : c.reading.calendar? true = some (c.year, (c.month : Int), (c.dom : Int)) := by
    simp [Reading.calendar?, reading, Reading.empty, h.isMonth_eq, h.isDayOfMonth_eq]
  have hclock : c.reading.clock? = some (((c.hour * 60 + c.minute) * 60 + c.second) * 1000 + c.millisecond) := by
    simp [Reading.clock?, reading, Reading.empty, h.hour, h.minute, h.second, h.millisecond]
  have htold : dayOfDate c.year (c.month : Int).toNat (c.dom : Int).toNat * dayLength +
      ((((c.hour * 60 + c.minute) * 60 + c.second) * 1000 + c.millisecond : Nat) : Int) -
      c.reading.offset * 60000 = c.instant := by
    have hoffset : c.reading.offset = 0 := rfl
    rw [hoffset, Int.zero_mul, Int.sub_zero]
    rfl
  simp only [Reading.instant?, hcalendar, hclock, bind, Option.bind, htold, hrange, if_true]
  rfl

omit h in
theorem ne_nul {width n : Nat} : ∀ d ∈ paddedChars width n, d ≠ '\x00' := fun d hd hnul => by
  rw [hnul] at hd
  exact absurd (isDigit_of_mem_paddedChars hd) (by decide)

omit h in
theorem takeWhile_eq (c : Civil) : ((yearText c.year).toList ++ '-' :: c.restChars).takeWhile (· ≠ '\x00') =
    (yearText c.year).toList ++ '-' :: c.restChars := by
  have hyear : ∀ d ∈ (yearText c.year).toList, d ≠ '\x00' := by
    rw [yearText]
    split
    · rw [toList_padded]
      exact ne_nul
    · rw [String.toList_append, toList_padded, List.forall_mem_append]
      refine ⟨?_, ne_nul⟩
      split
      · exact List.forall_mem_singleton.2 (by decide)
      · exact List.forall_mem_singleton.2 (by decide)
  have hrest : ∀ d ∈ c.restChars, d ≠ '\x00' := by
    simp only [restChars, List.forall_mem_append, List.forall_mem_cons]
    exact ⟨ne_nul, by decide, ne_nul, by decide, ne_nul, by decide, ne_nul, by decide, ne_nul, by decide, ne_nul,
      by decide, List.forall_mem_nil _⟩
  rw [List.takeWhile_eq_self_iff]
  simp only [decide_eq_true_iff, List.forall_mem_append, List.forall_mem_cons]
  exact ⟨hyear, by decide, hrest⟩

theorem Valid.ofText?_eq {text : String} (htext : text.toList = (yearText c.year).toList ++ '-' :: c.restChars)
    (hrange : inRange c.instant = true) : ofText? text = some c.instant := by
  rw [ofText?, htext, takeWhile_eq, h.iso_tokens, h.isoAfterYear_eq]
  exact h.instant?_reading hrange

omit h in
theorem exists_civil {t : Int} (hrange : inRange t = true) : ∃ c : Civil, c.Valid ∧ c.instant = t ∧
    ∃ text, toText? t = some text ∧ text.toList = (yearText c.year).toList ++ '-' :: c.restChars := by
  obtain ⟨year, month, dom, hdate, hday, hmonth, hmonth', hdom, hdom', hfirst, hlast⟩ := exists_date (t / dayLength)
  obtain ⟨hlow, hhigh⟩ := Bool.and_eq_true_iff.1 hrange
  have hlow : -8640000000000000 ≤ t := of_decide_eq_true hlow
  have hhigh : t ≤ 8640000000000000 := of_decide_eq_true hhigh
  have hlength : dayLength = 86400000 := rfl
  rw [hlength] at hdate hday hfirst hlast
  let ms := (t % 86400000).toNat
  have hms : ms < 86400000 := by omega
  have hclock : ((ms / 3600000 * 60 + ms / 60000 % 60) * 60 + ms / 1000 % 60) * 1000 + ms % 1000 = ms := by omega
  refine ⟨⟨year, month, dom, ms / 3600000, ms / 60000 % 60, ms / 1000 % 60, ms % 1000⟩, ?_, ?_, ?_⟩
  · exact ⟨by dsimp only; omega, ⟨hmonth, hmonth'⟩, ⟨hdom, hdom'⟩, by dsimp only; omega, by dsimp only; omega,
      by dsimp only; omega, by dsimp only; omega⟩
  · have htold : t / 86400000 * 86400000 + (ms : Int) = t := by omega
    rw [instant]
    dsimp only
    rw [hday, hclock, hlength]
    exact htold
  · rw [toText?, if_pos hrange, hlength, hdate]
    refine ⟨_, rfl, ?_⟩
    simp [toList_padded, restChars, ms]

end Civil

/-- What is written of an instant is read as this instant. -/
theorem ofText?_of_toText? {t : Instant} {text : String} (h : t.toText? = some text) : ofText? text = some t := by
  have hrange : t.inRange = true := by
    by_contra hout
    rw [toText?, if_neg hout] at h
    cases h
  obtain ⟨c, hvalid, rfl, written, hwritten, hchars⟩ := Civil.exists_civil hrange
  cases h.symm.trans hwritten
  exact hvalid.ofText?_eq hchars hrange

end SecretAccess.Instant
