import Mathlib.Tactic.Common
import SecretAccess.Instant

namespace SecretAccess.Instant

/-- The days of an era are centuries, cycles of four years and years, and what is left. Only a last year of a cycle
has a leap day, and only a last century ends with a cycle that has one. -/
theorem exists_cycles {doe : Nat} (h : doe < 146097) :
    ∃ century cycle year doy, century ≤ 3 ∧ cycle ≤ 24 ∧ year ≤ 3 ∧ doy ≤ 365 ∧ (doy = 365 → year = 3) ∧
      (century = 3 ∨ 1461 * cycle + 365 * year + doy < 36524) ∧
      doe = 36524 * century + 1461 * cycle + 365 * year + doy := by
  let inCentury := doe - 36524 * min (doe / 36524) 3
  let inCycle := inCentury % 1461
  exact ⟨min (doe / 36524) 3, inCentury / 1461, min (inCycle / 365) 3, inCycle - 365 * min (inCycle / 365) 3, by omega⟩

theorem exists_yearOfEra {doe : Nat} (h : doe < 146097) :
    ∃ yoe doy, (doe - doe / 1460 + doe / 36524 - doe / 146096) / 365 = yoe ∧
      doe - (365 * yoe + yoe / 4 - yoe / 100) = doy ∧ yoe < 400 ∧ doy ≤ 365 ∧
      doe + yoe / 100 = 365 * yoe + yoe / 4 + doy := by
  obtain ⟨century, cycle, year, doy, hcentury, hcycle, hyear, hdoy, hleap, hlast, hdoe⟩ := exists_cycles h
  have hcycles : doe / 1460 = 25 * century + cycle + (24 * century + cycle + 365 * year + doy) / 1460 := by omega
  have hcenturies : doe / 36524 = century + (1461 * cycle + 365 * year + doy) / 36524 := by omega
  have hera : doe / 146096 = (1461 * cycle + 365 * year + doy) / 36524 := by omega
  have hyoe : (doe - doe / 1460 + doe / 36524 - doe / 146096) / 365 = 100 * century + 4 * cycle + year := by
    rw [hcycles, hcenturies, hera]
    omega
  have hfourth : (100 * century + 4 * cycle + year) / 4 = 25 * century + cycle := by omega
  have hhundredth : (100 * century + 4 * cycle + year) / 100 = century := by omega
  refine ⟨_, doy, hyoe, ?_⟩
  rw [hfourth, hhundredth]
  omega

theorem exists_monthOfYear {doy : Nat} (h : doy ≤ 365) :
    ∃ shifted month day, (5 * doy + 2) / 153 = shifted ∧ (if shifted < 10 then shifted + 3 else shifted - 9) = month ∧
      doy - (153 * shifted + 2) / 5 + 1 = day ∧ 1 ≤ month ∧ month ≤ 12 ∧ 1 ≤ day ∧ day ≤ 31 ∧
      (if month ≤ 2 then month + 9 else month - 3) = shifted ∧ (153 * shifted + 2) / 5 + day = doy + 1 := by
  refine ⟨_, _, _, rfl, rfl, rfl, ?_⟩
  have hshifted : (5 * doy + 2) / 153 ≤ 11 := by omega
  split
  · rw [if_neg (by omega)]
    omega
  · rw [if_pos (by omega)]
    omega

theorem dayOfDate_eq {era : Int} {yoe month dom shifted doy : Nat} (hyear : yoe < 400)
    (hback : (if month ≤ 2 then month + 9 else month - 3) = shifted) (hdays : (153 * shifted + 2) / 5 + dom = doy + 1) :
    dayOfDate (yoe + era * 400 + (if month ≤ 2 then 1 else 0)) month dom =
      era * 146097 + (yoe * 365 + yoe / 4 - yoe / 100 + doy) - 719468 := by
  have hmarch : (if month ≤ 2 then (yoe + era * 400 + (if month ≤ 2 then 1 else 0) : Int) - 1
      else (yoe + era * 400 + (if month ≤ 2 then 1 else 0) : Int)) = yoe + era * 400 := by
    split <;> omega
  have hera : (yoe + era * 400 : Int) / 400 = era := by omega
  have hyoe : (yoe + era * 400 : Int) % 400 = yoe := by omega
  have hdoy : (153 * (shifted : Int) + 2) / 5 + dom - 1 = doy := by omega
  simp only [dayOfDate, hmarch, hback, hera, hyoe]
  rw [hdoy]

theorem exists_date (day : Int) :
    ∃ (year : Int) (month dom : Nat), calendarDate day = (year, month, dom) ∧ dayOfDate year month dom = day ∧
      1 ≤ month ∧ month ≤ 12 ∧ 1 ≤ dom ∧ dom ≤ 31 ∧ 400 * ((day + 719468) / 146097) ≤ year ∧
      year ≤ 400 * ((day + 719468) / 146097) + 400 := by
  have hdoe : ((day + 719468) % 146097).toNat < 146097 := by omega
  obtain ⟨yoe, doy, hyoe, hdoy, hyear, hleap, hsum⟩ := exists_yearOfEra hdoe
  obtain ⟨shifted, month, dom, hshifted, hmonth, hday, hfirst, hlast, hdom, hdom', hback, hdays⟩ :=
    exists_monthOfYear hleap
  have hera : (day + 719468) / 146097 * 146097 + ((day + 719468) % 146097).toNat = day + 719468 := by omega
  refine ⟨yoe + (day + 719468) / 146097 * 400 + (if month ≤ 2 then 1 else 0), month, dom, ?_, ?_, hfirst, hlast, hdom,
    hdom', ?_⟩
  · simp only [calendarDate, hyoe, hdoy, hshifted, hmonth, hday]
  · rw [dayOfDate_eq hyear hback hdays]
    clear hyoe hdoy hshifted hmonth hday hback hdays
    omega
  · clear hyoe hdoy hshifted hmonth hday hback hdays hera hsum
    split <;> omega

end SecretAccess.Instant
