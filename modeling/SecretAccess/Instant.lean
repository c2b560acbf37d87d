import SecretAccess.Text.Quoted

namespace SecretAccess

abbrev Instant := Int

namespace Instant

/-- The last instant that has a written form; the first is its negation. -/
def limit : Int := 8640000000000000

def inRange (t : Instant) : Bool :=
  -limit ≤ t && t ≤ limit

def dayLength : Int := 86400000

/-- Year, month and day of a day counted from 1970-01-01. Years run from March here, so that the
leap day comes last. -/
def calendarDate (day : Int) : Int × Nat × Nat :=
  let z := day + 719468
  let era := z / 146097
  let doe := (z % 146097).toNat
  let yoe := (doe - doe / 1460 + doe / 36524 - doe / 146096) / 365
  let doy := doe - (365 * yoe + yoe / 4 - yoe / 100)
  let shifted := (5 * doy + 2) / 153
  let month := if shifted < 10 then shifted + 3 else shifted - 9
  (yoe + era * 400 + (if month ≤ 2 then 1 else 0), month, doy - (153 * shifted + 2) / 5 + 1)

def dayOfDate (year : Int) (month day : Nat) : Int :=
  let y := if month ≤ 2 then year - 1 else year
  let era := y / 400
  let yoe := y % 400
  let shifted : Nat := if month ≤ 2 then month + 9 else month - 3
  let doy : Int := (153 * shifted + 2) / 5 + day - 1
  era * 146097 + (yoe * 365 + yoe / 4 - yoe / 100 + doy) - 719468

def padded (width n : Nat) : String :=
  let ds := Nat.toDigits 10 n
  String.ofList (List.replicate (width - ds.length) '0' ++ ds)

/-- Four digits for the years 0 to 9999, a sign and six digits for the others. -/
def yearText (year : Int) : String :=
  if 0 ≤ year ∧ year ≤ 9999 then padded 4 year.toNat
  else (if year < 0 then "-" else "+") ++ padded 6 year.natAbs

/-- The ISO form, to the millisecond and in UTC. Instants out of range have none. -/
def toText? (t : Instant) : Option String :=
  if t.inRange then
    let (year, month, day) := calendarDate (t / dayLength)
    let ms := (t % dayLength).toNat
    some (yearText year ++ "-" ++ padded 2 month ++ "-" ++ padded 2 day ++ "T" ++
      padded 2 (ms / 3600000) ++ ":" ++ padded 2 (ms / 60000 % 60) ++ ":" ++
      padded 2 (ms / 1000 % 60) ++ "." ++ padded 3 (ms % 1000) ++ "Z")
  else none

end Instant

end SecretAccess
