import SecretAccess.Instant
import SecretAccess.Instant.Token

namespace SecretAccess.Instant

def isMonth (n : Int) : Bool := 1 ≤ n && n ≤ 12
def isDayOfMonth (n : Int) : Bool := 1 ≤ n && n ≤ 31

structure Reading where
  date : List Int
  month : Option Nat
  time : List Nat
  /-- The hours to add to an hour before noon. -/
  halfDay : Option Nat
  ahead : Option Bool
  hours : Option Nat
  minutes : Option Nat
  begun : Bool
  deriving DecidableEq, Repr

namespace Reading

def empty : Reading := ⟨[], none, [], none, none, none, none, false⟩

def milliseconds (value length : Nat) : Nat :=
  if length = 1 then 100 * value
  else if length = 2 then 10 * value
  else value / Nat.pow 10 (min length 9 - 3)

inductive Iso where
  | whole (r : Reading)
  | part (date : List Int) (rest : List Token)
  | refused

def isoOffset (r : Reading) : List Token → Iso
  | [] => .whole r
  | [.word (.zone _) 1] => .whole { r with ahead := some true, hours := some 0, minutes := some 0 }
  | [.sign c, .number n 4] =>
      if (c = '+' ∨ c = '-') ∧ n / 100 < 24 ∧ n % 100 < 60 then
        .whole
          { r with ahead := some (c = '+'), hours := some (n / 100), minutes := some (n % 100) }
      else .refused
  | [.sign c, .number h 2, .sign ':', .number m 2] =>
      if (c = '+' ∨ c = '-') ∧ h < 24 ∧ m < 60 then
        .whole { r with ahead := some (c = '+'), hours := some h, minutes := some m }
      else .refused
  | _ => .refused

/-- A day can end with the hour 24. -/
def isoClock (hour minute second millisecond : Nat) : Bool :=
  (hour < 24 && minute < 60 && second < 60) ||
    (hour == 24 && minute == 0 && second == 0 && millisecond == 0)

def isoTime (r : Reading) : List Token → Iso
  | .number h 2 :: .sign ':' :: .number m 2 :: .sign ':' :: .number s 2 :: .sign '.' ::
      .number f length :: rest =>
      if isoClock h m s f then
        isoOffset { r with time := [h, m, s, milliseconds f length] } rest
      else .refused
  | .number h 2 :: .sign ':' :: .number m 2 :: .sign ':' :: .number s 2 :: rest =>
      if isoClock h m s 0 then isoOffset { r with time := [h, m, s] } rest else .refused
  | .number h 2 :: .sign ':' :: .number m 2 :: rest =>
      if isoClock h m 0 0 then isoOffset { r with time := [h, m] } rest else .refused
  | _ => .refused

def isoAfterDate (date : List Int) : List Token → Iso
  | [] => .whole { empty with date, begun := true }
  | .word .timeMark _ :: rest => isoTime { empty with date, begun := true } rest
  | rest => .part date rest

def isoAfterMonth (date : List Int) : List Token → Iso
  | .sign '-' :: .number d length :: rest =>
      if length = 2 ∧ isDayOfMonth d then isoAfterDate (date ++ [(d : Int)]) rest
      else .part date (.number d length :: rest)
  | .sign '-' :: rest => .part date rest
  | rest => isoAfterDate date rest

def isoAfterYear (date : List Int) : List Token → Iso
  | .sign '-' :: .number m length :: rest =>
      if length = 2 ∧ isMonth m then isoAfterMonth (date ++ [(m : Int)]) rest
      else .part date (.number m length :: rest)
  | .sign '-' :: rest => .part date rest
  | rest => isoAfterDate date rest

/-- Years have four digits, or a sign and six; there is no negative zero. -/
def iso : List Token → Iso
  | .number y 4 :: rest => isoAfterYear [(y : Int)] rest
  | .sign '+' :: .number y 6 :: rest => isoAfterYear [(y : Int)] rest
  | .sign '-' :: .number y 6 :: rest =>
      if y = 0 then .part [] rest else isoAfterYear [-(y : Int)] rest
  | rest => .part [] rest

-- By looser rules, each token is taken together with some of those behind it, which are counted.
def addDate? (r : Reading) (n : Nat) : Option Reading :=
  if r.date.length < 3 then some { r with date := r.date ++ [(n : Int)] } else none

def addTime? (r : Reading) (n : Nat) : Option Reading :=
  if r.time.length < 4 then some { r with time := r.time ++ [n] } else none

def endTime (r : Reading) (n : Nat) : Reading :=
  { r with time := (r.time ++ [n, 0, 0, 0]).take 4 }

def expectsTime (r : Reading) (n : Nat) : Bool :=
  ((r.time.length == 1 || r.time.length == 2) && n < 60) || (r.time.length == 3 && n < 1000)

def expectsMinutes (r : Reading) (n : Nat) : Bool :=
  r.hours.isSome && r.minutes.isNone && n < 60

def followsTime : Option Token → Bool
  | none | some .blank | some (.word (.zone _) 1) | some (.sign '+') | some (.sign '-') => true
  | _ => false

def takePlain? (r : Reading) (n : Nat) (next : Option Token) : Option (Reading × Nat) :=
  if r.expectsMinutes n then some ({ r with minutes := some n }, 0)
  else if r.expectsTime n then if followsTime next then some (r.endTime n, 0) else none
  else (r.addDate? n).map (·, if next = some (.sign '-') then 1 else 0)

def takeNumber? (r : Reading) (n : Nat) : List Token → Option (Reading × Nat)
  | .sign ':' :: .sign ':' :: _ =>
      if r.time.isEmpty then some ({ r with time := [n, 0] }, 2) else none
  | .sign ':' :: .sign '.' :: _ => (r.addTime? n).map (·, 2)
  | .sign ':' :: _ => (r.addTime? n).map (·, 1)
  | .sign '.' :: rest =>
      if r.expectsTime n then match rest with
        | .number f length :: _ =>
            some ({ r with time := r.time ++ [n] }.endTime (milliseconds f length), 2)
        | _ => none
      else (r.takePlain? n rest.head?).map fun (r, used) => (r, used + 1)
  | rest => r.takePlain? n rest.head?

/-- A word without a meaning can only stand before all numbers, and apart from them. -/
def takeOther? (r : Reading) : Option Token → Option (Reading × Nat)
  | some (.number ..) => none
  | _ => if r.begun then none else some (r, 0)

def takeWord? (r : Reading) (word : Word) (next : Option Token) : Option (Reading × Nat) :=
  match word with
  | .halfDay hours =>
      if r.time.isEmpty then r.takeOther? next else some ({ r with halfDay := some hours }, 0)
  | .month number =>
      some ({ r with month := some number }, if next = some (.sign '-') then 1 else 0)
  | .zone hours =>
      if r.begun then
        some ({ r with
          ahead := some (0 ≤ hours), hours := some hours.natAbs, minutes := some 0 }, 0)
      else r.takeOther? next
  | _ => r.takeOther? next

def offsetDigits? (r : Reading) (value length : Nat) (next : Option Token) : Option Reading :=
  if next = some (.sign ':') then some { r with hours := some value, minutes := none }
  else if length = 1 ∨ length = 2 then some { r with hours := some value, minutes := some 0 }
  else if length = 3 ∨ length = 4 then
    some { r with hours := some (value / 100), minutes := some (value % 100) }
  else none

def takeOffset? (r : Reading) (ahead : Bool) (rest : List Token) : Option (Reading × Nat) :=
  let r := { r with ahead := some ahead, begun := true }
  match rest with
  | .number value length :: rest => (r.offsetDigits? value length rest.head?).map (·, 1)
  | rest => (r.offsetDigits? 0 0 rest.head?).map (·, 0)

def takesOffset (r : Reading) : Bool :=
  (r.hours = some 0 && r.minutes = some 0) || !r.time.isEmpty

def takeSign? (r : Reading) (c : Char) (rest : List Token) : Option (Reading × Nat) :=
  if (c = '+' ∨ c = '-') ∧ r.takesOffset then r.takeOffset? (c = '+') rest
  else if (c = '+' ∨ c = '-' ∨ c = ')') ∧ r.begun then none
  else some (r, 0)

def take? (r : Reading) (rest : List Token) : Token → Option (Reading × Nat)
  | .number n _ => { r with begun := true }.takeNumber? n rest
  | .word word _ => r.takeWord? word rest.head?
  | .sign c => r.takeSign? c rest
  | .blank | .other => some (r, 0)

def takeAll? (r : Reading) : (used : Nat) → List Token → Option Reading
  | _, [] => some r
  | used + 1, _ :: rest => r.takeAll? used rest
  | 0, token :: rest => match r.take? rest token with
      | some (r, used) => r.takeAll? used rest
      | none => none

/-- A year below 100 lies in the last century or, up to 49, in this one. -/
def fullYear (year : Int) : Int :=
  if 0 ≤ year ∧ year < 50 then year + 2000
  else if 50 ≤ year ∧ year < 100 then year + 1900
  else year

/-- Year, month and day. Numbers that are missing are ones. A first number that can be no day is the
year; else the year comes last, behind the month unless a word tells that. -/
def calendar? (inOrder : Bool) (r : Reading) : Option (Int × Int × Int) :=
  match r.date with
  | [] => none
  | a :: rest =>
      let b := rest.headD 1
      let c := (rest.drop 1).headD 1
      let (year, month, day) := match r.month with
        | none => if inOrder || !isDayOfMonth a then (a, b, c) else (c, a, b)
        | some month => if isDayOfMonth a then (b, (month : Int), a) else (a, (month : Int), b)
      if isMonth month && isDayOfMonth day then
        some (if inOrder then year else fullYear year, month, day)
      else none

def clock? (r : Reading) : Option Nat :=
  let told (i : Nat) : Nat := r.time.getD i 0
  let (minute, second, ms) := (told 1, told 2, told 3)
  let hour? := match r.halfDay with
    | none => some (told 0)
    | some hours => if told 0 ≤ 12 then some (told 0 % 12 + hours) else none
  match hour? with
  | none => none
  | some hour =>
      if (hour < 24 ∧ minute < 60 ∧ second < 60 ∧ ms < 1000) ∨
          (hour = 24 ∧ minute = 0 ∧ second = 0 ∧ ms = 0) then
        some (((hour * 60 + minute) * 60 + second) * 1000 + ms)
      else none

def offset (r : Reading) : Int :=
  let minutes : Int := 60 * r.hours.getD 0 + r.minutes.getD 0
  match r.ahead with
  | some true => minutes
  | some false => -minutes
  | none => 0

def instant? (inOrder : Bool) (r : Reading) : Option Instant := do
  let (year, month, day) ← r.calendar? inOrder
  let time ← r.clock?
  let t : Instant := dayOfDate year month.toNat day.toNat * dayLength + time - r.offset * 60000
  if t.inRange then return t else none

end Reading

/-- The instant that a text tells, if it tells one. The text ends at the first NUL. -/
def ofText? (s : String) : Option Instant :=
  match Reading.iso (tokens (s.toList.takeWhile (· ≠ '\x00'))) with
  | .whole r => r.instant? true
  | .part date rest =>
      ({ Reading.empty with date, begun := !date.isEmpty }.takeAll? 0 rest).bind (·.instant? false)
  | .refused => none

end SecretAccess.Instant
