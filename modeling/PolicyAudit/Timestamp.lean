/-
Module: PolicyAudit.Timestamp
Purpose: Points in time with an offset, as RFC 3339 texts.
Imports: PolicyAudit.Decimal.Digits
Trusted boundary: none
Main exports: Timestamp, Timestamp.write, Timestamp.read?, Timestamp.epoch
-/
import PolicyAudit.Decimal.Digits

namespace PolicyAudit

namespace Calendar

def isLeapYear (year : Nat) : Bool :=
  year % 4 == 0 && (year % 100 != 0 || year % 400 == 0)

def daysInMonth (year month : Nat) : Nat :=
  if month = 2 then (if isLeapYear year then 29 else 28)
  else if month = 4 ∨ month = 6 ∨ month = 9 ∨ month = 11 then 30
  else 31

/-- Days from the first of March of the year 0 to a date. -/
def dayNumber (year month day : Nat) : Int :=
  let y : Int := if month ≤ 2 then year - 1 else year
  let m : Nat := if month ≤ 2 then month + 9 else month - 3
  365 * y + y.fdiv 4 - y.fdiv 100 + y.fdiv 400 + ((153 * m + 2) / 5 : Nat) + day - 1

/-- The year, month and day of a day number from March of the year 0 on. -/
def ofDayNumber (days : Nat) : Nat × Nat × Nat :=
  let era := days / 146097
  let dayOfEra := days % 146097
  let yearOfEra := (dayOfEra - dayOfEra / 1460 + dayOfEra / 36524 - dayOfEra / 146096) / 365
  let dayOfYear := dayOfEra - (365 * yearOfEra + yearOfEra / 4 - yearOfEra / 100)
  let m := (5 * dayOfYear + 2) / 153
  let day := dayOfYear - (153 * m + 2) / 5 + 1
  let month := if m < 10 then m + 3 else m - 9
  (400 * era + yearOfEra + (if month ≤ 2 then 1 else 0), month, day)

/-- A date and a time of day that exist, and an offset below a day. -/
def isValid (year month day hour minute second nanosecond : Nat) (offset : Int) : Bool :=
  year ≤ 9999 && 1 ≤ month && month ≤ 12 && 1 ≤ day && day ≤ daysInMonth year month &&
    hour ≤ 23 && minute ≤ 59 && second ≤ 59 && nanosecond < 1000000000 && offset.natAbs < 1440

end Calendar

/-- A date and a time of day in the years 0 to 9999, at an offset of so many minutes. -/
structure Timestamp where
  year : Nat
  month : Nat
  day : Nat
  hour : Nat
  minute : Nat
  second : Nat
  nanosecond : Nat
  offset : Int
  valid : Calendar.isValid year month day hour minute second nanosecond offset = true
deriving Repr, DecidableEq

namespace Timestamp

/-- The start of the year 1970 at the offset zero. -/
def epoch : Timestamp := ⟨1970, 1, 1, 0, 0, 0, 0, 0, by decide⟩

instance : Inhabited Timestamp := ⟨epoch⟩

def of? (year month day hour minute second nanosecond : Nat) (offset : Int) : Option Timestamp :=
  if valid : Calendar.isValid year month day hour minute second nanosecond offset = true then
    some ⟨year, month, day, hour, minute, second, nanosecond, offset, valid⟩
  else
    none

/-- The point in time so many seconds and nanoseconds after the epoch, at the offset zero. -/
def ofUnix (seconds nanoseconds : Nat) : Timestamp :=
  let (year, month, day) := Calendar.ofDayNumber (seconds / 86400 + 719468)
  let rest := seconds % 86400
  (of? year month day (rest / 3600) (rest / 60 % 60) (rest % 60) nanoseconds 0).getD epoch

/-! ### Writing -/

/-- The last `width` decimal digits of a number. -/
def padded : Nat → Nat → List Char
  | 0, _ => []
  | width + 1, n => padded width (n / 10) ++ [Decimal.digitChar (n % 10)]

/-- The fraction of a second, without zeros at its end; none if there is nothing to write. -/
def writeFraction (nanosecond : Nat) : List Char :=
  if nanosecond = 0 then
    []
  else
    '.' :: ((padded 9 nanosecond).reverse.dropWhile (· == '0')).reverse

/-- The offset; zero is written `Z`. -/
def writeOffset (offset : Int) : List Char :=
  if offset = 0 then
    ['Z']
  else
    (if offset < 0 then '-' else '+') :: (padded 2 (offset.natAbs / 60) ++ ':' ::
      padded 2 (offset.natAbs % 60))

def write (t : Timestamp) : String :=
  .ofList (padded 4 t.year ++ '-' :: (padded 2 t.month ++ '-' :: (padded 2 t.day ++ 'T' ::
    (padded 2 t.hour ++ ':' :: (padded 2 t.minute ++ ':' :: (padded 2 t.second ++
      (writeFraction t.nanosecond ++ writeOffset t.offset)))))))

/-! ### Reading -/

/-- The number that `width` digits in front write, and what follows them. -/
def readPadded? (width : Nat) (cs : List Char) : Option (Nat × List Char) :=
  let ds := cs.take width
  if ds.length = width ∧ ds.all Char.isDigit then
    some (Decimal.ofDigits ds, cs.drop width)
  else
    none

def readMark? (mark : Char) : List Char → Option (List Char)
  | c :: cs => if c = mark then some cs else none
  | [] => none

/-- Any one ASCII character may stand between the date and the time of day. -/
def readSeparator? : List Char → Option (List Char)
  | c :: cs => if c.toNat < 0x80 then some cs else none
  | [] => none

/-- The fraction in nanoseconds.  Its digits after the ninth do not count. -/
def readFraction? : List Char → Option (Nat × List Char)
  | '.' :: cs =>
      let ds := cs.takeWhile Char.isDigit
      if ds = [] then
        none
      else
        some (Decimal.ofDigits ((ds ++ List.replicate 9 '0').take 9), cs.dropWhile Char.isDigit)
  | cs => some (0, cs)

/-- The offset in minutes, at the end of the text. -/
def readOffset? : List Char → Option Int
  | [c] => if c = 'Z' ∨ c = 'z' then some 0 else none
  | sign :: cs => do
      guard (sign = '+' ∨ sign = '-')
      let (hours, cs) ← readPadded? 2 cs
      let cs ← readMark? ':' cs
      let (minutes, cs) ← readPadded? 2 cs
      guard (cs = [] ∧ hours ≤ 23 ∧ minutes ≤ 59)
      let offset : Int := 60 * hours + minutes
      some (if sign = '-' then -offset else offset)
  | [] => none

/-- The last second of a month at the offset zero. -/
def isMonthEnd (t : Timestamp) : Bool :=
  let minutes := Calendar.dayNumber t.year t.month t.day * 1440 + 60 * t.hour + t.minute - t.offset
  let (_, _, day) := Calendar.ofDayNumber ((minutes + 1).fdiv 1440 + 146097).toNat
  (minutes + 1).fmod 1440 == 0 && day == 1

/-- A timestamp at the end of a text.  A leap second can only follow the last minute of a month,
and stands for the last nanosecond of that minute. -/
def read? (s : String) : Option Timestamp := do
  let (year, cs) ← readPadded? 4 s.toList
  let cs ← readMark? '-' cs
  let (month, cs) ← readPadded? 2 cs
  let cs ← readMark? '-' cs
  let (day, cs) ← readPadded? 2 cs
  let cs ← readSeparator? cs
  let (hour, cs) ← readPadded? 2 cs
  let cs ← readMark? ':' cs
  let (minute, cs) ← readPadded? 2 cs
  let cs ← readMark? ':' cs
  let (second, cs) ← readPadded? 2 cs
  let (nanosecond, cs) ← readFraction? cs
  let offset ← readOffset? cs
  if second = 60 then
    let t ← of? year month day hour minute 59 999999999 offset
    if t.isMonthEnd then some t else none
  else
    of? year month day hour minute second nanosecond offset

end Timestamp

end PolicyAudit
