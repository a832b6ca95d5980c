import TenPuzzle.Text.Hexadecimal
import TenPuzzle.Text.Numeral
import TenPuzzle.Yaml.Fault
import TenPuzzle.Yaml.Line

/-!
Dates and times of day, as they are written. A date on its own has two digits for its month and its
day; before a time one is enough.
-/

namespace TenPuzzle.Yaml

structure TimeOfDay where
  hour : Nat
  minute : Nat
  second : Nat
  offset : Int
  deriving DecidableEq, Repr

structure Moment where
  year : Nat
  month : Nat
  day : Nat
  time : Option TimeOfDay
  deriving DecidableEq, Repr

def splitNumber (least most : Nat) (text : List Char) : Option (Nat × List Char) :=
  let digits := (text.take most).takeWhile Char.isDigit
  if digits.length < least then none
  else (Text.digitsInBase? 10 digits).map fun value => (value, text.drop digits.length)

def passMark (mark : Char) : List Char → Option (List Char)
  | [] => none
  | character :: rest => if character = mark then some rest else none

def splitDate (least : Nat) (text : List Char) : Option (Moment × List Char) := do
  let (year, afterYear) ← splitNumber 4 4 text
  let (month, afterMonth) ← splitNumber least 2 (← passMark '-' afterYear)
  let (day, rest) ← splitNumber least 2 (← passMark '-' afterMonth)
  some (⟨year, month, day, none⟩, rest)

def splitTime (text : List Char) : Option (TimeOfDay × List Char) := do
  let (hour, afterHour) ← splitNumber 1 2 text
  let (minute, afterMinute) ← splitNumber 2 2 (← passMark ':' afterHour)
  let (second, rest) ← splitNumber 2 2 (← passMark ':' afterMinute)
  some (⟨hour, minute, second, 0⟩, rest)

def dropFraction : List Char → List Char
  | '.' :: rest => rest.dropWhile Char.isDigit
  | text => text

def readMinutes? : List Char → Option Nat
  | [] => some 0
  | ':' :: text =>
    match splitNumber 2 2 text with
    | some (minutes, []) => some minutes
    | _ => none
  | _ => none

/-- The offset of a zone: a letter for the zone of reference, or a sign, hours and minutes. -/
def readOffset? (text : List Char) : Option Int :=
  if text = ['Z'] then some 0
  else if text.head? ≠ some '+' ∧ !Text.isNegative text then none
  else do
    let (hours, rest) ← splitNumber 1 2 (text.drop 1)
    let minutes : Int := hours * 60 + (← readMinutes? rest)
    some (if Text.isNegative text then -minutes else minutes)

/-- Nothing behind a time is the zone of reference; blanks may stand before a zone. -/
def readZone? (text : List Char) : Option Int :=
  if text.isEmpty then some 0 else readOffset? (text.dropWhile isFill)

def passToTime : List Char → Option (List Char)
  | [] => none
  | character :: rest =>
    if character = 'T' ∨ character = 't' then some rest
    else if isFill character then some (rest.dropWhile isFill)
    else none

def Moment.withTime? (text : List Char) : Option Moment := do
  let (date, afterDate) ← splitDate 1 text
  let (time, afterTime) ← splitTime (← passToTime afterDate)
  let offset ← readZone? (dropFraction afterTime)
  some { date with time := some { time with offset := offset } }

def Moment.dateOnly? (least : Nat) (text : List Char) : Option Moment :=
  match splitDate least text with
  | some (date, []) => some date
  | _ => none

def Moment.ofText? (text : List Char) : Option Moment :=
  (Moment.dateOnly? 2 text).or (Moment.withTime? text)

def isLeapYear (year : Nat) : Bool :=
  year % 4 = 0 && (year % 100 ≠ 0 || year % 400 = 0)

def daysInMonth (year month : Nat) : Nat :=
  if month = 2 then (if isLeapYear year then 29 else 28)
  else if [4, 6, 9, 11].contains month then 30
  else 31

def Moment.check (moment : Moment) : Except Fault Moment :=
  let time := moment.time.getD ⟨0, 0, 0, 0⟩
  if 1440 ≤ time.offset.natAbs then .error (.offsetOutOfRange time.offset)
  else if moment.year = 0 then .error (.yearOutOfRange moment.year)
  else if moment.month = 0 ∨ 12 < moment.month then .error .monthOutOfRange
  else if moment.day = 0 ∨ daysInMonth moment.year moment.month < moment.day then
    .error .dayOutOfRange
  else if 23 < time.hour then .error .hourOutOfRange
  else if 59 < time.minute then .error .minuteOutOfRange
  else if 59 < time.second then .error .secondOutOfRange
  else .ok moment

end TenPuzzle.Yaml
