import TenPuzzle.Text.Integer

/-!
Why a YAML text has no value.
-/

namespace TenPuzzle.Yaml

inductive Fault where
  /-- The text breaks a rule of the format. -/
  | malformed
  /-- Collections, or what stands in for scalars, nest too deeply. -/
  | tooDeep
  /-- An escape names a number beyond the last code point. -/
  | noCodePoint
  /-- An escape names a number beyond those of 31 bits. -/
  | codeTooLarge
  | integer (fault : Text.IntegerFault)
  | notReal (text : List Char)
  /-- A group of base sixty stands at a place whose weight is too large for a real number. -/
  | weightTooLarge
  /-- A number has nothing behind its sign. -/
  | noDigits
  | notTruth
  | notMoment
  /-- What stands in for the text of a date is a collection. -/
  | momentOfCollection
  /-- The offset of a zone, in minutes, is a day or more. -/
  | offsetOutOfRange (minutes : Int)
  | yearOutOfRange (year : Nat)
  | monthOutOfRange
  | dayOutOfRange
  | hourOutOfRange
  | minuteOutOfRange
  | secondOutOfRange
  deriving DecidableEq, Repr

def offsetText (minutes : Int) : String :=
  let seconds := (minutes % 1440) * 60
  let days := s!"days={minutes / 1440}"
  if seconds = 0 then days else days ++ s!", seconds={seconds}"

def Fault.message : Fault → String
  | .malformed => "the text breaks a rule of the format"
  | .tooDeep => "the text nests too deeply"
  | .noCodePoint => "chr() arg not in range(0x110000)"
  | .codeTooLarge => "the number of an escape is too large"
  | .integer fault => fault.message
  | .notReal text => "could not convert string to float: " ++ Text.quoted (String.ofList text)
  | .weightTooLarge => "int too large to convert to float"
  | .noDigits => "string index out of range"
  | .notTruth => "the text is no truth value"
  | .notMoment => "the text is no date"
  | .momentOfCollection => "a collection is no date"
  | .offsetOutOfRange minutes =>
    "offset must be a timedelta strictly between -timedelta(hours=24) and timedelta(hours=24), " ++
      "not datetime.timedelta(" ++ offsetText minutes ++ ")."
  | .yearOutOfRange year => s!"year {year} is out of range"
  | .monthOutOfRange => "month must be in 1..12"
  | .dayOutOfRange => "day is out of range for month"
  | .hourOutOfRange => "hour must be in 0..23"
  | .minuteOutOfRange => "minute must be in 0..59"
  | .secondOutOfRange => "second must be in 0..59"

end TenPuzzle.Yaml
