/-
  Moments: points in time, in microseconds since the beginning of 1970.

  A moment is told to others in two ways: to the search as microseconds that
  end in three zeros (`searchMicros`), and in the history as milliseconds
  (`historyMillis`).  Both go through seconds in double precision, whose
  rounding they share with the clock of the system.

  * `calendar` bounds the moments that have a date, in the years 1 to 9999;
  * `timeOfDay` is the time of a stored number of milliseconds.
-/
import SpanQuest.Number.Double
import SpanQuest.Number.Decimal
import SpanQuest.Trouble

namespace SpanQuest

/-- A point in time, in microseconds since the beginning of 1970. -/
structure Moment where
  micros : Int
  deriving DecidableEq, Repr, Inhabited

namespace Moment

/-! ## The calendar -/

/-- The first microsecond of year 1. -/
def first : Int := -62135596800000000

/-- The last microsecond of year 9999. -/
def last : Int := 253402300799999999

/-- The moment has a date. -/
def calendar (t : Moment) : Bool :=
  first ≤ t.micros && t.micros ≤ last

/-- The moment a number of seconds before; both have to have a date. -/
def before (t : Moment) (seconds : Nat) : Except Fault Moment :=
  let u : Moment := ⟨t.micros - 1000000 * seconds⟩
  if t.calendar && u.calendar then .ok u else .error .dateRange

/-! ## What others are told -/

/-- Whole milliseconds of a number of seconds in double precision. -/
def millisOf (seconds : Double) : Int :=
  ((seconds.scale 1000).truncate?).getD 0

/-- The moment as the search wants it: whole milliseconds, in microseconds. -/
def searchMicros (t : Moment) : Int :=
  millisOf (Double.ofRatio (t.micros < 0) t.micros.natAbs 1000000) * 1000

/-- The moment as the history keeps it: whole milliseconds. -/
def historyMillis (t : Moment) : Int :=
  millisOf ((Double.ofInt t.micros).divide 1000000)

/-! ## The time of day -/

/-- A number below a hundred in two digits. -/
def twoDigits (n : Nat) : String :=
  let ds := decimalDigits n
  String.ofList (if ds.length < 2 then '0' :: ds else ds)

/-- The whole seconds below a number of milliseconds, in double precision; none
    if they are beyond every double. -/
def secondsBelow? (millis : Int) : Option Int :=
  let x := Double.ofRatio (millis < 0) millis.natAbs 1000
  x.truncate?.map fun n => if millis < 0 && !x.isWhole then n - 1 else n

/-- The hours, minutes and seconds of a number of milliseconds since the
    beginning of 1970.  There are none before the second day of year 1 and after
    year 9999, nor where the seconds or the years cannot be counted. -/
def timeOfDay (millis : Int) : Except Fault String :=
  match secondsBelow? millis with
  | none => .error .secondsRange
  | some seconds =>
    if seconds < -9223372036854775808 || 9223372036854775808 ≤ seconds then .error .secondsRange
    else if seconds < -67768040609740800 || 67768036191676799 < seconds then .error .calendarRange
    else if seconds < -62135596800 + 86400 || 253402300799 < seconds then .error .yearRange
    else
      let s := (Int.fmod seconds 86400).toNat
      .ok s!"{twoDigits (s / 3600)}:{twoDigits (s / 60 % 60)}:{twoDigits (s % 60)}"

end Moment

end SpanQuest
