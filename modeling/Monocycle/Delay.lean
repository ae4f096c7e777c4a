import Monocycle.Value.Real

/-!
# Delays

A run waits between two steps for a number of seconds. Only a clock that counts nanoseconds can
wait, and it counts in signed words of 64 bits: it refuses what is negative, what is no number, and
what is too much for a word. How long it waits otherwise makes no difference to a run.

A delay in milliseconds is divided by a thousand first. The quotient is the nearest double; an
integer whose quotient is beyond the doubles comes to no delay at all.

## Main definitions

* `Delay`, `Delay.ofMilliseconds?`, `Delay.ofRealMilliseconds`: how long to wait.
* `Delay.refusal?`: why the clock refuses a delay.
-/

namespace Monocycle

/-- **Delay** between two steps, in seconds. -/
inductive Delay where
  /-- A whole number of seconds. -/
  | whole (seconds : Int)
  | real (seconds : Real64)
  deriving DecidableEq, Repr

/-- A numeral is a whole number of seconds. -/
instance {n : Nat} : OfNat Delay n := ⟨.whole n⟩

/-- Why the clock refuses a delay. -/
inductive DelayError where
  /-- The delay is negative. -/
  | negative
  /-- The delay is not a number. -/
  | notANumber
  /-- The delay has more nanoseconds than fit into a word. -/
  | outOfRange
  /-- So has a whole number of seconds. -/
  | wholeOutOfRange
  deriving DecidableEq, Repr

/-- The wording of a delay error. -/
def DelayError.message : DelayError → String
  | negative => "sleep length must be non-negative"
  | notANumber => "Invalid value NaN (not a number)"
  | outOfRange => "timestamp out of range for platform time_t"
  | wholeOutOfRange => "timestamp too large to convert to C _PyTime_t"

namespace Delay

/-- The nanoseconds in a second. -/
def nanosecondsPerSecond : Nat := 1000000000

/-- The least number of nanoseconds that is too much for a word of the clock, `2 ^ 63`. -/
def clockEnd : Int := 0x8000000000000000

/-- Whether a number of nanoseconds fits into a word of the clock. -/
def fitsClock (nanoseconds : Int) : Bool :=
  -clockEnd ≤ nanoseconds && nanoseconds < clockEnd

/-- The wording of the error that the seconds of a delay are beyond the doubles. -/
def tooLongMessage : String := "integer division result too large for a float"

/-- The delay of an integer number of milliseconds, if its seconds are not beyond the doubles. -/
def ofMilliseconds? (ms : Int) : Option Delay :=
  match Real64.ofQuotient (ms < 0) ms.natAbs 1000 with
  | .infinite _ => none
  | seconds => some (.real seconds)

/-- The delay of a number of milliseconds. -/
def ofRealMilliseconds (ms : Real64) : Delay :=
  .real (ms.scaled 1 1000)

/-- The nanoseconds of a delay, a fraction counting as one more. -/
def nanoseconds : Delay → Except DelayError Int
  | whole seconds =>
    let ns := seconds * nanosecondsPerSecond
    if fitsClock ns then .ok ns else .error .wholeOutOfRange
  | real .notANumber => .error .notANumber
  | real seconds =>
    match (seconds.scaled nanosecondsPerSecond 1).awayFromZero? with
    | some ns => if fitsClock ns then .ok ns else .error .outOfRange
    | none => .error .outOfRange

/-- **Why the clock refuses a delay**, if it does. A delay of zero is not waited for, and nobody
would refuse it. -/
def refusal? (d : Delay) : Option DelayError :=
  match d.nanoseconds with
  | .error e => some e
  | .ok ns => if ns < 0 then some .negative else none

theorem refusal?_zero : refusal? 0 = none := rfl

end Delay

end Monocycle
