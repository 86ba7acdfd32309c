import LanguageHost.Fault

/-!
# Waiting

The time that is waited for something comes as a value of any kind, in seconds; true and false
count as one and zero. A time is refused if it is no number, or if the clock or a lock cannot reach
so far. A time that is not above zero means not to wait at all, so it is never out of reach.
-/

namespace LanguageHost.Waiting

/-- The nanoseconds that the clock can count. -/
def clockReach : Nat := Nat.pow 2 63 - 1

/-- The seconds that a lock can wait for. -/
def lockReach : Nat := clockReach / 1000000000

/-- A time in microseconds, rounded toward zero; no number and no time below zero takes any. -/
def microseconds : Json → Nat
  | .bool b => if b then 1000000 else 0
  | .int n => n.toNat * 1000000
  | .float x => (x.scale 1000000).truncate.toNat
  | _ => 0

/-- Why a double number of seconds cannot be waited for. -/
def broken? : Binary64 → Option ClockReach
  | .finite false significand exponent =>
    let (num, den) := Binary64.toRatio significand exponent
    if clockReach * den < num * 1000000000 then some .broken
    else if lockReach * den < num then some .lock
    else none
  | .infinite false => some .broken
  | _ => none

/-- Why an answer cannot be waited for, if it has not come yet. -/
def fault? : Json → Option Fault
  | .null | .bool _ => none
  | .int n => if clockReach < n.toNat * 1000000000 then some (.beyondClock .whole) else none
  | .float x => (broken? x).map .beyondClock
  | other => some (.misuse (.noOrder ">" other.kindWord "int"))

/-- Why the end of a process cannot be waited for: the time is added to the time of day. -/
def sumFault? : Json → Option Fault
  | .null | .bool _ | .int _ | .float _ => none
  | other => some (.misuse (.noSum "float" other.kindWord))

end LanguageHost.Waiting
