/-!
# Durations

A duration is a whole number of milliseconds. Its text takes the largest of the units second,
millisecond and nanosecond that is not above it, with the fraction that is left and no trailing
zeros.
-/
namespace CredentialWatch

structure Duration where
  millis : Nat
  deriving DecidableEq, Repr

namespace Duration

/-- The digits of a fraction in thousandths without trailing zeros, behind a point. -/
def fraction (thousandths : Nat) : String :=
  if thousandths = 0 then ""
  else if thousandths % 100 = 0 then s!".{thousandths / 100}"
  else if thousandths % 10 = 0 then
    s!".{thousandths / 100}{thousandths / 10 % 10}"
  else s!".{thousandths / 100}{thousandths / 10 % 10}{thousandths % 10}"

/-- The text of a duration, such as `1.5s`, `7ms` or `0ns`. -/
def text (duration : Duration) : String :=
  if 1000 ≤ duration.millis then
    s!"{duration.millis / 1000}" ++ fraction (duration.millis % 1000) ++ "s"
  else if duration.millis = 0 then "0ns"
  else s!"{duration.millis}ms"

end Duration

end CredentialWatch
