/-!
# Names of log files

A log file is named for the moment at which it is begun.
-/

namespace PolyMatrix

/-- A moment of the calendar, to the second. -/
structure Moment where
  year : Nat
  month : Nat
  day : Nat
  hour : Nat
  minute : Nat
  second : Nat
  deriving DecidableEq, Repr

namespace Moment

/-- A number with zeros in front, up to a width. -/
def padded (width number : Nat) : String :=
  let digits := Nat.toDigits 10 number
  String.ofList (List.replicate (width - digits.length) '0' ++ digits)

/-- The name of the log file that is begun at a moment. -/
def logFileName (moment : Moment) : String :=
  "log_" ++ padded 4 moment.year ++ "-" ++ padded 2 moment.month ++ "-" ++
    padded 2 moment.day ++ "_" ++ padded 2 moment.hour ++ "-" ++
    padded 2 moment.minute ++ "-" ++ padded 2 moment.second ++ ".txt"

example : logFileName ⟨2024, 5, 1, 12, 30, 0⟩ = "log_2024-05-01_12-30-00.txt" := by
  decide +kernel

end Moment
end PolyMatrix
