import QueryGate.Text.Integer

/-!
# Instants

A point in time is kept as the number of milliseconds since the beginning of 1970 and shown as a
date and a time of day, in the form `2024-03-01T12:30:45.678Z`.
-/

namespace QueryGate

open Text

/-- Milliseconds since the beginning of 1970. -/
abbrev Instant := Nat

namespace Instant

/-- Year, month and day of a day that is counted from the beginning of 1970. The count is moved to a
year that begins in March, so that the leap day comes last, and to a cycle of 400 years. -/
def dateOfDay (days : Nat) : Nat × Nat × Nat :=
  let shifted := days + 719468
  let cycle := shifted / 146097
  let inCycle := shifted % 146097
  let year := (inCycle - inCycle / 1460 + inCycle / 36524 - inCycle / 146096) / 365
  let inYear := inCycle - (365 * year + year / 4 - year / 100)
  let month := (5 * inYear + 2) / 153
  let day := inYear - (153 * month + 2) / 5 + 1
  if month < 10 then (400 * cycle + year, month + 3, day)
  else (400 * cycle + year + 1, month - 9, day)

/-- The instant as it is shown. -/
def text (t : Instant) : List Char :=
  let (year, month, day) := dateOfDay (t / 86400000)
  let inDay := t % 86400000
  padded 4 year ++ '-' :: padded 2 month ++ '-' :: padded 2 day ++
    'T' :: padded 2 (inDay / 3600000) ++ ':' :: padded 2 (inDay / 60000 % 60) ++
    ':' :: padded 2 (inDay / 1000 % 60) ++ '.' :: padded 3 (inDay % 1000) ++ ['Z']

end Instant

end QueryGate
