import Cadence.Calendar.Date
/-!
Months of the representable calendar: their lengths, their first and last days,
stepping a year and month by a number of months, and picking a day of a month
counted from either end.
-/
namespace Cadence

/-- Length of a month whose first day and whose successor's first day are both
representable; `none` otherwise. -/
def daysInMonth (y : Int) (m : Nat) : Option Nat := do
  let _ ← Date.ofYmd? y m 1
  let next : Int × Nat := if m = 12 then (y + 1, 1) else (y, m + 1)
  let _ ← Date.ofYmd? next.1 next.2 1
  pure (monthLength y m)

/-- The first day of a month. -/
def firstOfMonth (y : Int) (m : Nat) : Option Date :=
  Date.ofYmd? y m 1

/-- The last day of a month whose length is known. -/
def lastOfMonth (y : Int) (m : Nat) : Option Date := do
  let len ← daysInMonth y m
  Date.ofYmd? y m len

/-- The smallest value of a signed 64-bit month index. -/
def monthIndexMin : Int := -9223372036854775808
/-- The largest value of a signed 64-bit month index. -/
def monthIndexMax : Int := 9223372036854775807
/-- The smallest year of a signed 32-bit year. -/
def yearWordMin : Int := -2147483648
/-- The largest year of a signed 32-bit year. -/
def yearWordMax : Int := 2147483647

/-- Moves a year and month, any month number, by `k` months on the index `12 * year + month - 1`,
which must be a signed 64-bit value with a signed 32-bit year. -/
def advanceMonth (y : Int) (m : Nat) (k : Int) : Option (Int × Nat) :=
  let index : Int := 12 * y + ((m : Int) - 1) + k
  if monthIndexMin ≤ index ∧ index ≤ monthIndexMax then
    let year := index / 12
    if yearWordMin ≤ year ∧ year ≤ yearWordMax then
      some (year, (index % 12).toNat + 1)
    else none
  else none

/-- The same day `k` months later, or the last day of a shorter month; `k` and the month index of
the result must be signed 32-bit values. -/
def Date.addMonths? (d : Date) (k : Nat) : Option Date :=
  if k = 0 then some d
  else if (k : Int) > yearWordMax then none
  else
    let index : Int := 12 * d.year + ((d.month : Int) - 1) + k
    if index > yearWordMax then none
    else
      let y := index / 12
      let m := (index % 12).toNat + 1
      Date.ofYmd? y m (min d.day (monthLength y m))

/-- Day `day` of a month, where a negative day counts back from the end
(`-1` is the last day). Zero and days beyond the month give `none`. -/
def selectMonthDay (y : Int) (m : Nat) (day : Int) : Option Date := do
  let len ← daysInMonth y m
  let resolved : Int := if day < 0 then (len : Int) + 1 + day else day
  if resolved < 1 ∨ resolved > len then none
  else Date.ofYmd? y m resolved.toNat

end Cadence
