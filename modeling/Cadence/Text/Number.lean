import Cadence.Text.Blank
/-!
Decimal integers of a fixed width: an optional sign, then one or more decimal
digits and nothing else, whose value lies in the range of the width. A plus
sign is accepted; a minus sign only for signed widths.
-/
namespace Cadence.Text

/-- The value of an optional sign and digits, with no range check. -/
def signedValue? (s : String) : Option Int :=
  match s.toList with
  | '+' :: ds => (digitsValue? ds).map Int.ofNat
  | '-' :: ds => (digitsValue? ds).map fun v => -(v : Int)
  | ds => (digitsValue? ds).map Int.ofNat

/-- An unsigned number below `2 ^ bits`, without a minus sign; powers are written `Int.pow` so
that they mean one function whatever instances are in scope. -/
def unsignedOfText? (bits : Nat) (s : String) : Option Nat :=
  match s.toList with
  | '-' :: _ => none
  | _ => (signedValue? s).bind fun v => if v < Int.pow 2 bits then some v.toNat else none

/-- A signed number within `-2 ^ (bits - 1)` to `2 ^ (bits - 1) - 1`. -/
def signedOfText? (bits : Nat) (s : String) : Option Int :=
  (signedValue? s).bind fun v =>
    if -Int.pow 2 (bits - 1) ≤ v ∧ v < Int.pow 2 (bits - 1) then some v else none

end Cadence.Text
