import Looplet.Text.Scientific

/-!
# Binary numbers

A number with 53 binary digits has 64 bits: a sign, eleven bits for its exponent and 52 for its
digits. `Real.ofFloat` gives its exact value, and `Real.toFloat` the number with a value that has no
more digits than that.
-/

namespace Looplet.Text

/-- A number of 64 bits with a sign. -/
def signedBits (negative : Bool) (bits : Nat) : Float :=
  let x := Float.ofBits (UInt64.ofNat bits)
  if negative then -x else x

/-- The number of 64 bits with a value. -/
def Real.toFloat : Real → Float
  | .finite negative r =>
    if r.num = 0 then signedBits negative 0
    else
      let exponent := r.binaryExponent .double
      let m := rounded (r.scaled 2 (-exponent))
      let bits := if m < Nat.shiftLeft 1 52 then m
        else Nat.shiftLeft (exponent + 1075).toNat 52 + (m - Nat.shiftLeft 1 52)
      signedBits negative bits
  | .infinite negative => signedBits negative (Nat.shiftLeft 2047 52)
  | .undefined _ => 0.0 / 0.0

/-- The value of a number of 64 bits. -/
def Real.ofFloat (x : Float) : Real :=
  let bits := x.toBits.toNat
  let negative := Nat.shiftRight bits 63 = 1
  let exponent := Nat.shiftRight bits 52 % 2048
  let digits := bits % Nat.shiftLeft 1 52
  if exponent = 2047 then
    if digits = 0 then .infinite negative else .undefined true
  else if exponent = 0 then .finite negative ((⟨digits, 1⟩ : Ratio).scaled 2 (-1074))
  else
    .finite negative
      ((⟨Nat.shiftLeft 1 52 + digits, 1⟩ : Ratio).scaled 2 (Int.ofNat exponent - 1075))

/-- The integer part of a number, if it has one. -/
def Real.truncated? : Real → Option Int
  | .finite negative r =>
    let n := Int.ofNat (r.num / r.den)
    some (if negative then -n else n)
  | _ => none

/-- The integer that a number is, if it is one. -/
def Real.integer? (x : Real) : Option Int :=
  match x with
  | .finite _ r => if r.num % r.den = 0 then x.truncated? else none
  | _ => none

end Looplet.Text
