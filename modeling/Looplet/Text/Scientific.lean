import Looplet.Text.Decimal

/-!
# Real numbers in decimal

A decimal number is read as the nearest number with a fixed number of binary digits (`Precision`),
and written with a given number of places. All steps are exact but the two that round, and a tie
goes to the even neighbour (`rounded`).
-/

namespace Looplet.Text

/-- A number that is not negative, as a quotient. -/
structure Ratio where
  num : Nat
  den : Nat
  deriving DecidableEq

/-- A number with a sign, or one of those that are no quotient. -/
inductive Real where
  | finite (negative : Bool) (value : Ratio)
  | infinite (negative : Bool)
  | undefined (negative : Bool)
  deriving DecidableEq

/-- How many binary digits numbers have, the least exponent of the last of them, and a bound on the
exponent of the first. -/
structure Precision where
  digits : Nat
  leastExponent : Int
  bound : Int

/-- Numbers with 53 binary digits. -/
def Precision.double : Precision := ⟨53, -1074, 1024⟩

/-- Numbers with 64 binary digits. -/
def Precision.extended : Precision := ⟨64, -16445, 16384⟩

/-- The integer nearest to a quotient. -/
def rounded (r : Ratio) : Nat :=
  let q := r.num / r.den
  let double := 2 * (r.num % r.den)
  if double < r.den || (double = r.den && q % 2 = 0) then q else q + 1

namespace Ratio

/-- A quotient times a power of a base. -/
def scaled (r : Ratio) (base : Nat) (exponent : Int) : Ratio :=
  if 0 ≤ exponent then ⟨r.num * Nat.pow base exponent.toNat, r.den⟩
  else ⟨r.num, r.den * Nat.pow base exponent.natAbs⟩

/-- The exponent of the last binary digit of a quotient at a precision. -/
def binaryExponent (f : Precision) (r : Ratio) : Int :=
  let guess := Int.ofNat r.num.log2 - Int.ofNat r.den.log2 - (Int.ofNat f.digits - 1)
  let whole := r.scaled 2 (-guess)
  let exponent :=
    if whole.num / whole.den < Nat.shiftLeft 1 (f.digits - 1) then guess - 1 else guess
  max exponent f.leastExponent

/-- The nearest number of a precision, or nothing if it is too large. -/
def nearest? (f : Precision) (r : Ratio) : Option Ratio :=
  if r.num = 0 then some ⟨0, 1⟩
  else
    let exponent := r.binaryExponent f
    let m := rounded (r.scaled 2 (-exponent))
    if f.bound ≤ Int.ofNat m.log2 + exponent then none
    else some ((⟨m, 1⟩ : Ratio).scaled 2 exponent)

/-- The exponent of the first decimal digit of a quotient. -/
def decimalExponent (r : Ratio) : Int :=
  if r.num = 0 then 0
  else
    let guess := Int.ofNat (Nat.repr r.num).length - Int.ofNat (Nat.repr r.den).length
    let whole := r.scaled 10 (-guess)
    if whole.num < whole.den then guess - 1 else guess

end Ratio

/-! ## Writing -/

/-- Digits with a point before the last of them. -/
def withPoint (places : Nat) (keepPoint : Bool) (digits : String) : String :=
  let cs := digits.toList
  let cs := List.replicate (places + 1 - cs.length) '0' ++ cs
  let whole := cs.take (cs.length - places)
  String.ofList (whole ++ (if 0 < places || keepPoint then ['.'] else []) ++ cs.drop whole.length)

/-- A number with a fixed number of places. -/
def fixedText (places : Nat) (keepPoint : Bool) (r : Ratio) : String :=
  withPoint places keepPoint (Nat.repr (rounded (r.scaled 10 places)))

/-- A number rounded to one digit before the point and some after it: its digits and the exponent
of the first one. -/
def roundedDigits (places : Nat) (r : Ratio) : Nat × Int :=
  let exponent := r.decimalExponent
  let n := rounded (r.scaled 10 (places - exponent))
  if Nat.pow 10 (places + 1) ≤ n then (n / 10, exponent + 1) else (n, exponent)

/-- An exponent with a sign and at least two digits. -/
def exponentText (e : Int) : String :=
  let digits := Nat.repr e.natAbs
  (if e < 0 then "-" else "+") ++ (if digits.length < 2 then "0" ++ digits else digits)

/-- A number with one digit before the point, and an exponent. -/
def scientificText (places : Nat) (keepPoint : Bool) (r : Ratio) : String :=
  let (n, exponent) := roundedDigits places r
  withPoint places keepPoint (Nat.repr n) ++ "e" ++ exponentText exponent

/-- Digits without the zeros after the point at their end. -/
def withoutZeros (s : String) : String :=
  if s.toList.contains '.' then
    let cs := s.toList.reverse.dropWhile (· = '0')
    String.ofList (cs.dropWhile (· = '.')).reverse
  else s

/-- A number with some digits, with an exponent only where that is shorter. A number that fills all
the digits before the point, and is rounded up to one more, has no digits after the point: its zeros
are those that were before the point. -/
def generalText (digits : Nat) (keepZeros : Bool) (r : Ratio) : String :=
  let digits := max digits 1
  let (_, exponent) := roundedDigits (digits - 1) r
  if -4 ≤ exponent && exponent < digits then
    let s := fixedText (Int.ofNat digits - 1 - exponent).toNat keepZeros r
    if keepZeros then s else withoutZeros s
  else
    let (n, exponent) := roundedDigits (digits - 1) r
    let s := if exponent = digits && r.decimalExponent < digits then withPoint 0 keepZeros "1"
      else withPoint (digits - 1) keepZeros (Nat.repr n)
    (if keepZeros then s else withoutZeros s) ++ "e" ++ exponentText exponent

/-- A number of a precision in base sixteen, with a binary exponent. Without places it has as many
as it needs. -/
def hexadecimalText (f : Precision) (places? : Option Nat) (keepPoint : Bool) (r : Ratio) :
    String :=
  let width := (f.digits - 1) / 4
  let exponent := r.binaryExponent f
  let m := rounded (r.scaled 2 (-exponent))
  let places := min (places?.getD width) width
  let n := rounded ⟨m, Nat.shiftLeft 1 (4 * (width - places))⟩
  let digits := Nat.toDigits 16 n
  let digits := List.replicate (places + 1 - digits.length) '0' ++ digits
  let whole := digits.take (digits.length - places)
  let carried := whole.length - 1
  let fraction := digits.drop (digits.length - places)
  let fraction := match places? with
    | none => (fraction.reverse.dropWhile (· = '0')).reverse
    | some k => fraction ++ List.replicate (k - width) '0'
  let exponent := if r.num = 0 then 0 else exponent + 4 * Int.ofNat (width + carried)
  let point := if fraction.isEmpty && !keepPoint then [] else ['.']
  "0x" ++ String.ofList (whole.take 1 ++ point ++ fraction)
    ++ "p" ++ (if exponent < 0 then "-" else "+") ++ Nat.repr exponent.natAbs

/-! ## Reading -/

/-- How large an exponent is read. -/
def exponentLimit : Nat := 20000

/-- An exponent at the start of a text, and what follows it. -/
def leadingExponent (cs : List Char) : Int × List Char :=
  match cs with
  | e :: rest =>
    if e = 'e' || e = 'E' then
      let (negative, body) := match rest with
        | '-' :: ds => (true, ds)
        | '+' :: ds => (false, ds)
        | ds => (false, ds)
      let digits := body.takeWhile Char.isDigit
      if digits.isEmpty then (0, cs)
      else
        let n := Int.ofNat (min (digitsValue digits) exponentLimit)
        (if negative then -n else n, body.drop digits.length)
    else (0, cs)
  | [] => (0, [])

/-- The number without sign at the start of a text, and what follows it. -/
def leadingRatio? (cs : List Char) : Option (Ratio × List Char) :=
  let whole := cs.takeWhile Char.isDigit
  let rest := cs.drop whole.length
  let places := match rest with
    | '.' :: ds => ds.takeWhile Char.isDigit
    | _ => []
  if whole.isEmpty && places.isEmpty then none
  else
    let rest := match rest with
      | '.' :: ds => ds.drop places.length
      | _ => rest
    let (exponent, rest) := leadingExponent rest
    some ((⟨digitsValue (whole ++ places), 1⟩ : Ratio).scaled 10 (exponent - places.length), rest)

/-- The digits in base sixteen at the start of a text. -/
def hexDigits (cs : List Char) : List Char :=
  cs.takeWhile fun c => c.isDigit || ('a' ≤ c.toLower && c.toLower ≤ 'f')

/-- The value of a digit in base sixteen. -/
def hexDigit (c : Char) : Nat :=
  if c.isDigit then c.toNat - '0'.toNat else c.toLower.toNat - 'a'.toNat + 10

/-- The number in base sixteen at the start of a text, after its mark, and what follows it. -/
def leadingHexadecimal? (cs : List Char) : Option (Ratio × List Char) :=
  let whole := hexDigits cs
  let rest := cs.drop whole.length
  let places := match rest with
    | '.' :: ds => hexDigits ds
    | _ => []
  if whole.isEmpty && places.isEmpty then none
  else
    let rest := match rest with
      | '.' :: ds => ds.drop places.length
      | _ => rest
    let (exponent, rest) := match rest with
      | p :: more => if p = 'p' || p = 'P' then leadingExponent ('e' :: more) else (0, rest)
      | [] => (0, [])
    let rest := match rest with
      | 'e' :: more => 'p' :: more
      | _ => rest
    let value := (whole ++ places).foldl (fun n c => 16 * n + hexDigit c) 0
    some ((⟨value, 1⟩ : Ratio).scaled 2 (exponent - 4 * Int.ofNat places.length), rest)

/-- The number without sign at the start of a text, in any base, and what follows it. -/
def leadingNumeral? (cs : List Char) : Option (Ratio × List Char) :=
  match cs with
  | '0' :: x :: rest =>
    if x = 'x' || x = 'X' then (leadingHexadecimal? rest).orElse fun _ => leadingRatio? cs
    else leadingRatio? cs
  | _ => leadingRatio? cs

/-- Whether the nearest number to a quotient has all its digits, or is that quotient. -/
def Precision.isSafe (f : Precision) (r near : Ratio) : Bool :=
  r.num * near.den = near.num * r.den
    || 0 ≤ ((near.scaled 2 (-f.leastExponent)).num / (near.scaled 2 (-f.leastExponent)).den).log2
        + 1 - Int.ofNat f.digits

/-- What follows a word in any case at the start of a text. -/
def afterWord? (word : String) (cs : List Char) : Option (List Char) :=
  if (cs.take word.length).map Char.toLower = word.toList then some (cs.drop word.length) else none

/-- The number of a precision at the start of a text, what follows it, and whether it is in
range. -/
def leadingReal? (f : Precision) (cs : List Char) : Option (Real × List Char × Bool) :=
  let (negative, body) := match cs with
    | '-' :: ds => (true, ds)
    | '+' :: ds => (false, ds)
    | ds => (false, ds)
  match afterWord? "infinity" body, afterWord? "inf" body, afterWord? "nan" body with
  | some rest, _, _ => some (.infinite negative, rest, true)
  | none, some rest, _ => some (.infinite negative, rest, true)
  | none, none, some rest => some (.undefined negative, rest, true)
  | none, none, none => do
    let (r, rest) ← leadingNumeral? body
    match r.nearest? f with
    | some near => some (.finite negative near, rest, f.isSafe r near)
    | none => some (.infinite negative, rest, false)

end Looplet.Text
