/-!
# Decimal numbers

`digitsValue` is the value of a run of digits. `natural?`, `signed?` and `word?` read a whole text:
a plain number, one with an optional sign, and one that must fit in a signed 64-bit word.
-/

namespace Looplet.Text

/-- The value of a decimal digit. -/
def digitValue (c : Char) : Nat :=
  c.toNat - '0'.toNat

/-- The value of a run of decimal digits, most significant first. -/
def digitsValue (cs : List Char) : Nat :=
  cs.foldl (fun n c => 10 * n + digitValue c) 0

/-- One or more digits. -/
def natural? (cs : List Char) : Option Nat :=
  if cs ≠ [] ∧ cs.all Char.isDigit then some (digitsValue cs) else none

/-- An optional plus sign, then one or more digits. -/
def unsigned? : List Char → Option Nat
  | '+' :: cs => natural? cs
  | cs => natural? cs

/-- An optional sign, then one or more digits. -/
def signed? : List Char → Option Int
  | '+' :: cs => (natural? cs).map Int.ofNat
  | '-' :: cs => (natural? cs).map fun n => -Int.ofNat n
  | cs => (natural? cs).map Int.ofNat

/-- Whether an integer is the value of a signed 64-bit word. -/
def fitsWord (n : Int) : Bool :=
  -9223372036854775808 ≤ n && n ≤ 9223372036854775807

/-- A signed decimal number whose value fits in a word. -/
def word? (cs : List Char) : Option Int64 :=
  match signed? cs with
  | some n => if fitsWord n then some (Int64.ofInt n) else none
  | none => none

/-- A word in decimal, with a minus sign when it is negative. -/
def ofWord (w : Int64) : String :=
  Int.repr w.toInt

/-- The value of a digit in bases up to sixteen. -/
def hexValue? (c : Char) : Option Nat :=
  if c.isDigit then some (c.toNat - '0'.toNat)
  else if 'a' ≤ c && c ≤ 'f' then some (c.toNat - 'a'.toNat + 10)
  else if 'A' ≤ c && c ≤ 'F' then some (c.toNat - 'A'.toNat + 10)
  else none

/-- Whether a character is a digit in a base. -/
def isDigitIn (base : Nat) (c : Char) : Bool :=
  match hexValue? c with
  | some n => n < base
  | none => false

/-- The value of digits in a base. -/
def valueIn (base : Nat) (cs : List Char) : Nat :=
  cs.foldl (fun n c => base * n + (hexValue? c).getD 0) 0

/-! ## Lemmas -/

theorem toInt_ofInt_of_fitsWord {n : Int} (h : fitsWord n = true) : (Int64.ofInt n).toInt = n := by
  simp only [fitsWord, Bool.and_eq_true, decide_eq_true_eq] at h
  exact Int64.toInt_ofInt_of_le (by omega) (by omega)

end Looplet.Text
