import Looplet.Shell.Syntax
import Looplet.Text.Decimal

/-!
# Braces

A word with braces stands for several words: one for each of the choices between commas, or one for
each member of a range such as `1..5`. Quoted braces stand for themselves.
-/

namespace Looplet.Shell

/-- A part of a word for the search of braces: a character outside quotes, or anything else. -/
inductive Part where
  | char (char : Char)
  | piece (piece : Piece)

namespace Braces

/-- The parts of a word. -/
def partsOf (w : Word) : List Part :=
  w.flatMap fun
    | .text false s => s.toList.map Part.char
    | piece => [.piece piece]

/-- The word of parts. -/
def wordOf (parts : List Part) : Word :=
  parts.foldl (fun w part =>
    match part, w.getLast? with
    | .char c, some (.text false s) => w.dropLast ++ [.text false (s.push c)]
    | .char c, some (.param false (.plain name) (.value true)) =>
      w.dropLast ++ (if isNameChar c then [.param false (.plain (name.push c)) (.value true)]
        else [.param false (.plain name) (.value true), .text false c.toString])
    | .char c, _ => w ++ [.text false c.toString]
    | .piece piece, _ => w ++ [piece]) []

/-- Whether text begins with the sign of a range, which a closing brace does not follow. -/
def startsRange : List Part → Bool
  | .char '.' :: .char '.' :: .char '\x7d' :: _ => false
  | .char '.' :: .char '.' :: _ => true
  | _ => false

/-- The choices up to the brace that closes those at hand, and what follows it. A brace closes only
after a comma or the sign of a range, which `divided` tells of. -/
def choices? (depth : Nat) (divided : Bool) (current : List Part) :
    List Part → Option (List (List Part) × List Part)
  | [] => none
  | .char '\x7d' :: rest =>
    if depth = 0 && divided then some ([current.reverse], rest)
    else choices? (depth - 1) divided (.char '\x7d' :: current) rest
  | .char '\x7b' :: rest => choices? (depth + 1) divided (.char '\x7b' :: current) rest
  | .char ',' :: rest =>
    if depth = 0 then
      (choices? 0 true [] rest).map fun (cs, after) => (current.reverse :: cs, after)
    else choices? depth divided (.char ',' :: current) rest
  | part :: rest =>
    choices? depth (divided || (depth = 0 && startsRange (part :: rest))) (part :: current) rest

/-- The numbers from one to another in steps of a size. -/
def numbersBetween (first last : Int) (step : Nat) : List Int :=
  let size := max 1 step
  let sign : Int := if first ≤ last then 1 else -1
  (List.range ((last - first).natAbs / size + 1)).map fun i => first + sign * Int.ofNat (i * size)

/-- Whether a number is written with zeros before it. -/
def isPadded (s : String) : Bool :=
  match s.toList with
  | '0' :: _ :: _ => true
  | '-' :: '0' :: _ :: _ => true
  | _ => false

/-- A number with zeros before it, up to a width. -/
def padded (width : Nat) (n : Int) : String :=
  let digits := Nat.repr n.natAbs
  let sign := if n < 0 then "-" else ""
  sign ++ String.ofList (List.replicate (width - sign.length - digits.length) '0') ++ digits

/-- The words from one end of a range to the other: numbers, or single letters. A backslash between
letters leaves an empty word. -/
def members? (first last : String) (step : Nat) : Option (List String) :=
  match Text.signed? first.toList, Text.signed? last.toList with
  | some a, some b =>
    let width := if isPadded first || isPadded last then max first.length last.length else 0
    some ((numbersBetween a b step).map (padded width))
  | _, _ =>
    match first.toList, last.toList with
    | [a], [b] =>
      if a.isAlpha && b.isAlpha then
        some ((numbersBetween (Int.ofNat a.toNat) (Int.ofNat b.toNat) step).map fun n =>
          if Char.ofNat n.toNat = '\\' then "" else (Char.ofNat n.toNat).toString)
      else none
    | _, _ => none

/-- What parts of the form `1..3` or `1..9..2` stand for. -/
def rangeOf? (parts : List Part) : Option (List (List Part)) := do
  let s ← plain? (wordOf parts)
  let members ← match s.splitOn ".." with
    | [first, last] => members? first last 1
    | [first, last, step] => do members? first last (← Text.signed? step.toList).natAbs
    | _ => none
  some (members.map fun m => m.toList.map Part.char)

/-- Whether parts hold a comma outside quotes. -/
def hasComma (parts : List Part) : Bool :=
  parts.any fun
    | .char ',' => true
    | _ => false

/-- Whether a closing brace stands first. -/
def closesAtOnce : List Part → Bool
  | .char '\x7d' :: _ => true
  | _ => false

/-- The words that a text with braces stands for. Empty braces at its start are text. -/
def expanded : Nat → Bool → List Part → List (List Part)
  | 0, _, parts => [parts]
  | _ + 1, _, [] => [[]]
  | fuel + 1, atStart, .char '\x7b' :: rest =>
    match if atStart && closesAtOnce rest then none else choices? 0 false [] rest with
    | some (cs, after) =>
      let starts := match cs with
        | [only] =>
          if hasComma only then expanded fuel true only
          else (rangeOf? only).getD [Part.char '\x7b' :: only ++ [Part.char '\x7d']]
        | _ => cs.flatMap (expanded fuel true)
      let ends := expanded fuel true after
      starts.flatMap fun start => ends.map (start ++ ·)
    | none => (expanded fuel false rest).map (.char '\x7b' :: ·)
  | fuel + 1, _, part :: rest => (expanded fuel false rest).map (part :: ·)

/-- Whether a word may stand for several. -/
def mayExpand (w : Word) : Bool :=
  w.any fun
    | .text false s => s.toList.contains '\x7b'
    | _ => false

end Braces

/-- The words that a word stands for before anything in it is expanded. -/
def bracedWords (w : Word) : List Word :=
  if Braces.mayExpand w then
    let parts := Braces.partsOf w
    (Braces.expanded (parts.length + 1) true parts).map Braces.wordOf
  else [w]

end Looplet.Shell
