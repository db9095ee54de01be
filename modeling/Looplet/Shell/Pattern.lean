import Looplet.Text.Bytes
import Looplet.Text.CharSet

/-!
# Patterns

A pattern is matched against a whole text: `*` stands for any text, `?` for any character, and
brackets for one character of a set. A quoted character stands for itself, so the characters of a
pattern carry a mark that tells which are quoted. Some shells also know groups: alternatives in
parentheses, with a sign before them that tells how often they may stand there.
-/

namespace Looplet.Shell

open Text (Member classNames)

/-- A character and whether it is quoted. -/
abbrev Marked := Char × Bool

/-- How often one of some alternatives stands in a text: at most once, any number of times, at least
once, once, or not at all. -/
inductive Occurrence where
  | maybe
  | any
  | several
  | once
  | never
  deriving DecidableEq

/-- A part of a pattern. -/
inductive Atom where
  | anyText
  | anyChar
  | char (char : Char)
  | set (negated : Bool) (members : List Member)
  | group (occurrence : Occurrence) (choices : List (List Atom))

/-- Which patterns a shell knows: whether a caret negates a set too, and whether there are groups.
-/
structure Dialect where
  caret : Bool
  groups : Bool
  deriving DecidableEq

/-- The patterns that every shell knows. -/
def Dialect.standard : Dialect := ⟨false, false⟩

namespace Pattern

/-! ## Reading -/

/-- The name of a class and what follows it, after `[:`. -/
def className? (cs : List Marked) : Option (String × List Marked) :=
  let name := (cs.takeWhile fun m => m.1.isAlpha).map Prod.fst
  match cs.drop name.length with
  | (':', _) :: (']', _) :: rest =>
    if String.ofList name ∈ classNames then some (String.ofList name, rest) else none
  | _ => none

/-- Reads the members of a set up to its closing bracket, which cannot come first. Gives nothing if
there is none. -/
def members? (first : Bool) : Nat → List Marked → Option (List Member × List Marked)
  | 0, _ => none
  | _ + 1, [] => none
  | fuel + 1, (c, quoted) :: rest =>
    if c = ']' && !quoted && !first then some ([], rest)
    else
      let named := match rest with
        | (':', _) :: more => if c = '[' && !quoted then className? more else none
        | _ => none
      match named with
      | some (name, more) =>
        (members? false fuel more).map fun (ms, after) => (.named name :: ms, after)
      | none =>
        match rest with
        | ('-', false) :: (d, q) :: more =>
          if d = ']' && !q then
            (members? false fuel rest).map fun (ms, after) => (.range c c :: ms, after)
          else (members? false fuel more).map fun (ms, after) => (.range c d :: ms, after)
        | _ => (members? false fuel rest).map fun (ms, after) => (.range c c :: ms, after)

/-- Reads a set, after its opening bracket. -/
def set? (caret : Bool) (cs : List Marked) : Option (Atom × List Marked) :=
  let (negated, body) := match cs with
    | ('!', false) :: rest => (true, rest)
    | ('^', false) :: rest => if caret then (true, rest) else (false, cs)
    | _ => (false, cs)
  (members? true (body.length + 1) body).map fun (ms, rest) => (.set negated ms, rest)

/-- The alternatives up to the parenthesis that closes those at hand, and what follows it. -/
def choices? (depth : Nat) (current : List Marked) :
    List Marked → Option (List (List Marked) × List Marked)
  | [] => none
  | (')', false) :: rest =>
    if depth = 0 then some ([current.reverse], rest)
    else choices? (depth - 1) ((')', false) :: current) rest
  | ('(', false) :: rest => choices? (depth + 1) (('(', false) :: current) rest
  | ('|', false) :: rest =>
    if depth = 0 then (choices? 0 [] rest).map fun (cs, after) => (current.reverse :: cs, after)
    else choices? depth (('|', false) :: current) rest
  | m :: rest => choices? depth (m :: current) rest

/-- How often alternatives stand in a text, by the sign before them. -/
def occurrence? : Char → Option Occurrence
  | '?' => some .maybe
  | '*' => some .any
  | '+' => some .several
  | '@' => some .once
  | '!' => some .never
  | _ => none

/-- The group at the start of a pattern, and what follows it. -/
def group? (d : Dialect) (cs : List Marked) :
    Option (Occurrence × List (List Marked) × List Marked) :=
  match cs with
  | (c, false) :: ('(', false) :: rest =>
    if d.groups then do
      let occurrence ← occurrence? c
      let (choices, after) ← choices? 0 [] rest
      some (occurrence, choices, after)
    else none
  | _ => none

/-- Reads a pattern. -/
def atoms (d : Dialect) : Nat → List Marked → List Atom
  | 0, _ => []
  | _ + 1, [] => []
  | fuel + 1, (c, true) :: rest => .char c :: atoms d fuel rest
  | fuel + 1, (c, false) :: rest =>
    match group? d ((c, false) :: rest) with
    | some (occurrence, choices, after) =>
      .group occurrence (choices.map (atoms d fuel)) :: atoms d fuel after
    | none =>
      if c = '*' then .anyText :: atoms d fuel rest
      else if c = '?' then .anyChar :: atoms d fuel rest
      else if c = '[' then
        match set? d.caret rest with
        | some (a, after) => a :: atoms d fuel after
        | none => .char c :: atoms d fuel rest
      else .char c :: atoms d fuel rest

/-- Reads a whole pattern. -/
def ofMarked (d : Dialect) (cs : List Marked) : List Atom := atoms d (cs.length + 1) cs

/-- Whether a pattern can stand for more than one text. -/
def isWild (d : Dialect) (cs : List Marked) : Bool :=
  (ofMarked d cs).any fun
    | .char _ => false
    | _ => true

/-- The characters of a pattern in a code of several bytes or not. -/
def wideMarked (utf8 : Bool) (cs : List Marked) : List Marked :=
  if !utf8 || cs.all fun m => m.1.toNat < 0x80 then cs
  else
    let step (left : List Marked × List Marked) (c : Char) : List Marked × List Marked :=
      let size := (Text.narrow utf8 [c]).length
      (left.1 ++ [(c, (left.2.head?.map Prod.snd).getD false)], left.2.drop size)
    ((Text.wide utf8 (String.ofList (cs.map Prod.fst))).foldl step ([], cs)).1

/-! ## Matching -/

/-- A text and all of its ends. -/
def ends : List Char → List (List Char)
  | [] => [[]]
  | c :: cs => (c :: cs) :: ends cs

/-- Whether a pattern stands for a start of a text such that `rest` holds of what is left. -/
def matchesThen : Nat → List Atom → List Char → (List Char → Bool) → Bool
  | 0, _, _, _ => false
  | _ + 1, [], cs, rest => rest cs
  | fuel + 1, .anyText :: more, cs, rest =>
    if more.isEmpty && rest [] then true
    else (ends cs).any fun left => matchesThen fuel more left rest
  | fuel + 1, .group occurrence choices :: more, cs, rest =>
    let after (left : List Char) : Bool := matchesThen fuel more left rest
    let one (next : List Char → Bool) : Bool :=
      choices.any fun choice => matchesThen fuel choice cs next
    let again (left : List Char) : Bool :=
      left.length < cs.length && matchesThen fuel (.group .any choices :: more) left rest
    match occurrence with
    | .once => one after
    | .maybe => after cs || one after
    | .any => after cs || one again
    | .several => one fun left => after left || again left
    | .never =>
      (ends cs).any fun left =>
        let start := cs.take (cs.length - left.length)
        !(choices.any fun choice => matchesThen fuel choice start List.isEmpty) && after left
  | _ + 1, _ :: _, [], _ => false
  | fuel + 1, .anyChar :: more, _ :: cs, rest => matchesThen fuel more cs rest
  | fuel + 1, .char a :: more, c :: cs, rest => a == c && matchesThen fuel more cs rest
  | fuel + 1, .set negated ms :: more, c :: cs, rest =>
    (ms.any (Member.holds c) != negated) && matchesThen fuel more cs rest

/-- Whether a part of a pattern has groups. -/
def isGroup : Atom → Bool
  | .group _ _ => true
  | _ => false

/-- Whether a pattern stands for a text. Without groups every part is looked at once. -/
def matchesAll (pattern : List Atom) (cs : List Char) : Bool :=
  let fuel := if pattern.any isGroup then 64 * (pattern.length + cs.length + 2)
    else pattern.length + 1
  matchesThen fuel pattern cs List.isEmpty

/-- A text without the shortest or longest start or end that a pattern stands for. -/
def trim (atEnd longest : Bool) (pattern : List Atom) (cs : List Char) : List Char :=
  let splits := List.range (cs.length + 1)
  let splits := if atEnd = longest then splits else splits.reverse
  let hit := splits.find? fun n =>
    matchesAll pattern (if atEnd then cs.drop n else cs.take n)
  match hit with
  | some n => if atEnd then cs.take n else cs.drop n
  | none => cs

/-- The longest start of a text that a pattern stands for. -/
def longestStart? (pattern : List Atom) (cs : List Char) : Option Nat :=
  (List.range (cs.length + 1)).reverse.find? fun n => matchesAll pattern (cs.take n)

/-- A text in which what a pattern stands for is replaced, everywhere or only once. -/
def substituted (pattern : List Atom) (new : List Char → List Char) (all : Bool) :
    Nat → List Char → List Char
  | 0, cs => cs
  | _ + 1, [] => []
  | fuel + 1, c :: cs =>
    match longestStart? pattern (c :: cs) with
    | some (n + 1) =>
      let found := (c :: cs).take (n + 1)
      let rest := (c :: cs).drop (n + 1)
      new found ++ if all then substituted pattern new all fuel rest else rest
    | _ => c :: substituted pattern new all fuel cs

end Pattern

end Looplet.Shell
