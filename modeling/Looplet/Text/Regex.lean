import Looplet.Text.CharSet

/-!
# Regular expressions

A regular expression stands for parts of a text. Of all parts that it can stand for, `search` finds
the one that starts first, and of those the longest one. Groups remember what they stand for, and a
reference stands for what a group has found.

A match is built from spots: a spot is a place in the text with what the groups have found so far.
`Regex.ends` gives the spots where a match that starts at a spot can end, the furthest first. Spots
at one place count only once, unless references tell them apart.
-/

namespace Looplet.Text

/-- A regular expression. -/
inductive Regex where
  | empty
  | char (char : Char)
  | any
  | set (negated : Bool) (members : List Member)
  | start
  | stop
  | wordStart
  | wordStop
  | wordEdge
  | noWordEdge
  | group (index : Nat) (body : Regex)
  | reference (index : Nat)
  | both (first second : Regex)
  | either (first second : Regex)
  | repeated (body : Regex) (least : Nat) (most? : Option Nat)
  deriving DecidableEq

/-- Where a group was found. -/
structure Capture where
  group : Nat
  first : Nat
  last : Nat
  deriving DecidableEq

/-- A place in a text and what groups have found. -/
structure Spot where
  place : Nat
  captures : List Capture
  deriving DecidableEq

/-- A text to search, and how. -/
structure Subject where
  chars : Array Char
  /-- Whether capital letters and small ones are the same. -/
  ignoreCase : Bool
  /-- Whether lines inside the text have starts and ends of their own. -/
  byLines : Bool
  /-- Whether the start of the text counts as the start of a line. -/
  fromStart : Bool
  /-- Whether the expression has references, so that what groups have found matters. -/
  tellsApart : Bool

namespace Regex

/-- Whether an expression has references. -/
def hasReferences : Regex → Bool
  | reference _ => true
  | group _ r => r.hasReferences
  | both a b => a.hasReferences || b.hasReferences
  | either a b => a.hasReferences || b.hasReferences
  | repeated r _ _ => r.hasReferences
  | _ => false

/-- How many groups an expression has. -/
def groupCount : Regex → Nat
  | group i r => max i r.groupCount
  | both a b => max a.groupCount b.groupCount
  | either a b => max a.groupCount b.groupCount
  | repeated r _ _ => r.groupCount
  | _ => 0

/-! ## Spots -/

/-- Adds a spot to some that are ordered, the furthest first, unless there is one like it. -/
def addSpot (tellsApart : Bool) (s : Spot) : List Spot → List Spot
  | [] => [s]
  | t :: rest =>
    if t.place < s.place then s :: t :: rest
    else if t.place = s.place && (!tellsApart || t.captures = s.captures) then t :: rest
    else t :: addSpot tellsApart s rest

/-- Spots in order, each of them once. -/
def tidy (tellsApart : Bool) (spots : List Spot) : List Spot :=
  spots.foldl (fun kept s => addSpot tellsApart s kept) []

/-- Whether two characters are the same. -/
def sameChar (ignoreCase : Bool) (a b : Char) : Bool :=
  a = b || (ignoreCase && a.toLower = b.toLower)

/-- Whether a character is in a set. -/
def inSet (ignoreCase negated : Bool) (members : List Member) (c : Char) : Bool :=
  let isMember (d : Char) : Bool := members.any (Member.holds d)
  (isMember c || (ignoreCase && (isMember c.toLower || isMember c.toUpper))) != negated

/-- Goes on by one character, if it is a good one. -/
def oneChar (t : Subject) (good : Char → Bool) (s : Spot) : List Spot :=
  match t.chars[s.place]? with
  | some c => if good c then [{ s with place := s.place + 1 }] else []
  | none => []

/-- Whether the character before a place belongs to a word. -/
def wordBefore (t : Subject) (place : Nat) : Bool :=
  match place with
  | 0 => false
  | n + 1 => (t.chars[n]?).any isWordChar

/-- Whether the character at a place belongs to a word. -/
def wordAt (t : Subject) (place : Nat) : Bool := (t.chars[place]?).any isWordChar

/-- Whether a line starts at a place. -/
def startsLine (t : Subject) (place : Nat) : Bool :=
  match place with
  | 0 => t.fromStart
  | n + 1 => t.byLines && t.chars[n]? = some '\n'

/-- Whether a line ends at a place. -/
def endsLine (t : Subject) (place : Nat) : Bool :=
  place = t.chars.size || (t.byLines && t.chars[place]? = some '\n')

/-- Whether a part of a text stands at a place. -/
def repeatsAt (t : Subject) (first place : Nat) : Nat → Bool
  | 0 => true
  | n + 1 =>
    match t.chars[first]?, t.chars[place]? with
    | some a, some b => sameChar t.ignoreCase a b && repeatsAt t (first + 1) (place + 1) n
    | _, _ => false

/-- Stays at a spot if something holds there. -/
def stayIf (b : Bool) (s : Spot) : List Spot := if b then [s] else []

/-- Goes on from spots again and again, at most a number of times. Gives the spots that are reached
after at least `least` times. A step that does not go on is not repeated. -/
def rounds (tellsApart : Bool) (step : Spot → List Spot) (most? : Option Nat) :
    Nat → Nat → List Spot → List Spot → List Spot
  | 0, _, reached, _ => reached
  | fuel + 1, least, reached, front =>
    if most? = some 0 || front.isEmpty then reached
    else
      let next := tidy tellsApart (front.flatMap fun s =>
        (step s).filter fun n => n.place ≠ s.place || 0 < least)
      let fresh := if least ≤ 1 then
          next.filter fun n => !reached.any fun r =>
            r.place = n.place && (!tellsApart || r.captures = n.captures)
        else next
      let reached := if least ≤ 1 then
          fresh.foldl (fun kept s => addSpot tellsApart s kept) reached
        else reached
      rounds tellsApart step (most?.map (· - 1)) fuel (least - 1) reached fresh

/-- The spots where a match that starts at a spot can end. -/
def ends (t : Subject) : Regex → Spot → List Spot
  | empty, s => [s]
  | char c, s => oneChar t (sameChar t.ignoreCase c) s
  | any, s => oneChar t (fun c => !(t.byLines && c = '\n')) s
  | set negated members, s => oneChar t (inSet t.ignoreCase negated members) s
  | start, s => stayIf (startsLine t s.place) s
  | stop, s => stayIf (endsLine t s.place) s
  | wordStart, s => stayIf (!wordBefore t s.place && wordAt t s.place) s
  | wordStop, s => stayIf (wordBefore t s.place && !wordAt t s.place) s
  | wordEdge, s => stayIf (wordBefore t s.place != wordAt t s.place) s
  | noWordEdge, s => stayIf (wordBefore t s.place == wordAt t s.place) s
  | group i r, s =>
    (ends t r s).map fun e =>
      { e with captures := ⟨i, s.place, e.place⟩ :: e.captures.filter fun c => c.group ≠ i }
  | reference i, s =>
    match s.captures.find? fun c => c.group = i with
    | some c =>
      if repeatsAt t c.first s.place (c.last - c.first) then
        [{ s with place := s.place + (c.last - c.first) }]
      else []
    | none => []
  | both a b, s => tidy t.tellsApart ((ends t a s).flatMap (ends t b))
  | either a b, s => tidy t.tellsApart (ends t a s ++ ends t b s)
  | repeated r least most?, s =>
    rounds t.tellsApart (ends t r) most? (t.chars.size + least + 1) least
      (if least = 0 then [s] else []) [s]

/-! ## Searching -/

/-- What was found in a text: where it starts and ends, and where its groups do. -/
structure Match where
  first : Nat
  last : Nat
  captures : List Capture

/-- The longest match that starts at a place. -/
def matchAt? (r : Regex) (t : Subject) (place : Nat) : Option Match :=
  (ends t r ⟨place, []⟩).head?.map fun s => ⟨place, s.place, s.captures⟩

/-- The first match from a place on, among a number of places. -/
def searchFrom? (r : Regex) (t : Subject) : Nat → Nat → Option Match
  | 0, _ => none
  | fuel + 1, place =>
    match r.matchAt? t place with
    | some m => some m
    | none => searchFrom? r t fuel (place + 1)

/-- A text to search for an expression. -/
def subject (r : Regex) (ignoreCase byLines : Bool) (chars : Array Char) : Subject :=
  ⟨chars, ignoreCase, byLines, true, r.hasReferences⟩

/-- The first and longest match from a place on. -/
def search? (r : Regex) (t : Subject) (place : Nat) : Option Match :=
  searchFrom? r t (t.chars.size + 1 - place) place

/-- The part of a text that a group found. -/
def Match.group? (m : Match) (t : Subject) (i : Nat) : Option (List Char) :=
  if i = 0 then some (t.chars.extract m.first m.last).toList
  else (m.captures.find? fun c => c.group = i).map fun c => (t.chars.extract c.first c.last).toList

end Regex

end Looplet.Text
