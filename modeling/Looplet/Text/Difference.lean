import Looplet.Text.Lines

/-!
# Differences between texts

Two rows of lines differ by the lines that are left out of the first and those that are put into the
second. As few as possible are: the search goes from both ends at once, by the number of changes
(`Search.run`), and divides the rows where the two ways meet. Lines that the other row does not have
are left out before. At last, changes are moved together where they can be (`joined`).

A way is known by how far it has come on each diagonal, that is, on each difference between the
places in the two rows.
-/

namespace Looplet.Text.Difference

/-- A part of two rows. -/
structure Window where
  first : Nat
  firstEnd : Nat
  second : Nat
  secondEnd : Nat

/-- Leaves out what is the same at the start. -/
def pastStart (same : Nat → Nat → Bool) : Nat → Window → Window
  | 0, w => w
  | fuel + 1, w =>
    if w.first < w.firstEnd && w.second < w.secondEnd && same w.first w.second then
      pastStart same fuel { w with first := w.first + 1, second := w.second + 1 }
    else w

/-- Leaves out what is the same at the end. -/
def beforeEnd (same : Nat → Nat → Bool) : Nat → Window → Window
  | 0, w => w
  | fuel + 1, w =>
    if w.first < w.firstEnd && w.second < w.secondEnd
        && same (w.firstEnd - 1) (w.secondEnd - 1) then
      beforeEnd same fuel { w with firstEnd := w.firstEnd - 1, secondEnd := w.secondEnd - 1 }
    else w

/-- How far one of the two ways has come: the diagonals that it has reached, and the place in the
first row on each of them. -/
structure Front where
  low : Int
  high : Int
  reach : Array Int

/-- Two ways through a window. Diagonals are counted from `shift`. -/
structure Search where
  window : Window
  shift : Int
  forward : Front
  backward : Front

/-- A number that no place reaches. -/
def far : Int := 1000000000

/-- The place on a diagonal. -/
def Front.at (f : Front) (shift d : Int) : Int := (f.reach[(d + shift).toNat]?).getD 0

/-- Sets the place on a diagonal. -/
def Front.put (f : Front) (shift d x : Int) : Front :=
  { f with reach := f.reach.modify (d + shift).toNat fun _ => x }

/-- Goes to the diagonals on both sides, as far as there are any. `outside` is the place of those
that have not been reached. -/
def Front.widened (f : Front) (shift least most outside : Int) : Front :=
  let f := if least < f.low then
      { f.put shift (f.low - 2) outside with low := f.low - 1 }
    else { f with low := f.low + 1 }
  if f.high < most then { f.put shift (f.high + 2) outside with high := f.high + 1 }
  else { f with high := f.high - 1 }

/-- Every second diagonal of a front, the highest first. -/
def Front.diagonals (f : Front) : List Int :=
  (List.range ((f.high - f.low).toNat / 2 + 1)).map fun (k : Nat) => f.high - 2 * Int.ofNat k

/-- Goes forward on a diagonal as long as the rows are the same. -/
def slideOn (same : Nat → Nat → Bool) (w : Window) : Nat → Int → Int → Int
  | 0, x, _ => x
  | fuel + 1, x, d =>
    let y := x - d
    if x < w.firstEnd && y < w.secondEnd && 0 ≤ y && same x.toNat y.toNat then
      slideOn same w fuel (x + 1) d
    else x

/-- Goes back on a diagonal as long as the rows are the same. -/
def slideBack (same : Nat → Nat → Bool) (w : Window) : Nat → Int → Int → Int
  | 0, x, _ => x
  | fuel + 1, x, d =>
    let y := x - d
    if w.first < x && w.second < y && same (x - 1).toNat (y - 1).toNat then
      slideBack same w fuel (x - 1) d
    else x

/-- The way forward goes on by one change. Gives where it meets the way back, if it does. -/
def Search.goOn (same : Nat → Nat → Bool) (s : Search) (odd : Bool) :
    List Int → Front → Front × Option (Nat × Nat)
  | [], f => (f, none)
  | d :: rest, f =>
    let low := f.at s.shift (d - 1)
    let high := f.at s.shift (d + 1)
    let start := if low < high then high else low + 1
    let x := slideOn same s.window (s.window.firstEnd + 1) start d
    let f := f.put s.shift d x
    if odd && s.backward.low ≤ d && d ≤ s.backward.high && s.backward.at s.shift d ≤ x then
      (f, some (x.toNat, (x - d).toNat))
    else Search.goOn same s odd rest f

/-- The way back goes on by one change. Gives where it meets the way forward, if it does. -/
def Search.goBack (same : Nat → Nat → Bool) (s : Search) (odd : Bool) :
    List Int → Front → Front × Option (Nat × Nat)
  | [], f => (f, none)
  | d :: rest, f =>
    let low := f.at s.shift (d - 1)
    let high := f.at s.shift (d + 1)
    let start := if low < high then low else high - 1
    let x := slideBack same s.window (s.window.firstEnd + 1) start d
    let f := f.put s.shift d x
    if !odd && s.forward.low ≤ d && d ≤ s.forward.high && x ≤ s.forward.at s.shift d then
      (f, some (x.toNat, (x - d).toNat))
    else Search.goBack same s odd rest f

/-- Goes on from both ends until the ways meet. -/
def Search.run (same : Nat → Nat → Bool) (odd : Bool) : Nat → Search → Nat × Nat
  | 0, s => (s.window.first, s.window.second)
  | fuel + 1, s =>
    let least := Int.ofNat s.window.first - Int.ofNat s.window.secondEnd
    let most := Int.ofNat s.window.firstEnd - Int.ofNat s.window.second
    let forward := s.forward.widened s.shift least most (-1)
    match s.goOn same odd forward.diagonals forward with
    | (_, some place) => place
    | (forward, none) =>
      let s := { s with forward := forward }
      let backward := s.backward.widened s.shift least most far
      match s.goBack same odd backward.diagonals backward with
      | (_, some place) => place
      | (backward, none) => Search.run same odd fuel { s with backward := backward }

/-- Where a shortest row of changes can be divided. -/
def middle (same : Nat → Nat → Bool) (w : Window) : Nat × Nat :=
  let shift := Int.ofNat w.secondEnd + 2
  let size := w.firstEnd + w.secondEnd + 6
  let start := Int.ofNat w.first - Int.ofNat w.second
  let stop := Int.ofNat w.firstEnd - Int.ofNat w.secondEnd
  let front (d x : Int) : Front := (⟨d, d, Array.replicate size 0⟩ : Front).put shift d x
  let s : Search :=
    ⟨w, shift, front start (Int.ofNat w.first), front stop (Int.ofNat w.firstEnd)⟩
  s.run same ((start - stop) % 2 ≠ 0) size

/-- The places that are only in the first row, and those that are only in the second. -/
def changes (same : Nat → Nat → Bool) : Nat → Window → List Nat × List Nat
  | 0, _ => ([], [])
  | fuel + 1, w =>
    let w := beforeEnd same w.firstEnd (pastStart same w.firstEnd w)
    let between (low high : Nat) : List Nat := (List.range (high - low)).map (low + ·)
    if w.first = w.firstEnd then ([], between w.second w.secondEnd)
    else if w.second = w.secondEnd then (between w.first w.firstEnd, [])
    else
      let (x, y) := middle same w
      let (a, b) := changes same fuel { w with firstEnd := x, secondEnd := y }
      let (c, d) := changes same fuel { w with first := x, second := y }
      (a ++ c, b ++ d)

/-! ## Moving changes -/

/-- Whether a line is changed. -/
def isChanged (marks : Array Bool) (i : Int) : Bool := 0 ≤ i && (marks[i.toNat]?).getD false

/-- Sets whether a line is changed. -/
def mark (marks : Array Bool) (i : Nat) (b : Bool) : Array Bool := marks.modify i fun _ => b

/-- A run of changed lines in one row, up to `stop`, and the place in the other row that goes with
its end. `meeting?` is the last end at which the other row has changes too. -/
structure Mover where
  marks : Array Bool
  start : Nat
  stop : Nat
  other : Int
  meeting? : Option Nat

/-- The first place from one on that is not changed. -/
def firstPlain (marks : Array Bool) : Nat → Nat → Nat
  | 0, i => i
  | fuel + 1, i => if isChanged marks i then firstPlain marks fuel (i + 1) else i

/-- The start of the changed lines that end before a place. -/
def runStart (marks : Array Bool) : Nat → Nat → Nat
  | 0, i => i
  | fuel + 1, i =>
    if 0 < i && isChanged marks (Int.ofNat i - 1) then runStart marks fuel (i - 1) else i

/-- The last place before one that is not changed. -/
def lastPlain (marks : Array Bool) : Nat → Int → Int
  | 0, j => j
  | fuel + 1, j => if isChanged marks j then lastPlain marks fuel (j - 1) else j

/-- Moves changed lines back as far as that is possible. -/
def Mover.back (same : Nat → Nat → Bool) (others : Array Bool) : Nat → Mover → Mover
  | 0, m => m
  | fuel + 1, m =>
    if 0 < m.start && same (m.start - 1) (m.stop - 1) then
      let marks := mark (mark m.marks (m.start - 1) true) (m.stop - 1) false
      back same others fuel { m with
        marks := marks,
        start := runStart marks m.start (m.start - 1),
        stop := m.stop - 1,
        other := lastPlain others (others.size + 1) (m.other - 1) }
    else m

/-- Moves changed lines forward as far as that is possible. -/
def Mover.onward (same : Nat → Nat → Bool) (others : Array Bool) : Nat → Mover → Mover
  | 0, m => m
  | fuel + 1, m =>
    if m.stop < m.marks.size && same m.start m.stop then
      let marks := mark (mark m.marks m.start false) m.stop true
      let stop := firstPlain marks marks.size (m.stop + 1)
      let next := (m.other + 1).toNat
      let other := firstPlain others others.size next
      onward same others fuel { m with
        marks := marks, start := m.start + 1, stop := stop, other := Int.ofNat other,
        meeting? := if next < other then some stop else m.meeting? }
    else m

/-- Moves changed lines to and fro until they do not grow any more. -/
def Mover.settle (same : Nat → Nat → Bool) (others : Array Bool) : Nat → Mover → Mover
  | 0, m => m
  | fuel + 1, m =>
    let length := m.stop - m.start
    let m := m.back same others (m.marks.size + 1)
    let m := { m with meeting? := if isChanged others (m.other - 1) then some m.stop else none }
    let m := m.onward same others (m.marks.size + 1)
    if m.stop - m.start = length then m else settle same others fuel m

/-- Moves changed lines back to where the other row has changes too. -/
def Mover.meet (others : Array Bool) : Nat → Mover → Mover
  | 0, m => m
  | fuel + 1, m =>
    match m.meeting? with
    | some place =>
      if place < m.stop then
        meet others fuel { m with
          marks := mark (mark m.marks (m.start - 1) true) (m.stop - 1) false,
          start := m.start - 1, stop := m.stop - 1,
          other := lastPlain others (others.size + 1) (m.other - 1) }
      else m
    | none => m

/-- Goes past lines that are not changed. Gives the next line that is, and the place in the other
row. -/
def nextRun (marks others : Array Bool) : Nat → Nat → Nat → Nat × Nat
  | 0, i, j => (i, j)
  | fuel + 1, i, j =>
    if i < marks.size && !isChanged marks i then
      nextRun marks others fuel (i + 1) (firstPlain others others.size j + 1)
    else (i, j)

/-- Moves all changed lines of one row together where that is possible. -/
def joined (same : Nat → Nat → Bool) (others : Array Bool) :
    Nat → Nat → Nat → Array Bool → Array Bool
  | 0, _, _, marks => marks
  | fuel + 1, i, j, marks =>
    let (i, j) := nextRun marks others (marks.size + 1) i j
    if marks.size ≤ i then marks
    else
      let stop := firstPlain marks marks.size (i + 1)
      let m : Mover := ⟨marks, i, stop, Int.ofNat (firstPlain others others.size j), none⟩
      let m := (m.settle same others (marks.size + 1)).meet others (marks.size + 1)
      joined same others fuel m.stop m.other.toNat m.marks

/-! ## Hunks -/

/-- Lines of the first row, from a place on, that stand against lines of the second. -/
structure Hunk where
  first : Nat
  removed : Nat
  second : Nat
  added : Nat

/-- The changes of two rows as hunks. -/
def hunks (marks others : Array Bool) : Nat → Nat → Nat → List Hunk
  | 0, _, _ => []
  | fuel + 1, i, j =>
    if isChanged marks i || isChanged others j then
      let iEnd := firstPlain marks marks.size i
      let jEnd := firstPlain others others.size j
      ⟨i, iEnd - i, j, jEnd - j⟩ :: hunks marks others fuel iEnd jEnd
    else if i < marks.size && j < others.size then hunks marks others fuel (i + 1) (j + 1)
    else []

/-- A hunk in rows that have more lines before it. -/
def Hunk.after (h : Hunk) (lines : Nat) : Hunk :=
  { h with first := h.first + lines, second := h.second + lines }

/-- The places of lines that the other row has too. -/
def sharedPlaces (row others : Array String) : Array Nat :=
  (List.range row.size).toArray.filter fun k => others.contains (row.getD k "")

/-- The marks of a row: the lines that only it has are changed, and of the others those at some of
the places that are shared. -/
def marksOf (row : Array String) (kept : Array Nat) (out : List Nat) : Array Bool :=
  let matched := kept.toList.foldl (fun m k => mark m k false) (Array.replicate row.size true)
  out.foldl (fun m k => mark m (kept.getD k row.size) true) matched

/-- How two rows differ that start and end differently. -/
def betweenRows (a b : Array String) : List Hunk :=
  let size := a.size + b.size + 2
  -- Only lines that both rows have can stand against each other.
  let xs := sharedPlaces a b
  let ys := sharedPlaces b a
  let same (x y : Nat) : Bool := a[xs.getD x a.size]? == b[ys.getD y b.size]?
  let (gone, new) := changes same size ⟨0, xs.size, 0, ys.size⟩
  let aMarks := marksOf a xs gone
  let bMarks := marksOf b ys new
  let aMarks := joined (fun x y => a[x]? == a[y]?) bMarks size 0 0 aMarks
  let bMarks := joined (fun x y => b[x]? == b[y]?) aMarks size 0 0 bMarks
  hunks aMarks bMarks (size + 1) 0 0

/-- How two rows of lines differ. What is the same at their start and end is left alone, but for
some lines around what differs. -/
def between (around : Nat) (a b : Array String) : List Hunk :=
  let same (x y : Nat) : Bool := a[x]? == b[y]?
  let size := a.size + b.size
  let w := beforeEnd same size (pastStart same size ⟨0, a.size, 0, b.size⟩)
  let first := w.first - around
  let inner (row : Array String) (stop : Nat) : Array String := row.extract first (stop + around)
  (betweenRows (inner a w.firstEnd) (inner b w.secondEnd)).map fun h => h.after first

end Looplet.Text.Difference
