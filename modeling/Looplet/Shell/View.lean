import Looplet.Shell.Paths
import Looplet.Shell.Quoting
import Looplet.Shell.Reader

/-!
# What parameters stand for

A parameter stands for one text or for several (`View`). This module also has what can be done with
texts: parts of them, other letters, quotes around them, and how a variable is declared.
-/

namespace Looplet.Shell

/-- What a parameter stands for. Several texts may be joined when they are quoted, and may be found
by keys. -/
inductive View where
  | one (value? : Option String)
  | several (joined : Bool) (items : List (String × String))

namespace View

/-- The texts of a view. -/
def values : View → List String
  | one value? => value?.toList
  | several _ items => items.map Prod.snd

/-- A view whose texts are not joined. -/
def apart : View → View
  | one value? => one value?
  | several _ items => several false items

/-- Whether a view has several texts. -/
def isSeveral : View → Bool
  | one _ => false
  | several _ _ => true

end View

/-! ## Parameters -/

/-- The options that are set, by their letters. -/
def Process.optionLetters (p : Process) : String :=
  if p.extended then
    String.ofList ("abefhkmnptuvxBCEHPTcs".toList.filter fun c => c ∈ p.options)
  else String.ofList ("pubaCEVvxsnmiIfe".toList.filter fun c => c ∈ p.options)

/-- The value of a parameter that is a single text. -/
def Process.parameter? (p : Process) (name : String) : Option String :=
  match name with
  | "#" => some (Nat.repr p.args.length)
  | "?" => some (Nat.repr p.status)
  | "$" => some (Nat.repr p.shellId)
  | "!" => p.background?.map Nat.repr
  | "-" => some p.optionLetters
  | _ =>
    match Text.natural? name.toList with
    | some 0 => some p.name
    | some (n + 1) => p.args[n]?
    | none => p.value? name

/-- What a parameter without a subscript stands for. -/
def Process.plainView (p : Process) (name : String) : View :=
  let items := p.args.zipIdx.map fun (a, i) => (Nat.repr (i + 1), a)
  match name with
  | "@" => .several false items
  | "*" => .several true items
  | _ => .one (p.parameter? name)

/-- The names of the variables that start with a text. -/
def Process.namesWith (p : Process) (start : String) : List String :=
  sorted ((p.bindings.filter fun v => start.toList.isPrefixOf v.name.toList).map Variable.name)

/-- What stands between arguments that are joined. -/
def Process.joint (p : Process) (star : Bool) : String :=
  if star then
    match p.value? "IFS" with
    | none => " "
    | some s => String.ofList (s.toList.take 1)
  else " "

/-! ## Parts of texts -/

/-- The range of places from an offset on, up to a length, in something of a size. A negative offset
counts from the end, and a negative length leaves out that much of the end. -/
def rangeOf (size : Nat) (offset : Int) (length? : Option Int) : Int × Int :=
  let start := if offset < 0 then Int.ofNat size + offset else offset
  let stop := match length? with
    | some n => if n < 0 then Int.ofNat size + n else start + n
    | none => Int.ofNat size
  (start, stop)

/-- The part of a text from an offset on, up to a length. -/
def sliceOf (cs : List Char) (offset : Int) (length? : Option Int) : List Char :=
  let (start, stop) := rangeOf cs.length offset length?
  if start < 0 then [] else (cs.take stop.toNat).drop start.toNat

/-- The texts from an offset on, up to a number of them. The offset of texts that are found by
numbers is a number. Other texts are counted from one, and there is at least one of them. -/
def sliceItems (byNumber : Bool) (items : List (String × String)) (offset : Int)
    (length? : Option Int) : List (String × String) :=
  let numberOf (item : String × String) : Nat := Table.orderOf .numbers item.1
  let size := if byNumber then items.foldl (fun n item => max n (numberOf item + 1)) 0
    else items.length + 1
  let start := if offset < 0 then Int.ofNat size + offset else offset
  let rest := if start < 0 then []
    else if byNumber then items.dropWhile fun item => Int.ofNat (numberOf item) < start
    else items.drop (start.toNat - 1)
  match length? with
  | some n => rest.take (if byNumber then n.toNat else max 1 n.toNat)
  | none => rest

/-! ## Letters -/

/-- A letter with its other form: a capital one with a small one. -/
def letterPairs : List (Nat × Nat × Nat × Nat) :=
  [(0x41, 0x5a, 32, 1), (0xc0, 0xd6, 32, 1), (0xd8, 0xde, 32, 1), (0x100, 0x12e, 1, 2),
    (0x132, 0x136, 1, 2), (0x139, 0x147, 1, 2), (0x14a, 0x176, 1, 2), (0x179, 0x17d, 1, 2),
    (0x391, 0x3a1, 32, 1), (0x3a3, 0x3a9, 32, 1), (0x410, 0x42f, 32, 1), (0x400, 0x40f, 80, 1)]

/-- The small letter of a capital one. -/
def smallLetter (c : Char) : Char :=
  let n := c.toNat
  match letterPairs.find? fun (first, last, _, step) =>
      first ≤ n && n ≤ last && (n - first) % step = 0 with
  | some (_, _, gap, _) => Char.ofNat (n + gap)
  | none => c

/-- The capital letter of a small one. -/
def capitalLetter (c : Char) : Char :=
  let n := c.toNat
  match letterPairs.find? fun (first, last, gap, step) =>
      first + gap ≤ n && n ≤ last + gap && (n - gap - first) % step = 0 with
  | some (_, _, gap, _) => Char.ofNat (n - gap)
  | none => c

/-- A letter after a change. -/
def changedLetter (change : CaseChange) (c : Char) : Char :=
  match change with
  | .upper => capitalLetter c
  | .lower => smallLetter c
  | .turned => if smallLetter c ≠ c then smallLetter c else capitalLetter c

/-- Changes the letters of a text, or only the first, that a pattern stands for. -/
def changedCase (change : CaseChange) (all : Bool) (pattern : List Atom) (cs : List Char) :
    List Char :=
  let each (c : Char) : Char :=
    if pattern.isEmpty || Pattern.matchesAll pattern [c] then changedLetter change c else c
  match cs with
  | [] => []
  | c :: rest => each c :: if all then rest.map each else rest

/-! ## Declarations -/

/-- The letters of what a variable is marked with. -/
def Variable.flags (v : Variable) : String :=
  let mark (b : Bool) (s : String) : String := if b then s else ""
  mark (v.table?.any fun t => t.keys = .numbers) "a"
    ++ mark (v.table?.any fun t => t.keys = .texts) "A" ++ mark v.integer "i"
    ++ mark v.reference "n" ++ mark v.readOnly "r" ++ mark v.exported "x"
    ++ mark (v.letters? = some .turned) "c" ++ mark (v.letters? = some .lower) "l"
    ++ mark (v.letters? = some .upper) "u"

/-- The key of a value in a table as it is shown. -/
def shownKey (utf8 : Bool) (keys : Keys) (key : String) : String :=
  match keys with
  | .numbers => key
  | .texts =>
    if Quoting.hasHidden utf8 key then Quoting.escaped utf8 key
    else if Quoting.hasMeta none key.toList || key = "@" || key = "*" then Quoting.double key
    else key

/-- A table between parentheses. -/
def Table.shown (utf8 : Bool) (t : Table) : String :=
  let each (item : String × String) : String :=
    "[" ++ shownKey utf8 t.keys item.1 ++ "]=" ++ Quoting.declared utf8 item.2
  let items := t.items.map each
  let ends := if t.keys = .texts && !items.isEmpty then " " else ""
  "(" ++ " ".intercalate items ++ ends ++ ")"

/-- How a variable is declared. -/
def Variable.declaration (utf8 : Bool) (v : Variable) : String :=
  let flags := if v.flags = "" then "-" else v.flags
  "declare -" ++ flags ++ " " ++ v.name ++
    match v.table?, v.text? with
    | some t, _ => if v.declaredOnly then "" else "=" ++ t.shown utf8
    | none, some s => "=" ++ Quoting.declared utf8 s
    | none, none => ""

/-- A variable in a list of variables. -/
def Variable.listing (utf8 : Bool) (v : Variable) : String :=
  v.name ++ "=" ++
    match v.table?, v.text? with
    | some t, _ => t.shown utf8
    | none, some s => Quoting.listed utf8 s
    | none, none => ""

/-- Takes all escapes out of a text. -/
def escapesRead (s : String) : String :=
  let step : Reader String := do
    match ← Reader.nextRaw with
    | some '\\' => dollarEscape
    | some c => return c.toString
    | none => return ""
  let rec all : Nat → Input → String
    | 0, _ => ""
    | fuel + 1, input =>
      if input.chars.isEmpty then ""
      else
        match step.run input with
        | .ok (t, rest) => t ++ all fuel rest
        | .error _ => ""
  all (s.length + 1) (Input.ofText s 1 true false [])

end Looplet.Shell
