import Looplet.Utility.Lines

/-!
# Programs on pieces of files

These programs copy blocks of files, divide files into several, and join lines of two files that
have a field in common.
-/

namespace Looplet.Utility

open Shell

/-! ## Copying blocks -/

/-- The factor of a unit after a number. -/
def unitFactor? : List Char → Option Nat
  | [] => some 1
  | ['c'] => some 1
  | ['w'] => some 2
  | ['b'] => some 512
  | ['k'] | ['K'] | ['K', 'i', 'B'] => some 1024
  | ['k', 'B'] | ['K', 'B'] => some 1000
  | ['M'] | ['M', 'i', 'B'] => some 1048576
  | ['M', 'B'] => some 1000000
  | ['G'] | ['G', 'i', 'B'] => some 1073741824
  | ['G', 'B'] => some 1000000000
  | _ => none

/-- A number with a unit. -/
def sizeWithUnit? (s : String) : Option Nat := do
  let digits := s.toList.takeWhile Char.isDigit
  if digits.isEmpty then none
  else
    let factor ← unitFactor? (s.toList.drop digits.length)
    return Text.digitsValue digits * factor

/-- What a copy of blocks is asked for. -/
structure BlockCopy where
  input? : Option String := none
  output? : Option String := none
  inputBlock : Nat := 512
  outputBlock : Nat := 512
  count? : Option Nat := none
  skip : Nat := 0
  seek : Nat := 0
  conversions : List String := []
  status : String := ""

/-- The conversions that are known. -/
def knownConversions : List String :=
  ["ucase", "lcase", "notrunc", "swab", "sync", "noerror", "fsync", "fdatasync", "excl", "nocreat",
    "sparse"]

/-- What is wrong with an argument of a copy of blocks. -/
inductive BlockFault where
  | unknown (arg : String)
  | number (value : String)
  | conversion (value : String)
  | status (value : String)

/-- Reads an argument. -/
def BlockCopy.read (b : BlockCopy) (arg : String) : Except BlockFault BlockCopy :=
  let key := String.ofList (arg.toList.takeWhile (· ≠ '='))
  let value := String.ofList (arg.toList.drop (key.length + 1))
  let number (least : Nat) (f : Nat → BlockCopy) : Except BlockFault BlockCopy :=
    match sizeWithUnit? value with
    | some n => if n < least then .error (.number value) else .ok (f n)
    | none => .error (.number value)
  if !arg.toList.contains '=' then .error (.unknown arg)
  else
    match key with
    | "if" => .ok { b with input? := some value }
    | "of" => .ok { b with output? := some value }
    | "bs" => number 1 fun n => { b with inputBlock := n, outputBlock := n }
    | "ibs" => number 1 fun n => { b with inputBlock := n }
    | "obs" => number 1 fun n => { b with outputBlock := n }
    | "cbs" => number 1 fun _ => b
    | "count" => number 0 fun n => { b with count? := some n }
    | "skip" | "iseek" => number 0 fun n => { b with skip := n }
    | "seek" | "oseek" => number 0 fun n => { b with seek := n }
    | "conv" =>
      let all := value.splitOn ","
      match all.find? fun s => s ∉ knownConversions with
      | some _ => .error (.conversion value)
      | none => .ok { b with conversions := b.conversions ++ all }
    | "status" =>
      if value ∈ ["none", "noxfer", "progress"] then .ok { b with status := value }
      else .error (.status value)
    | "iflag" | "oflag" => .ok b
    | _ => .error (.unknown arg)

/-- Reads all arguments. -/
def BlockCopy.ofArgs (args : List String) : Except BlockFault BlockCopy :=
  args.foldlM BlockCopy.read {}

/-- Every two characters exchanged. -/
def swapped : List Char → List Char
  | a :: b :: rest => b :: a :: swapped rest
  | cs => cs

/-- A text as a copy of blocks changes it. -/
def BlockCopy.converted (b : BlockCopy) (cs : List Char) : List Char :=
  let cs := if "swab" ∈ b.conversions then swapped cs else cs
  let cs := if "ucase" ∈ b.conversions then cs.map Char.toUpper else cs
  if "lcase" ∈ b.conversions then cs.map Char.toLower else cs

/-- How many whole blocks a size has, and how many blocks that are not whole. -/
def recordsText (size block : Nat) : String :=
  Nat.repr (size / block) ++ "+" ++ (if size % block = 0 then "0" else "1")

/-- Writes blocks to a file at an offset. -/
def writeBlocks (b : BlockCopy) (path : String) (text : String) :
    Run (Except SystemError Unit) := do
  let keeps := "notrunc" ∈ b.conversions || 0 < b.seek
  let mode : OpenMode := if keeps then .both else .clobber
  match ← openPath path mode with
  | .error e => return .error e
  | .ok f =>
    let offset := b.seek * b.outputBlock
    let stream := match f.stream with
      | .file node _ append =>
        Stream.file node offset append
      | s => s
    let p ← get
    -- What lies behind the place where writing starts is cut off, unless it is to stay.
    let w := match f.stream with
      | .file node _ _ =>
        match p.world.entryAt? node with
        | some e =>
          if "notrunc" ∈ b.conversions then p.world
          else p.world.putNode node (e.refilled (e.bytes.extract 0 offset))
        | none => p.world
      | _ => p.world
    let (index, w) := w.addOpen ⟨stream, f.readable, true⟩
    match w.write index (Text.toBytes text) with
    | .ok w =>
      set { p with world := w }
      return .ok ()
    | .error e => return .error e

/-- Says how much was copied. -/
def reportCopy (b : BlockCopy) (size : Nat) : Run Unit := do
  if b.status ≠ "none" then
    sayError (recordsText size b.inputBlock ++ " records in\n" ++ recordsText size b.outputBlock
      ++ " records out\n")
    if b.status ≠ "noxfer" then
      sayError (Nat.repr size ++ (if size = 1 then " byte" else " bytes") ++ " copied, 0.0001 s, "
        ++ Nat.repr (size / 100) ++ " kB/s\n")

/-- Copies blocks. -/
def dd : Body := fun name args => do
  let args := args.filter (· ≠ "--")
  match args.find? fun a => a.startsWith "-" with
  | some a =>
    if a.startsWith "--" then return ← misused name ("unrecognized option '" ++ a ++ "'")
    else
      return ← misused name ("invalid option -- '"
        ++ String.ofList ((a.toList.drop 1).take 1) ++ "'")
  | none => pure ()
  match BlockCopy.ofArgs args with
  | .error (.unknown a) => misused name ("unrecognized operand " ++ quoted a)
  | .error (.number v) => refused name ("invalid number: " ++ quoted v)
  | .error (.conversion v) => misused name ("invalid conversion: " ++ (← quote v))
  | .error (.status v) => misused name ("invalid status level: " ++ (← quote v))
  | .ok b =>
    let limit? := b.count?.map fun n => (b.skip + n) * b.inputBlock
    let text ← match b.input? with
      | some path => inputText path
      | none => readFrom 0 fun bytes => min bytes.size (limit?.getD bytes.size)
    match text with
    | .error e =>
      match b.input? with
      | some path =>
        if e = .isDirectory then
          complainAs name ("error reading " ++ quoted path ++ ": " ++ e.reason)
          reportCopy b 0
          return 1
        else refused name ("failed to open " ++ quoted path ++ ": " ++ e.reason)
      | none => refused name ("error reading 'standard input': " ++ e.reason)
    | .ok text =>
      let all := text.toList
      let taken := (all.take (limit?.getD all.length)).drop (b.skip * b.inputBlock)
      let out := String.ofList (b.converted taken)
      match b.output? with
      | none =>
        say out
        reportCopy b out.length
        return 0
      | some path =>
        match ← writeBlocks b path out with
        | .ok () =>
          reportCopy b out.length
          return 0
        | .error .noSpace =>
          complainAs name ("error writing " ++ quoted path ++ ": " ++ SystemError.noSpace.reason)
          reportCopy b 0
          return 1
        | .error e => refused name ("failed to open " ++ quoted path ++ ": " ++ e.reason)

/-! ## Dividing -/

/-- The ending of the name of a part: its number in letters or digits. -/
def partEnding (base length n : Nat) : String :=
  let first := if base = 10 then '0' else 'a'
  let digits := (List.range length).map fun k => n / Nat.pow base k % base
  String.ofList (digits.reverse.map fun d => Char.ofNat (first.toNat + d))

/-- Lists of a given size of the elements of a list. -/
def chunks {α : Type} (size : Nat) : Nat → List α → List (List α)
  | 0, _ => []
  | _ + 1, [] => []
  | fuel + 1, xs => xs.take (max 1 size) :: chunks size fuel (xs.drop (max 1 size))

/-- As many parts of a text as are asked for, of one size but for the last. -/
def evenParts (count : Nat) (cs : List Char) : List (List Char) :=
  let size := cs.length / max 1 count
  (List.range count).map fun k =>
    let rest := cs.drop (k * size)
    if k + 1 = count then rest else rest.take size

/-- Divides a file into several. -/
def split : Body :=
  withOptions "l:b:n:a:d" [("lines", 'l'), ("bytes", 'b'), ("number", 'n'), ("suffix-length", 'a'),
    ("numeric-suffixes", 'd')] fun name c => do
    let path := c.operands.head?.getD "-"
    let start := (c.operands[1]?).getD "x"
    let number (letter : Char) (what : String) : Run (Except Nat (Option Nat)) := do
      match c.value? letter with
      | none => return .ok none
      | some s =>
        match (sizeWithUnit? s).filter (0 < ·) with
        | some n => return .ok (some n)
        | none =>
          return .error (← refused name ("invalid number of " ++ what ++ ": " ++ (← quote s)))
    match ← number 'l' "lines", ← number 'b' "bytes", ← number 'n' "chunks" with
    | .error status, _, _ => return status
    | _, .error status, _ => return status
    | _, _, .error status => return status
    | .ok lines?, .ok bytes?, .ok parts? =>
      match ← inputText path with
      | .error e =>
        refused name ("cannot open " ++ quoted path ++ " for reading: " ++ e.reason)
      | .ok text =>
        let cs := text.toList
        let parts := match parts?, bytes? with
          | some n, _ => evenParts n cs
          | none, some n => chunks n (cs.length + 1) cs
          | none, none =>
            (chunks (lines?.getD 1000) (cs.length + 1) (fullLines cs)).map List.flatten
        let length := ((c.value? 'a').bind fun s => Text.natural? s.toList).getD 2
        let base := if c.has 'd' then 10 else 26
        for (part, n) in parts.zip (List.range parts.length) do
          match ← writeOutput false (start ++ partEnding base length n) (String.ofList part) with
          | .ok () => pure ()
          | .error e =>
            return ← refused name (start ++ partEnding base length n ++ ": " ++ e.reason)
        return 0

/-! ## Joining -/

/-- How lines are divided into fields and put together. -/
structure Joining where
  divider? : Option Char
  first : Nat
  second : Nat
  ignoreCase : Bool
  empty : String
  /-- The fields that are written: the number of the file, zero for the common field, and the number
  of the field. -/
  fields? : Option (List (Nat × Nat))

/-- The fields of a line. -/
def Joining.fields (j : Joining) (line : String) : List String :=
  match j.divider? with
  | some d => line.splitOn d.toString
  | none =>
    ((line.map fun c => if c = '\t' then ' ' else c).splitOn " ").filter (· ≠ "")

/-- A field of a line. -/
def fieldAt (fields : List String) (n : Nat) : String := (fields[n - 1]?).getD ""

/-- What is common to lines. -/
def Joining.key (j : Joining) (fields : List String) (n : Nat) : String :=
  let s := fieldAt fields n
  if j.ignoreCase then s.map Char.toLower else s

/-- A line put together from fields of one or two lines. -/
def Joining.line (j : Joining) (a? b? : Option (List String)) : String :=
  let divider := (j.divider?.getD ' ').toString
  let others (fields : List String) (n : Nat) : List String :=
    fields.take (n - 1) ++ fields.drop n
  let filledIn (s : String) : String := if s = "" then j.empty else s
  let common := match a?, b? with
    | some a, _ => fieldAt a j.first
    | none, some b => fieldAt b j.second
    | none, none => ""
  let parts := match j.fields? with
    | some asked => asked.map fun (file, n) =>
      filledIn (if file = 0 then common
        else if file = 1 then fieldAt (a?.getD []) n
        else fieldAt (b?.getD []) n)
    | none =>
      common :: (((a?.map fun a => others a j.first).getD [])
        ++ ((b?.map fun b => others b j.second).getD []))
  divider.intercalate parts ++ "\n"

/-- Joins lines in order. `alone` tells from which file lines without a partner are written, and
`pairs` whether others are. -/
def Joining.lines (j : Joining) (alone : Nat → Bool) (pairs : Bool) :
    Nat → List (List String) → List (List String) → String
  | 0, _, _ => ""
  | fuel + 1, a :: as, b :: bs =>
    let x := j.key a j.first
    let y := j.key b j.second
    if x < y then
      (if alone 1 then j.line (some a) none else "") ++ j.lines alone pairs fuel as (b :: bs)
    else if y < x then
      (if alone 2 then j.line none (some b) else "") ++ j.lines alone pairs fuel (a :: as) bs
    else
      let ours := (a :: as).takeWhile fun l => j.key l j.first = x
      let theirs := (b :: bs).takeWhile fun l => j.key l j.second = x
      let joined := ours.flatMap fun l => theirs.map fun m => j.line (some l) (some m)
      (if pairs then String.join joined else "")
        ++ j.lines alone pairs fuel ((a :: as).drop ours.length) ((b :: bs).drop theirs.length)
  | _ + 1, as, [] => if alone 1 then String.join (as.map fun a => j.line (some a) none) else ""
  | _ + 1, [], bs => if alone 2 then String.join (bs.map fun b => j.line none (some b)) else ""

/-- Reads the fields that are to be written. -/
def fieldList? (s : String) : Option (List (Nat × Nat)) :=
  (((s.map fun c => if c = ',' then ' ' else c).splitOn " ").filter (· ≠ "")).mapM fun part =>
    match part.splitOn "." with
    | ["0"] => some (0, 0)
    | [file, n] => do
      let f ← Text.natural? file.toList
      let k ← Text.natural? n.toList
      if f = 1 || f = 2 then some (f, k) else none
    | _ => none

/-- The first line of a file that is out of order, with its number. -/
def outOfOrder? (keys : List String) : Nat → Option Nat
  | 0 => none
  | n + 1 =>
    match outOfOrder? keys n, keys[n]?, keys[n + 1]? with
    | some k, _, _ => some k
    | none, some x, some y => if y < x then some (n + 2) else none
    | none, _, _ => none

/-- Joins lines of two files that have a field in common. -/
def join : Body :=
  withOptions "1:2:j:t:a:v:o:e:i" [("ignore-case", 'i')] fun name c => do
    let number (s : String) : Nat := (Text.natural? s.toList).getD 1
    let common? := (c.value? 'j').map number
    match c.operands with
    | [] => misused name "missing operand"
    | [a] => misused name ("missing operand after " ++ (← quote a))
    | _ :: _ :: extra :: _ => misused name ("extra operand " ++ quoted extra)
    | [first, second] =>
      let j : Joining := {
        divider? := (c.value? 't').bind fun s => s.toList.head?
        first := ((c.value? '1').map number).getD (common?.getD 1)
        second := ((c.value? '2').map number).getD (common?.getD 1)
        ignoreCase := c.has 'i'
        empty := (c.value? 'e').getD ""
        fields? := (c.value? 'o').bind fieldList? }
      match ← inputText first, ← inputText second with
      | .error e, _ => refused name (first ++ ": " ++ e.reason)
      | _, .error e => refused name (second ++ ": " ++ e.reason)
      | .ok s, .ok t =>
        let as := (linesOf s).map j.fields
        let bs := (linesOf t).map j.fields
        let asked := c.values 'v'
        let alone (n : Nat) : Bool := (c.values 'a' ++ asked).contains (Nat.repr n)
        say (j.lines alone asked.isEmpty (as.length + bs.length + 1) as bs)
        let mut sorted := true
        for (path, text, rows, field) in [(first, s, as, j.first), (second, t, bs, j.second)] do
          match outOfOrder? (rows.map fun r => j.key r field) rows.length with
          | some n =>
            let line := ((linesOf text)[n - 1]?).getD ""
            complainAs name (path ++ ":" ++ Nat.repr n ++ ": is not sorted: " ++ line)
            sorted := false
          | none => pure ()
        if sorted then return 0 else refused name "input is not in sorted order"

/-! ## Other facts -/

/-- Shows the groups of users. -/
def groups : Body :=
  withOptions "" [] fun name c => do
    if c.operands.isEmpty then
      say "nogroup\n"
      return 0
    else
      worst (fun user => do
        match [("root", "root"), ("nobody", "nogroup")].lookup user with
        | some group =>
          say (user ++ " : " ++ group ++ "\n")
          return 0
        | none => refused name ((← quote user) ++ ": no such user")) c.operands

/-- Shows the kind of machine. -/
def arch : Body := withOptions "" [] fun _ _ => do
  say "x86_64\n"
  return 0

end Looplet.Utility
