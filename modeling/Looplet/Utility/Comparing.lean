import Looplet.Text.Difference
import Looplet.Utility.Basic

/-!
# Programs that compare files

One program finds the first byte that differs, the other shows which lines do.
-/

namespace Looplet.Utility

open Shell
open Text.Difference (Hunk)

/-- Says how a program that compares was called wrongly. -/
def wrongComparison (name message : String) : Run Nat := do
  complainAs name message
  complainAs name ("Try '" ++ name ++ " --help' for more information.")
  return 2

/-! ## Bytes -/

/-- A byte as it is shown beside its code. -/
def shownByte (c : Char) : String :=
  let plain (n : Nat) : String :=
    if n < 32 then "^" ++ (Char.ofNat (n + 64)).toString
    else if n = 127 then "^?"
    else (Char.ofNat n).toString
  if c.toNat < 128 then plain c.toNat else "M-" ++ plain (c.toNat - 128)

/-- The code of a byte in base eight. -/
def octalCode (c : Char) : String :=
  let digits := String.ofList (Nat.toDigits 8 c.toNat)
  String.ofList (List.replicate (3 - digits.length) ' ') ++ digits

/-- A difference: its number from one on, the line that it is in, and the two bytes. -/
structure ByteDifference where
  number : Nat
  line : Nat
  first : Char
  second : Char

/-- The codes of two bytes that differ, and the bytes themselves if they are asked for. -/
def ByteDifference.codes (d : ByteDifference) (shown : Bool) : String :=
  if shown then
    octalCode d.first ++ " " ++ columnOf 4 (shownByte d.first) ++ " " ++ octalCode d.second ++ " "
      ++ shownByte d.second
  else octalCode d.first ++ " " ++ octalCode d.second

/-- All differences of two texts, and how many bytes and lines they have in common. -/
def byteDifferences : Nat → Nat → List Char → List Char → List ByteDifference × Nat × Nat
  | n, line, c :: cs, d :: ds =>
    let (more, ended) := byteDifferences (n + 1) (if c = '\n' then line + 1 else line) cs ds
    (if c = d then more else ⟨n, line, c, d⟩ :: more, ended)
  | n, line, _, _ => ([], n - 1, line - 1)

/-- How the bytes of two files are compared. -/
structure ByteComparison where
  silent : Bool
  all : Bool
  shown : Bool
  limit? : Option Nat
  skips : Nat × Nat

/-- Says where the shorter of two files ended. -/
def reportShort (name path : String) (all : Bool) (common : List Char) (lines : Nat) :
    Run Unit := do
  let place := if common.isEmpty then " which is empty"
    else " after byte " ++ Nat.repr common.length
      ++ (if all then "" else if common.getLast? = some '\n' then ", line " ++ Nat.repr lines
        else ", in line " ++ Nat.repr (lines + 1))
  complainAs name ("EOF on " ++ path ++ place)

/-- Compares the bytes of two texts. -/
def compareBytes (name : String) (how : ByteComparison) (paths : String × String)
    (texts : List Char × List Char) : Run Nat := do
  let cut (cs : List Char) (skip : Nat) : List Char :=
    let rest := cs.drop skip
    rest.take (how.limit?.getD rest.length)
  let (a, b) := (cut texts.1 how.skips.1, cut texts.2 how.skips.2)
  let (found, _, lines) := byteDifferences 1 1 a b
  let short? := if a.length < b.length then some (paths.1, a)
    else if b.length < a.length then some (paths.2, b)
    else none
  if how.silent then return if found.isEmpty && short?.isNone then 0 else 1
  else if how.all then
    match short? with
    | some (path, common) => reportShort name path true common lines
    | none => pure ()
    let width := (Nat.repr (min a.length b.length)).length
    for d in found do say (inColumns width d.number ++ " " ++ d.codes how.shown ++ "\n")
    return if found.isEmpty && short?.isNone then 0 else 1
  else
    match found, short? with
    | d :: _, _ =>
      let unit := if how.shown || (← get).isUtf8 then "byte" else "char"
      let bytes := if how.shown then
          " is " ++ octalCode d.first ++ " " ++ shownByte d.first ++ " " ++ octalCode d.second
            ++ " " ++ shownByte d.second
        else ""
      say (paths.1 ++ " " ++ paths.2 ++ " differ: " ++ unit ++ " " ++ Nat.repr d.number ++ ", line "
        ++ Nat.repr d.line ++ bytes ++ "\n")
      return 1
    | [], some (path, common) =>
      reportShort name path false common lines
      return 1
    | [], none => return 0

/-- How much is left out of two files. -/
def skipsOf (c : Call) : Nat × Nat :=
  let number (s : String) : Nat := (Text.natural? s.toList).getD 0
  match (c.value? 'i').map fun s => s.splitOn ":" with
  | some [a, b] => (number a, number b)
  | some (a :: _) => (number a, number a)
  | _ => (((c.operands[2]?).map number).getD 0, ((c.operands[3]?).map number).getD 0)

/-- Finds the first byte that differs. -/
def cmp : Body := fun name args => do
  let known : Known := ⟨"sblvi:n:".toList, [("quiet", 's'), ("silent", 's'), ("print-bytes", 'b'),
    ("verbose", 'l'), ("ignore-initial", 'i'), ("bytes", 'n')]⟩
  match readCall known (args.length + 1) args with
  | .error message => wrongComparison name message
  | .ok c =>
    match c.operands with
    | [] => wrongComparison name ("missing operand after '" ++ name ++ "'")
    | first :: more =>
      let second := more.head?.getD "-"
      if 4 < c.operands.length then
        wrongComparison name ("extra operand '" ++ (c.operands[4]?).getD "" ++ "'")
      else
        let how : ByteComparison := ⟨c.has 's', c.has 'l', c.has 'b',
          (c.value? 'n').bind fun s => Text.natural? s.toList, skipsOf c⟩
        let a ← inputText first
        match a with
        | .error e =>
          if !how.silent then complainAs name (first ++ ": " ++ e.reason)
          return 2
        | .ok a =>
          if first = second then return 0
          match ← inputText second with
          | .error e =>
            if !how.silent then complainAs name (second ++ ": " ++ e.reason)
            return 2
          | .ok b => compareBytes name how (first, second) (a.toList, b.toList)

/-! ## Lines -/

/-- How lines are compared and how differences are shown. -/
structure LineComparison where
  brief : Bool
  identical : Bool
  recursive : Bool
  absent : Bool
  asText : Bool
  ignoreCase : Bool
  ignoreBlanks : Bool
  squeezeBlanks : Bool
  context? : Option Nat
  labels : List String
  /-- The options as they were given. -/
  written : String

/-- Whether a character is a blank inside a line. -/
def isLineBlank (c : Char) : Bool := c = ' ' || c = '\t' || c = '\r' || c = '\x0b' || c = '\x0c'

/-- Runs of blanks as single ones. -/
def withSingleBlanks : List Char → List Char
  | [] => []
  | c :: cs =>
    let rest := withSingleBlanks cs
    if isLineBlank c then (if rest.head? = some ' ' then rest else ' ' :: rest)
    else c :: rest

/-- What counts of a line when it is compared. -/
def LineComparison.key (how : LineComparison) (line : List Char) : String :=
  let cs := line
  let cs := if how.ignoreCase then cs.map Char.toLower else cs
  let cs := if how.ignoreBlanks then cs.filter fun c => !isLineBlank c
    else if how.squeezeBlanks then
      let (body, ending) := (cs.filter (· ≠ '\n'), cs.filter (· = '\n'))
      ((withSingleBlanks body).reverse.dropWhile (· = ' ')).reverse ++ ending
    else cs
  let cs := if (how.ignoreBlanks || how.squeezeBlanks) && cs.getLast? ≠ some '\n' then cs ++ ['\n']
    else cs
  String.ofList cs

/-- The lines of a row from a place on, after a mark. -/
def markedLines (start : String) (lines : Array (List Char)) (first count : Nat) : String :=
  String.join ((lines.extract first (first + count)).toList.map fun l =>
    start ++ String.ofList l
      ++ if l.getLast? = some '\n' then "" else "\n\\ No newline at end of file\n")

/-- The numbers of some lines, from one on. No lines have the number of the line before them. -/
def lineRange (first count : Nat) : String :=
  if count = 0 then Nat.repr first
  else if count = 1 then Nat.repr (first + 1)
  else Nat.repr (first + 1) ++ "," ++ Nat.repr (first + count)

/-- A hunk in its plain form. -/
def plainHunk (a b : Array (List Char)) (h : Hunk) : String :=
  let letter := if h.removed = 0 then "a" else if h.added = 0 then "d" else "c"
  lineRange h.first h.removed ++ letter ++ lineRange h.second h.added ++ "\n"
    ++ markedLines "< " a h.first h.removed
    ++ (if h.removed ≠ 0 && h.added ≠ 0 then "---\n" else "")
    ++ markedLines "> " b h.second h.added

/-- Hunks that share lines around them. -/
def hunkGroups (context : Nat) : List Hunk → List (List Hunk)
  | [] => []
  | h :: rest =>
    match hunkGroups context rest with
    | (next :: group) :: more =>
      if next.first ≤ h.first + h.removed + 2 * context then (h :: next :: group) :: more
      else [h] :: (next :: group) :: more
    | more => [h] :: more

/-- The numbers of some lines in the form with lines around them. -/
def unifiedRange (first count : Nat) : String :=
  if count = 0 then Nat.repr first ++ ",0"
  else if count = 1 then Nat.repr (first + 1)
  else Nat.repr (first + 1) ++ "," ++ Nat.repr count

/-- The lines of a group of hunks, from a line of the first row on, with the lines between them. -/
def unifiedLines (a b : Array (List Char)) (stop : Nat) : Nat → List Hunk → String
  | from_, [] => markedLines " " a from_ (stop - from_)
  | from_, h :: rest =>
    markedLines " " a from_ (h.first - from_) ++ markedLines "-" a h.first h.removed
      ++ markedLines "+" b h.second h.added ++ unifiedLines a b stop (h.first + h.removed) rest

/-- A group of hunks with lines around them. -/
def unifiedGroup (context : Nat) (a b : Array (List Char)) (group : List Hunk) : String :=
  match group, group.getLast? with
  | h :: _, some l =>
    let before := min context h.first
    let after := min context (a.size - (l.first + l.removed))
    let first := h.first - before
    let stop := l.first + l.removed + after
    let second := h.second - before
    let secondStop := l.second + l.added + after
    "@@ -" ++ unifiedRange first (stop - first) ++ " +"
      ++ unifiedRange second (secondStop - second) ++ " @@\n" ++ unifiedLines a b stop first group
  | _, _ => ""

/-- What stands for the time of a file. -/
def unknownTime : String := "1970-01-01 00:00:00.000000000 +0000"

/-- Shows how two texts differ. Gives whether they do. -/
def showDifference (how : LineComparison) (paths : String × String) (texts : String × String) :
    Run Nat := do
  let a := (fullLines texts.1.toList).toArray
  let b := (fullLines texts.2.toList).toArray
  let binary := !how.asText && (texts.1.toList.contains '\x00' || texts.2.toList.contains '\x00')
  let found := if binary then []
    else Text.Difference.between (how.context?.getD 0) (a.map how.key) (b.map how.key)
  if (if binary then texts.1 = texts.2 else found.isEmpty) then
    if how.identical then say ("Files " ++ paths.1 ++ " and " ++ paths.2 ++ " are identical\n")
    return 0
  else if how.brief then
    say ("Files " ++ paths.1 ++ " and " ++ paths.2 ++ " differ\n")
    return 1
  else if binary then
    say ("Binary files " ++ paths.1 ++ " and " ++ paths.2 ++ " differ\n")
    return 1
  else
    match how.context? with
    | none => for h in found do say (plainHunk a b h)
    | some context =>
      let label (n : Nat) (path : String) : String :=
        (how.labels[n]?).getD (path ++ "\t" ++ unknownTime)
      say ("--- " ++ label 0 paths.1 ++ "\n+++ " ++ label 1 paths.2 ++ "\n")
      for group in hunkGroups context found do say (unifiedGroup context a b group)
    return 1

/-- Whether a path leads to a directory. -/
def isDirectoryAt (path : String) : Run Bool := do
  match ← lookAt path with
  | .ok (_, e) => return e.isDirectory
  | .error _ => return false

/-- The names in a directory, in order. -/
def namesIn (path : String) : Run (List String) := do
  let files := (← get).world.files
  match files.find (pathOf path) with
  | .error _ => return []
  | .ok (place, _) =>
    let names := (files.names place).map Text.encoded
    return names.mergeSort fun s t => !(t < s)

/-- Compares two files, of which one may be absent. -/
def compareFiles (how : LineComparison) (name first second : String) : Run Nat := do
  let read (path : String) : Run (Except SystemError String) := do
    match ← inputText path with
    | .error .noEntry => return if how.absent then .ok "" else .error .noEntry
    | r => return r
  let a ← read first
  let b ← read second
  for (path, r) in [(first, a), (second, b)] do
    match r with
    | .error e => complainAs name (path ++ ": " ++ e.reason)
    | .ok _ => pure ()
  match a, b with
  | .ok s, .ok t => showDifference how (first, second) (s, t)
  | _, _ => return 2

/-- Compares what has one name in two directories. -/
def compareNamed (how : LineComparison) (name : String)
    (inner : String → String → Run Nat) (first second item : String)
    (inFirst inSecond : Bool) : Run Nat := do
  let a := inside first item
  let b := inside second item
  if !inSecond && !how.absent then
    say ("Only in " ++ first ++ ": " ++ item ++ "\n")
    return 1
  else if !inFirst && !how.absent then
    say ("Only in " ++ second ++ ": " ++ item ++ "\n")
    return 1
  else
    match ← isDirectoryAt a, ← isDirectoryAt b with
    | true, true =>
      if how.recursive then inner a b
      else
        say ("Common subdirectories: " ++ a ++ " and " ++ b ++ "\n")
        return 0
    | false, false =>
      -- What leads to the files is shown only if they differ.
      let (ended, text) ← writtenBy do setStatus (← compareFiles how name a b)
      if text ≠ "" && !how.brief && !text.startsWith "Files " && !text.startsWith "Binary " then
        say ("diff " ++ how.written ++ a ++ " " ++ b ++ "\n")
      say text
      return match ended with
        | .code n => n
        | .signal _ => 2
    | isDir, _ =>
      let kind (b : Bool) : String := if b then "directory" else "regular file"
      say ("File " ++ a ++ " is a " ++ kind isDir ++ " while file " ++ b ++ " is a "
        ++ kind (!isDir) ++ "\n")
      return 1

/-- Compares two directories, to a depth. -/
def compareDirectories (how : LineComparison) (name : String) :
    Nat → String → String → Run Nat
  | 0, _, _ => return 2
  | depth + 1, first, second => do
    let a ← namesIn first
    let b ← namesIn second
    let all := (a ++ b.filter fun s => !a.contains s).mergeSort fun s t => !(t < s)
    worst (fun item => compareNamed how name (compareDirectories how name depth) first second item
      (a.contains item) (b.contains item)) all

/-- The options of the program that shows lines. -/
def diffOptions : Known :=
  ⟨"qsruU:L:iwbBaNd".toList, [("brief", 'q'), ("report-identical-files", 's'), ("recursive", 'r'),
    ("unified", 'u'), ("label", 'L'), ("ignore-case", 'i'), ("ignore-all-space", 'w'),
    ("ignore-space-change", 'b'), ("ignore-blank-lines", 'B'), ("text", 'a'), ("new-file", 'N'),
    ("minimal", 'd')]⟩

/-- How a call wants lines to be compared. -/
def LineComparison.ofCall (c : Call) (args : List String) : LineComparison where
  brief := c.has 'q'
  identical := c.has 's'
  recursive := c.has 'r'
  absent := c.has 'N'
  asText := c.has 'a'
  ignoreCase := c.has 'i'
  ignoreBlanks := c.has 'w'
  squeezeBlanks := c.has 'b'
  context? :=
    match (c.value? 'U').bind fun s => Text.natural? s.toList with
    | some n => some n
    | none => if c.has 'u' then some 3 else none
  labels := c.values 'L'
  written := String.join ((args.filter fun a => a.startsWith "-" && a ≠ "-").map (· ++ " "))

/-- Shows which lines of two files differ. -/
def diff : Body := fun name args => do
  match readCall diffOptions (args.length + 1) args with
  | .error message => wrongComparison name message
  | .ok c =>
    match c.operands with
    | [] => wrongComparison name ("missing operand after '" ++ name ++ "'")
    | [a] => wrongComparison name ("missing operand after '" ++ a ++ "'")
    | [a, b] =>
      let how := LineComparison.ofCall c args
      match ← isDirectoryAt a, ← isDirectoryAt b with
      | true, true => compareDirectories how name 100 a b
      | true, false => compareFiles how name (inside a (lastPart b)) b
      | false, true => compareFiles how name a (inside b (lastPart a))
      | false, false => compareFiles how name a b
    | _ :: _ :: extra :: _ => wrongComparison name ("extra operand '" ++ extra ++ "'")

end Looplet.Utility
