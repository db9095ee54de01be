import Looplet.Utility.Files

/-!
# Programs that list files

Programs that show what is in directories and what is known about files.
-/

namespace Looplet.Utility

open Shell

/-! ## Facts about files -/

/-- The letter of a kind of file. -/
def kindLetter (e : Entry) : Char :=
  match e.content with
  | .directory => 'd'
  | .file _ => '-'
  | .link _ => 'l'
  | .here => 'l'
  | .device (.queue _) => 'p'
  | .device _ => 'c'

/-- The kind and the permissions of a file, such as `-rw-r--r--`. -/
def modeText (e : Entry) : String :=
  (kindLetter e).toString ++ modeLetters e.mode

/-- The name of the owner of a file. -/
def ownerOf (e : Entry) : String := if e.own then "nobody" else "root"

/-- The name of the group of a file. -/
def groupOf (e : Entry) : String := if e.own then "nogroup" else "root"

/-- How large a file is. -/
def sizeOfEntry (e : Entry) : Nat :=
  match e.content with
  | .directory => 4096
  | .link target => target.utf8ByteSize
  | _ => e.bytes.size

/-- The kind of a file in words. -/
def kindText (e : Entry) : String :=
  match e.content with
  | .directory => "directory"
  | .file bytes => if bytes.isEmpty then "regular empty file" else "regular file"
  | .link _ => "symbolic link"
  | .here => "symbolic link"
  | .device (.queue _) => "fifo"
  | .device _ => "character special file"

/-! ## Lists -/

/-- A sign for the kind of a file. -/
def kindSign (all : Bool) (e : Entry) : String :=
  match kindLetter e with
  | 'd' => "/"
  | 'l' => if all then "@" else ""
  | 'p' => if all then "|" else ""
  | '-' => if all && e.mode &&& 0o111 ≠ 0 then "*" else ""
  | _ => ""

/-- A line of a list for a file: its name, with what else is asked for. -/
def listLine (c : Call) (w : World) (sizeWidth : Nat) (name path : String) : String :=
  let name := if c.has 'Q' then "\"" ++ name ++ "\"" else name
  match w.files.findLink (pathOf path) with
  | .error _ => name ++ "\n"
  | .ok (place, e) =>
    let sign := if c.has 'F' then kindSign true e else if c.has 'p' then kindSign false e else ""
    if c.has 'l' || c.has 'n' || c.has 'g' || c.has 'o' then
      let size := Nat.repr (sizeOfEntry e)
      let target := match e.target? with
        | some t => " -> " ++ Text.encoded t
        | none => ""
      let links := if e.isDirectory then 2 else (w.placesOf place).length
      modeText e ++ " " ++ Nat.repr links ++ (if c.has 'g' then "" else " " ++ ownerOf e)
        ++ (if c.has 'o' then "" else " " ++ groupOf e) ++ " "
        ++ String.ofList (List.replicate (sizeWidth - size.length) ' ') ++ size
        ++ " Jan  1 00:00 " ++ name ++ (if target = "" then sign else target) ++ "\n"
    else name ++ sign ++ "\n"

/-- The lines of a list, or its names after each other. -/
def arranged (c : Call) (lines : List String) : String :=
  if c.has 'm' && !lines.isEmpty then
    ", ".intercalate (lines.map fun l => String.ofList l.toList.dropLast) ++ "\n"
  else String.join lines

/-- Names in the order that is asked for. -/
def listOrder (c : Call) (size : String → Nat) (names : List String) : List String :=
  let ordered := sorted names
  let ordered := if c.has 'S' then ordered.mergeSort fun a b => size b ≤ size a else ordered
  if c.has 'r' then ordered.reverse else ordered

/-- Lists a directory, and those in it on demand. -/
def listDirectory (c : Call) (several : Bool) : Nat → Bool → String → Run Unit
  | 0, _, _ => return ()
  | fuel + 1, first, path => do
    let w := (← get).world
    if several || c.has 'R' then say ((if first then "" else "\n") ++ path ++ ":\n")
    let names := (namesAt w.files path).filter fun n =>
      if c.has 'a' then true
      else if c.has 'A' then n ≠ "." && n ≠ ".."
      else n.toList.head? ≠ some '.'
    let entry (n : String) : Option Entry :=
      (w.files.findLink (pathOf (inside path n))).toOption.map Prod.snd
    let size (n : String) : Nat := ((entry n).map sizeOfEntry).getD 0
    let ordered := listOrder c size names
    let width := ordered.foldl (fun k n => max k (Nat.repr (size n)).length) 0
    if c.has 'l' || c.has 's' then say ("total " ++ Nat.repr (4 * ordered.length) ++ "\n")
    say (arranged c (ordered.map fun n => listLine c w width n (inside path n)))
    if c.has 'R' then
      for n in ordered do
        if n ≠ "." && n ≠ ".." && ((entry n).map Entry.isDirectory).getD false then
          listDirectory c several fuel false (inside path n)

/-- Lists names. -/
def ls : Body :=
  withOptionsOr 2 "1adAlogFrtSipsRhnCxmqNUvXbBcfkLGHQTwI:" [("all", 'a'), ("almost-all", 'A'),
    ("directory", 'd'), ("recursive", 'R'), ("reverse", 'r'), ("classify", 'F')] fun name c => do
    let paths := if c.operands.isEmpty then ["."] else c.operands
    let w := (← get).world
    let found (path : String) : Except SystemError (Place × Entry) :=
      match w.files.find (pathOf path) with
      | .ok e => .ok e
      | .error _ => w.files.findLink (pathOf path)
    let mut status := 0
    for path in paths do
      match found path with
      | .error e =>
        complainAs name ("cannot access " ++ quoted path ++ ": " ++ e.reason)
        status := 2
      | .ok _ => pure ()
    let there := paths.filter fun path => (found path).toOption.isSome
    let isDirectory (path : String) : Bool :=
      (((found path).toOption.map fun e => e.2.isDirectory)).getD false
    let (whole, single) := there.partition fun path => !c.has 'd' && isDirectory path
    let size (path : String) : Nat := (((found path).toOption).map fun e => sizeOfEntry e.2).getD 0
    let width := single.foldl (fun k p => max k (Nat.repr (size p)).length) 0
    say (arranged c ((listOrder c size single).map fun path => listLine c w width path path))
    let mut first := single.isEmpty
    for path in listOrder c size whole do
      match found path with
      | .ok (_, e) =>
        if e.allows .read then listDirectory c (1 < paths.length) 100 first path
        else
          complainAs name ("cannot open directory " ++ quoted path ++ ": "
            ++ SystemError.permissionDenied.reason)
          status := 2
      | .error _ => pure ()
      first := false
    return status

/-- A fact about a file that a letter asks for. -/
def factOf (w : World) (path : String) (place : Place) (e : Entry) : Char → String
  | 'n' => path
  | 'N' => match e.target? with
    | some t => quoted path ++ " -> " ++ quoted (Text.encoded t)
    | none => quotedIfNeeded path
  | 's' => Nat.repr (sizeOfEntry e)
  | 'a' => String.ofList (Nat.toDigits 8 e.mode)
  | 'A' => modeText e
  | 'F' => kindText e
  | 'h' => Nat.repr (if e.isDirectory then 2 else (w.placesOf place).length)
  | 'U' => ownerOf e
  | 'G' => groupOf e
  | 'u' => if e.own then "65534" else "0"
  | 'g' => if e.own then "65534" else "0"
  | '%' => "%"
  | _ => "?"

/-- A format with facts about a file in it. -/
def factsText (fact : Char → String) : List Char → String
  | [] => ""
  | '%' :: c :: cs => fact c ++ factsText fact cs
  | c :: cs => c.toString ++ factsText fact cs

/-- Shows what is known about files. -/
def stat : Body :=
  withOptions "Lfc:t" [("dereference", 'L'), ("format", 'c'), ("printf", 'p')] fun name c => do
    if c.operands.isEmpty then misused name "missing operand"
    else
      worst (fun path => do
        let w := (← get).world
        match if c.has 'L' then w.files.find (pathOf path) else w.files.findLink (pathOf path) with
        | .error e => refused name ("cannot statx " ++ quoted path ++ ": " ++ e.reason)
        | .ok (place, e) =>
          match c.value? 'c' with
          | some format =>
            say (factsText (factOf w path place e) format.toList ++ "\n")
            return 0
          | none =>
            say ("  File: " ++ path ++ "\n")
            return 0) c.operands

end Looplet.Utility
