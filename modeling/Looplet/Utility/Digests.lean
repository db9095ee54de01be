import Looplet.Text.Digest
import Looplet.Utility.Lines

/-!
# Programs that write digests and codes

These programs read all of their input and write a number that depends on it, or the input itself in
an alphabet of letters, digits and two signs.
-/

namespace Looplet.Utility

open Shell

/-- The bytes of a text. -/
def byteValues (s : String) : List Nat := s.toList.map Char.toNat

/-- Does something with the text of every input. -/
def onEachInput (name : String) (c : Call) (body : String → String → Run Unit) : Run Nat :=
  worst (fun path => do
    match ← inputText path with
    | .error e => unreadable name path e
    | .ok text =>
      body path text
      return 0) c.inputs

/-! ## Digests -/

/-- A line of a list of digests: the digest and the file, if the line is one. -/
def digestLine? (line : String) : Option (String × String) :=
  let digest := line.toList.takeWhile (Text.isDigitIn 16)
  match line.toList.drop digest.length with
  | ' ' :: mark :: path =>
    if digest.isEmpty || (mark ≠ ' ' && mark ≠ '*') then none
    else some (String.ofList digest, String.ofList path)
  | _ => none

/-- Checks the digests of a list. -/
def checkDigests (name : String) (digest : List Nat → String) (c : Call) (list : String) :
    Run Nat := do
  let mut wrong := 0
  let mut unread := 0
  for line in linesOf list do
    match digestLine? line with
    | none => pure ()
    | some (expected, path) =>
      match ← inputText path with
      | .error e =>
        complainAs name (path ++ ": " ++ e.reason)
        say (path ++ ": FAILED open or read\n")
        unread := unread + 1
      | .ok text =>
        let fine := digest (byteValues text) = expected.map Char.toLower
        if !fine then wrong := wrong + 1
        if !c.has 's' && !(fine && c.has 'q') then
          say (path ++ (if fine then ": OK\n" else ": FAILED\n"))
  if 0 < unread && !c.has 's' then
    complainAs name ("WARNING: " ++ Nat.repr unread
      ++ " listed file" ++ (if unread = 1 then "" else "s") ++ " could not be read")
  if 0 < wrong && !c.has 's' then
    complainAs name ("WARNING: " ++ Nat.repr wrong
      ++ (if wrong = 1 then " computed checksum did NOT match"
        else " computed checksums did NOT match"))
  return if wrong = 0 && unread = 0 then 0 else 1

/-- A program that writes digests, or checks them. `label` names the digest. -/
def digestProgram (label : String) (digest : List Nat → String) : Body :=
  withOptions "bctzqsw" [("binary", 'b'), ("check", 'c'), ("text", 't'), ("zero", 'z'),
    ("quiet", 'q'), ("status", 's'), ("tag", 'g')] fun name c => do
    if c.has 'c' then
      worst (fun path => do
        match ← inputText path with
        | .error e => unreadable name path e
        | .ok list => checkDigests name digest c list) c.inputs
    else
      onEachInput name c fun path text => do
        let value := digest (byteValues text)
        let ending := if c.has 'z' then "\x00" else "\n"
        say ((if c.has 'g' then label ++ " (" ++ path ++ ") = " ++ value
          else value ++ (if c.has 'b' then " *" else "  ") ++ path) ++ ending)

/-- Writes check sums with sizes. -/
def cksum : Body :=
  withOptions "" [] fun name c =>
    onEachInput name c fun path text =>
      say (Nat.repr (Text.Digest.remainder (byteValues text)) ++ " " ++ Nat.repr text.length
        ++ (if c.operands.isEmpty then "" else " " ++ path) ++ "\n")

/-- Writes check sums with numbers of blocks. -/
def blockSum : Body :=
  withOptions "rs" [] fun name c =>
    onEachInput name c fun path text => do
      let n := Text.Digest.turningSum (byteValues text)
      let digits := Nat.repr n
      say (String.ofList (List.replicate (5 - digits.length) '0') ++ digits ++ " "
        ++ inColumns 5 ((text.length + 1023) / 1024)
        ++ (if c.operands.isEmpty then "" else " " ++ path) ++ "\n")

/-! ## Letters for bits -/

/-- The sign of a number below sixty-four. -/
def sixBitSigns : Array Char :=
  ("ABCDEFGHIJKLMNOPQRSTUVWXYZabcdefghijklmnopqrstuvwxyz0123456789+/").toList.toArray

/-- Bytes as signs, four for every three of them. -/
def encodeSix : List Nat → List Char
  | a :: b :: c :: rest =>
    let n := 65536 * a + 256 * b + c
    [sign (n / 262144), sign (n / 4096), sign (n / 64), sign n] ++ encodeSix rest
  | [a, b] =>
    let n := 65536 * a + 256 * b
    [sign (n / 262144), sign (n / 4096), sign (n / 64), '=']
  | [a] => [sign (a / 4), sign (16 * a), '=', '=']
  | [] => []
where
  /-- The sign of the last six bits of a number. -/
  sign (n : Nat) : Char := sixBitSigns.getD (n % 64) 'A'

/-- The number of a sign. -/
def sixBits? (c : Char) : Option Nat := sixBitSigns.toList.findIdx? (· = c)

/-- The bytes that signs stand for, as far as they do, and whether all of them do. -/
def decodeSix : List Char → List Nat × Bool
  | [a, b, '=', '='] =>
    match sixBits? a, sixBits? b with
    | some x, some y => ([(4 * x + y / 16) % 256], true)
    | _, _ => ([], false)
  | [a, b, c, '='] =>
    match sixBits? a, sixBits? b, sixBits? c with
    | some x, some y, some z => ([(4 * x + y / 16) % 256, (16 * y + z / 4) % 256], true)
    | _, _, _ => ([], false)
  | a :: b :: c :: d :: rest =>
    match sixBits? a, sixBits? b, sixBits? c, sixBits? d with
    | some x, some y, some z, some w =>
      let (more, fine) := decodeSix rest
      ([(4 * x + y / 16) % 256, (16 * y + z / 4) % 256, (64 * z + w) % 256] ++ more, fine)
    | some x, some y, some z, none => ([(4 * x + y / 16) % 256, (16 * y + z / 4) % 256], false)
    | some x, some y, none, _ => ([(4 * x + y / 16) % 256], false)
    | _, _, _, _ => ([], false)
  | [a, b, c] =>
    match sixBits? a, sixBits? b, sixBits? c with
    | some x, some y, some z => ([(4 * x + y / 16) % 256, (16 * y + z / 4) % 256], false)
    | some x, some y, none => ([(4 * x + y / 16) % 256], false)
    | _, _, _ => ([], false)
  | [a, b] =>
    match sixBits? a, sixBits? b with
    | some x, some y => ([(4 * x + y / 16) % 256], false)
    | _, _ => ([], false)
  | [_] => ([], false)
  | [] => ([], true)

/-- Signs in lines of a width. -/
def inLinesOf (width : Nat) : Nat → List Char → String
  | 0, _ => ""
  | _ + 1, [] => ""
  | fuel + 1, cs =>
    if width = 0 then String.ofList cs
    else String.ofList (cs.take width) ++ "\n" ++ inLinesOf width fuel (cs.drop width)

/-- Writes bytes as signs, or signs as bytes. -/
def base64 : Body :=
  withOptions "diw:" [("decode", 'd'), ("ignore-garbage", 'i'), ("wrap", 'w')] fun name c => do
    match c.operands with
    | _ :: extra :: _ => misused name ("extra operand " ++ (← quote extra))
    | _ =>
      let path := c.operands.head?.getD "-"
      match ← inputText path with
      | .error e => unreadable name path e
      | .ok text =>
        if c.has 'd' then
          let signs := text.toList.filter fun ch =>
            ch ≠ '\n' && (!c.has 'i' || ch = '=' || (sixBits? ch).isSome)
          let (bytes, fine) := decodeSix signs
          say (String.ofList (bytes.map Char.ofNat))
          if fine then return 0 else refused name "invalid input"
        else
          let width? := match c.value? 'w' with
            | some s => Text.natural? s.toList
            | none => some 76
          match width? with
          | some width =>
            let signs := encodeSix (byteValues text)
            say (inLinesOf width (signs.length + 1) signs)
            return 0
          | none => refused name ("invalid wrap size: " ++ (← quote ((c.value? 'w').getD "")))

end Looplet.Utility
