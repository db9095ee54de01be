import Looplet.Text.Regex.Reader
import Looplet.Utility.Lines

/-!
# Programs that look for patterns

Programs that choose lines by regular expressions, and one that computes with its arguments.
-/

namespace Looplet.Utility

open Shell
open Text (Regex)

/-! ## Lines that match -/

/-- How lines are looked for. -/
structure LineSearch where
  patterns : List Regex
  ignoreCase : Bool
  wholeLine : Bool
  wholeWord : Bool

/-- A part of a line that a pattern stands for, from a place on. -/
def LineSearch.find? (s : LineSearch) (chars : Array Char) (place : Nat) :
    Option Regex.Match :=
  let found := s.patterns.filterMap fun r =>
    let r := if s.wholeLine then .both .start (.both r .stop) else r
    r.search? (r.subject s.ignoreCase false chars) place
  found.foldl (fun best? m =>
    match best? with
    | none => some m
    | some b =>
      if m.first < b.first || (m.first = b.first && b.last < m.last) then some m else some b) none

/-- Whether a match is not part of a longer word. -/
def isWholeWord (chars : Array Char) (m : Regex.Match) : Bool :=
  let before := match m.first with
    | 0 => false
    | n + 1 => (chars[n]?).any Text.isWordChar
  !before && !(chars[m.last]?).any Text.isWordChar

/-- The first match that counts, from a place on. -/
def LineSearch.next? (s : LineSearch) (chars : Array Char) : Nat → Nat → Option Regex.Match
  | 0, _ => none
  | fuel + 1, place =>
    match s.find? chars place with
    | none => none
    | some m =>
      if !s.wholeWord || isWholeWord chars m then some m
      else if chars.size ≤ m.first then none
      else s.next? chars fuel (m.first + 1)

/-- All matches in a line that are not empty. -/
def LineSearch.all (s : LineSearch) (chars : Array Char) : Nat → Nat → List Regex.Match
  | 0, _ => []
  | fuel + 1, place =>
    match s.next? chars (chars.size + 1) place with
    | none => []
    | some m =>
      if m.first < m.last then m :: s.all chars fuel m.last
      else if chars.size ≤ m.last then []
      else s.all chars fuel (m.last + 1)

/-- Whether a line matches. -/
def LineSearch.holds (s : LineSearch) (chars : Array Char) : Bool :=
  (s.next? chars (chars.size + 1) 0).isSome

/-- The option letters of `grep` that have long names. -/
def grepNames : List (String × Char) :=
  [("extended-regexp", 'E'), ("fixed-strings", 'F'), ("basic-regexp", 'G'), ("regexp", 'e'),
    ("file", 'f'), ("ignore-case", 'i'), ("invert-match", 'v'), ("word-regexp", 'w'),
    ("line-regexp", 'x'), ("count", 'c'), ("files-with-matches", 'l'),
    ("files-without-match", 'L'), ("max-count", 'm'), ("only-matching", 'o'), ("quiet", 'q'),
    ("silent", 'q'), ("no-messages", 's'), ("byte-offset", 'b'), ("with-filename", 'H'),
    ("no-filename", 'h'), ("line-number", 'n'), ("after-context", 'A'), ("before-context", 'B'),
    ("context", 'C'), ("recursive", 'r'), ("text", 'a'), ("color", 'k'), ("colour", 'k'),
    ("null", 'Z')]

/-- Reads a pattern as the options say. -/
def grepPattern (c : Call) (utf8 : Bool) (s : String) : Except Regex.Fault Regex :=
  let cs := Text.wide utf8 s
  match c.lastOf ['E', 'F', 'G', 'P'] with
  | some 'F' => .ok (cs.foldr (fun ch r => Regex.join (.char ch) r) .empty)
  | some 'E' => Regex.ofChars { Regex.Style.full with lenient := true } cs
  | some 'P' => Regex.ofChars { Regex.Style.full with lenient := true } cs
  | _ => Regex.ofChars .basic cs

/-- What there is to say about operators of an extended expression that have nothing to repeat.
`atStart` tells whether nothing comes before that could be repeated. -/
def grepRemarks : Nat → Bool → List Char → List String
  | 0, _, _ => []
  | fuel + 1, atStart, cs =>
    let remark (sign : String) : List String :=
      if atStart then [sign ++ " at start of expression"] else []
    let style := { Regex.Style.full with lenient := true }
    match cs with
    | [] => []
    | '\\' :: c :: rest => grepRemarks fuel (atStart && c ∈ "\x60'<>bB".toList) rest
    | '[' :: rest =>
      match Regex.readSet style rest with
      | .ok (_, after) => grepRemarks fuel false after
      | .error _ => []
    | '\x7b' :: rest =>
      match Regex.readBounds style rest with
      | .ok (some (_, after)) => remark "\x7b...\x7d" ++ grepRemarks fuel atStart after
      | _ => grepRemarks fuel false rest
    | c :: rest =>
      if c ∈ ['*', '+', '?'] then remark c.toString ++ grepRemarks fuel atStart rest
      else if c = '^' || c = '$' then grepRemarks fuel atStart rest
      else grepRemarks fuel (c = '(' || c = '|') rest

/-- Chooses lines of a text, after others were chosen or not. Gives how many were chosen. -/
def grepText (c : Call) (s : LineSearch) (utf8 after_ : Bool) (label? : Option String)
    (text : String) : Run Nat := do
  let lines := linesOf text
  let limit := ((c.value? 'm').bind fun v => Text.natural? v.toList).getD (lines.length + 1)
  let around := (c.value? 'C').bind fun v => Text.natural? v.toList
  let before := ((c.value? 'B').bind fun v => Text.natural? v.toList).getD (around.getD 0)
  let after := ((c.value? 'A').bind fun v => Text.natural? v.toList).getD (around.getD 0)
  let quiet := c.has 'q' || c.has 'c' || c.has 'l' || c.has 'L'
  let mut count := 0
  let mut offset := 0
  let mut number := 0
  let mut shown := 0
  let mut trailing := 0
  let mut waiting : List (Nat × String × Nat) := []
  for line in lines do
    number := number + 1
    let chars := (Text.wide utf8 line).toArray
    let heading (mark : String) (n at_ : Nat) : String :=
      (match label? with
        | some l => l ++ mark
        | none => "")
        ++ (if c.has 'n' then Nat.repr n ++ mark else "")
        ++ (if c.has 'b' then Nat.repr at_ ++ mark else "")
    if count < limit && s.holds chars != c.has 'v' then
      count := count + 1
      if !quiet then
        let first := number - waiting.length
        let apart := if shown = 0 then after_ else shown + 1 < first
        if (0 < before || 0 < after) && apart then say "--\n"
        for (n, l, o) in waiting.reverse do say (heading "-" n o ++ l ++ "\n")
        waiting := []
        shown := number
        if c.has 'o' then
          if !c.has 'v' then
            for m in s.all chars (chars.size + 2) 0 do
              let part := Text.narrow utf8 (chars.extract m.first m.last).toList
              let at_ := offset + (Text.narrow utf8 (chars.extract 0 m.first).toList).length
              say (heading ":" number at_ ++ part ++ "\n")
        else say (heading ":" number offset ++ line ++ "\n")
        trailing := after
    else if 0 < trailing && !quiet then
      say (heading "-" number offset ++ line ++ "\n")
      shown := number
      trailing := trailing - 1
    else if 0 < before then waiting := ((number, line, offset) :: waiting).take before
    offset := offset + line.length + 1
  return count

/-- The files below a directory. -/
def filesBelow : Nat → FileSystem → String → List String
  | 0, _, _ => []
  | fuel + 1, files, path =>
    match files.find? (pathOf path) with
    | some (place, e) =>
      if e.isDirectory then
        (files.names place).flatMap fun n => filesBelow fuel files (inside path (Text.encoded n))
      else [path]
    | none => [path]

/-- Chooses lines of one input and reports on it, after lines of others were chosen or not. Gives
whether lines were chosen, or nothing if it cannot be read. -/
def grepInput (name : String) (c : Call) (s : LineSearch) (utf8 labels after_ : Bool)
    (path : String) : Run (Option Bool) := do
  let shownPath := if path = "-" then "(standard input)" else path
  match ← inputText path with
  | .error .isDirectory =>
    complainAs name (path ++ ": Is a directory")
    return none
  | .error e =>
    if !c.has 's' then complainAs name (path ++ ": " ++ e.reason)
    return none
  | .ok text =>
    let label? := if labels then some shownPath else none
    if text.toList.contains '\x00' && !c.has 'a' && !c.has 'c' && !c.has 'q' && !c.has 'l' then
      let quietly := { c with options := ('q', "") :: c.options }
      let count ← grepText quietly s utf8 after_ label? text
      if count ≠ 0 then complainAs name (shownPath ++ ": binary file matches")
      return some (count ≠ 0)
    else
      let count ← grepText c s utf8 after_ label? text
      if c.has 'q' then return some (count ≠ 0)
      if c.has 'l' then
        if count ≠ 0 then say (shownPath ++ "\n")
      else if c.has 'L' then
        if count = 0 then say (shownPath ++ "\n")
      else if c.has 'c' then
        say ((match label? with
          | some l => l ++ ":"
          | none => "") ++ Nat.repr count ++ "\n")
      return some (count ≠ 0)

/-- Chooses lines by regular expressions. -/
def grepAs (fixed? : Option Char) : Body := fun name args => do
  let usage : Run Nat := do
    sayError "Usage: grep [OPTION]... PATTERNS [FILE]...\n"
    sayError "Try 'grep --help' for more information.\n"
    return 2
  let known : Known := ⟨"EFGPe:f:ivwxcLlm:oqsbHhnA:B:C:rRazTUZyk::".toList, grepNames⟩
  match readCall known (args.length + 1) args with
  | .error message =>
    complainAs name message
    usage
  | .ok c =>
    let c := match fixed? with
      | some letter => { c with options := c.options ++ [(letter, "")] }
      | none => c
    let utf8 := (← get).isUtf8
    let given := c.values 'e'
    let mut fromFiles : List String := []
    for path in c.values 'f' do
      match ← inputText path with
      | .ok text => fromFiles := fromFiles ++ linesOf text
      | .error e =>
        complainAs name (path ++ ": " ++ e.reason)
        return 2
    let (texts, paths) := if c.has 'e' || c.has 'f' then (given ++ fromFiles, c.operands)
      else (c.operands.take 1, c.operands.drop 1)
    if !(c.has 'e' || c.has 'f') && c.operands.isEmpty then return ← usage
    let read := (texts.flatMap fun t => t.splitOn "\n").map (grepPattern c utf8)
    let faults := read.filterMap fun
      | .error f => some f
      | .ok _ => none
    if texts.any fun t => t.startsWith "[:" && t.endsWith ":]" then
      complainAs name "character class syntax is [[:space:]], not [:space:]"
      return 2
    match faults with
    | f :: _ =>
      complainAs name f.text
      return 2
    | [] =>
      if c.lastOf ['E', 'F', 'G', 'P'] = some 'E' then
        for t in texts.flatMap fun t => t.splitOn "\n" do
          for remark in grepRemarks (t.length + 1) true t.toList do
            complainAs name ("warning: " ++ remark)
      let s : LineSearch := ⟨read.filterMap Except.toOption, c.has 'i' || c.has 'y', c.has 'x',
        c.has 'w'⟩
      let recursive := c.has 'r' || c.has 'R'
      let files := (← get).world.files
      let inputs := if recursive then
          if paths.isEmpty then
            (filesBelow 100 files ".").map fun p => String.ofList (p.toList.drop 2)
          else paths.flatMap (filesBelow 100 files)
        else if paths.isEmpty then ["-"] else paths
      let labels := !c.has 'h' && (c.has 'H' || 1 < inputs.length || recursive)
      let mut found := false
      let mut failed := false
      for path in inputs do
        match ← grepInput name c s utf8 labels found path with
        | none => failed := true
        | some here =>
          found := found || here
          if here && c.has 'q' then return 0
      if failed && !(found && c.has 'q') then return 2
      return if found then 0 else 1

/-! ## Computing with arguments -/

/-- Why an expression of arguments cannot be computed. -/
inductive ExprFault where
  | syntax_ (message : String)
  | unexpected (arg : String)
  | missingAfter (arg : String)
  | missingParen (arg : String)
  | notInteger
  | divisionByZero
  | regex (fault : Regex.Fault)

/-- The value of an argument that is a number. -/
def exprNumber (s : String) : Except ExprFault Int :=
  match Text.signed? s.toList with
  | some n => .ok n
  | none => .error .notInteger

/-- Whether a value counts as nothing. -/
def isNothing (s : String) : Bool :=
  s = "" || (let body := if s.startsWith "-" then s.toList.drop 1 else s.toList
    !body.isEmpty && body.all (· = '0'))

/-- What a pattern finds at the start of a text. -/
def exprMatch (utf8 : Bool) (text pattern : String) : Except ExprFault String := do
  match Regex.ofChars .basic (Text.wide utf8 pattern) with
  | .error f => .error (.regex f)
  | .ok r =>
    let t := r.subject false false (Text.wide utf8 text).toArray
    let groups := 0 < r.groupCount
    match r.matchAt? t 0 with
    | none => return if groups then "" else "0"
    | some m =>
      if groups then return Text.narrow utf8 ((m.group? t 1).getD [])
      else return Nat.repr (m.last - m.first)

/-- The operators between two values, by how tightly they bind. -/
def exprOperators : List (List String) :=
  [["|"], ["&"], ["<", "<=", "=", "==", "!=", ">=", ">"], ["+", "-"], ["*", "/", "%"], [":"]]

/-- Compares two values, as numbers if both are. -/
def exprCompare (op a b : String) : String :=
  let order := match Text.signed? a.toList, Text.signed? b.toList with
    | some m, some n => compare m n
    | _, _ => if a.toList < b.toList then .lt else if b.toList < a.toList then .gt else .eq
  let holds : Bool := match op with
    | "<" => order = .lt
    | "<=" => order ≠ .gt
    | "=" | "==" => order = .eq
    | "!=" => order ≠ .eq
    | ">=" => order ≠ .lt
    | _ => order = .gt
  if holds then "1" else "0"

/-- Applies an operator to two values. -/
def exprApply (utf8 : Bool) (op a b : String) : Except ExprFault String := do
  match op with
  | "|" => return if !isNothing a then a else if !isNothing b then b else "0"
  | "&" => return if isNothing a || isNothing b then "0" else a
  | ":" => exprMatch utf8 a b
  | "+" => return toString ((← exprNumber a) + (← exprNumber b))
  | "-" => return toString ((← exprNumber a) - (← exprNumber b))
  | "*" => return toString ((← exprNumber a) * (← exprNumber b))
  | "/" | "%" =>
    let (m, n) := (← exprNumber a, ← exprNumber b)
    if n = 0 then .error .divisionByZero
    else return toString (if op = "/" then Int.tdiv m n else Int.tmod m n)
  | _ => return exprCompare op a b

/-- The part of a text from a place on, counted from one. -/
def exprSubstring (cs : List Char) (first length : Int) : List Char :=
  if first ≤ 0 || length ≤ 0 then [] else (cs.drop (first.toNat - 1)).take length.toNat

mutual

/-- Reads a value, or a function of values. -/
def exprPrimary (utf8 : Bool) (last : String) :
    Nat → List String → Except ExprFault (String × List String)
  | 0, _ => .error (.missingAfter last)
  | fuel + 1, args =>
    match args with
    | [] => .error (.missingAfter last)
    | "+" :: a :: rest => .ok (a, rest)
    | "(" :: rest => do
      let (v, rest) ← exprLevel utf8 last exprOperators fuel rest
      match rest with
      | ")" :: rest => return (v, rest)
      | [] => .error (.missingParen last)
      | a :: _ => .error (.missingParen a)
    | ")" :: _ => .error (.syntax_ "unexpected ')'")
    | "length" :: rest => do
      if rest.isEmpty then .error (.missingAfter last)
      else
        let (v, rest) ← exprPrimary utf8 last fuel rest
        return (Nat.repr (Text.wide utf8 v).length, rest)
    | "match" :: rest => do
      let (a, rest) ← exprPrimary utf8 last fuel rest
      let (b, rest) ← exprPrimary utf8 last fuel rest
      return (← exprMatch utf8 a b, rest)
    | "index" :: rest => do
      let (a, rest) ← exprPrimary utf8 last fuel rest
      let (b, rest) ← exprPrimary utf8 last fuel rest
      let set := Text.wide utf8 b
      let i := (Text.wide utf8 a).findIdx? fun c => set.contains c
      return (Nat.repr ((i.map (· + 1)).getD 0), rest)
    | "substr" :: rest => do
      let (a, rest) ← exprPrimary utf8 last fuel rest
      let (b, rest) ← exprPrimary utf8 last fuel rest
      let (c, rest) ← exprPrimary utf8 last fuel rest
      match Text.signed? b.toList, Text.signed? c.toList with
      | some first, some length =>
        return (Text.narrow utf8 (exprSubstring (Text.wide utf8 a) first length), rest)
      | _, _ => return ("", rest)
    | a :: rest => .ok (a, rest)

/-- Reads values with operators of given levels between them. -/
def exprLevel (utf8 : Bool) (last : String) (levels : List (List String)) :
    Nat → List String → Except ExprFault (String × List String)
  | 0, _ => .error (.missingAfter last)
  | fuel + 1, args =>
    match levels with
    | [] => exprPrimary utf8 last fuel args
    | ops :: tighter => do
      let (v, rest) ← exprLevel utf8 last tighter fuel args
      exprMore utf8 last ops tighter fuel v rest

/-- Reads operators of one level with the values after them. -/
def exprMore (utf8 : Bool) (last : String) (ops : List String) (tighter : List (List String)) :
    Nat → String → List String → Except ExprFault (String × List String)
  | 0, v, rest => .ok (v, rest)
  | fuel + 1, v, rest =>
    match rest with
    | op :: after =>
      if op ∈ ops then do
        let (w, rest) ← exprLevel utf8 last tighter fuel after
        exprMore utf8 last ops tighter fuel (← exprApply utf8 op v w) rest
      else .ok (v, rest)
    | [] => .ok (v, [])

end

/-- Computes with its arguments. -/
def expr : Body := fun name args => do
  let args := if args.head? = some "--" then args.drop 1 else args
  let utf8 := (← get).isUtf8
  let fail (message : String) : Run Nat := do
    complainAs name message
    return 2
  let syntaxFault (message : String) : Run Nat := fail ("syntax error: " ++ message)
  if args.isEmpty then misusedWith 2 name "missing operand"
  else
    let result := do
      let (v, rest) ← 
        exprLevel utf8 (args.getLast?.getD "") exprOperators (20 * args.length + 20) args
      match rest with
      | [] => return v
      | a :: _ => .error (.unexpected a)
    match result with
    | .ok v =>
      say (v ++ "\n")
      return if isNothing v then 1 else 0
    | .error (.syntax_ message) => syntaxFault message
    | .error (.unexpected a) => do syntaxFault ("unexpected argument " ++ (← quote a))
    | .error (.missingAfter a) => do syntaxFault ("missing argument after " ++ (← quote a))
    | .error (.missingParen a) => do
      syntaxFault ("expecting ')' "
        ++ (if a = args.getLast?.getD "" then "after " else "instead of ")
        ++ (← quote a))
    | .error .notInteger => fail "non-integer argument"
    | .error .divisionByZero => fail "division by zero"
    | .error (.regex f) => fail f.text

end Looplet.Utility
