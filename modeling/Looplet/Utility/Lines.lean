import Looplet.Utility.Basic

/-!
# Programs on lines

Programs that read texts line by line and write them in another shape. Without a file they read
the standard input.
-/

namespace Looplet.Utility

open Shell

/-! ## Inputs -/

/-- Opens an input: a file, or the standard input for a dash. -/
def openInputOf (path : String) : Run (Except SystemError Nat) := do
  if path = "-" then
    match (← get).descriptors.lookup 0 with
    | some index => return .ok index
    | none => return .error .badDescriptor
  else
    match ← openPath path .input with
    | .error e => return .error e
    | .ok f =>
      let p ← get
      let (index, w) := p.world.addOpen f
      set { p with world := w }
      return .ok index

/-- Reads from an open file; `amount` tells how many of the bytes that are left are taken. -/
def readOpen (index : Nat) (amount : ByteArray → Nat) : Run (Except SystemError ByteArray) := do
  let p ← get
  match p.world.read index amount with
  | .error e => return .error e
  | .ok (bytes, w) =>
    set { p with world := w }
    return .ok bytes

/-- Runs a program on the text of each input. -/
def onInputs (name : String) (c : Call) (body : String → Run Unit) : Run Nat :=
  worst (fun path => do
    match ← inputText path with
    | .ok text =>
      body text
      return 0
    | .error e => unreadable name path e) c.inputs

/-- The texts of all inputs that can be read, and the status. -/
def allInputs (name : String) (c : Call) : Run (List String × Nat) := do
  let mut texts : List String := []
  let mut status := 0
  for path in c.inputs do
    match ← inputText path with
    | .ok text => texts := texts ++ [text]
    | .error e => status ← unreadable name path e
  return (texts, status)

/-! ## Whole texts -/

/-- A character that cannot be shown, as signs that can. -/
def shownControl (tabs : Bool) (c : Char) : String :=
  let n := c.toNat
  let low (m : Nat) : String :=
    if m < 32 then "^" ++ (Char.ofNat (m + 64)).toString
    else if m = 127 then "^?"
    else (Char.ofNat m).toString
  if c = '\n' then "\n"
  else if c = '\t' then if tabs then "^I" else "\t"
  else if n < 128 then low n
  else "M-" ++ low (n - 128)

/-- Runs a program that needs its standard output from the start, and that complains twice about a
standard input that is not there. -/
def withStreams (name : String) (c : Call) (body : Run Nat) : Run Nat := do
  let reason := SystemError.badDescriptor.reason
  let isOpen (fd : Nat) : Run Bool := do return ((← get).descriptors.lookup fd).isSome
  if !(← isOpen 1) then
    complainAs name ("standard output: " ++ reason)
    return 1
  else
    let status ← body
    if "-" ∈ c.inputs && !(← isOpen 0) then
      complainAs name ("closing standard input: " ++ reason)
    return status

/-- Writes files one after the other, with numbers and marks on demand. -/
def cat : Body :=
  withOptions "AbeEnstTuv" [("show-all", 'A'), ("number-nonblank", 'b'), ("show-ends", 'E'),
    ("number", 'n'), ("squeeze-blank", 's'), ("show-tabs", 'T'), ("show-nonprinting", 'v')]
    fun name c => withStreams name c do
    let has (cs : List Char) : Bool := cs.any c.has
    let (ends, tabs) := (has ['A', 'e', 'E'], has ['A', 't', 'T'])
    let visible := has ['A', 'e', 't', 'v']
    if c.options.all fun o => o.1 = 'u' then onInputs name c say
    else
      let (texts, status) ← allInputs name c
      let mut number := 0
      let mut blank := false
      for line in fullLines (String.join texts).toList do
        let isBlank := line = ['\n']
        if c.has 's' && isBlank && blank then continue
        blank := isBlank
        if (c.has 'n' && !c.has 'b') || (c.has 'b' && !isBlank) then
          number := number + 1
          say (inColumns 6 number ++ "\t")
        let body := line.filter (· ≠ '\n')
        let shown := if visible then String.join (body.map (shownControl tabs))
          else if tabs then String.join (body.map fun ch => if ch = '\t' then "^I" else ch.toString)
          else String.ofList body
        say (shown ++ if line.getLast? = some '\n' then (if ends then "$\n" else "\n") else "")
      return status

/-- The lines of a text from the last to the first. -/
def reversedLines (text : String) : String :=
  String.ofList (fullLines text.toList).reverse.flatten

/-- Writes the lines of files from the last to the first. -/
def tac : Body :=
  withOptions "bs:r" [("separator", 's')] fun name c =>
    worst (fun path => do
      match ← inputText path with
      | .ok text =>
        say (reversedLines text)
        return 0
      | .error e =>
        let what := if e = .isDirectory then quotedIfNeeded path ++ ": read error: "
          else "failed to open " ++ quoted path ++ " for reading: "
        refused name (what ++ e.reason)) c.inputs

/-- Copies the standard input to files too. -/
def tee : Body :=
  withOptions "aip" [("append", 'a')] fun name c => do
    let text := ((← readAll 0).toOption).getD ""
    let mut status := 0
    for path in c.operands do
      match ← writeOutput (c.has 'a') path text with
      | .ok () => pure ()
      | .error e => status ← unreadable name path e
    say text
    return status

/-! ## Parts of texts -/

/-- The factor that a letter after a number stands for. -/
def sizeFactor? (s : String) : Option Nat :=
  match s with
  | "" => some 1
  | "b" => some 512
  | "k" | "K" | "KiB" => some 1024
  | "kB" | "KB" => some 1000
  | "m" | "M" | "MiB" => some 1048576
  | "MB" => some 1000000
  | "G" | "GiB" => some 1073741824
  | _ => none

/-- A number with a letter for a factor after it. -/
def sizeOf? (s : String) : Option Nat := do
  let digits := s.toList.takeWhile Char.isDigit
  if digits.isEmpty then none
  else
    let factor ← sizeFactor? (String.ofList (s.toList.drop digits.length))
    return Text.digitsValue digits * factor

/-- How much of a text is wanted: a number of bytes or of lines, ten lines if nothing is said. -/
def wanted (c : Call) : Run (Except String (Bool × String × Nat)) := do
  let (bytes, s) := match c.lastOf ['c', 'n'] with
    | some 'c' => (true, (c.value? 'c').getD "")
    | some _ => (false, (c.value? 'n').getD "")
    | none => (false, "10")
  let sign := s.toList.head? = some '-' || s.toList.head? = some '+'
  match sizeOf? (if sign then String.ofList (s.toList.drop 1) else s) with
  | some n => return .ok (bytes, s, n)
  | none =>
    return .error ("invalid number of " ++ (if bytes then "bytes: " else "lines: ") ++ (← quote s))

/-- An argument that is only a number of lines, as an option. -/
def withCount (signs : List Char) (args : List String) : List String :=
  match args with
  | a :: rest =>
    match a.toList with
    | sign :: d :: ds =>
      if sign ∈ signs && (d :: ds).all Char.isDigit then
        "-n" :: ((if sign = '+' then "+" else "") ++ String.ofList (d :: ds)) :: rest
      else args
    | _ => args
  | [] => []

/-- How many bytes the first lines of bytes have. -/
def sizeOfLines (lines : Nat) (bytes : ByteArray) : Nat := Id.run do
  let mut left := lines
  let mut size := 0
  for b in bytes.data do
    if left = 0 then return size
    size := size + 1
    if b = 10 then left := left - 1
  return size

/-- How many lines bytes have. -/
def lineCount (bytes : ByteArray) : Nat :=
  let ends := bytes.data.foldl (fun n b => if b = 10 then n + 1 else n) 0
  if bytes.isEmpty || bytes.data.back? = some 10 then ends else ends + 1

/-- How much a program that looks for lines reads at once. -/
def blockSize : Nat := 8192

/-- Reads the start of an open file. What follows it stays there if the file allows that. -/
def readStart (index : Nat) (byBytes : Bool) (n : Nat) : Run (Except SystemError ByteArray) := do
  if byBytes then
    let mut bytes := ByteArray.empty
    for _ in [0:n / endlessSize + 2] do
      let left := n - bytes.size
      match ← readOpen index (fun b => min left b.size) with
      | .error e => return .error e
      | .ok more =>
        bytes := bytes ++ more
        if more.isEmpty || n ≤ bytes.size then return .ok bytes
    return .ok bytes
  else
    let exact := (← get).world.isSeekable index
    let amount (b : ByteArray) : Nat :=
      let size := sizeOfLines n b
      if exact then size else min b.size ((size + blockSize - 1) / blockSize * blockSize)
    match ← readOpen index amount with
    | .error e => return .error e
    | .ok b => return .ok (b.extract 0 (sizeOfLines n b))

/-- Writes parts of inputs, with headings if there are several. -/
def showParts (name : String) (c : Call) (part : Nat → Run (Except SystemError ByteArray)) :
    Run Nat := do
  let paths := c.inputs
  let mut status := 0
  let mut first := true
  for path in paths do
    let shown := if path = "-" then "standard input" else path
    match ← openInputOf path with
    | .error e =>
      status ← refused name ("cannot open " ++ quoted shown ++ " for reading: " ++ e.reason)
    | .ok index =>
      if (1 < paths.length && !c.has 'q') || c.has 'v' then
        say ((if first then "" else "\n") ++ "==> " ++ shown ++ " <==\n")
      first := false
      match ← part index with
      | .ok bytes => say (Text.ofBytes bytes)
      | .error e => status ← refused name ("error reading " ++ quoted shown ++ ": " ++ e.reason)
  return status

/-- Writes the start of texts. -/
def head : Body := fun name args =>
  withOptions "n:c:qvz" [("lines", 'n'), ("bytes", 'c'), ("quiet", 'q'), ("silent", 'q'),
    ("verbose", 'v')] (fun name c => do
    match ← wanted c with
    | .error message => refused name message
    | .ok (byBytes, s, n) =>
      if s.toList.head? = some '-' then
        showParts name c fun index => do
          match ← readOpen index ByteArray.size with
          | .error e => return .error e
          | .ok b =>
            let kept := if byBytes then b.size - n else sizeOfLines (lineCount b - n) b
            return .ok (b.extract 0 kept)
      else showParts name c fun index => readStart index byBytes n) name (withCount ['-'] args)

/-- Writes the end of texts. -/
def tail : Body := fun name args =>
  withOptions "n:c:qvfFs:z" [("lines", 'n'), ("bytes", 'c'), ("quiet", 'q'), ("silent", 'q'),
    ("verbose", 'v')] (fun name c => do
    match ← wanted c with
    | .error message => refused name message
    | .ok (byBytes, s, n) =>
      let fromStart := s.toList.head? = some '+'
      showParts name c fun index => do
        match ← readOpen index ByteArray.size with
        | .error e => return .error e
        | .ok b =>
          let skip (size : Nat) := if fromStart then n - 1 else size - n
          let start := if byBytes then skip b.size else sizeOfLines (skip (lineCount b)) b
          return .ok (b.extract start b.size)) name (withCount ['-', '+'] args)

/-! ## Counts -/

/-- How many words a text has. -/
def wordCount (cs : List Char) : Nat :=
  (cs.foldl (fun (n, inWord) c =>
    if Arithmetic.isSpace c then (n, false) else (if inWord then n else n + 1, true))
    ((0 : Nat), false)).1

/-- How many characters a text of bytes has. -/
def characterCount (cs : List Char) : Nat :=
  (cs.filter fun c => c.toNat < 0x80 || 0xc0 ≤ c.toNat).length

/-- The size of an input that is a plain file. -/
def plainSize? (path : String) : Run (Option Nat) := do
  let p ← get
  if path = "-" then
    match p.openFile? 0 with
    | some ⟨.file node _ _, _, _⟩ => return (p.world.entryAt? node).map fun e => e.bytes.size
    | _ => return none
  else
    match p.world.files.find? (pathOf path) with
    | some (_, e) => return if e.isFile then some e.bytes.size else none
    | none => return some 0

/-- How many columns a line takes. A tab leads to the next column that is a multiple of eight. -/
def columnCount (utf8 : Bool) (line : String) : Nat :=
  (Text.wide utf8 line).foldl (fun n c => if c = '\t' then n / 8 * 8 + 8 else n + 1) 0

/-- Counts the lines, words, characters and bytes of texts. -/
def wc : Body :=
  withOptions "lwcmL" [("lines", 'l'), ("words", 'w'), ("bytes", 'c'), ("chars", 'm'),
    ("max-line-length", 'L')] fun name c => do
    let utf8 := (← get).isUtf8
    let asked := ['l', 'w', 'm', 'c', 'L'].filter c.has
    let kinds := if asked.isEmpty then ['l', 'w', 'c'] else asked
    let counts (text : String) : List Nat := kinds.map fun k =>
      if k = 'l' then (text.toList.filter (· = '\n')).length
      else if k = 'w' then wordCount text.toList
      else if k = 'm' && utf8 then characterCount text.toList
      else if k = 'L' then
        (linesOf text).foldl (fun n l => max n (columnCount utf8 l)) 0
      else text.length
    let mut rows : List (List Nat × String) := []
    let mut status := 0
    let sizes ← c.inputs.mapM plainSize?
    for path in c.inputs do
      match ← inputText path with
      | .ok text => rows := rows ++ [(counts text, path)]
      | .error e =>
        status ← unreadable name path e
        if e = .isDirectory then rows := rows ++ [(kinds.map fun _ => 0, path)]
    let single := kinds.length = 1 && c.inputs.length = 1
    let least := if single then 1 else if sizes.any Option.isNone then 7 else 1
    let total := sizes.foldl (fun n s => n + s.getD 0) 0
    let width := if single then 1 else max least (Nat.repr total).length
    let column (i : Nat) : Nat :=
      let values := rows.map fun r => (r.1[i]?).getD 0
      if kinds[i]? = some 'L' then values.foldl max 0 else values.foldl (· + ·) 0
    let last := ((List.range kinds.length).map column, "total")
    for (row, path) in if 1 < c.inputs.length then rows ++ [last] else rows do
      let shown := if c.operands.isEmpty then "" else " " ++ path
      say (" ".intercalate (row.map (inColumns width)) ++ shown ++ "\n")
    return status

/-- Numbers the lines of files. -/
def nl : Body :=
  withOptions "b:n:s:w:v:i:h:f:d:l:p" [("body-numbering", 'b'), ("number-width", 'w'),
    ("number-separator", 's'), ("starting-line-number", 'v'), ("number-format", 'n'),
    ("line-increment", 'i')] fun name c => do
    let (texts, status) ← allInputs name c
    let width := ((c.value? 'w').bind fun s => Text.natural? s.toList).getD 6
    let step := ((c.value? 'i').bind fun s => Text.natural? s.toList).getD 1
    let gap := (c.value? 's').getD "\t"
    let style := (c.value? 'b').getD "t"
    let mut n := ((c.value? 'v').bind fun s => Text.natural? s.toList).getD 1
    for line in linesOf (String.join texts) do
      if style = "a" || (style = "t" && line ≠ "") then
        let digits := Nat.repr n
        let fill := width - digits.length
        let shown := match (c.value? 'n').getD "rn" with
          | "ln" => digits ++ String.ofList (List.replicate fill ' ')
          | "rz" => String.ofList (List.replicate fill '0') ++ digits
          | _ => inColumns width n
        say (shown ++ gap ++ line ++ "\n")
        n := n + step
      else say (String.ofList (List.replicate (width + gap.length) ' ') ++ line ++ "\n")
    return status

/-! ## Other shapes -/

/-- Writes every line from its last character to its first. -/
def rev : Body :=
  withOptions "0" [] fun name c => do
    let utf8 := (← get).isUtf8
    onInputs name c fun text => do
      for line in fullLines text.toList do
        let ended := line.getLast? = some '\n'
        let body := if ended then line.dropLast else line
        let turned := if utf8 then
            (Text.decoded (Text.toBytes (String.ofList body))).toList.reverse
          else body.reverse
        let shown := String.ofList turned
        say ((if utf8 then Text.encoded shown else shown) ++ if ended then "\n" else "")

/-- The column after a character. -/
def columnAfter (bytes : Bool) (column : Nat) (c : Char) : Nat :=
  if bytes then column + 1
  else match c with
    | '\t' => column / 8 * 8 + 8
    | '\x08' => column - 1
    | '\r' => 0
    | _ => column + 1

/-- How many characters fit into a width, from a column on. -/
def fitting (bytes : Bool) (width : Nat) : Nat → List Char → Nat
  | _, [] => 0
  | column, c :: rest =>
    let next := columnAfter bytes column c
    if width < next then 0 else fitting bytes width next rest + 1

/-- Divides a line into parts of a width, after a blank if that is asked for. -/
def folded (bytes : Bool) (width : Nat) (atBlanks : Bool) : Nat → List Char → List (List Char)
  | 0, cs => [cs]
  | fuel + 1, cs =>
    let count := max 1 (fitting bytes width 0 cs)
    if cs.length ≤ count then [cs]
    else
      let part := cs.take count
      let rest := part.reverse.dropWhile fun c => c ≠ ' ' && c ≠ '\t'
      let part := if atBlanks && !rest.isEmpty then rest.reverse else part
      part :: folded bytes width atBlanks fuel (cs.drop part.length)

/-- Divides long lines. -/
def fold : Body := fun name args =>
  let args := args.map fun a =>
    match a.toList with
    | '-' :: d :: ds => if (d :: ds).all Char.isDigit then "-w" ++ String.ofList (d :: ds) else a
    | _ => a
  withOptions "bsw:" [("width", 'w'), ("spaces", 's'), ("bytes", 'b')] (fun name c => do
    match Text.natural? ((c.value? 'w').getD "80").toList with
    | some (n + 1) =>
      onInputs name c fun text => do
        for line in fullLines text.toList do
          let ended := line.getLast? = some '\n'
          let body := if ended then line.dropLast else line
          let parts := (folded (c.has 'b') (n + 1) (c.has 's') body.length body).map String.ofList
          say ("\n".intercalate parts ++ if ended then "\n" else "")
    | n? =>
      refused name ("invalid number of columns: " ++ (← quote ((c.value? 'w').getD ""))
        ++ if n?.isSome then ": Numerical result out of range" else ""))
    name args

/-- Texts with a separator after each but the last, where separators are used in turn. -/
def joinedBy (separators : List String) : Nat → List String → String
  | _, [] => ""
  | _, [s] => s
  | i, s :: rest =>
    s ++ (separators[i % max 1 separators.length]?).getD "" ++ joinedBy separators (i + 1) rest

/-- The separators that a text stands for, one for each character. -/
def separatorsOf : List Char → List String
  | [] => []
  | '\\' :: c :: cs =>
    (if c = 'n' then "\n" else if c = 't' then "\t" else if c = '0' then "" else c.toString)
      :: separatorsOf cs
  | c :: cs => c.toString :: separatorsOf cs

/-- Joins the lines of files. A dash that stands several times takes lines in turn. -/
def paste : Body :=
  withOptions "d:sz" [("delimiters", 'd'), ("serial", 's')] fun name c => do
    let separators := separatorsOf ((c.value? 'd').getD "\t").toList
    let paths := c.inputs
    let dashes := (paths.filter (· = "-")).length
    let mut columns : List (List String) := []
    let shared := linesOf (((← if dashes = 0 then pure (.ok "") else readAll 0).toOption).getD "")
    let mut seen := 0
    for path in paths do
      if path = "-" then
        let turn := seen
        let lines := if c.has 's' then (if turn = 0 then shared else [])
          else (shared.zipIdx.filter fun (_, i) => i % dashes = turn).map Prod.fst
        columns := columns ++ [lines]
        seen := seen + 1
      else
        match ← inputText path with
        | .ok text => columns := columns ++ [linesOf text]
        | .error e => return ← unreadable name path e
    if c.has 's' then
      for lines in columns do say (joinedBy separators 0 lines ++ "\n")
    else
      let rows := columns.foldl (fun n l => max n l.length) 0
      for i in [0:rows] do
        say (joinedBy separators 0 (columns.map fun l => (l[i]?).getD "") ++ "\n")
    return 0

/-- The part of a line by which repeated lines are known. -/
def uniqKey (skipFields skipChars : Nat) (width? : Option Nat) (ignoreCase : Bool) (line : String) :
    List Char :=
  let blank (ch : Char) : Bool := ch = ' ' || ch = '\t'
  let rec withoutFields : Nat → List Char → List Char
    | 0, cs => cs
    | n + 1, cs => withoutFields n ((cs.dropWhile blank).dropWhile fun ch => !blank ch)
  let cs := (withoutFields skipFields line.toList).drop skipChars
  let cs := match width? with
    | some n => cs.take n
    | none => cs
  if ignoreCase then cs.map Char.toLower else cs

/-- Lines that follow each other with the same key, as their first line and how many there are. -/
def repeatedLines (key : String → List Char) : List String → List (String × List String)
  | [] => []
  | line :: rest =>
    match repeatedLines key rest with
    | [] => [(line, [line])]
    | (first, group) :: more =>
      if key line = key first then (line, line :: group) :: more
      else (line, [line]) :: (first, group) :: more

/-- Writes repeated lines once, or tells them apart. -/
def uniq : Body :=
  withOptions "cduif:s:w:Dz" [("count", 'c'), ("repeated", 'd'), ("unique", 'u'),
    ("ignore-case", 'i'), ("skip-fields", 'f'), ("skip-chars", 's'), ("check-chars", 'w'),
    ("all-repeated", 'D')] fun name c => do
    let number (letter : Char) : Option Nat :=
      (c.value? letter).bind fun s => Text.natural? s.toList
    let key := uniqKey ((number 'f').getD 0) ((number 's').getD 0) (number 'w') (c.has 'i')
    match c.operands with
    | _ :: _ :: extra :: _ => misused name ("extra operand " ++ (← quote extra))
    | operands =>
      match ← inputText (operands.head?.getD "-") with
      | .error e => unreadable name (operands.head?.getD "-") e
      | .ok text =>
        let groups := repeatedLines key (linesOf text)
        let shown := groups.filter fun g =>
          (!(c.has 'd' || c.has 'D') || 1 < g.2.length) && (!c.has 'u' || g.2.length = 1)
        let lines := shown.flatMap fun (line, group) =>
          if c.has 'D' then group.map (· ++ "\n")
          else [(if c.has 'c' then inColumns 7 group.length ++ " " else "") ++ line ++ "\n"]
        match operands[1]? with
        | some path =>
          match ← writeOutput false path (String.join lines) with
          | .ok () => return 0
          | .error e => unreadable name path e
        | none =>
          say (String.join lines)
          return 0

/-! ## Columns -/

/-- A range of places in a line, from one to another or to the end. -/
abbrev Range := Nat × Option Nat

/-- The ranges of a list such as `1,3-5,7-`. -/
def rangesOf? (s : String) : Option (List Range) :=
  (s.splitOn ",").mapM fun part =>
    match part.splitOn "-" with
    | [a] => do
      let n ← Text.natural? a.toList
      if n = 0 then none else some (n, some n)
    | [a, b] => do
      if a = "" && b = "" then none
      else
        let first ← if a = "" then some 1 else Text.natural? a.toList
        let last ← if b = "" then some none else (Text.natural? b.toList).map some
        if first = 0 then none
        else if last.any fun l => l < first then none
        else some (first, last)
    | _ => none

/-- Whether a place lies in one of some ranges. -/
def inSomeRange (ranges : List Range) (n : Nat) : Bool :=
  ranges.any fun (first, last?) => first ≤ n && last?.all fun last => n ≤ last

/-- The ranges without overlaps, in order. -/
def mergedRanges (ranges : List Range) : List Range :=
  let ordered := ranges.mergeSort fun a b => a.1 ≤ b.1
  ordered.foldr (fun r rest =>
    match rest with
    | (first, last?) :: more =>
      match r.2 with
      | none => [(r.1, none)]
      | some l =>
        if first ≤ l then (r.1, last?.map (max l)) :: more else r :: rest
    | [] => [r]) []

/-- Writes chosen characters or fields of lines. -/
def cut : Body :=
  withOptions "b:c:f:d:snzCO:" [("bytes", 'b'), ("characters", 'c'), ("fields", 'f'),
    ("delimiter", 'd'), ("only-delimited", 's'), ("complement", 'C'), ("output-delimiter", 'O')]
    fun name c => do
    match c.options.filter fun o => o.1 ∈ ['b', 'c', 'f'] with
    | [] => misused name "you must specify a list of bytes, characters, or fields"
    | _ :: _ :: _ => misused name "only one list may be specified"
    | [(kind, list)] =>
      let byFields := kind = 'f'
      match rangesOf? list with
      | none =>
        if list.toList.all fun ch => ch.isDigit || ch = ',' || ch = '-' then
          if (list.splitOn "-").any (fun p => p = "0") || list = "0" || list.startsWith "0," then
            misused name (if byFields then "fields are numbered from 1"
              else "byte/character positions are numbered from 1")
          else if list = "-" || list = "" then
            misused name "invalid range with no endpoint: -"
          else misused name "invalid decreasing range"
        else
          misused name ("invalid "
            ++ (if byFields then "field value " else "byte/character position ")
            ++ (← quote list))
      | some ranges =>
        let delimiter := (c.value? 'd').getD "\t"
        if c.has 'd' && !byFields then
          misused name "an input delimiter may be specified only when operating on fields"
        else if c.has 's' && !byFields then
          misused name ("suppressing non-delimited lines makes sense\n\t"
            ++ "only when operating on fields")
        else if 1 < delimiter.length then misused name "the delimiter must be a single character"
        else
          let keep (n : Nat) : Bool := inSomeRange ranges n != c.has 'C'
          let gap := (c.value? 'O').getD delimiter
          onInputs name c fun text => do
            for line in linesOf text do
              if byFields then
                let fields := line.splitOn delimiter
                if fields.length < 2 then
                  if !c.has 's' then say (line ++ "\n")
                else
                  let kept := (fields.zipIdx 1).filter fun (_, i) => keep i
                  say (gap.intercalate (kept.map Prod.fst) ++ "\n")
              else if c.has 'O' then
                let parts := (mergedRanges ranges).map fun (first, last?) =>
                  String.ofList (((line.toList).take (last?.getD line.length)).drop (first - 1))
                say (gap.intercalate (parts.filter (· ≠ "")) ++ "\n")
              else
                let kept := (line.toList.zipIdx 1).filter fun (_, i) => keep i
                say (String.ofList (kept.map Prod.fst) ++ "\n")

/-- Lines of two texts in order, told apart by where they stand. -/
def compared : Nat → List String → List String → List (Nat × String)
  | 0, _, _ => []
  | _ + 1, [], bs => bs.map fun b => (2, b)
  | _ + 1, as, [] => as.map fun a => (1, a)
  | fuel + 1, a :: as, b :: bs =>
    if a = b then (3, a) :: compared fuel as bs
    else if a.toList < b.toList then (1, a) :: compared fuel as (b :: bs)
    else (2, b) :: compared fuel (a :: as) bs

/-- Compares two files in order, line by line. -/
def comm : Body :=
  withOptions "123zoO" [("check-order", 'o'), ("nocheck-order", 'O')] fun name c => do
    match c.operands with
    | [] => misused name "missing operand"
    | [only] => misused name ("missing operand after " ++ (← quote only))
    | [a, b] =>
      match ← inputText a, ← inputText b with
      | .error e, _ => unreadable name a e
      | _, .error e => unreadable name b e
      | .ok s, .ok t =>
        let (as, bs) := (linesOf s, linesOf t)
        let found := compared (as.length + bs.length + 1) as bs
        let mut before1? : Option String := none
        let mut before2? : Option String := none
        let mut said1 := false
        let mut said2 := false
        let checks := c.has 'o' || (!c.has 'O' && found.any fun f => f.1 ≠ 3)
        for (column, line) in found do
          if column ≠ 2 then
            if checks && !said1 && before1?.any (fun b => line.toList < b.toList) then
              complainAs name "file 1 is not in sorted order"
              said1 := true
              if c.has 'o' then return 1
            before1? := some line
          if column ≠ 1 then
            if checks && !said2 && before2?.any (fun b => line.toList < b.toList) then
              complainAs name "file 2 is not in sorted order"
              said2 := true
              if c.has 'o' then return 1
            before2? := some line
          let digit := Char.ofNat ('0'.toNat + column)
          if !c.has digit then
            let before := ['1', '2'].filter fun d => d < digit && !c.has d
            say (String.ofList (before.map fun _ => '\t') ++ line ++ "\n")
        if said1 || said2 then refused name "input is not in sorted order"
        else return 0
    | _ :: _ :: extra :: _ => misused name ("extra operand " ++ (← quote extra))

/-- A line in which every tab, or every one before other characters than blanks, goes on to the
next multiple of a width. -/
def withoutTabs (width : Nat) (onlyFirst : Bool) (line : List Char) : List Char :=
  (line.foldl (fun (out, column, kept) ch =>
    let kept := kept || (onlyFirst && ch ≠ ' ' && ch ≠ '\t')
    if ch = '\t' && !kept then
      let n := width - column % max 1 width
      (List.replicate n ' ' ++ out, column + n, kept)
    else (ch :: out, column + 1, kept)) (([] : List Char), 0, false)).1.reverse

/-- Replaces tabs by blanks. -/
def expand : Body :=
  withOptions "it:" [("tabs", 't'), ("initial", 'i')] fun name c => do
    let width := (Text.natural? ((c.value? 't').getD "8").toList).getD 8
    onInputs name c fun text => do
      for line in fullLines text.toList do
        say (String.ofList (withoutTabs width (c.has 'i') line))

end Looplet.Utility
