import Looplet.Utility.Edit
import Looplet.Utility.Lines

/-!
# Editing lines

`Edit.process` runs a script on lines. The line at hand is the pattern space; another text, the
hold space, stays from line to line. Texts that are to follow a line wait until it is written.
-/

namespace Looplet.Utility.Edit

open Shell
open Text (Regex)

/-- A line of input, and whether it has an end. -/
structure InputLine where
  text : List Char
  ended : Bool
  file : String

/-- What waits to be written after a line. -/
inductive Waiting where
  | text (text : String)
  | file (path : String)

/-- Where a command with a range is: before it, in it up to a line or up to what ends it, or past a
range that cannot start again. -/
inductive RangeState where
  | before
  | upTo (line : Nat)
  | inside
  | past
  deriving DecidableEq

/-- The state of a script that runs. -/
structure State where
  rest : List InputLine
  space : List Char
  ended : Bool
  held : List Char
  heldEnded : Bool
  number : Nat
  file : String
  changed : Bool
  waiting : List Waiting
  /-- Where every command is in its range. -/
  ranges : Array RangeState
  lastRegex? : Option Wanted
  status : Nat
  /-- The lines that are left of files that are read line by line. -/
  sources : List (String × List String)
  written : List (String × String)
  output : String
  /-- The files whose last line has no end yet; the output has no name. -/
  unended : List String
  /-- Whether the script has ended all work. -/
  stopped : Bool

/-- How a script runs. -/
structure Setup where
  commands : Array Command
  quiet : Bool
  utf8 : Bool
  /-- Whether lines end in zeros. -/
  zeros : Bool

/-- A computation of a script. -/
abbrev Script := StateT State Run

/-- The character after lines. -/
def Setup.ending (setup : Setup) : String := if setup.zeros then "\x00" else "\n"

/-- The name of the output among the files that are written. -/
def outputName : String := ""

/-- Writes the end of the last line of a file, if it has none. -/
def endLine (setup : Setup) (path : String) : Script Unit := do
  let s ← get
  if path ∈ s.unended then
    let s := { s with unended := s.unended.erase path }
    set (if path = outputName then { s with output := s.output ++ setup.ending }
      else { s with written := s.written ++ [(path, setup.ending)] })

/-- Writes a text, after the end of the line before it. -/
def emit (setup : Setup) (text : String) : Script Unit := do
  endLine setup outputName
  modify fun s => { s with output := s.output ++ text }

/-- Writes a line, which may wait for its end. -/
def emitLine (setup : Setup) (cs : List Char) (ended : Bool) : Script Unit := do
  emit setup (Text.narrow setup.utf8 cs ++ if ended then setup.ending else "")
  if !ended then modify fun s => { s with unended := outputName :: s.unended }

/-- Adds a line to a file that the script writes. -/
def emitTo (setup : Setup) (path : String) (cs : List Char) (ended : Bool) : Script Unit := do
  if path = "/dev/stdout" then emitLine setup cs ended
  else
    endLine setup path
    let text := Text.narrow setup.utf8 cs ++ if ended then setup.ending else ""
    modify fun s => { s with
      written := s.written ++ [(path, text)],
      unended := if ended then s.unended else path :: s.unended }

/-- Writes what waits. -/
def flush (setup : Setup) : Script Unit := do
  let s ← get
  set { s with waiting := [] }
  for w in s.waiting do
    match w with
    | .text t => emit setup t
    | .file path =>
      match ← inputText path with
      | .ok t => emit setup t
      | .error _ => emit setup ""

/-- The expression that is meant, and takes note of it. -/
def resolve (w : Wanted) : Script (Option Wanted) := do
  match w.regex? with
  | some _ =>
    modify fun s => { s with lastRegex? := some w }
    return some w
  | none => return (← get).lastRegex?

/-- Looks for an expression in the line. -/
def lookFor (w : Wanted) (chars : Array Char) (place : Nat) : Script (Option Regex.Match) := do
  match ← resolve w with
  | none => return none
  | some used =>
    match used.regex? with
    | none => return none
    | some r => return r.search? (r.subject used.ignoreCase used.byLines chars) place

/-- Whether an address chooses the line. -/
def chosenBy : Address → Script Bool
  | .line n => do return (← get).number = n
  | .step first step => do
    let n := (← get).number
    return if step = 0 then n = first else first ≤ n && (n - first) % step = 0
  | .last => do return (← get).rest.isEmpty
  | .regex w => do return (← lookFor w (← get).space.toArray 0).isSome

/-- Sets where a command is in its range. -/
def setRange (index : Nat) (r : RangeState) : Script Unit :=
  modify fun s => { s with ranges := s.ranges.modify index fun _ => r }

/-- Where a command is after its range. One that starts at a line does not start again. -/
def afterRange : Address → RangeState
  | .line _ => .past
  | _ => .before

/-- Enters a range at the line, which may be all of it. -/
def enterRange (index : Nat) (first : Address) (last : RangeEnd) : Script Unit := do
  let n := (← get).number
  let beyond := afterRange first
  setRange index (match last with
    | .address (.line m) => if n < m then .upTo m else beyond
    | .address _ => .inside
    | .after k => if 0 < k then .upTo (n + k) else beyond
    | .multiple k => if k ≠ 0 && n % k ≠ 0 then .upTo (n + (k - n % k)) else beyond)

/-- Whether a range starts at the line. One that starts at a line also does so later, if it was not
looked at before and has not ended. -/
def startsRange (last : RangeEnd) : Address → Script Bool
  | .line n => do
    let here := (← get).number
    match last with
    | .address (.line m) => return here = n || (n ≤ here && here ≤ m)
    | _ => return n ≤ here
  | a => chosenBy a

/-- Whether a command is meant for the line. -/
def isChosen (index : Nat) (c : Choice) : Script Bool := do
  let chosen ← match c.first?, c.last? with
    | none, _ => pure true
    | some a, none => chosenBy a
    | some a, some last => do
      match (← get).ranges[index]?.getD .before with
      | .upTo stop =>
        let n := (← get).number
        if stop ≤ n then setRange index (afterRange a)
        match last with
        | .address _ => pure (decide (n ≤ stop) || (← chosenBy a))
        | _ => pure true
      | .inside =>
        match last with
        | .address b => do
          if ← chosenBy b then setRange index (afterRange a)
          pure true
        | _ => pure true
      | .before => do
        let starts ← startsRange last a
        if starts then enterRange index a last
        pure starts
      | .past => pure false
  return chosen != c.negated

/-! ## Replacing -/

/-- The text of a replacement. -/
def replacementOf (t : Regex.Match) (chars : Array Char) (parts : List Part) : List Char :=
  let group (i : Nat) : List Char :=
    if i = 0 then (chars.extract t.first t.last).toList
    else match t.captures.find? fun c => c.group = i with
      | some c => (chars.extract c.first c.last).toList
      | none => []
  let start : List Char × CaseChange × CaseChange := ([], .none, .none)
  let (out, _, _) := parts.foldl (fun (out, all, one) part =>
    let add (cs : List Char) : List Char × CaseChange × CaseChange :=
      let cs := match all with
        | .upper => cs.map Char.toUpper
        | .lower => cs.map Char.toLower
        | _ => cs
      match one, cs with
      | .upperOne, c :: rest => (out ++ c.toUpper :: rest, all, .none)
      | .lowerOne, c :: rest => (out ++ c.toLower :: rest, all, .none)
      | _, _ => (out ++ cs, all, one)
    match part with
    | .text cs => add cs
    | .group i => add (group i)
    | .changeCase .upperOne => (out, all, .upperOne)
    | .changeCase .lowerOne => (out, all, .lowerOne)
    | .changeCase change => (out, change, .none)) start
  out

/-- Replaces matches from a place on; `count` have been found before. -/
def replaceFrom (s : Substitution) (chars : Array Char) (wanted : Wanted) (r : Regex) :
    Nat → Nat → Nat → Option Nat → List Char × Bool
  | 0, _, place, _ => ((chars.extract place chars.size).toList, false)
  | fuel + 1, count, place, last? =>
    match r.search? (r.subject wanted.ignoreCase wanted.byLines chars) place with
    | none => ((chars.extract place chars.size).toList, false)
    | some m =>
      let before := (chars.extract place m.first).toList
      if m.first = m.last && last? = some m.first then
        -- An empty match right after another one does not count.
        match chars[m.first]? with
        | none => (before, false)
        | some c =>
          let (rest, changed) := replaceFrom s chars wanted r fuel count (m.first + 1) none
          (before ++ c :: rest, changed)
      else
        let count := count + 1
        let wantedNumber := max 1 s.number
        let replaces := if s.everywhere then wantedNumber ≤ count else count = wantedNumber
        let new := if replaces then replacementOf m chars s.parts
          else (chars.extract m.first m.last).toList
        if replaces && !s.everywhere then
          (before ++ new ++ (chars.extract m.last chars.size).toList, true)
        else if m.first = m.last then
          match chars[m.first]? with
          | none => (before ++ new, replaces)
          | some c =>
            let (rest, changed) := replaceFrom s chars wanted r fuel count (m.first + 1) none
            (before ++ new ++ c :: rest, replaces || changed)
        else
          let (rest, changed) := replaceFrom s chars wanted r fuel count m.last (some m.last)
          (before ++ new ++ rest, replaces || changed)

/-- Does a substitution. -/
def substitute (setup : Setup) (s : Substitution) : Script Unit := do
  match ← resolve s.wanted with
  | none => pure ()
  | some found =>
    match found.regex? with
    | none => pure ()
    | some r =>
      let chars := (← get).space.toArray
      let wanted := if s.wanted.regex?.isSome then s.wanted else found
      let (new, changed) := replaceFrom s chars wanted r (chars.size + 2) 0 0 none
      if changed then
        modify fun st => { st with space := new, changed := true }
        let ended := (← get).ended
        if s.prints then emitLine setup new ended
        match s.file? with
        | some path => emitTo setup path new ended
        | none => pure ()

/-! ## Showing lines -/

/-- A line in which everything can be seen. -/
def visible (c : Char) : String :=
  match [('\\', "\\\\"), ('\x07', "\\a"), ('\x08', "\\b"), ('\x0c', "\\f"), ('\n', "\\n"),
      ('\r', "\\r"), ('\t', "\\t"), ('\x0b', "\\v")].lookup c with
  | some s => s
  | none => if ' ' ≤ c && c ≤ '~' then c.toString else "\\" ++ octalDigits 3 c.toNat

/-- Parts that are divided where a line gets too long. -/
def foldParts (width : Nat) : List String → String → List String → List String
  | [], current, lines => (current :: lines).reverse
  | p :: rest, current, lines =>
    if 1 < width && width - 1 < (current ++ p).length then foldParts width rest p (current :: lines)
    else foldParts width rest (current ++ p) lines

/-- A line in which everything can be seen, divided into lines of a width. -/
def visibleLine (width : Nat) (s : String) : String :=
  "\\\n".intercalate (foldParts width (s.toList.map visible) "" []) ++ "$\n"

/-! ## Running -/

/-- What a command leads to. -/
inductive Flow where
  | on
  | goTo (place : Nat)
  | endCycle
  | stopCycleSilently
  | restart
  | stop
  | stopSilently

/-- Takes the next line of input. -/
def takeLine : Script (Option InputLine) := do
  let s ← get
  match s.rest with
  | [] => return none
  | l :: rest =>
    set { s with rest := rest, number := s.number + 1, ended := l.ended, file := l.file }
    return some l

/-- Where a jump leads. -/
def Setup.jumpPlace (setup : Setup) (name : String) : Flow :=
  if name = "" then .endCycle
  else match labelPlace? setup.commands name with
    | some i => .goTo i
    | none => .endCycle

/-- Goes to the next line in the middle of a script. Gives whether there was one. -/
def advance (setup : Setup) : Script Bool := do
  let s ← get
  if s.rest.isEmpty then return false
  else
    if !setup.quiet then emitLine setup s.space s.ended
    flush setup
    return true

/-- The first line of the pattern space. -/
def firstLine (cs : List Char) : List Char := cs.takeWhile (· ≠ '\n')

/-- Does a command. -/
def perform (setup : Setup) (index : Nat) (c : Command) (chosen : Bool) : Script Flow := do
  let s ← get
  match c.action with
  | .nothing => return .on
  | .label _ => return .on
  | .enter past => return if chosen then .on else .goTo past
  | action =>
    if !chosen then return .on
    match action with
    | .jump name => return setup.jumpPlace name
    | .jumpIfChanged name =>
      if s.changed then
        set { s with changed := false }
        return setup.jumpPlace name
      else return .on
    | .jumpIfUnchanged name =>
      if s.changed then
        set { s with changed := false }
        return .on
      else return setup.jumpPlace name
    | .append t =>
      set { s with waiting := s.waiting ++ [Waiting.text (Text.narrow setup.utf8 t.toList)] }
      return .on
    | .insert t =>
      emit setup (Text.narrow setup.utf8 t.toList)
      return .on
    | .change t =>
      let place := s.ranges[index]?.getD .before
      let inside := place ≠ .before && place ≠ .past && !c.choice.negated
      if !inside then emit setup (Text.narrow setup.utf8 t.toList)
      return .stopCycleSilently
    | .substitute sub =>
      substitute setup sub
      return .on
    | .exchangeChars pairs =>
      set { s with space := s.space.map fun ch => (pairs.lookup ch).getD ch }
      return .on
    | .delete => return .stopCycleSilently
    | .deleteFirst =>
      if s.space.contains '\n' then
        set { s with space := (s.space.dropWhile (· ≠ '\n')).drop 1 }
        return .restart
      else return .stopCycleSilently
    | .print =>
      emitLine setup s.space s.ended
      return .on
    | .printFirst =>
      emitLine setup (firstLine s.space) (s.ended || s.space.contains '\n')
      return .on
    | .number =>
      emit setup (Nat.repr s.number ++ "\n")
      return .on
    | .name =>
      emit setup (s.file ++ "\n")
      return .on
    | .list width? =>
      emit setup (visibleLine (width?.getD 70) (Text.narrow setup.utf8 s.space))
      return .on
    | .get =>
      set { s with space := s.held, ended := s.heldEnded }
      return .on
    | .getMore =>
      set { s with space := s.space ++ '\n' :: s.held, ended := s.heldEnded }
      return .on
    | .hold =>
      set { s with held := s.space, heldEnded := s.ended }
      return .on
    | .holdMore =>
      set { s with held := s.held ++ '\n' :: s.space, heldEnded := s.ended }
      return .on
    | .exchange =>
      set { s with
        space := s.held, ended := s.heldEnded, held := s.space, heldEnded := s.ended }
      return .on
    | .next =>
      if ← advance setup then
        match ← takeLine with
        | some l => modify fun st => { st with space := l.text }
        | none => pure ()
        return .on
      else return .stop
    | .nextMore =>
      if s.rest.isEmpty then return .stop
      else
        flush setup
        match ← takeLine with
        | some l => modify fun st => { st with space := s.space ++ '\n' :: l.text }
        | none => pure ()
        return .on
    | .quit status =>
      set { s with status := status, stopped := true }
      return .stop
    | .quitSilently status =>
      set { s with status := status, stopped := true }
      return .stopSilently
    | .readFile path =>
      set { s with waiting := s.waiting ++ [Waiting.file path] }
      return .on
    | .readLine path =>
      let lines ← match s.sources.lookup path with
        | some lines => pure lines
        | none => do
          pure (((← inputText path).toOption.map fun t =>
            (fullLines t.toList).map String.ofList).getD [])
      let others := s.sources.filter fun f => f.1 ≠ path
      set { s with
        waiting := s.waiting ++ (lines.take 1).map Waiting.text,
        sources := (path, lines.drop 1) :: others }
      return .on
    | .writeFile path =>
      emitTo setup path s.space s.ended
      return .on
    | .writeFirst path =>
      emitTo setup path (firstLine s.space) (s.ended || s.space.contains '\n')
      return .on
    | .empty =>
      set { s with space := [] }
      return .on
    | _ => return .on

/-- Runs the commands from a place on. -/
def commandsFrom (setup : Setup) : Nat → Nat → Script Flow
  | 0, _ => throw .exhausted
  | fuel + 1, index => do
    match setup.commands[index]? with
    | none => return .endCycle
    | some c =>
      let chosen ← isChosen index c.choice
      match ← perform setup index c chosen with
      | .on => commandsFrom setup fuel (index + 1)
      | .goTo place => commandsFrom setup fuel place
      | flow => return flow

/-- How many commands a script may do for one line. -/
def commandLimit : Nat := 100000

/-- Runs a script on all lines that are left. -/
def process (setup : Setup) : Nat → Bool → Script Unit
  | 0, _ => pure ()
  | fuel + 1, again => do
    let goes ← if again then pure true else do
      match ← takeLine with
      | some l =>
        modify fun s => { s with space := l.text }
        pure true
      | none => pure false
    if goes then
      let flow ← commandsFrom setup commandLimit 0
      let s ← get
      let silent := match flow with
        | .stopCycleSilently => true
        | .stopSilently => true
        | .restart => true
        | _ => false
      if !setup.quiet && !silent then emitLine setup s.space s.ended
      if s.stopped && !silent then endLine setup outputName
      flush setup
      modify fun s => { s with changed := false }
      match flow with
      | .stop => pure ()
      | .stopSilently => pure ()
      | .restart => process setup fuel true
      | _ => process setup fuel false

end Edit

/-! ## The program -/

open Shell

/-- The lines of a text for a script. -/
def editLines (utf8 zeros : Bool) (file text : String) : List Edit.InputLine :=
  if zeros then
    let parts := text.splitOn "\x00"
    let whole := (parts.dropLast).map fun t => ⟨Text.wide utf8 t, true, file⟩
    match parts.getLast? with
    | some "" => whole
    | some t => whole ++ [⟨Text.wide utf8 t, false, file⟩]
    | none => whole
  else
    (fullLines text.toList).map fun l =>
      let ended := l.getLast? = some '\n'
      ⟨Text.wide utf8 (String.ofList (if ended then l.dropLast else l)), ended, file⟩

/-- The state of a script before its first line, after files that lack the end of a line. -/
def Edit.State.first (commands : Array Edit.Command) (lines : List Edit.InputLine)
    (unended : List String) : Edit.State where
  rest := lines
  space := []
  ended := true
  held := []
  heldEnded := true
  number := 0
  file := "-"
  changed := false
  waiting := []
  ranges := commands.map fun c =>
    match c.choice.first? with
    | some (.line 0) => .inside
    | _ => .before
  lastRegex? := none
  status := 0
  sources := []
  written := []
  output := ""
  unended := unended
  stopped := false

/-- The files that a script writes. -/
def Edit.filesWritten (commands : Array Edit.Command) : List String :=
  commands.toList.filterMap fun c =>
    match c.action with
    | .writeFile path => some path
    | .writeFirst path => some path
    | .substitute s => s.file?
    | _ => none

/-- Writes the files of a script. -/
def writeEdited (name : String) (paths : List String) (written : List (String × String)) :
    Run Unit := do
  for path in paths.eraseDups do
    if path ≠ "/dev/stdout" then
      let text := String.join ((written.filter fun w => w.1 = path).map Prod.snd)
      match ← writeOutput false path text with
      | .ok () => pure ()
      | .error e => complainAs name ("couldn't open file " ++ path ++ ": " ++ e.reason)

/-- The parts of a script that are given as options, with how messages name them. -/
def scriptParts (name : String) (c : Call) : Run (Option (List (String × String))) := do
  let mut parts : List (String × String) := []
  let mut index := 0
  for (letter, value) in c.options do
    if letter = 'e' then
      index := index + 1
      parts := parts ++ [("-e expression #" ++ Nat.repr index ++ ", char ", value)]
    else if letter = 'f' then
      match ← inputText value with
      | .ok text =>
        let text := if text.endsWith "\n" then String.ofList text.toList.dropLast else text
        parts := parts ++ [("file " ++ value ++ " line ", text)]
      | .error e =>
        complainAs name ("couldn't open file " ++ value ++ ": " ++ e.reason)
        return none
  return some parts

/-- Shows how the program is used. -/
def showEditUsage : Run Unit :=
  sayError "Usage: sed [OPTION]... \x7bscript-only-if-no-other-script\x7d [input-file]...\n\n"

/-- The options of the program. -/
def editOptions : Known :=
  ⟨"ne:f:Eri::szulbx".toList, [("quiet", 'n'), ("silent", 'n'), ("expression", 'e'),
    ("file", 'f'), ("regexp-extended", 'E'), ("in-place", 'i'), ("separate", 's'),
    ("null-data", 'z'), ("unbuffered", 'u'), ("posix", 'x')]⟩

/-- Whether a script uses the last expression before there is one. -/
def Edit.lacksRegex (commands : Array Edit.Command) : Bool :=
  let isEmpty (a? : Option Edit.Address) : Bool :=
    match a? with
    | some (.regex w) => w.regex?.isNone
    | _ => false
  match commands[0]? with
  | some c =>
    match c.choice.first?, c.action with
    | none, .substitute s => s.wanted.regex?.isNone
    | first?, _ => isEmpty first?
  | none => false

/-- Edits lines by a script. -/
def sed : Body := fun name args => do
  match readCall editOptions (args.length + 1) args with
  | .error message =>
    complainAs name message
    showEditUsage
    return 1
  | .ok c =>
    match ← scriptParts name c with
    | none => return 1
    | some given =>
      let (parts, inputs) := match given, c.operands with
        | [], s :: rest => ([("-e expression #1, char ", s)], rest)
        | _, operands => (given, operands)
      if parts.isEmpty then
        showEditUsage
        return 1
      let utf8 := (← get).isUtf8
      let style : Edit.Style := ⟨c.has 'E' || c.has 'r', utf8⟩
      let text := "\n".intercalate (parts.map Prod.snd)
      match Edit.ofText style text with
      | .error f =>
        -- A fault is found in the part in which the script was read.
        let sizes := parts.map fun p => p.2.length + 1
        let starts := (sizes.foldl (fun (acc, at_) n => (acc ++ [at_], at_ + n))
          (([] : List Nat), 0)).1
        let which := (starts.filter (· < max 1 f.place)).length - 1
        let label := ((parts[which]?).map Prod.fst).getD ""
        let size := ((parts[which]?).map fun p => p.2.length).getD 0
        let place := min (f.place - (starts[which]?).getD 0) size
        let place := if f.place = 0 then 0 else place
        complainAs name (label ++ Nat.repr place ++ ": " ++ f.message)
        return 1
      | .ok commands =>
        match Edit.missingLabel? commands with
        | some l =>
          complainAs name ("can't find label for jump to \x60" ++ l ++ "'")
          return 4
        | none =>
          if Edit.lacksRegex commands then
            complainAs name "-e expression #1, char 0: no previous regular expression"
            return 1
          let quiet := c.has 'n' || text.startsWith "#n\n" || text = "#n"
          let setup : Edit.Setup := ⟨commands, quiet, utf8, c.has 'z'⟩
          let mut status := 0
          let mut files : List (String × List Edit.InputLine) := []
          for path in if inputs.isEmpty then ["-"] else inputs do
            match ← inputText path with
            | .ok t => files := files ++ [(path, editLines utf8 (c.has 'z') path t)]
            | .error .isDirectory =>
              if c.has 'i' then
                complainAs name ("couldn't edit " ++ path ++ ": not a regular file")
                status := 4
              else
                complainAs name ("read error on " ++ path ++ ": " ++ SystemError.isDirectory.reason)
                status := 4
            | .error e =>
              complainAs name ("can't read " ++ path ++ ": " ++ e.reason)
              status := 2
          let groups := if c.has 'i' || c.has 's' then files
            else [("-", files.flatMap Prod.snd)]
          let mut written : List (String × String) := []
          let mut unended : List String := []
          for (path, lines) in groups do
            let kept := if c.has 'i' then unended.filter (· ≠ Edit.outputName) else unended
            let first := Edit.State.first commands lines kept
            let whole : Edit.Script Unit := do
              if !lines.isEmpty then Edit.endLine setup Edit.outputName
              Edit.process setup (lines.length * 1000 + 1000) false
            let ((), s) ← whole.run first
            written := written ++ s.written
            unended := s.unended
            if s.status ≠ 0 then status := s.status
            if c.has 'i' then
              let ending := (c.value? 'i').getD ""
              if ending ≠ "" then
                let old := String.join (lines.map fun l =>
                  Text.narrow utf8 l.text ++ if l.ended then setup.ending else "")
                let _ ← writeOutput false (path ++ ending) old
              let _ ← writeOutput false path s.output
            else say s.output
            if s.stopped then break
          writeEdited name (Edit.filesWritten commands) written
          return status

end Looplet.Utility
