import Looplet.Shell.Expansion
import Looplet.Shell.Usage

/-!
# Variables, arguments and options

The commands of the shell that change what the shell knows: its variables, its arguments and its
options. A command gives its status.
-/

namespace Looplet.Shell

/-- A command of the shell: its arguments without its name, and how it runs other things. -/
abbrev BuiltinBody := Runner → List String → Run Nat

/-! ## Arguments -/

/-- Gives up because a text is not the number that is wanted. -/
def badNumber {α : Type} (s : String) : Run α := fatal ("Illegal number: " ++ s)

/-- A number that is not negative and fits in 32 bits with a sign. -/
def numberOf (s : String) : Run Nat := do
  let cs := s.toList.dropWhile Arithmetic.isSpace
  let (negative, body) := match cs with
    | '-' :: ds => (true, ds)
    | '+' :: ds => (false, ds)
    | ds => (false, ds)
  let digits := body.takeWhile Char.isDigit
  let n := Text.digitsValue digits
  if digits.isEmpty || !(body.drop digits.length).all Arithmetic.isSpace then badNumber s
  else if (negative && n ≠ 0) || 2147483647 < n then badNumber s
  else return n

/-- Reads the letters of an argument of options. A letter with a colon after it in `known` takes
the rest of its argument, or else the next argument. -/
def optionLettersOf (known : List Char) (rest : List String) :
    List Char → Run (List (Char × String) × List String)
  | [] => return ([], rest)
  | c :: cs => do
    let extended := (← get).extended
    if !known.contains c || c = ':' then
      if extended then misused ("-" ++ c.toString ++ ": invalid option")
      else fatal ("Illegal option -" ++ c.toString)
    else if ((known.dropWhile (· ≠ c)).drop 1).head? = some ':' then
      match cs, rest with
      | [], [] =>
        if extended then misused ("-" ++ c.toString ++ ": option requires an argument")
        else fatal ("No arg for -" ++ c.toString ++ " option")
      | [], value :: rest => return ([(c, value)], rest)
      | _, _ => return ([(c, String.ofList cs)], rest)
    else
      let (more, rest) ← optionLettersOf known rest cs
      return ((c, "") :: more, rest)

/-- The options at the start of arguments, and the arguments after them. -/
def optionsOf (known : String) : Nat → List String → Run (List (Char × String) × List String)
  | 0, args => return ([], args)
  | fuel + 1, args =>
    match args with
    | [] => return ([], [])
    | a :: rest =>
      match a.toList with
      | ['-', '-'] => return ([], rest)
      | '-' :: c :: cs => do
        let (here, rest) ← optionLettersOf known.toList rest (c :: cs)
        let (more, rest) ← optionsOf known fuel rest
        return (here ++ more, rest)
      | _ => return ([], args)

/-- The options of a command and its other arguments. -/
def options (known : String) (args : List String) : Run (List (Char × String) × List String) :=
  optionsOf known (args.length + 1) args

/-- The arguments of a command that knows no options. -/
def operands (args : List String) : Run (List String) := do return (← options "" args).2

/-! ## Variables -/

/-- The name and the value of an argument that may set a variable. -/
def splitAssignment (s : String) : String × Option String :=
  match s.toList.dropWhile (· ≠ '=') with
  | [] => (s, none)
  | _ :: value => (String.ofList (s.toList.takeWhile (· ≠ '=')), some (String.ofList value))

/-- Gives up unless a text is a name. -/
def checkName (name : String) : Run Unit :=
  if isName name then return () else fatal (name ++ ": bad variable name")

/-- Lists variables, each after the given word. -/
def listVariables (word : String) (p : Variable → Bool) : Run Unit := do
  let vs := (← get).bindings.filter p
  let lines := vs.map fun v =>
    word ++ v.name ++ match v.value? with
      | some value => "=" ++ requoted value ++ "\n"
      | none => "\n"
  say (String.join (sorted lines))

/-- Marks variables, and sets those that have a value. -/
def markVariables (mark : Variable → Variable) : List String → Run Unit
  | [] => return ()
  | a :: rest => do
    let (name, value?) := splitAssignment a
    checkName name
    match value? with
    | some value => setVariable name value
    | none => pure ()
    changeVariable name mark
    markVariables mark rest

/-- Makes variables visible to other programs. -/
def exportBuiltin : BuiltinBody := fun _ args => do
  let (opts, rest) ← options "p" args
  if opts.isEmpty && !rest.isEmpty then markVariables (fun v => { v with exported := true }) rest
  else listVariables "export " Variable.exported
  return 0

/-- Protects variables from change. -/
def readonlyBuiltin : BuiltinBody := fun _ args => do
  let (opts, rest) ← options "p" args
  if opts.isEmpty && !rest.isEmpty then markVariables (fun v => { v with readOnly := true }) rest
  else listVariables "readonly " Variable.readOnly
  return 0

/-- Takes variables or functions away. -/
def unsetBuiltin : BuiltinBody := fun _ args => do
  let (opts, rest) ← options "vf" args
  let functions := (opts.getLast?.map Prod.fst) = some 'f'
  for name in rest do
    if functions then
      modify fun p => { p with functions := p.functions.filter fun f => f.1 ≠ name }
    else
      checkName name
      unsetVariable name
  return 0

/-- Makes variables belong to the function at hand. -/
def localBuiltin : BuiltinBody := fun _ args => do
  if (← get).locals.isEmpty then fatal "not in a function"
  for a in args do
    let (name, value?) := splitAssignment a
    checkName name
    keepVariable name
    match value? with
    | some value => setVariable name value
    | none => pure ()
  return 0

/-- Drops arguments. -/
def shiftBuiltin : BuiltinBody := fun _ args => do
  let n ← match args with
    | [] => pure 1
    | a :: _ => numberOf a
  let p ← get
  if p.args.length < n then fatal "can't shift that many"
  else
    set { p with args := p.args.drop n, optionOffset := 0 }
    return 0

/-- A number with a sign that fits in a word, between blanks. -/
def wordNumber? (s : String) : Option Int :=
  let cs := (s.toList.dropWhile Arithmetic.isSpace).reverse.dropWhile Arithmetic.isSpace
  let (sign, body) := match cs.reverse with
    | '-' :: ds => (-1, ds)
    | '+' :: ds => (1, ds)
    | ds => ((1 : Int), ds)
  match Text.natural? body with
  | some n =>
    let n := sign * Int.ofNat n
    if Text.fitsWord n then some n else none
  | none => none

/-- Gives up the commands at hand because a command has too many arguments. -/
def tooManyArguments {α : Type} : Run α := do
  complain "too many arguments"
  setStatus 1
  throw .discard

/-- Drops arguments, in a shell that knows more than the standard. -/
def richShiftBuiltin : BuiltinBody := fun _ args => do
  let n ← match if args.head? = some "--" then args.drop 1 else args with
    | [] => pure 1
    | [a] =>
      match wordNumber? a with
      | some n =>
        if n < 0 then failWithStatus 1 (a ++ ": shift count out of range") else pure n.toNat
      | none => failWithStatus 1 (a ++ ": numeric argument required")
    | _ => tooManyArguments
  let p ← get
  if p.args.length < n then
    if p.hasToggle "shift_verbose" then failWithStatus 1 "shift count out of range" else return 1
  else
    set { p with args := p.args.drop n }
    return 0

/-! ## Options -/

/-- The options by name and letter. -/
def optionNames : List (String × Char) :=
  [("errexit", 'e'), ("noglob", 'f'), ("ignoreeof", 'I'), ("interactive", 'i'), ("monitor", 'm'),
    ("noexec", 'n'), ("stdin", 's'), ("xtrace", 'x'), ("verbose", 'v'), ("vi", 'V'),
    ("emacs", 'E'), ("noclobber", 'C'), ("allexport", 'a'), ("notify", 'b'), ("nounset", 'u'),
    ("privileged", 'p'), ("nolog", '0'), ("debug", '1')]

/-- The mark of the option by which a pipeline fails if one of its parts does. -/
def pipefailMark : Char := '2'

/-- Sets an option or takes it back. -/
def setOption (on : Bool) (c : Char) : Run Unit :=
  modify fun p =>
    let others := p.options.filter (· ≠ c)
    { p with options := if on then c :: others else others }

/-- Lists the options. -/
def listOptions (on : Bool) : Run Unit := do
  let set := (← get).options
  let column := fun (s : String) => s ++ String.ofList (List.replicate (16 - s.length) ' ')
  let line := fun ((name, c) : String × Char) =>
    if on then column name ++ (if c ∈ set then "on" else "off") ++ "\n"
    else "set " ++ (if c ∈ set then "-o " else "+o ") ++ name ++ "\n"
  say ((if on then "Current option settings\n" else "") ++ String.join (optionNames.map line))

/-- Sets options by their letters. `o` takes a name. -/
def setLetters (on : Bool) (rest : List String) :
    List Char → Run (List String)
  | [] => return rest
  | 'o' :: cs => do
    match rest with
    | [] =>
      listOptions on
      setLetters on [] cs
    | name :: rest =>
      match optionNames.lookup name with
      | some c =>
        setOption on c
        setLetters on rest cs
      | none => fatal ("Illegal option -o " ++ name)
  | c :: cs => do
    if optionNames.any (fun o => o.2 = c) then
      setOption on c
      setLetters on rest cs
    else fatal ("Illegal option -" ++ c.toString)

/-- Sets the options at the start of arguments. Gives the other arguments, and whether there were
any marks for them. -/
def setOptions : Nat → List String → Run (List String × Bool)
  | 0, args => return (args, false)
  | fuel + 1, args =>
    match args with
    | [] => return ([], false)
    | a :: rest =>
      match a.toList with
      | ['-'] => do
        setOption false 'x'
        setOption false 'v'
        return (rest, false)
      | ['-', '-'] => return (rest, true)
      | '-' :: cs => do setOptions fuel (← setLetters true rest cs)
      | '+' :: cs => do setOptions fuel (← setLetters false rest cs)
      | _ => return (args, false)

/-- Sets options and arguments, or lists the variables. -/
def setBuiltin : BuiltinBody := fun _ args => do
  if args.isEmpty then
    listVariables "" fun v => v.value?.isSome
    return 0
  else
    let (rest, marked) ← setOptions (args.length + 1) args
    if marked || !rest.isEmpty then
      modify fun p => { p with args := rest, optionOffset := 0 }
    return 0

/-- The two names of an option that is read: its letter, and a colon if it takes a value. -/
def optionKind (known : List Char) (c : Char) : Option Bool :=
  if c = ':' then none
  else
    match known.dropWhile (· ≠ c) with
    | [] => none
    | _ :: ':' :: _ => some true
    | _ => some false

/-- Ends a step of `getopts`. -/
def finishOption (name : String) (found : String) (index offset : Nat) (status : Nat) :
    Run Nat := do
  setVariable "OPTIND" (Nat.repr index)
  setVariable name found
  modify fun p => { p with optionOffset := offset }
  return status

/-- Reads the next option of the arguments of a script. -/
def getoptsBuiltin : BuiltinBody := fun _ args => do
  match args with
  | known :: name :: rest =>
    let p ← get
    let words := if rest.isEmpty then p.args else rest
    let quiet := known.toList.head? = some ':'
    let index := (Text.natural? ((p.value? "OPTIND").getD "1").toList).getD 1
    let current := (words[index - 2]?.getD "").toList.drop p.optionOffset
    let inside := 1 < index && 0 < p.optionOffset && !current.isEmpty
    let fresh := (words[index - 1]?.getD "").toList
    if !inside && fresh = ['-', '-'] then finishOption name "?" (index + 1) 0 1
    else if !inside && (fresh.head? ≠ some '-' || fresh.length < 2) then
      finishOption name "?" index 0 1
    else
      let letters := if inside then current else fresh.drop 1
      let used := if inside then p.optionOffset + 1 else 2
      let index := if inside then index else index + 1
      match letters with
      | [] => finishOption name "?" index 0 1
      | c :: more =>
        let offset := if more.isEmpty then 0 else used
        match optionKind known.toList c with
        | none =>
          if quiet then setVariable "OPTARG" c.toString
          else
            sayError ("Illegal option -" ++ c.toString ++ "\n")
            unsetVariable "OPTARG"
          finishOption name "?" index offset 0
        | some false =>
          setVariable "OPTARG" ""
          finishOption name c.toString index offset 0
        | some true =>
          if !more.isEmpty then
            setVariable "OPTARG" (String.ofList more)
            finishOption name c.toString index 0 0
          else
            match words[index - 1]? with
            | some value =>
              setVariable "OPTARG" value
              finishOption name c.toString (index + 1) 0 0
            | none =>
              if quiet then
                setVariable "OPTARG" c.toString
                finishOption name ":" index 0 0
              else
                sayError ("No arg for -" ++ c.toString ++ " option\n")
                unsetVariable "OPTARG"
                finishOption name "?" index 0 0
  | _ => fatal "Usage: getopts optstring var [arg...]"

/-- Ends a step of `getopts` in a shell that knows more than the standard. -/
def finishRichOption (name found : String) (arg? : Option String) (index offset status : Nat) :
    Run Nat := do
  setVariable "OPTIND" (Nat.repr index)
  modify fun p => { p with optionOffset := offset }
  match arg? with
  | some arg => setVariable "OPTARG" arg
  | none => unsetVariable "OPTARG"
  if isName name then
    setVariable name found
    return status
  else failWithStatus 1 (notIdentifier name)

/-- Reads the next option of the arguments of a script, in a shell that knows more than the
standard. The index stays at an argument until all its letters are read. -/
def richGetoptsBuiltin : BuiltinBody := fun _ args => do
  match ← operands args with
  | known :: name :: rest =>
    let p ← get
    let words := if rest.isEmpty then p.args else rest
    let quiet := known.startsWith ":"
    let silent := quiet || p.value? "OPTERR" = some "0"
    let index := max 1 ((Text.natural? ((p.value? "OPTIND").getD "1").toList).getD 1)
    let word := (words[index - 1]?.getD "").toList
    let offset := if 0 < p.optionOffset && p.optionOffset < word.length then p.optionOffset else 0
    if offset = 0 && word = ['-', '-'] then finishRichOption name "?" none (index + 1) 0 1
    else if offset = 0 && (word.head? ≠ some '-' || word.length < 2) then
      finishRichOption name "?" none index 0 1
    else
      match word.drop (max 1 offset) with
      | [] => finishRichOption name "?" none index 0 1
      | c :: more =>
        let (next, offset) := if more.isEmpty then (index + 1, 0) else (index, max 1 offset + 1)
        match optionKind known.toList c with
        | none =>
          if !silent then sayError (p.name ++ ": illegal option -- " ++ c.toString ++ "\n")
          finishRichOption name "?" (if quiet then some c.toString else none) next offset 0
        | some false => finishRichOption name c.toString none next offset 0
        | some true =>
          match more, words[index]? with
          | _ :: _, _ =>
            finishRichOption name c.toString (some (String.ofList more)) (index + 1) 0 0
          | [], some value => finishRichOption name c.toString (some value) (index + 2) 0 0
          | [], none =>
            if quiet then finishRichOption name ":" (some c.toString) (index + 1) 0 0
            else
              if !silent then
                sayError (p.name ++ ": option requires an argument -- " ++ c.toString ++ "\n")
              finishRichOption name "?" none (index + 1) 0 0
  | _ => showUsage

/-! ## Reading -/

/-- A line of input as characters that may divide fields or not, and whether it had an end. A
backslash protects the character after it, or joins two lines. -/
def readCells (raw : Bool) : Nat → Run (List Cell × Bool)
  | 0 => return ([], false)
  | fuel + 1 => do
    match ← readLineFrom 0 with
    | .error _ => return ([], false)
    | .ok text =>
      let cs := text.toList.filter (· ≠ '\x00')
      let ended := cs.getLast? = some '\n'
      let body := if ended then cs.dropLast else cs
      let rec scan : List Char → List Cell × Bool
        | [] => ([], false)
        | ['\\'] => if raw then ([.char '\\' false true], false) else ([], true)
        | '\\' :: c :: rest =>
          if raw then
            let (more, joins) := scan (c :: rest)
            (.char '\\' false true :: more, joins)
          else
            let (more, joins) := scan rest
            (.char c true false :: more, joins)
        | c :: rest =>
          let (more, joins) := scan rest
          (.char c false true :: more, joins)
      let (cells, joins) := scan body
      if joins && ended then
        let (more, ended) ← readCells raw fuel
        return (cells ++ more, ended)
      else return (cells, ended)

/-- Whether a cell is a blank that divides fields. -/
def isBlankCell (separators : List Char) : Cell → Bool
  | .char c _ soft => soft && separators.contains c && (c = ' ' || c = '\t' || c = '\n')
  | _ => false

/-- Whether a cell divides fields. -/
def isSeparatorCell (separators : List Char) : Cell → Bool
  | .char c _ soft => soft && separators.contains c
  | _ => false

/-- Where the end of the last field of a line is cut off, if it is: at blanks that end the line, and
at a separator that is alone with them. An escaped character does not keep the blanks before it, but
a separator after it is no longer alone. -/
def cutOf? (separators : List Char) : Nat → Option Nat → Bool → List Cell → Option Nat
  | _, cut?, _, [] => cut?
  | i, cut?, alone, .char c quoted soft :: rest =>
    let cell := Cell.char c quoted soft
    if quoted then cutOf? separators (i + 1) cut? false rest
    else if isBlankCell separators cell then
      cutOf? separators (i + 1) (cut?.or (some i)) alone rest
    else
      let kept? := if alone && isSeparatorCell separators cell then cut? else none
      cutOf? separators (i + 1) kept? false rest
  | i, cut?, alone, _ :: rest => cutOf? separators (i + 1) cut? alone rest

/-- The last field of a line: all that is left. If that is one field, its separator goes too. -/
def remainder (separators : List Char) (cells : List Cell) : List Cell :=
  let first := cells.takeWhile fun c => !isSeparatorCell separators c
  match cells.drop first.length with
  | [] => cells
  | c :: rest =>
    let start := first.length
    match cutOf? separators (start + 1) (some start) (isBlankCell separators c) rest with
    | some n => cells.take n
    | none => cells

/-- Divides a line among variables. -/
def assignFields (separators : List Char) : List String → List Cell → Run Unit
  | [], _ => return ()
  | [name], cells =>
    setVariable name (textOf (remainder separators (cells.dropWhile (isBlankCell separators))))
  | name :: rest, cells => do
    let cells := cells.dropWhile (isBlankCell separators)
    let field := cells.takeWhile fun c => !isSeparatorCell separators c
    let after := (cells.drop field.length).dropWhile (isBlankCell separators)
    let after := match after with
      | c :: more =>
        if isSeparatorCell separators c then more.dropWhile (isBlankCell separators) else after
      | [] => []
    setVariable name (textOf field)
    assignFields separators rest after

/-- Reads a line into variables. -/
def readBuiltin : BuiltinBody := fun _ args => do
  let (opts, names) ← options "p:r" args
  if names.isEmpty then fatal "arg count"
  else
    let raw := opts.any fun o => o.1 = 'r'
    let (cells, ended) ← readCells raw 1000
    for name in names do checkName name
    assignFields (← get).separators.toList names cells
    return if ended then 0 else 1

/-! ## Permissions -/

/-- The digits of a number in base eight, with zeros before them. -/
def octalDigits (width n : Nat) : String :=
  let digits := Nat.toDigits 8 n
  String.ofList (List.replicate (width - digits.length) '0' ++ digits)

/-- Which letters a digit of permissions stands for. -/
def permissionLetters (n : Nat) : String :=
  (if n &&& 4 ≠ 0 then "r" else "") ++ (if n &&& 2 ≠ 0 then "w" else "")
    ++ (if n &&& 1 ≠ 0 then "x" else "")

/-- The classes of users that letters name; none means all. -/
def usersOf (cs : List Char) : List Char :=
  if cs.isEmpty || 'a' ∈ cs then ['u', 'g', 'o'] else cs

/-- The bits of a mode that belong to some classes of users. -/
def usersMask (who : List Char) : Nat :=
  (if 'u' ∈ who then 0o4700 else 0) ||| (if 'g' ∈ who then 0o2070 else 0)
    ||| (if 'o' ∈ who then 0o1007 else 0)

/-- The three bits of a class of users, for all classes. -/
def copiedBits (mode : Nat) (c : Char) : Nat :=
  let bits := (if c = 'u' then mode / 0o100 else if c = 'g' then mode / 0o10 else mode) &&& 7
  bits * 0o111

/-- The bits that letters of permissions stand for. An `X` counts for directories and for what
somebody may execute. -/
def permissionBits (directory : Bool) (mode : Nat) (letters : List Char) : Nat :=
  letters.foldl (fun n c =>
    n ||| (match c with
      | 'r' => 0o444
      | 'w' => 0o222
      | 'x' => 0o111
      | 'X' => if directory || mode &&& 0o111 ≠ 0 then 0o111 else 0
      | 's' => 0o6000
      | 't' => 0o1000
      | _ => copiedBits mode c)) 0

/-- Whether letters may stand after a sign in a change of permissions. -/
def arePermissions (letters : List Char) : Bool :=
  letters.all (fun c => c ∈ ['r', 'w', 'x', 'X', 's', 't'])
    || (letters.length = 1 && letters.all (fun c => c ∈ ['u', 'g', 'o']))

/-- Whether a character is the sign of a change of permissions. -/
def isChangeSign (c : Char) : Bool := c = '+' || c = '-' || c = '='

/-- A mode after signs with letters, such as `+x-w`, for some users. -/
def changedModeFor? (directory : Bool) (who : List Char) (mask : Nat) :
    Nat → Nat → List Char → Option Nat
  | 0, _, _ => none
  | _ + 1, mode, [] => some mode
  | fuel + 1, mode, op :: rest =>
    let letters := rest.takeWhile fun c => !isChangeSign c
    if !isChangeSign op || !arePermissions letters then none
    else
      let open_ := usersMask (usersOf who) &&& (if who.isEmpty then 0o7777 ^^^ mask else 0o7777)
      let bits := permissionBits directory mode letters &&& open_
      let changed := if op = '+' then mode ||| bits
        else if op = '-' then mode &&& (0o7777 ^^^ bits)
        else
          let kept := if directory then 0o6000 else 0
          let others := if who.isEmpty then 0 else 0o7777 ^^^ open_
          (mode &&& others) ||| (mode &&& kept) ||| bits
      changedModeFor? directory who mask fuel changed (rest.drop letters.length)

/-- A mode after a change such as `g+w`, or nothing if that is not understood. If no users are
named, the bits of a mask stay as they are. -/
def changedMode? (directory : Bool) (mask mode : Nat) (change : List Char) : Option Nat :=
  let who := change.takeWhile fun c => c ∈ ['u', 'g', 'o', 'a']
  match change.drop who.length with
  | [] => none
  | signs => changedModeFor? directory who mask (signs.length + 1) mode signs

/-- A mode after changes that are divided by commas, or one that is given by its digits. -/
def newMode? (directory : Bool) (mask mode : Nat) (s : String) : Option Nat :=
  if s ≠ "" && s.toList.all (fun c => '0' ≤ c && c ≤ '7') then
    let n := Text.valueIn 8 s.toList
    if n ≤ 0o7777 then some n else none
  else
    let step (mode? : Option Nat) (change : String) : Option Nat :=
      mode?.bind fun m => changedMode? directory mask m change.toList
    (s.splitOn ",").foldl step (some mode)

/-- The permissions that a mask leaves, by letters. -/
def lettersOfMask (mask : Nat) : String :=
  let allowed := 0o777 ^^^ mask
  "u=" ++ permissionLetters (allowed / 0o100) ++ ",g=" ++ permissionLetters (allowed / 0o10)
    ++ ",o=" ++ permissionLetters allowed

/-- What is wrong with a change of permissions: a sign or a letter. -/
def modeFault (s : String) : String :=
  let faults := (s.splitOn ",").filterMap fun change =>
    let signs := change.toList.dropWhile fun c => c ∈ ['u', 'g', 'o', 'a']
    match signs with
    | [] => some ("\x60\x00': invalid symbolic mode operator")
    | sign :: rest =>
      if !isChangeSign sign then
        some ("\x60" ++ sign.toString ++ "': invalid symbolic mode operator")
      else
        (rest.find? fun c => c ∉ "rwxXstugo".toList && !isChangeSign c).map fun c =>
          "\x60" ++ c.toString ++ "': invalid symbolic mode character"
  faults.head?.getD "\x60\x00': invalid symbolic mode operator"

/-- Shows or sets which permissions new files do not get, in a shell that knows more than the
standard. -/
def richUmaskBuiltin : BuiltinBody := fun _ args => do
  let (opts, rest) ← options "pS" args
  let has (c : Char) : Bool := opts.any fun o => o.1 = c
  let p ← get
  match rest with
  | [] =>
    let written := if has 'S' then lettersOfMask p.umask else octalDigits 4 p.umask
    let start := if !has 'p' then "" else if has 'S' then "umask -S " else "umask "
    say (start ++ written ++ "\n")
  | s :: _ =>
    if (s.toList.head?.map Char.isDigit).getD false then
      let n := Text.valueIn 8 s.toList
      if s.toList.all (fun c => '0' ≤ c && c ≤ '7') && n ≤ 0o7777 then
        set { p with umask := n &&& 0o777 }
      else failWithStatus 1 (s ++ ": octal number out of range")
    else
      match newMode? false 0 (0o777 ^^^ p.umask) s with
      | some m => set { p with umask := 0o777 ^^^ (m &&& 0o777) }
      | none => failWithStatus 1 (modeFault s)
    if has 'S' then say (lettersOfMask (← get).umask ++ "\n")
  return 0

/-- Shows or sets which permissions new files do not get. -/
def umaskBuiltin : BuiltinBody := fun _ args => do
  let (opts, rest) ← options "S" args
  let mask := (← get).umask
  match rest with
  | [] =>
    say ((if opts.isEmpty then octalDigits 4 mask else lettersOfMask mask) ++ "\n")
    return 0
  | s :: _ =>
    if (s.toList.head?.map Char.isDigit).getD false then
      if s.toList.all (fun c => '0' ≤ c && c ≤ '7') && Text.valueIn 8 s.toList ≤ 0o777 then
        modify fun p => { p with umask := Text.valueIn 8 s.toList }
        return 0
      else badNumber s
    else
      match newMode? false 0 (0o777 ^^^ mask) s with
      | some m =>
        modify fun p => { p with umask := 0o777 ^^^ (m &&& 0o777) }
        return 0
      | none => fatal ("Illegal mode: " ++ s)

end Looplet.Shell
