import Looplet.Awk.Machine

/-!
# Running programs

`evaluate` gives the value of an expression and `execute` does a statement. What lies inside them is
evaluated and executed by an `Evaluator`, which is tied to itself by a depth, so that calls cannot
nest without end.
-/

namespace Looplet.Awk

open Shell (Run Runner)

/-- How expressions and statements are done. -/
structure Evaluator where
  value : Expr → Act Value
  run : Statement → Act Unit

/-- Stops a program whose calls are nested too deep. -/
def tooDeep {α : Type} : Act α :=
  throw (.fault "program limit exceeded: eval stack size=1024")

/-! ## Places -/

/-- A place that has a value. -/
inductive Place where
  | name (name : String)
  | element (table : Nat) (key : String)
  | field (index : Int)

/-- The value of an expression as a number. -/
def Evaluator.number (e : Evaluator) (x : Expr) : Act Float := do return (← e.value x).toNumber

/-- The value of an expression as a text. -/
def Evaluator.text (e : Evaluator) (x : Expr) : Act String := do textOf (← e.value x)

/-- The key that some expressions make. -/
def Evaluator.key (e : Evaluator) (keys : List Expr) : Act String := do
  let texts ← keys.mapM e.text
  return (← setting "SUBSEP").intercalate texts

/-- The place that an expression stands for. -/
def Evaluator.place (e : Evaluator) : Expr → Act Place
  | .name s => return .name s
  | .element t keys => do
    let key ← e.key keys
    return .element (← tableNamed t) key
  | .field i => do return .field (indexOf (← e.number i))
  | _ => return .field 0

/-- The value at a place. An element that is asked for is there from then on. -/
def Place.get : Place → Act Value
  | .name s => valueNamed s
  | .element t key => do
    let v := ((← tableAt t).get? key).getD .unset
    changeTable t fun table => table.put key v
    return v
  | .field i => fieldNow i

/-- Sets the value at a place. -/
def Place.set (p : Place) (v : Value) : Act Unit :=
  match p with
  | .name s => setNamed s v
  | .element t key => changeTable t fun table => table.put key v
  | .field i => setField i v

/-! ## Functions of the language -/

/-- The regular expression that an argument stands for. -/
def Evaluator.regex (e : Evaluator) (x : Expr) : Act Text.Regex := do
  match x with
  | .regex source => regexNamed source
  | _ => regexNamed (← e.text x)

/-- The number cut off at its point. -/
def cutOff (x : Float) : Float := if x < 0 then -((-x).floor) else x.floor

/-- Replaces matches of an expression in a place. -/
def substitute (e : Evaluator) (all : Bool) (pattern new target : Expr) : Act Value := do
  let r ← e.regex pattern
  let written := (← e.text new).toList
  let parts := replacementParts (written.length + 1) written
  let place ← e.place target
  let chars := (← textOf (← place.get)).toList.toArray
  let (text, n) := replaced r parts all chars (chars.size + 2) 0 none
  if 0 < n then place.set (.text (String.ofList text))
  return .ofNat n

/-- Divides a text into the elements of a table. -/
def splitInto (text : String) (table : Nat) (d : Divider) : Act Value := do
  let parts := d.parts text
  let filled := parts.foldl (fun (t, n) s => (Table.put t (Nat.repr n) (.input s), n + 1))
    (Table.empty, 1)
  changeTable table fun _ => filled.1
  return .ofNat parts.length

/-- A function of one number. -/
def numberFunction? : String → Option (Float → Float)
  | "sin" => some Float.sin
  | "cos" => some Float.cos
  | "exp" => some Float.exp
  | "log" => some Float.log
  | "sqrt" => some Float.sqrt
  | "int" => some cutOff
  | _ => none

/-- The next number of a row that looks like chance, between zero and one. -/
def nextRandom : Act Value := do
  let s ← get
  let n := Shell.nextChance s.chance
  set { s with chance := n }
  return .number (Float.ofNat n / 2147483648)

/-- Makes outputs go. Gives zero, or minus one if there is no output of the name. -/
def flushNamed (name? : Option String) : Act Value := do
  match name? with
  | none =>
    flushAll
    return .number 0
  | some name =>
    let isOpen := isMainOutput name || (← get).outputs.any fun o => o.name = name
    if isOpen then flushAll
    return .number (if isOpen then 0 else -1)

/-- How long a value is, or how many elements a table has. -/
def lengthOf (e : Evaluator) (x : Expr) : Act Value := do
  let table? ← match x with
    | .name s => knownTable? s
    | _ => pure none
  match table? with
  | some t => return .ofNat (← tableAt t).entries.size
  | none => return .ofNat (← e.text x).length

/-- The value of a function of the language. -/
def callBuiltin (run : Runner) (e : Evaluator) (name : String) (args : List Expr) :
    Act Value := do
  match name, args with
  | "length", [] => return .ofNat (← textOf (← recordNow)).length
  | "length", x :: _ => lengthOf e x
  | "index", [x, y] =>
    let s ← e.text x
    let needle ← e.text y
    return .ofNat (positionOf needle.toList 1 s.toList)
  | "substr", x :: y :: more =>
    let s ← e.text x
    let start := indexOf (← e.number y)
    let length? ← match more with
      | z :: _ => do pure (some (indexOf (← e.number z)))
      | [] => pure none
    return .text (partOf s start length?)
  | "split", x :: .name t :: more =>
    let s ← e.text x
    let d ← match more with
      | .regex source :: _ => do pure (Divider.regex (← regexNamed source))
      | y :: _ => do dividerOf (← e.text y)
      | [] => do dividerOf (← setting "FS")
    splitInto s (← tableNamed t) d
  | "sub", [pattern, new, target] => substitute e false pattern new target
  | "gsub", [pattern, new, target] => substitute e true pattern new target
  | "match", [x, pattern] =>
    let s ← e.text x
    let r ← e.regex pattern
    let (start, length) := match firstMatch? r s with
      | some (first, last) => (Float.ofNat (first + 1), Float.ofNat (last - first))
      | none => (0, -1)
    setGlobal "RSTART" (.number start)
    setGlobal "RLENGTH" (.number length)
    return .number start
  | "sprintf", format :: values =>
    let format ← e.text format
    let values ← values.mapM e.value
    let w := formatted (Value.toText (← setting "CONVFMT")) format values
    match w.fault? with
    | some message => failure (message ++ "sprintf(\"" ++ format ++ "\")")
    | none => return .text w.output
  | "atan2", [x, y] =>
    let a ← e.number x
    return .number (Float.atan2 a (← e.number y))
  | "rand", _ => nextRandom
  | "srand", _ =>
    let old := (← get).seed
    let new ← match args with
      | x :: _ => e.value x
      | [] => pure (.number 0)
    modify fun s => { s with seed := new, chance := (indexOf new.toNumber).natAbs + 1 }
    return old
  | "toupper", [x] => return .text ((← e.text x).map Char.toUpper)
  | "tolower", [x] => return .text ((← e.text x).map Char.toLower)
  | "system", [x] =>
    let command ← e.text x
    flushAll
    return .ofNat (endNumber (← runCommand run command none))
  | "close", [x] => closeNamed run (← e.text x)
  | "fflush", [] => flushNamed none
  | "fflush", x :: _ => flushNamed (some (← e.text x))
  | "systime", _ =>
    let p ← (get : Run Shell.Process)
    return .ofNat (p.world.clock / 1000)
  | _, [x] =>
    match numberFunction? name with
    | some f => return .number (f (← e.number x))
    | none => return .unset
  | _, _ => return .unset

/-! ## Calls -/

/-- What a parameter stands for in a call. -/
def bindParameter (e : Evaluator) (f : Function) (param : String) (arg? : Option Expr) :
    Act (String × Slot) := do
  let known? ← match arg? with
    | some (.name t) => knownTable? t
    | _ => pure none
  match known?, arg? with
  | some i, _ => return (param, .table i)
  | none, some (.name t) =>
    if f.tables.contains param then return (param, .table (← tableNamed t))
    else return (param, .value (← e.value (.name t)))
  | none, some x => return (param, .value (← e.value x))
  | none, none =>
    if f.tables.contains param then return (param, .table (← newTable))
    else return (param, .value .unset)

/-- What the parameters stand for in a call. -/
def bindParameters (e : Evaluator) (f : Function) : List String → List Expr →
    Act (List (String × Slot))
  | [], _ => return []
  | p :: ps, args => do
    let first ← bindParameter e f p args.head?
    return first :: (← bindParameters e f ps (args.drop 1))

/-- Calls a function of the program. -/
def callFunction (e : Evaluator) (name : String) (args : List Expr) : Act Value := do
  match (← get).functions.get? name with
  | none => return .unset
  | some f =>
    let frame ← bindParameters e f f.params args
    let outer := (← get).frame
    modify fun s => { s with frame := frame }
    let v ← tryCatch (do e.run f.body; pure Value.unset) fun
      | .giveBack v => pure v
      | l => throw l
    modify fun s => { s with frame := outer }
    return v

/-! ## Expressions -/

/-- Reads a record into a place, or as the record at hand. -/
def readRecord (run : Runner) (e : Evaluator) (origin : Origin) (source target : List Expr) :
    Act Value := do
  let (code, record?) ← match origin, source with
    | .main, _ => do
      let r ← mainRecord? argLimit
      pure (if r.isSome then 1 else 0, r)
    | _, x :: _ => do otherRecord? run origin (← e.text x)
    | _, [] => pure (-1, none)
  match record?, target with
  | some r, [] => setRecord (.input r)
  | some r, t :: _ => (← e.place t).set (.input r)
  | none, _ => pure ()
  return .number code

/-- The value of an expression. -/
def evaluate (run : Runner) (e : Evaluator) (x : Expr) : Act Value := do
  match x with
  | .number n => return .number n
  | .text s => return .text s
  | .regex source =>
    let r ← regexNamed source
    return .ofBool (firstMatch? r (← textOf (← recordNow))).isSome
  | .name s => valueNamed s
  | .element _ _ => (← e.place x).get
  | .field _ => (← e.place x).get
  | .assign target operation? value =>
    let place ← e.place target
    let v ← e.value value
    let v ← match operation? with
      | none => pure v
      | some o => do pure (.number (o.apply (← place.get).toNumber v.toNumber))
    place.set v
    return v
  | .step target up before =>
    let place ← e.place target
    let old := (← place.get).toNumber
    let new := if up then old + 1 else old - 1
    place.set (.number new)
    return .number (if before then old else new)
  | .negate y => return .number (-(← e.number y))
  | .affirm y => return .number (← e.number y)
  | .not y => return .ofBool !(← e.value y).isTrue
  | .compute o y z =>
    let a ← e.number y
    return .number (o.apply a (← e.number z))
  | .compare c y z =>
    let a ← e.value y
    let b ← e.value z
    return .ofBool (compared (← setting "CONVFMT") c a b)
  | .matching negated y z =>
    let s ← e.text y
    let r ← e.regex z
    return .ofBool ((firstMatch? r s).isSome != negated)
  | .join y z =>
    let a ← e.text y
    return .text (a ++ (← e.text z))
  | .and y z =>
    if (← e.value y).isTrue then return .ofBool (← e.value z).isTrue else return .ofBool false
  | .or y z =>
    if (← e.value y).isTrue then return .ofBool true else return .ofBool (← e.value z).isTrue
  | .choose c y z => if (← e.value c).isTrue then e.value y else e.value z
  | .has t keys =>
    let key ← e.key keys
    return .ofBool ((← tableAt (← tableNamed t)).get? key).isSome
  | .call f args => callFunction e f args
  | .builtin f args => callBuiltin run e f args
  | .read origin source target => readRecord run e origin source target

/-! ## Statements -/

/-- Writes to where a statement says. -/
def emit (e : Evaluator) (output? : Option (Way × Expr)) (text : String) : Act Unit := do
  match output? with
  | none => modify fun s => { s with waiting := s.waiting ++ text }
  | some (way, x) => emitTo way (← e.text x) text

/-- Writes values. -/
def print (e : Evaluator) (args : List Expr) (output? : Option (Way × Expr)) : Act Unit := do
  let text ← match args with
    | [] => do printedText (← recordNow)
    | _ => do
      let texts ← args.mapM fun x => do printedText (← e.value x)
      pure ((← setting "OFS").intercalate texts)
  emit e output? (text ++ (← setting "ORS"))

/-- Writes values by a format. -/
def printFormatted (e : Evaluator) (args : List Expr) (output? : Option (Way × Expr)) :
    Act Unit := do
  match args with
  | [] => pure ()
  | format :: values =>
    let format ← e.text format
    let values ← values.mapM e.value
    let w := formatted (Value.toText (← setting "CONVFMT")) format values
    emit e output? w.output
    match w.fault? with
    | some message => failure (message ++ "printf(\"" ++ format ++ "\")")
    | none => pure ()

/-- Does the body of a loop. Gives whether the loop goes on. -/
def loopBody (body : Act Unit) : Act Bool :=
  tryCatch (do body; pure true) fun
    | .leave => pure false
    | .again => pure true
    | l => throw l

/-- Repeats something as long as a condition holds. -/
def repeatWhile (condition : Act Bool) (body : Act Unit) (step : Act Unit) : Nat → Act Unit
  | 0 => tooDeep
  | fuel + 1 => do
    if ← condition then
      if ← loopBody body then
        step
        repeatWhile condition body step fuel

/-- How often a loop is repeated. -/
def loopLimit : Nat := 100000000

/-- Does something for every key. -/
def forEach (name : String) (body : Act Unit) : List String → Act Unit
  | [] => pure ()
  | key :: rest => do
    setNamed name (.text key)
    if ← loopBody body then forEach name body rest

/-- Does a statement. -/
def execute (e : Evaluator) (s : Statement) : Act Unit := do
  match s with
  | .expr x => let _ ← e.value x
  | .print args output? => print e args output?
  | .printf args output? => printFormatted e args output?
  | .block body => body.forM e.run
  | .choice c yes no? =>
    if (← e.value c).isTrue then e.run yes else no?.forM e.run
  | .loop c? step body =>
    let condition : Act Bool := match c? with
      | some c => do return (← e.value c).isTrue
      | none => pure true
    repeatWhile condition (e.run body) (step.forM fun x => do let _ ← e.value x) loopLimit
  | .loopOnce body c =>
    if ← loopBody (e.run body) then
      repeatWhile (do return (← e.value c).isTrue) (e.run body) (pure ()) loopLimit
  | .each name table body =>
    let keys := (← tableAt (← tableNamed table)).keys
    forEach name (e.run body) keys
  | .leave => throw .leave
  | .again => throw .again
  | .next => throw .next
  | .nextFile => throw .nextFile
  | .exit status? =>
    match status? with
    | some x =>
      let n := indexOf (← e.number x)
      modify fun s => { s with status := (n % 256).toNat }
    | none => pure ()
    throw .exit
  | .giveBack value? =>
    match value? with
    | some x => throw (.giveBack (← e.value x))
    | none => throw (.giveBack .unset)
  | .erase table keys? =>
    let t ← tableNamed table
    match keys? with
    | some keys =>
      let key ← e.key keys
      changeTable t fun table => table.erase key
    | none => changeTable t fun _ => .empty

/-- The evaluator to a depth. -/
def evaluator (run : Runner) : Nat → Evaluator
  | 0 => ⟨fun _ => tooDeep, fun _ => tooDeep⟩
  | depth + 1 =>
    let e := evaluator run depth
    ⟨evaluate run e, execute e⟩

/-- How deep evaluation goes. -/
def evaluationDepth : Nat := 2500

/-! ## Rules -/

/-- Whether a rule is meant for the record at hand. -/
def isChosen (e : Evaluator) (index : Nat) (p : Pattern) : Act Bool := do
  match p with
  | .before => return false
  | .after => return false
  | .always => return true
  | .when c => return (← e.value c).isTrue
  | .range first last =>
    let started ← if (← get).inside.contains index then pure true
      else do pure (← e.value first).isTrue
    if started then
      let stops := (← e.value last).isTrue
      modify fun s =>
        let others := s.inside.filter (· ≠ index)
        { s with inside := if stops then others else index :: others }
    return started

/-- Applies rules to the record at hand. -/
def applyRules (e : Evaluator) : Nat → List Rule → Act Unit
  | _, [] => pure ()
  | index, r :: rest => do
    if ← isChosen e index r.pattern then e.run r.action
    applyRules e (index + 1) rest

/-- Applies rules to all records that are left. -/
def processRecords (e : Evaluator) (rules : List Rule) : Nat → Act Unit
  | 0 => pure ()
  | fuel + 1 => do
    match ← mainRecord? argLimit with
    | none => pure ()
    | some record =>
      modify fun s => { s with frame := [] }
      setRecord (.input record)
      tryCatch (applyRules e 0 rules) fun
        | .next => pure ()
        | .nextFile => modify fun s => { s with main? := none }
        | l => throw l
      processRecords e rules fuel

/-- The actions of the rules of one kind. -/
def actionsOf (rules : List Rule) (isMeant : Pattern → Bool) : List Statement :=
  (rules.filter fun r => isMeant r.pattern).map Rule.action

/-- Whether a rule comes before all records. -/
def Pattern.isBefore : Pattern → Bool
  | before => true
  | _ => false

/-- Whether a rule comes after all records. -/
def Pattern.isAfter : Pattern → Bool
  | after => true
  | _ => false

/-- Goes on after an end that a rule asked for. -/
def untilExit (body : Act Unit) : Act Unit :=
  tryCatch body fun
    | .exit => pure ()
    | .fault message => throw (.fault message)
    | _ => pure ()

/-- Runs the rules of a program. -/
def runRules (e : Evaluator) (rules : List Rule) : Act Unit := do
  let first := actionsOf rules Pattern.isBefore
  let last := actionsOf rules Pattern.isAfter
  let others := rules.any fun r => !r.pattern.isBefore
  untilExit do
    first.forM e.run
    if others then processRecords e rules loopLimit
  modify fun s => { s with frame := [] }
  untilExit (last.forM e.run)

end Looplet.Awk
