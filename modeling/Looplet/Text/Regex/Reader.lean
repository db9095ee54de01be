import Looplet.Text.Decimal
import Looplet.Text.Regex

/-!
# Reading regular expressions

There are two ways to write regular expressions. In the basic one a backslash makes some characters
operators, in the extended one it takes that meaning from them. Everything else is the same.
-/

namespace Looplet.Text.Regex

/-- How an expression is written. -/
structure Style where
  extended : Bool
  /-- Whether a backslash in brackets protects the next character. -/
  escapesInSets : Bool
  /-- Whether there are operators for words and references. -/
  rich : Bool
  /-- Whether a brace with wrong bounds after it stands for itself, and whether an operator that has
  nothing to repeat is left out. -/
  lenient : Bool
  deriving DecidableEq

/-- Whether every operator of repetition needs something to repeat. -/
def Style.isStrict (style : Style) : Bool := style.extended && !style.lenient

/-- The basic way to write expressions. -/
def Style.basic : Style := ⟨false, false, true, false⟩

/-- The extended way to write expressions. -/
def Style.full : Style := ⟨true, false, true, false⟩

/-- What is wrong with an expression. -/
inductive Fault where
  | bracket
  | openParen
  | closeParen
  | brace
  | braceContent
  | range
  | className
  | repeated
  | backslash
  | reference
  | tooBig
  deriving DecidableEq

/-- A fault in words. -/
def Fault.text : Fault → String
  | bracket => "Unmatched [, [^, [:, [., or [="
  | openParen => "Unmatched ( or \\("
  | closeParen => "Unmatched ) or \\)"
  | brace => "Unmatched \\\x7b"
  | braceContent => "Invalid content of \\\x7b\\\x7d"
  | range => "Invalid range end"
  | className => "Invalid character class name"
  | repeated => "Invalid preceding regular expression"
  | backslash => "Trailing backslash"
  | reference => "Invalid back reference"
  | tooBig => "Regular expression too big"

/-! ## Sets -/

/-- The character that ends a range or is a member, at the start of a text. -/
def setChar (style : Style) : List Char → Option (Char × List Char)
  | [] => none
  | '[' :: '.' :: c :: '.' :: ']' :: rest => some (c, rest)
  | '[' :: '=' :: c :: '=' :: ']' :: rest => some (c, rest)
  | '\\' :: c :: rest => if style.escapesInSets then some (c, rest) else some ('\\', c :: rest)
  | c :: rest => some (c, rest)

/-- Reads members up to the closing bracket, which cannot come first. -/
def members (style : Style) (first : Bool) : Nat → List Char →
    Except Fault (List Member × List Char)
  | 0, _ => .error .bracket
  | fuel + 1, cs =>
    match cs with
    | [] => .error .bracket
    | '[' :: ':' :: rest =>
      let name := rest.takeWhile (· ≠ ':')
      match rest.drop name.length with
      | ':' :: ']' :: after =>
        if String.ofList name ∈ classNames then do
          let (more, after) ← members style false fuel after
          return (.named (String.ofList name) :: more, after)
        else .error .className
      | _ => .error .bracket
    | ']' :: rest => if first then single style fuel cs else .ok ([], rest)
    | _ => single style fuel cs
where
  /-- Reads a character or a range of characters, and the members after it. -/
  single (style : Style) (fuel : Nat) (cs : List Char) :
      Except Fault (List Member × List Char) := do
    match setChar style cs with
    | none => .error .bracket
    | some (a, '-' :: rest) =>
      match rest with
      | ']' :: _ =>
        let (more, after) ← members style false fuel ('-' :: rest)
        return (.range a a :: more, after)
      | _ =>
        match setChar style rest with
        | none => .error .bracket
        | some (b, after) =>
          if b < a then .error .range
          else
            let (more, after) ← members style false fuel after
            return (.range a b :: more, after)
    | some (a, rest) =>
      let (more, after) ← members style false fuel rest
      return (.range a a :: more, after)

/-- Reads a set, after its opening bracket. -/
def readSet (style : Style) (cs : List Char) : Except Fault (Regex × List Char) := do
  let (negated, body) := match cs with
    | '^' :: rest => (true, rest)
    | _ => (false, cs)
  let (ms, rest) ← members style true (2 * cs.length + 2) body
  return (.set negated ms, rest)

/-! ## Operators -/

/-- A symbol of an expression. -/
inductive Symbol where
  | item (r : Regex)
  | openGroup
  | closeGroup
  | bar
  | star
  | plus
  | question
  | openBrace
  | caret
  | dollar
  | ended
  deriving DecidableEq

/-- What a letter after a backslash stands for, if it is an operator for words. -/
def wordOperator? : Char → Option Regex
  | 'w' => some (.set false [.named "alnum", .range '_' '_'])
  | 'W' => some (.set true [.named "alnum", .range '_' '_'])
  | 's' => some (.set false [.named "space"])
  | 'S' => some (.set true [.named "space"])
  | 'b' => some .wordEdge
  | 'B' => some .noWordEdge
  | '<' => some .wordStart
  | '>' => some .wordStop
  | '\x60' => some .start
  | '\'' => some .stop
  | _ => none

/-- The symbol of a character that is an operator in one of the ways. -/
def operator? : Char → Option Symbol
  | '(' => some .openGroup
  | ')' => some .closeGroup
  | '|' => some .bar
  | '+' => some .plus
  | '?' => some .question
  | '\x7b' => some .openBrace
  | _ => none

/-- The next symbol. `atStart` tells whether nothing comes before it that could be repeated, so that
operators of the basic way stand for themselves. -/
def nextSymbol (style : Style) (atStart : Bool) (cs : List Char) :
    Except Fault (Symbol × List Char) :=
  match cs with
  | [] => .ok (.ended, [])
  | '\\' :: [] => .error .backslash
  | '\\' :: c :: rest =>
    match if style.rich then wordOperator? c else none with
    | some r => .ok (.item r, rest)
    | none =>
      if style.rich && '1' ≤ c && c ≤ '9' then
        .ok (.item (.reference (c.toNat - '0'.toNat)), rest)
      else if style.extended then .ok (.item (.char c), rest)
      else .ok ((operator? c).getD (.item (.char c)), rest)
  | '[' :: rest => do
    let (r, rest) ← readSet style rest
    return (.item r, rest)
  | '.' :: rest => .ok (.item .any, rest)
  | '*' :: rest => .ok (if atStart && !style.extended then .item (.char '*') else .star, rest)
  | '^' :: rest => .ok (if style.extended || atStart then .caret else .item (.char '^'), rest)
  | '$' :: rest =>
    let closes := match rest with
      | [] => true
      | '\\' :: ')' :: _ => true
      | '\\' :: '|' :: _ => true
      | _ => false
    .ok (if style.extended || closes then .dollar else .item (.char '$'), rest)
  | c :: rest =>
    if style.extended then .ok ((operator? c).getD (.item (.char c)), rest)
    else .ok (.item (.char c), rest)

/-- The text up to a closing brace, and what follows it. -/
def untilBrace? (extended : Bool) : List Char → Option (List Char × List Char)
  | [] => none
  | '\x7d' :: rest =>
    if extended then some ([], rest)
    else (untilBrace? extended rest).map fun (body, after) => ('\x7d' :: body, after)
  | '\\' :: '\x7d' :: rest =>
    if extended then some (['\\'], rest) else some ([], rest)
  | c :: rest => (untilBrace? extended rest).map fun (body, after) => (c :: body, after)

/-- How often something may be repeated at most. -/
def repeatLimit : Nat := 32767

/-- The bounds in braces, after the opening one, and what follows them. A lenient style has none if
what stands there is not made of numbers. -/
def readBounds (style : Style) (cs : List Char) :
    Except Fault (Option ((Nat × Option Nat) × List Char)) := do
  match untilBrace? style.extended cs with
  | none => if style.lenient then return none else .error .brace
  | some (body, rest) =>
    let low := body.takeWhile (· ≠ ',')
    let high? := match body.drop low.length with
      | _ :: high => some high
      | [] => none
    if !(low ++ high?.getD []).all Char.isDigit then
      if style.lenient then return none else .error .braceContent
    else if low.isEmpty && high?.isNone then .error .braceContent
    else
      let least := digitsValue low
      let most? := match high? with
        | none => some least
        | some [] => none
        | some high => some (digitsValue high)
      if most?.any (· < least) then .error .braceContent
      else if style.rich && repeatLimit < most?.getD least then .error .tooBig
      else return some ((least, most?), rest)

/-- Whether an expression stands for a place between characters, which cannot be repeated. -/
def isPlace : Regex → Bool
  | start => true
  | stop => true
  | wordEdge => true
  | noWordEdge => true
  | wordStart => true
  | wordStop => true
  | _ => false

/-- Joins two expressions. -/
def join : Regex → Regex → Regex
  | empty, r => r
  | r, empty => r
  | a, b => both a b

/-- What is left of a text, and how many groups have been opened. -/
abbrev State := List Char × Nat

/-- Reads the operators of repetition after an item. -/
def readRepeats (style : Style) : Nat → Regex → List Char → Except Fault (Regex × List Char)
  | 0, r, cs => .ok (r, cs)
  | fuel + 1, r, cs => do
    let (s, rest) ← nextSymbol style false cs
    match s with
    | .star => readRepeats style fuel (.repeated r 0 none) rest
    | .plus => readRepeats style fuel (.repeated r 1 none) rest
    | .question => readRepeats style fuel (.repeated r 0 (some 1)) rest
    | .openBrace =>
      match ← readBounds style rest with
      | some ((least, most?), rest) => readRepeats style fuel (.repeated r least most?) rest
      | none => return (r, cs)
    | _ => return (r, cs)

/-- An item of an expression: what it is, whether what follows it stands as if at the start, what is
left of the text, and how many groups have been opened. -/
structure Item where
  body : Regex
  starts : Bool
  rest : List Char
  groups : Nat

mutual

/-- Reads alternatives, in a number of groups that are open. -/
def readAlternatives (style : Style) (depth : Nat) : Nat → State → Except Fault (Regex × State)
  | 0, s => .ok (.empty, s)
  | fuel + 1, s => do
    let (first, (cs, n)) ← readSequence style depth true fuel s
    match ← nextSymbol style false cs with
    | (.bar, rest) =>
      let (second, s) ← readAlternatives style depth fuel (rest, n)
      return (.either first second, s)
    | _ => return (first, (cs, n))

/-- Reads items up to the end of an alternative. -/
def readSequence (style : Style) (depth : Nat) (atStart : Bool) :
    Nat → State → Except Fault (Regex × State)
  | 0, s => .ok (.empty, s)
  | fuel + 1, (cs, n) => do
    let (symbol, rest) ← nextSymbol style atStart cs
    let plain (r : Regex) : Option Item := some ⟨r, false, rest, n⟩
    let skipped : Option Item := some ⟨.empty, true, rest, n⟩
    let item? : Option Item ← match symbol with
      | .ended => pure none
      | .bar => pure none
      | .closeGroup =>
        if 0 < depth then pure none
        else if style.extended then pure (plain (.char ')'))
        else .error .closeParen
      | .openGroup => do
        let (body, (after, m)) ← readAlternatives style (depth + 1) fuel (rest, n + 1)
        match ← nextSymbol style false after with
        | (.closeGroup, after) => pure (some ⟨.group (n + 1) body, false, after, m⟩)
        | _ => .error .openParen
      | .caret => pure (some ⟨.start, !style.extended, rest, n⟩)
      | .dollar => pure (plain .stop)
      | .item r => pure (plain r)
      | .star => if atStart && !style.isStrict then pure skipped else .error .repeated
      | .plus =>
        if style.isStrict then .error .repeated
        else pure (if style.extended then skipped else plain (.char '+'))
      | .question =>
        if style.isStrict then .error .repeated
        else pure (if style.extended then skipped else plain (.char '?'))
      | .openBrace =>
        if !style.lenient then .error .repeated
        else do
          match ← readBounds style rest with
          | some (_, after) => pure (some ⟨.empty, true, after, n⟩)
          | none => pure (plain (.char '\x7b'))
    match item? with
    | none => return (.empty, (cs, n))
    | some item =>
      let (r, rest) ← if item.starts || (style.isStrict && item.body.isPlace) then
          .ok (item.body, item.rest)
        else readRepeats style (item.rest.length + 1) item.body item.rest
      let (more, s) ← readSequence style depth item.starts fuel (rest, item.groups)
      return (join r more, s)

end

/-- Whether all references lead to groups that are there. -/
def referencesFit (groups : Nat) : Regex → Bool
  | reference i => i ≤ groups
  | group _ r => r.referencesFit groups
  | both a b => a.referencesFit groups && b.referencesFit groups
  | either a b => a.referencesFit groups && b.referencesFit groups
  | repeated r _ _ => r.referencesFit groups
  | _ => true

/-- Reads a regular expression. -/
def ofChars (style : Style) (cs : List Char) : Except Fault Regex := do
  let (r, (rest, groups)) ← readAlternatives style 0 (4 * cs.length + 8) (cs, 0)
  if !rest.isEmpty then .error .closeParen
  else if !r.referencesFit groups then .error .reference
  else return r

end Looplet.Text.Regex
