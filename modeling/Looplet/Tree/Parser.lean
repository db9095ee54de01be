import Looplet.Token.Lexer
import Looplet.Tree

/-!
# Reading program trees

A recursive descent over the tokens up to the first ending token:

    program   := item*
    item      := 'func' NAME '(' (NAME (',' NAME)*)? ')' (';' | block)
    block     := '{' statement* '}'
    statement := NAME '<-' expr ';'
               | 'if' expr block ('else' block)?
               | (NAME ':')? 'while' expr block
               | ('break' | 'continue') NAME? ';'
               | expr ';'
    expr      := sum (('==' | '!=') sum)*
    sum       := primary ('+' primary)*
    primary   := NUMBER | NAME ('(' (expr (',' expr)*)? ')')? | '(' expr ')'

Every step returns the tokens that it leaves, with the proof that they are fewer (`Parsed`), so the
descent ends on every list of tokens. No step takes an ending token.
-/

namespace Looplet

namespace Parser

/-- What the grammar would have taken instead of the token found. -/
inductive Expected where
  | kind (kind : Token.Kind)
  | semicolonOrBody
  | loopAfterLabel
  | expression
  deriving DecidableEq

/-- The wording of what was expected. -/
def Expected.text : Expected → String
  | kind k => k.description
  | semicolonOrBody => "`;` or function body"
  | loopAfterLabel => "`while` after loop label"
  | expression => "expression"

/-- A token that cannot follow the ones before it, or none at the end of the input. -/
structure Mismatch where
  expected : Expected
  found? : Option Token
  deriving DecidableEq

/-- Why a list of tokens is not a program. -/
inductive Error where
  | unterminated
  | unexpected (expected : Expected) (found : Token)
  deriving DecidableEq

namespace Error

/-- Where the error stands. A list without an ending token has no position of its own. -/
def position : Error → Position
  | unterminated => ⟨0, 0⟩
  | unexpected _ t => t.position

/-- The wording of what was expected. -/
def expectedText : Error → String
  | unterminated => "token stream terminated by end of input"
  | unexpected e _ => e.text

/-- The wording of what was found. -/
def foundText : Error → String
  | unterminated => "unterminated stream"
  | unexpected _ t => t.shown

end Error

/-! ## Algorithm -/

/-- A value read off the front of a list of tokens, and the fewer than `bound` tokens after it. -/
structure Parsed (α : Type) (bound : Nat) where
  value : α
  rest : List Token
  shorter : rest.length < bound

/-- The same value under a larger bound. -/
def Parsed.weaken {α : Type} {m n : Nat} (p : Parsed α m) (h : m ≤ n) : Parsed α n :=
  ⟨p.value, p.rest, Nat.lt_of_lt_of_le p.shorter h⟩

/-- What reading gives: a mismatch, or a value and fewer than `bound` tokens. -/
abbrev Step (α : Type) (bound : Nat) := Except Mismatch (Parsed α bound)

/-- Takes one token of the given kind. -/
def expect (k : Token.Kind) (ts : List Token) : Step Token ts.length :=
  match ts with
  | [] => .error ⟨.kind k, none⟩
  | t :: rest =>
    if t.kind = k then .ok ⟨t, rest, Nat.lt_succ_self _⟩ else .error ⟨.kind k, some t⟩

/-- Whether the next token is of the given kind. -/
def nextIs (k : Token.Kind) (ts : List Token) : Bool :=
  ts.head?.any fun t => t.kind = k

theorem length_tail_of_nextIs {k : Token.Kind} {ts : List Token} (h : nextIs k ts = true) :
    ts.tail.length < ts.length := by
  cases ts with
  | nil => simp [nextIs] at h
  | cons t rest => simp

/-- The operator that a comparison sign stands for. -/
def comparison? (k : Token.Kind) : Option BinaryOp :=
  match k with
  | .equal => some .equal
  | .notEqual => some .notEqual
  | _ => none

open Looplet.Tree

mutual

/-- Reads an expression. -/
def expr (ts : List Token) : Step Expr ts.length :=
  match sum ts with
  | .error m => .error m
  | .ok l =>
    have := l.shorter
    match comparisons l.value l.rest with
    | .error m => .error m
    | .ok p => .ok (p.weaken (by omega))
termination_by 7 * ts.length + 4

/-- Reads comparisons onto the expression on their left. -/
def comparisons (lhs : Expr) (ts : List Token) : Step Expr (ts.length + 1) :=
  match ts with
  | [] => .ok ⟨lhs, [], Nat.lt_succ_self _⟩
  | t :: rest =>
    match comparison? t.kind with
    | none => .ok ⟨lhs, t :: rest, Nat.lt_succ_self _⟩
    | some op =>
      match sum rest with
      | .error m => .error m
      | .ok r =>
        have := r.shorter
        match comparisons (.binary op lhs r.value) r.rest with
        | .error m => .error m
        | .ok p => .ok (p.weaken (by simp only [List.length_cons]; omega))
termination_by 7 * ts.length + 3

/-- Reads a sum. -/
def sum (ts : List Token) : Step Expr ts.length :=
  match primary ts with
  | .error m => .error m
  | .ok l =>
    have := l.shorter
    match additions l.value l.rest with
    | .error m => .error m
    | .ok p => .ok (p.weaken (by omega))
termination_by 7 * ts.length + 2

/-- Reads additions onto the expression on their left. -/
def additions (lhs : Expr) (ts : List Token) : Step Expr (ts.length + 1) :=
  match ts with
  | [] => .ok ⟨lhs, [], Nat.lt_succ_self _⟩
  | t :: rest =>
    if t.kind = .plus then
      match primary rest with
      | .error m => .error m
      | .ok r =>
        have := r.shorter
        match additions (.binary .add lhs r.value) r.rest with
        | .error m => .error m
        | .ok p => .ok (p.weaken (by simp only [List.length_cons]; omega))
    else .ok ⟨lhs, t :: rest, Nat.lt_succ_self _⟩
termination_by 7 * ts.length + 1

/-- Reads a number, a variable, a call or an expression in parentheses. -/
def primary (ts : List Token) : Step Expr ts.length :=
  match ts with
  | [] => .error ⟨.expression, none⟩
  | t :: rest =>
    match t.kind with
    | .number =>
      match t.value? with
      | none => .error ⟨.kind .number, some t⟩
      | some v => .ok ⟨.int v, rest, Nat.lt_succ_self _⟩
    | .name =>
      if nextIs .openParen rest then
        match arguments rest.tail with
        | .error m => .error m
        | .ok a => .ok ⟨.call t.text a.value t.position, a.rest, by
            have := a.shorter
            simp only [List.length_tail, List.length_cons] at this ⊢
            omega⟩
      else .ok ⟨.var t.text t.position, rest, Nat.lt_succ_self _⟩
    | .openParen =>
      match expr rest with
      | .error m => .error m
      | .ok e =>
        match expect .closeParen e.rest with
        | .error m => .error m
        | .ok c => .ok ⟨e.value, c.rest, by
            have := e.shorter
            have := c.shorter
            simp only [List.length_cons]
            omega⟩
    | _ => .error ⟨.expression, some t⟩
termination_by 7 * ts.length + 0

/-- Reads the arguments of a call and the parenthesis that closes them. -/
def arguments (ts : List Token) : Step (List Expr) ts.length :=
  if h : nextIs .closeParen ts then .ok ⟨[], ts.tail, length_tail_of_nextIs h⟩
  else moreArguments ts
termination_by 7 * ts.length + 6

/-- Reads one or more arguments and the parenthesis that closes them. -/
def moreArguments (ts : List Token) : Step (List Expr) ts.length :=
  match expr ts with
  | .error m => .error m
  | .ok e =>
    have := e.shorter
    if nextIs .comma e.rest then
      match moreArguments e.rest.tail with
      | .error m => .error m
      | .ok a => .ok ⟨e.value :: a.value, a.rest, by
          have := a.shorter
          simp only [List.length_tail] at this
          omega⟩
    else
      match expect .closeParen e.rest with
      | .error m => .error m
      | .ok c => .ok ⟨[e.value], c.rest, by
          have := c.shorter
          omega⟩
termination_by 7 * ts.length + 5
decreasing_by
  all_goals simp_wf
  all_goals omega

end

/-- Reads the semicolon that ends the statement `s`. -/
def ended {n : Nat} (s : Stmt) (ts : List Token) (h : ts.length < n) : Step Stmt n :=
  match expect .semicolon ts with
  | .error m => .error m
  | .ok c => .ok ⟨s, c.rest, Nat.lt_trans c.shorter h⟩

/-- Reads an expression statement. -/
def expression (ts : List Token) : Step Stmt ts.length :=
  match expr ts with
  | .error m => .error m
  | .ok e => ended (.expr e.value) e.rest e.shorter

/-- Reads the optional label of a jump after its keyword. -/
def jump (j : Jump) (p : Position) (ts : List Token) : Step Stmt (ts.length + 1) :=
  match ts with
  | [] => ended (.jump j none p) [] (Nat.lt_succ_self _)
  | t :: rest =>
    if t.kind = .name then ended (.jump j (some t.text) p) rest (by rw [List.length_cons]; omega)
    else ended (.jump j none p) (t :: rest) (Nat.lt_succ_self _)

mutual

/-- Reads a block. -/
def block (ts : List Token) : Step (List Stmt) ts.length :=
  match expect .openBrace ts with
  | .error m => .error m
  | .ok o =>
    have := o.shorter
    match statements o.rest with
    | .error m => .error m
    | .ok b => .ok (b.weaken (by omega))
termination_by 7 * ts.length + 1

/-- Reads statements and the brace that closes them. -/
def statements (ts : List Token) : Step (List Stmt) ts.length :=
  match ts with
  | [] => .error ⟨.kind .closeBrace, none⟩
  | t :: rest =>
    if t.kind = .closeBrace then .ok ⟨[], rest, Nat.lt_succ_self _⟩
    else if t.kind = .ending then .error ⟨.kind .closeBrace, some t⟩
    else
      match statement (t :: rest) with
      | .error m => .error m
      | .ok s =>
        have : s.rest.length < rest.length + 1 := s.shorter
        match statements s.rest with
        | .error m => .error m
        | .ok b => .ok ⟨s.value :: b.value, b.rest, Nat.lt_trans b.shorter s.shorter⟩
termination_by 7 * ts.length + 3

/-- Reads a statement. -/
def statement (ts : List Token) : Step Stmt ts.length :=
  match ts with
  | [] => .error ⟨.expression, none⟩
  | t :: rest =>
    match t.kind with
    | .ifWord =>
      match branch rest with
      | .error m => .error m
      | .ok s => .ok (s.weaken (Nat.le_succ _))
    | .whileWord =>
      match loop none t.position rest with
      | .error m => .error m
      | .ok s => .ok (s.weaken (Nat.le_succ _))
    | .breakWord => jump .leave t.position rest
    | .continueWord => jump .again t.position rest
    | .name =>
      if nextIs .arrow rest then
        match expr rest.tail with
        | .error m => .error m
        | .ok e =>
          ended (.assign t.text e.value t.position) e.rest (by
            have := e.shorter
            simp only [List.length_tail, List.length_cons] at this ⊢
            omega)
      else if nextIs .colon rest then
        if nextIs .whileWord rest.tail then
          match loop (some t.text) t.position rest.tail.tail with
          | .error m => .error m
          | .ok s => .ok (s.weaken (by simp only [List.length_cons, List.length_tail]; omega))
        else .error ⟨.loopAfterLabel, rest.tail.head?⟩
      else expression (t :: rest)
    | _ => expression (t :: rest)
termination_by 7 * ts.length + 2
decreasing_by
  all_goals simp_wf
  all_goals omega

/-- Reads a conditional after its keyword. -/
def branch (ts : List Token) : Step Stmt ts.length :=
  match expr ts with
  | .error m => .error m
  | .ok c =>
    have := c.shorter
    match block c.rest with
    | .error m => .error m
    | .ok t =>
      have := t.shorter
      if nextIs .elseWord t.rest then
        match block t.rest.tail with
        | .error m => .error m
        | .ok e => .ok ⟨.ifElse c.value t.value e.value, e.rest, by
            have := e.shorter
            simp only [List.length_tail] at this
            omega⟩
      else .ok ⟨.ifThen c.value t.value, t.rest, by omega⟩
termination_by 7 * ts.length + 2
decreasing_by
  all_goals simp_wf
  all_goals omega

/-- Reads a loop after its keyword. -/
def loop (label? : Option String) (p : Position) (ts : List Token) : Step Stmt ts.length :=
  match expr ts with
  | .error m => .error m
  | .ok c =>
    have := c.shorter
    match block c.rest with
    | .error m => .error m
    | .ok b => .ok ⟨.loop label? c.value b.value p, b.rest, Nat.lt_trans b.shorter c.shorter⟩
termination_by 7 * ts.length + 2

end

/-- Reads one or more parameter names and the parenthesis that closes them. -/
def moreParams (ts : List Token) : Step (List String) ts.length :=
  match expect .name ts with
  | .error m => .error m
  | .ok x =>
    have := x.shorter
    if nextIs .comma x.rest then
      match moreParams x.rest.tail with
      | .error m => .error m
      | .ok a => .ok ⟨x.value.text :: a.value, a.rest, by
          have := a.shorter
          simp only [List.length_tail] at this
          omega⟩
    else
      match expect .closeParen x.rest with
      | .error m => .error m
      | .ok c => .ok ⟨[x.value.text], c.rest, Nat.lt_trans c.shorter x.shorter⟩
termination_by ts.length
decreasing_by
  simp only [List.length_tail]
  omega

/-- Reads the parameters of an item and the parenthesis that closes them. -/
def params (ts : List Token) : Step (List String) ts.length :=
  if h : nextIs .closeParen ts then .ok ⟨[], ts.tail, length_tail_of_nextIs h⟩
  else moreParams ts

/-- Reads the body of an item, or the semicolon that stands for none. -/
def body (ts : List Token) : Step (Option (List Stmt)) ts.length :=
  if h : nextIs .semicolon ts then .ok ⟨none, ts.tail, length_tail_of_nextIs h⟩
  else if nextIs .openBrace ts then
    match block ts with
    | .error m => .error m
    | .ok b => .ok ⟨some b.value, b.rest, b.shorter⟩
  else .error ⟨.semicolonOrBody, ts.head?⟩

/-- Reads an item. -/
def item (ts : List Token) : Step Item ts.length :=
  match expect .funcWord ts with
  | .error m => .error m
  | .ok f =>
    match expect .name f.rest with
    | .error m => .error m
    | .ok x =>
      match expect .openParen x.rest with
      | .error m => .error m
      | .ok o =>
        match params o.rest with
        | .error m => .error m
        | .ok ps =>
          match body ps.rest with
          | .error m => .error m
          | .ok b => .ok ⟨⟨x.value.text, ps.value, f.value.position, b.value⟩, b.rest, by
              have := f.shorter
              have := x.shorter
              have := o.shorter
              have := ps.shorter
              have := b.shorter
              omega⟩

/-- Reads items up to an ending token. -/
def items (ts : List Token) : Except Mismatch (List Item) :=
  match ts with
  | [] => .ok []
  | t :: rest =>
    if t.kind = .ending then .ok []
    else
      match item (t :: rest) with
      | .error m => .error m
      | .ok i =>
        have := i.shorter
        match items i.rest with
        | .error m => .error m
        | .ok is => .ok (i.value :: is)
termination_by ts.length
decreasing_by exact this

end Parser

/-- Reads a program off a list of tokens that ends in an ending token. The tokens may hold others
before it: the first one ends the program. -/
def Program.ofTokens (ts : List Token) : Except Parser.Error Program :=
  match ts.getLast? with
  | none => .error .unterminated
  | some last =>
    if last.kind = .ending then
      match Parser.items ts with
      | .ok is => .ok ⟨is⟩
      | .error m => .error (.unexpected m.expected (m.found?.getD last))
    else .error .unterminated

end Looplet
