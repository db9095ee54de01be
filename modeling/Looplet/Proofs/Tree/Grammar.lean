import Looplet.Tree.Parser

/-!
# The grammar

The lists of tokens that are programs, with their trees:

    program   := item*
    item      := 'func' NAME '(' (NAME (',' NAME)*)? ')' (';' | block)
    block     := '{' statement* '}'
    statement := NAME '<-' expr ';'
               | 'if' expr block ('else' block)?
               | (NAME ':')? 'while' expr block
               | ('break' | 'continue') NAME? ';'
               | expr ';'
    expr      := sum | expr ('==' | '!=') sum
    sum       := primary | sum '+' primary
    primary   := NUMBER | NAME | NAME '(' (expr (',' expr)*)? ')' | '(' expr ')'

A chain of operators is read from the left. Parentheses leave no node, a second part of a
conditional is kept even if it is empty, and nodes have the positions of the tokens that they are
named after.
-/

namespace Looplet.Grammar

open Looplet.Tree (Expr Stmt Item)
open Looplet.Parser (comparison?)

mutual

/-- The tokens are an expression. -/
inductive IsExpr : List Token → Expr → Prop where
  | sum {ts : List Token} {e : Expr} (h : IsSum ts e) : IsExpr ts e
  | comparison {ls rs : List Token} {l r : Expr} {t : Token} {op : BinaryOp} (hl : IsExpr ls l)
    (ht : comparison? t.kind = some op) (hr : IsSum rs r) : IsExpr (ls ++ t :: rs) (.binary op l r)

/-- The tokens are a sum. -/
inductive IsSum : List Token → Expr → Prop where
  | primary {ts : List Token} {e : Expr} (h : IsPrimary ts e) : IsSum ts e
  | add {ls rs : List Token} {l r : Expr} {t : Token} (hl : IsSum ls l) (ht : t.kind = .plus)
    (hr : IsPrimary rs r) : IsSum (ls ++ t :: rs) (.binary .add l r)

/-- The tokens are a number, a variable, a call or an expression in parentheses. -/
inductive IsPrimary : List Token → Expr → Prop where
  | number {t : Token} {v : Int64} (ht : t.kind = .number) (hv : t.value? = some v) :
    IsPrimary [t] (.int v)
  | var {x : Token} (hx : x.kind = .name) : IsPrimary [x] (.var x.text x.position)
  | call {x o c : Token} {ts : List Token} {es : List Expr} (hx : x.kind = .name)
    (ho : o.kind = .openParen) (ha : IsArguments ts es) (hc : c.kind = .closeParen) :
    IsPrimary (x :: o :: (ts ++ [c])) (.call x.text es x.position)
  | paren {o c : Token} {ts : List Token} {e : Expr} (ho : o.kind = .openParen)
    (he : IsExpr ts e) (hc : c.kind = .closeParen) : IsPrimary (o :: (ts ++ [c])) e

/-- The tokens are arguments, perhaps none. -/
inductive IsArguments : List Token → List Expr → Prop where
  | none : IsArguments [] []
  | some {ts : List Token} {es : List Expr} (h : IsMoreArguments ts es) : IsArguments ts es

/-- The tokens are one or more arguments. -/
inductive IsMoreArguments : List Token → List Expr → Prop where
  | one {ts : List Token} {e : Expr} (h : IsExpr ts e) : IsMoreArguments ts [e]
  | more {ts us : List Token} {e : Expr} {es : List Expr} {c : Token} (h : IsExpr ts e)
    (hc : c.kind = .comma) (hs : IsMoreArguments us es) : IsMoreArguments (ts ++ c :: us) (e :: es)

end

/-- The jump that a keyword writes. -/
def jump? (k : Token.Kind) : Option Jump :=
  match k with
  | .breakWord => some .leave
  | .continueWord => some .again
  | _ => none

mutual

/-- The tokens are a statement. -/
inductive IsStatement : List Token → Stmt → Prop where
  | assign {x a s : Token} {ts : List Token} {e : Expr} (hx : x.kind = .name)
    (ha : a.kind = .arrow) (he : IsExpr ts e) (hs : s.kind = .semicolon) :
    IsStatement (x :: a :: (ts ++ [s])) (.assign x.text e x.position)
  | ifThen {i : Token} {cs ts : List Token} {c : Expr} {t : List Stmt} (hi : i.kind = .ifWord)
    (hc : IsExpr cs c) (ht : IsBlock ts t) : IsStatement (i :: (cs ++ ts)) (.ifThen c t)
  | ifElse {i l : Token} {cs ts es : List Token} {c : Expr} {t e : List Stmt}
    (hi : i.kind = .ifWord) (hc : IsExpr cs c) (ht : IsBlock ts t) (hl : l.kind = .elseWord)
    (he : IsBlock es e) : IsStatement (i :: (cs ++ (ts ++ l :: es))) (.ifElse c t e)
  | loop {w : Token} {cs ts : List Token} {c : Expr} {b : List Stmt} (hw : w.kind = .whileWord)
    (hc : IsExpr cs c) (hb : IsBlock ts b) :
    IsStatement (w :: (cs ++ ts)) (.loop none c b w.position)
  | labelled {x k w : Token} {cs ts : List Token} {c : Expr} {b : List Stmt} (hx : x.kind = .name)
    (hk : k.kind = .colon) (hw : w.kind = .whileWord) (hc : IsExpr cs c) (hb : IsBlock ts b) :
    IsStatement (x :: k :: w :: (cs ++ ts)) (.loop (some x.text) c b x.position)
  | jump {k s : Token} {j : Jump} (hk : jump? k.kind = some j) (hs : s.kind = .semicolon) :
    IsStatement [k, s] (.jump j none k.position)
  | jumpTo {k x s : Token} {j : Jump} (hk : jump? k.kind = some j) (hx : x.kind = .name)
    (hs : s.kind = .semicolon) : IsStatement [k, x, s] (.jump j (some x.text) k.position)
  | expr {s : Token} {ts : List Token} {e : Expr} (he : IsExpr ts e) (hs : s.kind = .semicolon) :
    IsStatement (ts ++ [s]) (.expr e)

/-- The tokens are a block. -/
inductive IsBlock : List Token → List Stmt → Prop where
  | mk {o c : Token} {ts : List Token} {ss : List Stmt} (ho : o.kind = .openBrace)
    (h : IsStatements ts ss) (hc : c.kind = .closeBrace) : IsBlock (o :: (ts ++ [c])) ss

/-- The tokens are statements, perhaps none. -/
inductive IsStatements : List Token → List Stmt → Prop where
  | nil : IsStatements [] []
  | cons {ts us : List Token} {s : Stmt} {ss : List Stmt} (h : IsStatement ts s)
    (hs : IsStatements us ss) : IsStatements (ts ++ us) (s :: ss)

end

/-- The tokens are one or more names. -/
inductive IsNames : List Token → List String → Prop where
  | one {x : Token} (hx : x.kind = .name) : IsNames [x] [x.text]
  | more {x c : Token} {ts : List Token} {xs : List String} (hx : x.kind = .name)
    (hc : c.kind = .comma) (h : IsNames ts xs) : IsNames (x :: c :: ts) (x.text :: xs)

/-- The tokens are parameters, perhaps none. -/
inductive IsParams : List Token → List String → Prop where
  | none : IsParams [] []
  | some {ts : List Token} {xs : List String} (h : IsNames ts xs) : IsParams ts xs

/-- The tokens are what an item has after its parameters. -/
inductive IsBody : List Token → Option (List Stmt) → Prop where
  | none {s : Token} (hs : s.kind = .semicolon) : IsBody [s] none
  | some {ts : List Token} {ss : List Stmt} (h : IsBlock ts ss) : IsBody ts (some ss)

/-- The tokens are an item. -/
inductive IsItem : List Token → Item → Prop where
  | mk {f x o c : Token} {ps bs : List Token} {params : List String} {b : Option (List Stmt)}
    (hf : f.kind = .funcWord) (hx : x.kind = .name) (ho : o.kind = .openParen)
    (hp : IsParams ps params) (hc : c.kind = .closeParen) (hb : IsBody bs b) :
    IsItem (f :: x :: o :: (ps ++ c :: bs)) ⟨x.text, params, f.position, b⟩

/-- The tokens are items, perhaps none. -/
inductive IsItems : List Token → List Item → Prop where
  | nil : IsItems [] []
  | cons {ts us : List Token} {i : Item} {is : List Item} (h : IsItem ts i) (hs : IsItems us is) :
    IsItems (ts ++ us) (i :: is)

/-- The tokens are a program. -/
def IsProgram (ts : List Token) (p : Program) : Prop :=
  IsItems ts p.items

end Looplet.Grammar
