import Looplet.Token.Lexer

/-!
# Reading by several lexers

A `Family` holds lexers over one text, one of which is current. A schedule of requests reads from
the current lexer, copies it or makes another one current. Lexers are values, so no request on one
of them changes what another will read.
-/

namespace Looplet.Lexer

/-- A request to a family of lexers. -/
inductive Request where
  | next
  | rest
  | fork
  | select (index : Nat)
  deriving DecidableEq

/-- The reply to a request. -/
inductive Reply where
  | item (item? : Option (Except Error Token))
  | items (items : List (Except Error Token))
  | index (index : Nat)

/-- Lexers over one text, and which of them is current. -/
structure Family where
  lexers : List Lexer
  current : Nat

namespace Family

/-- One lexer at the start of a text. -/
def ofText (cs : List Char) : Family := ⟨[Lexer.ofText cs], 0⟩

/-- Answers one request. A request on a lexer that is not there finds nothing to read. -/
def step (f : Family) : Request → Reply × Family
  | .next =>
    match f.lexers[f.current]? with
    | none => (.item none, f)
    | some l =>
      match l.next? with
      | none => (.item none, f)
      | some (item, l') => (.item (some item), { f with lexers := f.lexers.set f.current l' })
  | .rest =>
    match f.lexers[f.current]? with
    | none => (.items [], f)
    | some l =>
      (.items l.items, { f with lexers := f.lexers.set f.current { l with done := true } })
  | .fork =>
    match f.lexers[f.current]? with
    | none => (.index f.lexers.length, f)
    | some l => (.index f.lexers.length, { f with lexers := f.lexers ++ [l] })
  | .select i => (.index i, { f with current := i })

/-- The replies to a schedule of requests, in order. -/
def replies (f : Family) : List Request → List Reply
  | [] => []
  | r :: rs => (f.step r).1 :: replies (f.step r).2 rs

end Family

end Looplet.Lexer
