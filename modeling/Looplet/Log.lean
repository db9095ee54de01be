import Looplet.Text.Blank
import Looplet.Text.Decimal

/-!
# Log levels and events

A build reports what it does as events. An event has a level, and a log of a given level shows the
events at that level and below. The levels, and how they are read and written, are those of the
library that keeps the log; the events are the build's own.
-/

namespace Looplet

/-- How much a log shows, from nothing to everything. -/
inductive Level where
  | off
  | error
  | warn
  | info
  | debug
  | trace
  deriving DecidableEq

namespace Level

/-- The levels in order; the place of a level is its number. -/
def all : List Level := [off, error, warn, info, debug, trace]

/-- The place of a level. -/
def rank : Level → Nat
  | off => 0
  | error => 1
  | warn => 2
  | info => 3
  | debug => 4
  | trace => 5

/-- The name of a level. -/
def name : Level → String
  | off => "off"
  | error => "error"
  | warn => "warn"
  | info => "info"
  | debug => "debug"
  | trace => "trace"

/-- Reads a level as the library does: its number, or its name in any case. -/
def ofText? (s : String) : Option Level :=
  match Text.unsigned? s.toList with
  | some n => all[n]?
  | none => all.find? fun l => l.name = s.map Char.toLower

/-- The name of a level in capitals, in five columns. -/
def heading (l : Level) : String :=
  let capitals := l.name.map Char.toUpper
  String.ofList (List.replicate (5 - capitals.length) ' ') ++ capitals

end Level

/-- What a build reports. -/
inductive Event where
  | lexed (tokens : Nat)
  | parsed (items : Nat)
  | resolvedFunction (name : String) (slots loops : Nat)
  | resolved (functions declarations : Nat)
  | generated (functions builtins : Nat)
  | writingNative (path : String)
  | failed (stage input : String)
  | built (output : String)
  deriving DecidableEq

namespace Event

/-- The level of an event. -/
def level : Event → Level
  | failed _ _ => .warn
  | built _ => .info
  | _ => .debug

/-- A field of an event. -/
def field (key value : String) : String := " " ++ key ++ "=" ++ value

/-- The wording of an event. -/
def message : Event → String
  | lexed n => "lexed source" ++ field "tokens" (Nat.repr n)
  | parsed n => "parsed program" ++ field "items" (Nat.repr n)
  | resolvedFunction f s l =>
    "resolved function" ++ field "function" f ++ field "slots" (Nat.repr s)
      ++ field "loops" (Nat.repr l)
  | resolved f e =>
    "resolved program" ++ field "functions" (Nat.repr f) ++ field "externs" (Nat.repr e)
  | generated f b =>
    "generated module" ++ field "functions" (Nat.repr f) ++ field "builtins" (Nat.repr b)
  | writingNative p => "writing native code" ++ field "path" p
  | failed stage input =>
    "compilation failed" ++ field "stage" ("\"" ++ stage ++ "\"") ++ field "input" input
  | built o => "built artifact" ++ field "output" o

/-- The text of an event in a log. It is one line, unless a name in it has ends of lines. -/
def text (e : Event) : String := e.level.heading ++ " " ++ e.message ++ "\n"

/-- Whether a log of the given level shows an event. -/
def isShown (level : Level) (e : Event) : Bool := e.level.rank ≤ level.rank

end Event

end Looplet
