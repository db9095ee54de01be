import Looplet.Code

/-!
# Built-in functions

A declared function is provided by a built-in of its name. Like every function a built-in takes
words and gives a word; all of them give zero. A built-in is defined for its own arity and there is
no other way to define one, so it never lacks a parameter that its blocks use.
-/

namespace Looplet

/-- A function that a program may declare, and how it is defined in a module. -/
structure Builtin where
  name : String
  arity : Nat
  symbol : String
  globals : List Code.Global
  blocks : List Code.Block
  deriving DecidableEq

namespace Builtin

/-- The format of `printInt`: a word in decimal and a line feed. -/
def wordFormat : Code.Global := ⟨".rt.fmt_int", "%ld\n"⟩

/-- Prints its argument in decimal on a line of its own. -/
def printInt : Builtin where
  name := "print_int"
  arity := 1
  symbol := "lambda_rt_print_int"
  globals := [wordFormat]
  blocks :=
    [⟨"entry",
      [.define 0 "" (.call Code.printf [.global wordFormat.name, .param 0]), .ret (.const 0)]⟩]

/-- The built-ins there are. -/
def all : List Builtin := [printInt]

/-- The built-in of a name. -/
def find? (name : String) : Option Builtin :=
  all.find? fun b => b.name = name

/-- The function that defines a built-in. -/
def function (b : Builtin) : Code.Function :=
  ⟨.internal, b.symbol, b.arity, b.blocks⟩

end Builtin

end Looplet
