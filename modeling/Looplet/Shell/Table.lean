import Looplet.Text.Decimal

/-!
# Tables of values

A variable may have many values, which are found by numbers or by texts. The values of a table by
numbers are in the order of the numbers. A table by texts keeps its values in buckets, so that their
order does not depend on when they came, apart from those in one bucket: there the newest comes
first.
-/

namespace Looplet.Shell

/-- How the values of a table are found. -/
inductive Keys where
  | numbers
  | texts
  deriving DecidableEq

/-- A table: keys with their values, in order. Numbers are kept in decimal digits. -/
structure Table where
  keys : Keys
  items : List (String × String)
  deriving DecidableEq

namespace Table

/-- How many buckets there are. -/
def bucketCount : Nat := 1024

/-- A number that stands for a key. -/
def hashOf (key : String) : Nat :=
  key.toList.foldl (fun n c => Nat.xor (n * 16777619 % 4294967296) c.toNat) 2166136261

/-- The bucket of a key. -/
def bucketOf (key : String) : Nat := hashOf key % bucketCount

/-- The place of a key in the order of a table. -/
def orderOf (keys : Keys) (key : String) : Nat :=
  match keys with
  | .numbers => (Text.natural? key.toList).getD 0
  | .texts => bucketOf key

/-- Adds a key that is not there yet. -/
def insert (keys : Keys) (key value : String) : List (String × String) → List (String × String)
  | [] => [(key, value)]
  | item :: rest =>
    if orderOf keys key ≤ orderOf keys item.1 then (key, value) :: item :: rest
    else item :: insert keys key value rest

/-- An empty table. -/
def empty (keys : Keys) : Table := ⟨keys, []⟩

/-- The value of a key. -/
def get? (t : Table) (key : String) : Option String := t.items.lookup key

/-- Sets the value of a key. -/
def put (t : Table) (key value : String) : Table :=
  if (t.get? key).isSome then
    { t with items := t.items.map fun item => if item.1 = key then (key, value) else item }
  else { t with items := insert t.keys key value t.items }

/-- Takes a key away. -/
def erase (t : Table) (key : String) : Table :=
  { t with items := t.items.filter fun item => item.1 ≠ key }

/-- The first number after all keys. -/
def nextNumber (t : Table) : Nat :=
  t.items.foldl (fun n item => max n (orderOf .numbers item.1 + 1)) 0

/-- A table by numbers of values, from a number on. -/
def ofValues (first : Nat) (values : List String) : Table :=
  ⟨.numbers, (values.zipIdx first).map fun (v, i) => (Nat.repr i, v)⟩

end Table

end Looplet.Shell
