import Looplet.FileSystem.Standard
import Looplet.Shell.Syntax
import Looplet.Text.Bytes

/-!
# Open files

Processes share a world: the files, the open files with how far they have been read or written,
and the pipes between processes. Processes run one after the other, so a pipe holds all that was
written to it until it is read.

A file may have several names (`World.names`). An open file keeps its content when it is moved, and
also when its last name is taken away: then it has no name.
-/

namespace Looplet.Shell

/-- A file that is open: by one of its names, or without any. -/
inductive Node where
  | named (place : Place)
  | nameless (index : Nat)
  deriving DecidableEq

/-- Where an open file leads. -/
inductive Stream where
  | file (node : Node) (offset : Nat) (append : Bool)
  | pipe (index : Nat)
  | directory
  | null
  | zero
  | full
  /-- An output that the process outside reads. -/
  | parent (number : Nat)

/-- An open file and how it may be used. -/
structure OpenFile where
  stream : Stream
  readable : Bool
  writable : Bool

/-- What processes share. The signals that are on their way have the number of a process and the
number of the signal. -/
structure World where
  files : FileSystem
  /-- The places of files that have more than one. -/
  names : List (List Place)
  /-- The files that are open but have no name. -/
  nameless : Array Entry
  opened : Array OpenFile
  pipes : Array ByteArray
  output : ByteArray
  errors : ByteArray
  signals : List (Nat × Nat)
  processes : Nat
  /-- How many thousandths of a second have passed. -/
  clock : Nat

/-- Bytes with others written over them from an offset on. A gap is filled with zeros. -/
def writtenAt (old : ByteArray) (offset : Nat) (new : ByteArray) : ByteArray :=
  let gap : ByteArray := ⟨Array.replicate (offset - old.size) 0⟩
  old.extract 0 offset ++ gap ++ new ++ old.extract (offset + new.size) old.size

/-- How much a device without end gives at once. -/
def endlessSize : Nat := 1048576

/-- What a device without end gives at once. -/
def endless : ByteArray := ⟨Array.replicate endlessSize 0⟩

/-- How much may wait in a pipe before the one who writes to it is taken to be alone. -/
def pipeLimit : Nat := 262144

namespace World

/-! ## Files and their names -/

/-- All places of the file at a place. -/
def placesOf (w : World) (p : Place) : List Place :=
  (w.names.find? fun g => g.contains p).getD [p]

/-- Sets the entry at a place, under all of its names. -/
def put (w : World) (p : Place) (e : Entry) : World :=
  { w with files := (w.placesOf p).foldl (fun fs q => fs.put q e) w.files }

/-- The entry of an open file. -/
def entryAt? (w : World) : Node → Option Entry
  | .named p => w.files.get? p
  | .nameless i => w.nameless[i]?

/-- Sets the entry of an open file. -/
def putNode (w : World) (node : Node) (e : Entry) : World :=
  match node with
  | .named p => w.put p e
  | .nameless i => { w with nameless := w.nameless.modify i fun _ => e }

/-- Makes all open files at one place lead elsewhere. -/
def redirectNode (w : World) (p : Place) (node : Node) : World :=
  { w with
    opened := w.opened.map fun f =>
      match f.stream with
      | .file n offset append => if n = .named p then { f with stream := .file node offset append }
        else f
      | _ => f }

/-- Prepares for a name to go: open files at it get another name, or none. -/
def detach (w : World) (p : Place) : World :=
  let others := (w.placesOf p).filter (· ≠ p)
  let w' := { w with names := (w.names.map fun g => g.filter (· ≠ p)).filter fun g => 1 < g.length }
  match others, w.files.get? p with
  | q :: _, _ => w'.redirectNode p (.named q)
  | [], some e =>
    { w'.redirectNode p (.nameless w.nameless.size) with nameless := w.nameless.push e }
  | [], none => w'

/-- Takes away what is at a place and below it. -/
def remove (w : World) (p : Place) : World :=
  let below := (w.files.entries.filter fun e => p.isPrefixOf e.1).map Prod.fst
  let w := below.foldl detach w
  { w with files := w.files.erase p }

/-- Whether two places are names of one file. -/
def sameFile (w : World) (p q : Place) : Bool := (w.placesOf p).contains q

/-- Moves what is at a place and below it to another place. -/
def rename (w : World) (p q : Place) : World :=
  if w.sameFile p q then w
  else
    let w := if (w.files.get? q).isSome then w.remove q else w
    let moved (r : Place) : Place := if p.isPrefixOf r then q ++ r.drop p.length else r
    { w with
      files := w.files.move p q,
      names := w.names.map fun g => g.map moved,
      opened := w.opened.map fun f =>
        match f.stream with
        | .file (.named r) offset append =>
          { f with stream := .file (.named (moved r)) offset append }
        | _ => f }

/-- Gives the file at a place another name. -/
def addName (w : World) (p q : Place) (e : Entry) : World :=
  let group := w.placesOf p
  { w with
    files := w.files.put q e,
    names := (group ++ [q]) :: w.names.filter fun g => !g.contains p }

/-! ## Reading and writing -/

/-- Sets where an open file leads. -/
def setStream (w : World) (index : Nat) (s : Stream) : World :=
  { w with opened := w.opened.modify index fun f => { f with stream := s } }

/-- Writes to a plain file. -/
def writeFile (w : World) (index : Nat) (node : Node) (offset : Nat) (append : Bool)
    (bytes : ByteArray) : World :=
  match w.entryAt? node with
  | some e =>
    let offset := if append then e.bytes.size else offset
    let w := if bytes.isEmpty then w
      else w.putNode node (e.refilled (writtenAt e.bytes offset bytes))
    w.setStream index (.file node (offset + bytes.size) append)
  | none => w

/-- Writes to an open file. -/
def write (w : World) (index : Nat) (bytes : ByteArray) : Except SystemError World :=
  match w.opened[index]? with
  | none => .error .badDescriptor
  | some f =>
    if !f.writable then .error .badDescriptor
    else
      match f.stream with
      | .file node offset append => .ok (w.writeFile index node offset append bytes)
      | .pipe n => .ok { w with pipes := w.pipes.modify n (· ++ bytes) }
      | .directory => .error .isDirectory
      | .null | .zero => .ok w
      | .full => if bytes.isEmpty then .ok w else .error .noSpace
      | .parent 2 => .ok { w with errors := w.errors ++ bytes }
      | .parent _ => .ok { w with output := w.output ++ bytes }

/-- Reads from an open file: `amount` tells how many of the bytes that are left are taken. -/
def read (w : World) (index : Nat) (amount : ByteArray → Nat) :
    Except SystemError (ByteArray × World) :=
  match w.opened[index]? with
  | none => .error .badDescriptor
  | some f =>
    if !f.readable then .error .badDescriptor
    else
      match f.stream with
      | .file node offset append =>
        match w.entryAt? node with
        | some e =>
          let left := e.bytes.extract offset e.bytes.size
          let n := amount left
          .ok (left.extract 0 n, w.setStream index (.file node (offset + n) append))
        | none => .ok (ByteArray.empty, w)
      | .pipe k =>
        let left := w.pipes[k]?.getD ByteArray.empty
        let n := amount left
        .ok (left.extract 0 n,
          { w with pipes := w.pipes.modify k fun b => b.extract n b.size })
      | .directory => .error .isDirectory
      | .zero => .ok (endless.extract 0 (amount endless), w)
      | _ => .ok (ByteArray.empty, w)

/-- Whether what is left in an open file stays there until it is taken, so that a program can give
back what it does not need. -/
def isSeekable (w : World) (index : Nat) : Bool :=
  match w.opened[index]? with
  | some ⟨.file _ _ _, _, _⟩ => true
  | _ => false

/-- Whether an open file is a pipe in which too much waits. -/
def isClogged (w : World) (index : Nat) : Bool :=
  match w.opened[index]? with
  | some ⟨.pipe n, _, _⟩ => pipeLimit ≤ (w.pipes[n]?.getD ByteArray.empty).size
  | _ => false

/-- Adds an open file. -/
def addOpen (w : World) (f : OpenFile) : Nat × World :=
  (w.opened.size, { w with opened := w.opened.push f })

/-- Adds a pipe, with an end for reading and one for writing. -/
def addPipe (w : World) : Nat × Nat × World :=
  let n := w.pipes.size
  let w := { w with pipes := w.pipes.push ByteArray.empty }
  let (reading, w) := w.addOpen ⟨.pipe n, true, false⟩
  let (writing, w) := w.addOpen ⟨.pipe n, false, true⟩
  (reading, writing, w)

/-! ## Opening -/

/-- Opens a path to read from it. -/
def openInput (files : FileSystem) (path : String) : Except SystemError (Place × Entry) :=
  match files.find path with
  | .error e => .error e
  | .ok (p, e) => if e.allows .read then .ok (p, e) else .error .permissionDenied

/-- Opens a path to write to it; a file that is not there is made with the given mode, and one that
is there is emptied on demand. -/
def openOutput (w : World) (path : String) (mode : Nat) (empty : Bool) :
    Except SystemError (Place × Entry × World) :=
  match w.files.writable path with
  | .error e => .error e
  | .ok (.free p) =>
    let entry : Entry := ⟨.file ByteArray.empty, mode, true⟩
    .ok (p, entry, w.put p entry)
  | .ok (.entry p e) =>
    if empty && e.isFile then
      let entry := e.refilled ByteArray.empty
      .ok (p, entry, w.put p entry)
    else .ok (p, e, w)

/-- Where an entry leads when it is opened. A standard stream of the process leads where the
process has it; `standard` tells where that is. A file behind it is opened anew. -/
def streamOf (standard : Nat → Option Stream) (p : Place) (e : Entry) (append : Bool) :
    Except SystemError Stream :=
  match e.content with
  | .directory => .ok .directory
  | .file _ => .ok (.file (.named p) 0 append)
  | .link _ => .error .tooManyLinks
  | .here => .error .tooManyLinks
  | .device .null => .ok .null
  | .device .zero => .ok .zero
  | .device .full => .ok .full
  | .device .terminal => .error .noDevice
  | .device (.queue n) => .ok (.pipe n)
  | .device (.stream n _) =>
    match standard n with
    | some (.file node _ _) => .ok (.file node 0 append)
    | some s => .ok s
    | none => .error .noEntry

/-- Empties the file that a stream leads to. -/
def emptied (w : World) : Stream → World
  | .file node _ _ =>
    match w.entryAt? node with
    | some e => if e.bytes.isEmpty then w else w.putNode node (e.refilled ByteArray.empty)
    | none => w
  | _ => w

end World

end Looplet.Shell
