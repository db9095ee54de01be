import Looplet.FileSystem

/-!
# The files of a bare machine

`FileSystem.standard` is what stands around a working directory: directories and programs that
belong to the system, a directory for everybody's temporary files, and the usual devices. A
program is kept as an image that holds nothing but its name.
-/

namespace Looplet.FileSystem

/-- The bytes that the image of a program starts with. They are not text. -/
def imageMark : ByteArray := ⟨#[0x7f, 0x45, 0x4c, 0x46, 0xff]⟩

/-- The image of a program. -/
def image (name : String) : ByteArray := imageMark ++ name.toUTF8

/-- The name of the program that a file is the image of. -/
def programOf? (bytes : ByteArray) : Option String :=
  if (bytes.extract 0 imageMark.size).data = imageMark.data then
    String.fromUTF8? (bytes.extract imageMark.size bytes.size)
  else none

/-- The programs there are. -/
def programNames : List String :=
  ["sh", "dash", "bash", "env", "printenv", "nice", "nohup", "timeout", "xargs", "which", "awk",
    "mawk", "find", "cp", "mv", "ln", "rm", "unlink", "rmdir", "touch", "mkdir", "mkfifo", "mktemp",
    "chmod", "readlink", "realpath", "truncate", "install", "ls", "stat", "cat", "tac", "tee",
    "head", "tail", "wc", "nl", "rev", "fold", "paste", "uniq", "cut", "comm", "expand", "tr", "od",
    "sort", "grep", "egrep", "fgrep", "expr", "sed", "cmp", "diff", "dd", "split", "join", "md5sum",
    "sha1sum", "sha224sum", "sha256sum", "sha384sum", "sha512sum", "cksum", "sum", "base64",
    "groups", "arch", "sync", "true", "false", "echo", "printf", "test", "[", "pwd", "basename",
    "dirname", "seq", "factor", "yes", "id", "whoami", "uname", "tty", "sleep"]

/-- A directory of the system. -/
def systemDirectory : Entry := root

/-- The directories of the system. -/
def systemDirectories : List Place :=
  [["bin"], ["boot"], ["dev"], ["dev", "pts"], ["etc"], ["home"], ["lib"], ["lib64"], ["mnt"],
    ["opt"], ["proc"], ["proc", "self"], ["run"], ["sbin"], ["srv"], ["sys"], ["usr"],
    ["usr", "bin"], ["usr", "lib"], ["usr", "local"], ["usr", "local", "bin"], ["usr", "sbin"],
    ["usr", "share"], ["var"], ["var", "lib"]]

/-- The directories where everybody may make files. -/
def sharedDirectories : List Place := [["tmp"], ["var", "tmp"], ["dev", "shm"]]

/-- A device that everybody may read and write. -/
def sharedDevice (d : Device) : Entry := ⟨.device d, 0o666, false⟩

/-- A link that belongs to the system. -/
def systemLink (target : String) : Entry := ⟨.link target, 0o777, false⟩

/-- The devices. The standard streams are known by names of their own. -/
def devices : List (Place × Entry) :=
  [(["dev", "null"], sharedDevice .null), (["dev", "zero"], sharedDevice .zero),
    (["dev", "full"], sharedDevice .full), (["dev", "random"], sharedDevice .zero),
    (["dev", "urandom"], sharedDevice .zero), (["dev", "tty"], sharedDevice .terminal),
    (["dev", "fd"], systemLink "/proc/self/fd"), (["dev", "stdin"], systemLink "/proc/self/fd/0"),
    (["dev", "stdout"], systemLink "/proc/self/fd/1"),
    (["dev", "stderr"], systemLink "/proc/self/fd/2")]

/-- The directory with the open files of the process. -/
def openFiles : Place := ["proc", "self", "fd"]

/-- A standard stream of the process. -/
def processStream (number : Nat) : Entry := sharedDevice (.stream number ByteArray.empty)

/-- What the system tells the process about itself. Its standard input is empty. -/
def processFacts : List (Place × Entry) :=
  [(["proc", "thread-self"], systemLink "self"), (["proc", "self", "cwd"], ⟨.here, 0o777, true⟩),
    (["proc", "self", "root"], systemLink "/"),
    (["proc", "self", "exe"], ⟨.file (image "lambda"), 0o755, false⟩),
    (["proc", "self", "comm"], ⟨.file "lambda\n".toUTF8, 0o644, true⟩),
    (openFiles, ⟨.directory, 0o500, true⟩),
    (openFiles ++ ["0"], systemLink "/dev/null"), (openFiles ++ ["1"], processStream 1),
    (openFiles ++ ["2"], processStream 2)]

/-- The streams that a shell is likely to open by their paths. -/
def shellStreams : List Nat := List.range 10 ++ (List.range 64).drop 56

/-- The files of a machine for a shell, which may open any of its streams by a path. -/
def withStreams (fs : FileSystem) : FileSystem :=
  shellStreams.foldl (fun fs n => fs.put (openFiles ++ [Nat.repr n]) (processStream n)) fs

/-- A program of the system. -/
def systemProgram (name : String) : Entry := ⟨.file (image name), 0o755, false⟩

/-- The first line of the list of users. -/
def firstUser : String := "root:x:0:0:root:/root:/bin/bash\n"

/-- The files that every machine has for its programs, of which only the start matters. -/
def settings : List (Place × Entry) :=
  [("passwd", firstUser), ("hosts", "127.0.0.1\tlocalhost\n"),
    ("os-release", "PRETTY_NAME=\"Linux\"\n")].map fun (name, text) =>
      (["etc", name], ⟨.file text.toUTF8, 0o644, false⟩)

/-- The files of a machine, seen from its root. -/
def standard : FileSystem where
  entries :=
    systemDirectories.map (fun p => (p, systemDirectory))
      ++ sharedDirectories.map (fun p => (p, ⟨.directory, 0o1777, false⟩))
      ++ [(["root"], ⟨.directory, 0o700, false⟩),
        (["etc", "shadow"], ⟨.file ByteArray.empty, 0o640, false⟩)]
      ++ settings ++ devices ++ processFacts
      ++ programNames.flatMap (fun name =>
        [(["bin", name], systemProgram name), (["usr", "bin", name], systemProgram name)])
  cwd := []

end Looplet.FileSystem
