import Looplet.Utility.Characters
import Looplet.Utility.Comparing
import Looplet.Utility.Digests
import Looplet.Utility.Files
import Looplet.Utility.Lines
import Looplet.Utility.Listing
import Looplet.Utility.Matching
import Looplet.Utility.Output
import Looplet.Utility.Pieces
import Looplet.Utility.Sorting
import Looplet.Utility.StreamEditor

/-!
# The small programs of the system

All programs that start no other program, by their names.
-/

namespace Looplet.Utility

/-- The programs on files, with their names. -/
def filePrograms : List (String × Body) :=
  [("cp", cp), ("mv", mv), ("ln", ln), ("rm", rm), ("unlink", unlink), ("rmdir", rmdir),
    ("touch", touch), ("mkdir", mkdir), ("mkfifo", mkfifo), ("mktemp", mktemp), ("chmod", chmod),
    ("readlink", readlink), ("realpath", realpath), ("truncate", truncate), ("install", install),
    ("ls", ls), ("stat", stat)]

/-- The programs on texts, with their names. -/
def textPrograms : List (String × Body) :=
  [("cat", cat), ("tac", tac), ("tee", tee), ("head", head), ("tail", tail), ("wc", wc),
    ("nl", nl), ("rev", rev), ("fold", fold), ("paste", paste), ("uniq", uniq), ("cut", cut),
    ("comm", comm), ("expand", expand), ("tr", tr), ("od", od), ("sort", sort),
    ("grep", grepAs none), ("egrep", grepAs (some 'E')), ("fgrep", grepAs (some 'F')),
    ("expr", expr), ("sed", sed), ("cmp", cmp), ("diff", diff),
    ("dd", dd), ("split", split), ("join", join)]

/-- The programs that write digests and codes, with their names. -/
def digestPrograms : List (String × Body) :=
  [("md5sum", digestProgram "MD5" Text.Digest.bits128),
    ("sha1sum", digestProgram "SHA1" Text.Digest.bits160),
    ("sha224sum", digestProgram "SHA224" Text.Digest.bits224),
    ("sha256sum", digestProgram "SHA256" Text.Digest.bits256),
    ("sha384sum", digestProgram "SHA384" Text.Digest.bits384),
    ("sha512sum", digestProgram "SHA512" Text.Digest.bits512), ("cksum", cksum),
    ("sum", blockSum), ("base64", base64)]

/-- The programs that only write, with their names. -/
def outputPrograms : List (String × Body) :=
  [("true", fun _ _ => return 0), ("false", fun _ _ => return 1), ("echo", echo),
    ("printf", printf), ("test", test), ("[", bracket), ("pwd", pwd), ("basename", basename),
    ("dirname", dirname), ("seq", seq), ("factor", factor), ("yes", yes), ("id", id),
    ("whoami", whoami), ("uname", uname), ("tty", tty), ("sleep", sleep),
    ("groups", groups), ("arch", arch), ("sync", fun _ _ => return 0)]

/-- The program of a name. -/
def named? (name : String) : Option Body :=
  (filePrograms ++ textPrograms ++ digestPrograms ++ outputPrograms).lookup name

end Looplet.Utility
