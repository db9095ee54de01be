import Looplet.Shell.Process

/-!
# How commands are used

A shell that knows more than the standard shows how its commands are used when one is called
wrongly.
-/

namespace Looplet.Shell

/-- The commands of the shell with their arguments. -/
def usages : List (String × String) :=
  [("alias", "[-p] [name[=value] ... ]"),
    ("builtin", "[shell-builtin [arg ...]]"),
    ("caller", "[expr]"),
    ("cd", "[-L|[-P [-e]] [-@]] [dir]"),
    ("command", "[-pVv] command [arg ...]"),
    ("compgen", "[-abcdefgjksuv] [-o option] [-A action] [-G globpat] [-W wordlist] "
      ++ "[-F function] [-C command] [-X filterpat] [-P prefix] [-S suffix] [word]"),
    ("complete", "[-abcdefgjksuv] [-pr] [-DEI] [-o option] [-A action] [-G globpat] "
      ++ "[-W wordlist] [-F function] [-C command] [-X filterpat] [-P prefix] [-S suffix] "
      ++ "[name ...]"),
    ("declare", "[-aAfFgiIlnrtux] [name[=value] ...] or declare -p [-aAfFilnrtux] [name ...]"),
    ("dirs", "[-clpv] [+N] [-N]"),
    ("disown", "[-h] [-ar] [jobspec ... | pid ...]"),
    ("enable", "[-a] [-dnps] [-f filename] [name ...]"),
    ("eval", "[arg ...]"),
    ("exec", "[-cl] [-a name] [command [argument ...]] [redirection ...]"),
    ("export", "[-fn] [name[=value] ...] or export -p"),
    ("fc", "[-e ename] [-lnr] [first] [last] or fc -s [pat=rep] [command]"),
    ("getopts", "optstring name [arg ...]"),
    ("hash", "[-lr] [-p pathname] [-dt] [name ...]"),
    ("help", "[-dms] [pattern ...]"),
    ("history", "[-c] [-d offset] [n] or history -anrw [filename] or history -ps arg [arg...]"),
    ("jobs", "[-lnprs] [jobspec ...] or jobs -x command [args]"),
    ("kill", "[-s sigspec | -n signum | -sigspec] pid | jobspec ... or kill -l [sigspec]"),
    ("let", "arg [arg ...]"),
    ("local", "[option] name[=value] ..."),
    ("mapfile", "[-d delim] [-n count] [-O origin] [-s count] [-t] [-u fd] [-C callback] "
      ++ "[-c quantum] [array]"),
    ("popd", "[-n] [+N | -N]"),
    ("printf", "[-v var] format [arguments]"),
    ("pushd", "[-n] [+N | -N | dir]"),
    ("pwd", "[-LP]"),
    ("read", "[-ers] [-a array] [-d delim] [-i text] [-n nchars] [-N nchars] [-p prompt] "
      ++ "[-t timeout] [-u fd] [name ...]"),
    ("readarray", "[-d delim] [-n count] [-O origin] [-s count] [-t] [-u fd] [-C callback] "
      ++ "[-c quantum] [array]"),
    ("readonly", "[-aAf] [name[=value] ...] or readonly -p"),
    ("set", "[-abefhkmnptuvxBCEHPT] [-o option-name] [--] [-] [arg ...]"),
    ("shopt", "[-pqsu] [-o] [optname ...]"),
    ("source", "filename [arguments]"),
    (".", "filename [arguments]"),
    ("suspend", "[-f]"),
    ("times", ""),
    ("trap", "[-lp] [[arg] signal_spec ...]"),
    ("type", "[-afptP] name [name ...]"),
    ("typeset", "[-aAfFgiIlnrtux] name[=value] ... or typeset -p [-aAfFilnrtux] [name ...]"),
    ("ulimit", "[-SHabcdefiklmnpqrstuvxPRT] [limit]"),
    ("umask", "[-p] [-S] [mode]"),
    ("unalias", "[-a] name [name ...]"),
    ("unset", "[-f] [-v] [-n] [name ...]"),
    ("wait", "[-fn] [-p var] [id ...]")]

/-- Shows how the command at hand is used, and gives it up. -/
def showUsage {α : Type} : Run α := do
  let name := (← get).builtin?.getD ""
  let usage := (usages.lookup name).getD ""
  sayError (name ++ ": usage: " ++ name ++ (if usage = "" then "" else " " ++ usage) ++ "\n")
  setStatus 2
  throw .failure

/-- Gives up a command that was called wrongly. -/
def misused {α : Type} (message : String) : Run α := do
  complain message
  showUsage

/-- Gives up a command with a status. -/
def failWithStatus {α : Type} (status : Nat) (message : String) : Run α := do
  complain message
  setStatus status
  throw .failure

/-- A text as a message quotes it, and what is wrong with it. -/
def notIdentifier (s : String) : String := "\x60" ++ s ++ "': not a valid identifier"

end Looplet.Shell
