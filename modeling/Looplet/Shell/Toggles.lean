import Looplet.Shell.Declaration

/-!
# Options and toggles

A shell that knows more than the standard has options with names, most of which also have a letter,
and further settings that have names only: toggles. Both can be set, taken back and listed, in the
order of their names.
-/

namespace Looplet.Shell

/-- The options by name. Those that have no letter have a digit as their mark. -/
def richOptions : List (String × Char) :=
  [("allexport", 'a'), ("braceexpand", 'B'), ("emacs", '3'), ("errexit", 'e'), ("errtrace", 'E'),
    ("functrace", 'T'), ("hashall", 'h'), ("histexpand", 'H'), ("history", '4'),
    ("ignoreeof", '5'), ("interactive-comments", '6'), ("keyword", 'k'), ("monitor", 'm'),
    ("noclobber", 'C'), ("noexec", 'n'), ("noglob", 'f'), ("nolog", '0'), ("notify", 'b'),
    ("nounset", 'u'), ("onecmd", 't'), ("physical", 'P'), ("pipefail", pipefailMark),
    ("posix", '7'), ("privileged", 'p'), ("verbose", 'v'), ("vi", '8'), ("xtrace", 'x')]

/-- The options that are on at first. -/
def firstOptions : List Char := ['h', 'B', '6']

/-- The names of all toggles, in the order in which they are listed. -/
def toggleNames : List String :=
  ["autocd", "assoc_expand_once", "cdable_vars", "cdspell", "checkhash", "checkjobs",
    "checkwinsize", "cmdhist", "compat31", "compat32", "compat40", "compat41", "compat42",
    "compat43", "compat44", "complete_fullquote", "direxpand", "dirspell", "dotglob", "execfail",
    "expand_aliases", "extdebug", "extglob", "extquote", "failglob", "force_fignore",
    "globasciiranges", "globskipdots", "globstar", "gnu_errfmt", "histappend", "histreedit",
    "histverify", "hostcomplete", "huponexit", "inherit_errexit", "interactive_comments",
    "lastpipe", "lithist", "localvar_inherit", "localvar_unset", "login_shell", "mailwarn",
    "no_empty_cmd_completion", "nocaseglob", "nocasematch", "noexpand_translation", "nullglob",
    "patsub_replacement", "progcomp", "progcomp_alias", "promptvars", "restricted_shell",
    "shift_verbose", "sourcepath", "varredir_close", "xpg_echo"]

/-- The toggles that are on at first. -/
def firstToggles : List String :=
  ["checkwinsize", "cmdhist", "complete_fullquote", "extquote", "force_fignore",
    "globasciiranges", "globskipdots", "hostcomplete", "interactive_comments",
    "patsub_replacement", "progcomp", "promptvars", "sourcepath"]

/-- Takes note of what is set in the variables that tell it. -/
def noteSettings : Run Unit := do
  let p ← get
  let on := (richOptions.filter fun o => o.2 ∈ p.options).map Prod.fst
  let toggles := toggleNames.filter p.hasToggle
  let note (name : String) (values : List String) : Run Unit :=
    changeVariable name fun v => { v with
      text? := some (":".intercalate values), readOnly := true }
  note "SHELLOPTS" on
  note "BASHOPTS" toggles

/-- A setting in a list of settings. -/
def settingLine (name : String) (on : Bool) : String :=
  name ++ String.ofList (List.replicate (15 - name.length) ' ') ++ "\t"
    ++ (if on then "on" else "off")
    ++ "\n"

/-- A command that sets an option as it is. -/
def optionCommand (name : String) (on : Bool) : String :=
  "set " ++ (if on then "-o " else "+o ") ++ name ++ "\n"

/-- Lists the options. -/
def listRichOptions (plain : Bool) : Run Unit := do
  let set := (← get).options
  let line := fun ((name, c) : String × Char) =>
    if plain then settingLine name (c ∈ set) else optionCommand name (c ∈ set)
  say (String.join (richOptions.map line))

/-- Sets options by their letters. `o` takes a name. -/
def setRichLetters (on : Bool) (rest : List String) : List Char → Run (List String)
  | [] => return rest
  | 'o' :: cs => do
    match rest with
    | [] =>
      listRichOptions on
      setRichLetters on [] cs
    | name :: rest =>
      match richOptions.lookup name with
      | some c =>
        setOption on c
        setRichLetters on rest cs
      | none => failWithStatus 2 (name ++ ": invalid option name")
  | c :: cs => do
    if c.isAlpha && richOptions.any fun o => o.2 = c then
      setOption on c
      setRichLetters on rest cs
    else misused ((if on then "-" else "+") ++ c.toString ++ ": invalid option")

/-- Sets the options at the start of arguments. Gives the other arguments, and whether there were
any marks for them. -/
def setRichOptions : Nat → List String → Run (List String × Bool)
  | 0, args => return (args, false)
  | fuel + 1, args =>
    match args with
    | [] => return ([], false)
    | a :: rest =>
      match a.toList with
      | ['-'] => do
        setOption false 'x'
        setOption false 'v'
        return (rest, false)
      | ['-', '-'] => return (rest, true)
      | '-' :: cs => do setRichOptions fuel (← setRichLetters true rest cs)
      | '+' :: cs => do setRichOptions fuel (← setRichLetters false rest cs)
      | _ => return (args, false)

/-- Sets options and arguments, or lists the variables. -/
def richSetBuiltin : BuiltinBody := fun _ args => do
  if args.isEmpty then
    let p ← get
    let set := p.sortedVariables.filter fun v => v.text?.isSome || v.table?.isSome
    say (String.join (set.map fun v => v.listing p.isUtf8 ++ "\n"))
    if '7' ∉ p.options then say p.functionTexts
    return 0
  else
    let (rest, marked) ← setRichOptions (args.length + 1) args
    if marked || !rest.isEmpty then
      modify fun p => { p with args := rest, optionOffset := 0 }
    noteSettings
    return 0

/-- Sets a toggle or takes it back. -/
def setToggle (on : Bool) (name : String) : Run Unit :=
  modify fun p =>
    let others := p.extras.toggles.filter (· ≠ name)
    { p with extras := { p.extras with toggles := if on then name :: others else others } }

/-- Sets, takes back or shows toggles, or options. -/
def shoptBuiltin : BuiltinBody := fun _ args => do
  let (opts, names) ← options "pqsuo" args
  let has (c : Char) : Bool := opts.any fun o => o.1 = c
  let forOptions := has 'o'
  if has 's' && has 'u' then
    failWithStatus 1 "cannot set and unset shell options simultaneously"
  let known := if forOptions then richOptions.map Prod.fst else toggleNames
  let isOn (p : Process) (name : String) : Bool :=
    if forOptions then ((richOptions.lookup name).map fun c => decide (c ∈ p.options)).getD false
    else p.hasToggle name
  let show_ (name : String) (on : Bool) : Run Unit :=
    if has 'q' then return ()
    else if has 'p' then
      say (if forOptions then optionCommand name on
        else "shopt " ++ (if on then "-s " else "-u ") ++ name ++ "\n")
    else say (settingLine name on)
  let p ← get
  if names.isEmpty then
    for name in known do
      let on := isOn p name
      if (!has 's' || on) && (!has 'u' || !on) then show_ name on
    return 0
  else
    let mut status := 0
    for name in names do
      if name ∉ known then
        complain (name ++ (if forOptions then ": invalid option name"
          else ": invalid shell option name"))
        status := 1
      else if has 's' || has 'u' then
        if forOptions then setOption (has 's') ((richOptions.lookup name).getD 'e')
        else setToggle (has 's') name
      else
        let on := isOn p name
        show_ name on
        if !on then status := 1
    noteSettings
    return status

end Looplet.Shell
