import Looplet.Options
import Looplet.Proofs.Result
import Mathlib.Data.List.Induction

/-!
# What a command line means

Arguments come in groups (`groups`): `-o` with the argument after it, whatever that is, a flag, an
unknown option, or a source path. What a command line asks for is told by its groups alone
(`Answers`): by the first group that stops the reading, and if there is none by which groups there
are, the last one of a kind where only one can count.

    ofArguments args env = answer ↔ Answers env (groups args) answer

So groups that stop nothing may change places, as long as outputs stay in order and flags for the
kind of output do (`ofArguments_answers`).
-/

namespace Looplet.Command

/-! ## Groups -/

/-- The flags, in the spellings that they have. -/
inductive Flag where
  | assembly
  | llvmIr
  | v
  | verbose
  | h
  | help
  deriving DecidableEq

namespace Flag

/-- The flags. -/
def all : List Flag := [assembly, llvmIr, v, verbose, h, help]

/-- How a flag is written. -/
def text : Flag → String
  | assembly => "-S"
  | llvmIr => "--emit-llvm"
  | v => "-v"
  | verbose => "--verbose"
  | h => "-h"
  | help => "--help"

end Flag

/-- Arguments that are read together. -/
inductive Group where
  | output (value : String)
  | missing
  | flag (flag : Flag)
  | unknown (arg : String)
  | source (arg : String)
  deriving DecidableEq

namespace Group

/-- The group of an argument that stands alone. -/
def ofArgument (arg : String) : Group :=
  match Flag.all.find? fun f => f.text = arg with
  | some f => flag f
  | none => if '-' ∈ arg.toList.head? ∧ arg ≠ "-" then unknown arg else source arg

/-- The arguments of a group. -/
def arguments : Group → List String
  | output value => ["-o", value]
  | missing => ["-o"]
  | flag f => [f.text]
  | unknown arg => [arg]
  | source arg => [arg]

/-- The output that a group names. -/
def output? : Group → Option String
  | output value => some value
  | _ => none

/-- The kind of output that a group asks for. -/
def emit? : Group → Option Emit
  | flag .assembly => some .assembly
  | flag .llvmIr => some .llvmIr
  | _ => none

/-- The source that a group names. -/
def source? : Group → Option String
  | source arg => some arg
  | _ => none

/-- Whether a group asks for more in the log. -/
def isVerbose : Group → Bool
  | flag f => f = .v ∨ f = .verbose
  | _ => false

end Group

/-- The groups of arguments, from left to right. -/
def groups : List String → List Group
  | [] => []
  | arg :: rest =>
    if arg = "-o" then
      match rest with
      | [] => [.missing]
      | value :: rest => .output value :: groups rest
    else .ofArgument arg :: groups rest

@[simp] theorem groups_missing : groups ["-o"] = [.missing] := rfl

@[simp] theorem groups_output (value : String) (rest : List String) :
    groups ("-o" :: value :: rest) = .output value :: groups rest := by
  rw [groups.eq_def]
  rfl

theorem groups_other {arg : String} (h : arg ≠ "-o") (rest : List String) :
    groups (arg :: rest) = .ofArgument arg :: groups rest := by
  rw [groups.eq_def]
  exact if_neg h

/-- Every list of arguments has a first group, or it is empty. -/
theorem groups_cases (args : List String) : args = [] ∨ args = ["-o"] ∨
    (∃ value rest, args = "-o" :: value :: rest) ∨ ∃ arg rest, args = arg :: rest ∧ arg ≠ "-o" := by
  match args with
  | [] => exact .inl rfl
  | [arg] =>
    by_cases h : arg = "-o"
    · exact .inr (.inl (by rw [h]))
    · exact .inr (.inr (.inr ⟨arg, [], rfl, h⟩))
  | arg :: value :: rest =>
    by_cases h : arg = "-o"
    · exact .inr (.inr (.inl ⟨value, rest, by rw [h]⟩))
    · exact .inr (.inr (.inr ⟨arg, value :: rest, rfl, h⟩))

/-! ## Answers -/

/-- What a group asks for that stops the reading after the groups `before`. -/
def Group.stop? (before : List Group) : Group → Option (Except UsageError Command)
  | .flag .h => some (.ok .help)
  | .flag .help => some (.ok .help)
  | .missing => some (.error (.missingValue "-o"))
  | .unknown arg => some (.error (.unknownOption arg))
  | .source arg =>
    if (before.filterMap Group.source?).isEmpty then none else some (.error (.extraArgument arg))
  | _ => none

/-- No group stops the reading. -/
def GoesOn (gs : List Group) : Prop :=
  ∀ before g after, gs = before ++ g :: after → g.stop? before = none

/-- The log level that groups and the environment ask for. -/
inductive HasLevel (env : Environment) (gs : List Group) : Level → Prop where
  | verbose (h : ∃ g ∈ gs, g.isVerbose = true) : HasLevel env gs .debug
  | named {value : String} {l : Level} (h : ∀ g ∈ gs, g.isVerbose = false)
    (hvalue : env "LAMBDA_LOG" = some value) (hfilled : Text.trim value ≠ "")
    (hl : Level.ofText? (Text.trim value) = some l) : HasLevel env gs l
  | standard (h : ∀ g ∈ gs, g.isVerbose = false)
    (hblank : ∀ value, env "LAMBDA_LOG" = some value → Text.trim value = "") : HasLevel env gs .warn

/-- What groups ask for in an environment. -/
inductive Answers (env : Environment) : List Group → Except UsageError Command → Prop where
  | stop {before : List Group} {g : Group} {answer : Except UsageError Command}
    (h : GoesOn before) (hg : g.stop? before = some answer) (after : List Group) :
    Answers env (before ++ g :: after) answer
  | invalidLevel {gs : List Group} {value : String} (h : GoesOn gs)
    (hquiet : ∀ g ∈ gs, g.isVerbose = false) (hvalue : env "LAMBDA_LOG" = some value)
    (hfilled : Text.trim value ≠ "") (hl : Level.ofText? (Text.trim value) = none) :
    Answers env gs (.error (.invalidLevel value))
  | missingInput {gs : List Group} {l : Level} (h : GoesOn gs) (hl : HasLevel env gs l)
    (hsource : gs.filterMap Group.source? = []) : Answers env gs (.error .missingInput)
  | missingOutput {gs : List Group} {l : Level} {input : String} (h : GoesOn gs)
    (hl : HasLevel env gs l) (hsource : .source input ∈ gs)
    (houtput : gs.filterMap Group.output? = []) : Answers env gs (.error .missingOutput)
  | build {gs : List Group} {l : Level} {input output : String} (h : GoesOn gs)
    (hl : HasLevel env gs l) (hsource : .source input ∈ gs)
    (houtput : (gs.filterMap Group.output?).getLast? = some output) :
    Answers env gs (.ok (.build ⟨input, output,
      (gs.filterMap Group.emit?).getLast?.getD .executable,
      (env "LAMBDA_CC").filter fun value => Text.trim value ≠ "", l⟩))

/-! ## Readings that go on -/

section GoesOn

variable {before more gs : List Group} {g : Group}

theorem goesOn_nil : GoesOn [] := by
  intro before g after h
  simp at h

theorem goesOn_snoc : GoesOn (gs ++ [g]) ↔ GoesOn gs ∧ g.stop? gs = none := by
  constructor
  · intro h
    refine ⟨fun before g' after hgs => h before g' (after ++ [g]) (by simp [hgs]), ?_⟩
    exact h gs g [] rfl
  · rintro ⟨h, hg⟩ before g' after hgs
    rcases List.eq_nil_or_concat after with rfl | ⟨after, last, rfl⟩
    · obtain ⟨rfl, hlast⟩ := List.append_inj' hgs rfl
      obtain rfl := List.singleton_inj.mp hlast
      exact hg
    · rw [List.concat_eq_append, ← List.cons_append, ← List.append_assoc] at hgs
      exact h before g' after (List.append_inj' hgs rfl).1

theorem GoesOn.left (h : GoesOn (before ++ more)) : GoesOn before := by
  rintro b g after rfl
  exact h b g (after ++ more) (by simp)

/-- A reading goes on to the end, or there is a first group that stops it. -/
theorem goesOn_or_stops (gs : List Group) : GoesOn gs ∨ ∃ before g after answer,
    gs = before ++ g :: after ∧ GoesOn before ∧ g.stop? before = some answer := by
  induction gs using List.reverseRecOn with
  | nil => exact .inl goesOn_nil
  | append_singleton gs g ih =>
    rcases ih with h | ⟨before, g', after, answer, rfl, h, hg'⟩
    · cases hg : g.stop? gs with
      | none => exact .inl (goesOn_snoc.mpr ⟨h, hg⟩)
      | some answer => exact .inr ⟨gs, g, [], answer, rfl, h, hg⟩
    · exact .inr ⟨before, g', after ++ [g], answer, by simp, h, hg'⟩

theorem stop?_eq_none : g.stop? before = none ↔
    g.stop? [] = none ∧ (g.source? = none ∨ before.filterMap Group.source? = []) := by
  cases g with
  | flag f => cases f <;> simp [Group.stop?, Group.source?]
  | _ => simp [Group.stop?, Group.source?]

/-- Whether a reading goes on does not depend on the order of its groups. -/
theorem goesOn_iff : GoesOn gs ↔
    (∀ g ∈ gs, g.stop? [] = none) ∧ (gs.filterMap Group.source?).length ≤ 1 := by
  induction gs using List.reverseRecOn with
  | nil => simp [goesOn_nil]
  | append_singleton gs g ih =>
    rw [goesOn_snoc, ih, stop?_eq_none, List.forall_mem_append, List.forall_mem_singleton,
      List.filterMap_append, List.length_append]
    generalize gs.filterMap Group.source? = sources
    cases hg : g.source? with
    | none =>
      simp only [List.filterMap_cons_none hg, List.filterMap_nil, List.length_nil]
      tauto
    | some arg =>
      simp only [List.filterMap_cons_some hg, List.filterMap_nil, List.length_singleton,
        ← List.length_eq_zero_iff, reduceCtorEq, false_or]
      have hlast : sources.length + 1 ≤ 1 ↔ sources.length ≤ 1 ∧ sources.length = 0 := by omega
      rw [hlast]
      tauto

theorem GoesOn.perm (h : GoesOn gs) {gs' : List Group} (hperm : gs'.Perm gs) : GoesOn gs' := by
  rw [goesOn_iff] at h ⊢
  refine ⟨fun g hg => h.1 g (hperm.mem_iff.mp hg), ?_⟩
  rw [(hperm.filterMap Group.source?).length_eq]
  exact h.2

/-- There is one source at most. -/
theorem GoesOn.sources_eq (h : GoesOn gs) {input : String} (hinput : .source input ∈ gs) :
    gs.filterMap Group.source? = [input] := by
  have hmem : input ∈ gs.filterMap Group.source? :=
    List.mem_filterMap.mpr ⟨.source input, hinput, rfl⟩
  have hlength := (goesOn_iff.mp h).2
  have hpos := List.length_pos_of_mem hmem
  obtain ⟨input', hsources⟩ := List.length_eq_one_iff.mp (Nat.le_antisymm hlength hpos)
  rw [hsources, List.mem_singleton] at hmem
  rw [hsources, hmem]

theorem mem_of_sources {input : String} (h : input ∈ gs.filterMap Group.source?) :
    .source input ∈ gs := by
  obtain ⟨g, hg, hinput⟩ := List.mem_filterMap.mp h
  cases g with
  | source arg =>
    cases hinput
    exact hg
  | _ => cases hinput

end GoesOn

/-! ## Reading the arguments -/

/-- The settings that groups make. -/
def collected (gs : List Group) : Settings where
  input? := (gs.filterMap Group.source?).getLast?
  output? := (gs.filterMap Group.output?).getLast?
  emit := (gs.filterMap Group.emit?).getLast?.getD .executable
  verbose := gs.any Group.isVerbose

/-- The end of a reading that is stopped: there are no settings if help is asked for. -/
def stopped : Except UsageError Command → Except UsageError (Option Settings)
  | .ok _ => .ok none
  | .error e => .error e

theorem ofArgument_text (f : Flag) : Group.ofArgument f.text = .flag f := by
  cases f <;> decide +kernel

/-- What an argument that is not a flag is taken for. -/
theorem ofArgument_eq {arg : String} (h : ∀ f : Flag, arg ≠ f.text) :
    Group.ofArgument arg = if isOption arg then .unknown arg else .source arg := by
  have hnone : (Flag.all.find? fun f => f.text = arg) = none :=
    List.find?_eq_none.mpr fun f _ => by simpa using (h f).symm
  have hoption : isOption arg = true ↔ '-' ∈ arg.toList.head? ∧ arg ≠ "-" := by
    rw [isOption, Bool.and_eq_true, decide_eq_true_iff, decide_eq_true_iff, Option.mem_def]
    refine and_congr_right fun hdash => ?_
    obtain ⟨cs, hcs⟩ := List.head?_eq_some_iff.mp hdash
    rw [← String.length_toList, hcs, ne_eq, ← String.toList_inj, hcs]
    cases cs <;> simp
  rw [Group.ofArgument, hnone]
  simp only [hoption]

section Settings

variable {before : List Group} {arg : String} {rest : List String}

theorem settings_output (value : String) :
    settings (collected before) ("-o" :: value :: rest)
      = settings (collected (before ++ [.output value])) rest := by
  rw [settings.eq_def]
  simp [collected, Group.source?, Group.output?, Group.emit?, Group.isVerbose]

theorem settings_flag (f : Flag) :
    settings (collected before) (f.text :: rest) =
      match (Group.flag f).stop? before with
      | some answer => stopped answer
      | none => settings (collected (before ++ [.flag f])) rest := by
  rw [settings.eq_def]
  cases f
  all_goals
    simp [Flag.text, Group.stop?, stopped, collected, Group.source?, Group.output?, Group.emit?,
      Group.isVerbose]

theorem settings_other (ho : arg ≠ "-o") (hflag : ∀ f : Flag, arg ≠ f.text) :
    settings (collected before) (arg :: rest) =
      match (Group.ofArgument arg).stop? before with
      | some answer => stopped answer
      | none => settings (collected (before ++ [Group.ofArgument arg])) rest := by
  have hhelp : ¬(arg = "-h" ∨ arg = "--help") := not_or.mpr ⟨hflag .h, hflag .help⟩
  have hverbose : ¬(arg = "-v" ∨ arg = "--verbose") := not_or.mpr ⟨hflag .v, hflag .verbose⟩
  have hassembly : arg ≠ "-S" := hflag .assembly
  have hllvm : arg ≠ "--emit-llvm" := hflag .llvmIr
  rw [ofArgument_eq hflag, settings.eq_def]
  simp only [hhelp, ho, hassembly, hllvm, hverbose, if_false]
  split
  · rfl
  · cases hsources : before.filterMap Group.source? with
    | nil =>
      simp [Group.stop?, hsources, collected, Group.source?, Group.output?, Group.emit?,
        Group.isVerbose]
    | cons first more =>
      simp [Group.stop?, hsources, collected, stopped]

end Settings

/-- One group is read off the front of the arguments, or it stops the reading. -/
theorem settings_cons (before : List Group) {args : List String} {g : Group} {gs : List Group}
    (h : groups args = g :: gs) :
    ∃ rest, groups rest = gs ∧ settings (collected before) args =
      match g.stop? before with
      | some answer => stopped answer
      | none => settings (collected (before ++ [g])) rest := by
  obtain rfl | rfl | ⟨value, rest, rfl⟩ | ⟨arg, rest, rfl, ho⟩ := groups_cases args
  · cases h
  · cases h
    exact ⟨[], rfl, rfl⟩
  · cases (groups_output value rest).symm.trans h
    exact ⟨rest, rfl, settings_output value⟩
  · cases (groups_other ho rest).symm.trans h
    refine ⟨rest, rfl, ?_⟩
    by_cases hflag : ∃ f : Flag, arg = f.text
    · obtain ⟨f, rfl⟩ := hflag
      rw [ofArgument_text]
      exact settings_flag f
    · exact settings_other ho (not_exists.mp hflag)

theorem groups_eq_nil {args : List String} (h : groups args = []) : args = [] := by
  obtain rfl | rfl | ⟨value, rest, rfl⟩ | ⟨arg, rest, rfl, ho⟩ := groups_cases args
  · rfl
  · cases h
  · cases (groups_output value rest).symm.trans h
  · cases (groups_other ho rest).symm.trans h

/-- A reading that goes on collects all its groups. -/
theorem settings_of_goesOn (before : List Group) {args : List String}
    (h : GoesOn (before ++ groups args)) :
    settings (collected before) args = .ok (some (collected (before ++ groups args))) := by
  generalize hgs : groups args = gs at h ⊢
  induction gs generalizing before args with
  | nil =>
    obtain rfl := groups_eq_nil hgs
    rw [settings, List.append_nil]
  | cons g gs ih =>
    obtain ⟨rest, hrest, hstep⟩ := settings_cons before hgs
    rw [List.append_cons] at h ⊢
    rw [hstep, (goesOn_snoc.mp h.left).2]
    exact ih _ hrest h

/-- A reading ends with its first group that stops it. -/
theorem settings_of_stop (before : List Group) {more after : List Group} {args : List String}
    {g : Group} {answer : Except UsageError Command} (hgs : groups args = more ++ g :: after)
    (h : GoesOn (before ++ more)) (hg : g.stop? (before ++ more) = some answer) :
    settings (collected before) args = stopped answer := by
  induction more generalizing before args with
  | nil =>
    obtain ⟨rest, -, hstep⟩ := settings_cons before hgs
    rw [List.append_nil] at hg
    rw [hstep, hg]
  | cons g' more ih =>
    obtain ⟨rest, hrest, hstep⟩ := settings_cons before hgs
    rw [List.append_cons] at h hg
    rw [hstep, (goesOn_snoc.mp h.left).2]
    exact ih _ hrest h hg

/-! ## The answer -/

variable {args : List String} {env : Environment} {gs : List Group}

/-- Help is the only answer that is no error before the end of the arguments. -/
theorem Group.eq_help_of_stop? {before : List Group} {g : Group} {command : Command}
    (h : g.stop? before = some (.ok command)) : command = .help := by
  cases g with
  | flag f => cases f <;> simp_all [Group.stop?]
  | source arg =>
    rw [Group.stop?] at h
    split at h <;> simp at h
  | _ => simp [Group.stop?] at h

theorem ofArguments_of_stop {before after : List Group} {g : Group}
    {answer : Except UsageError Command} (hgs : groups args = before ++ g :: after)
    (h : GoesOn before) (hg : g.stop? before = some answer) : ofArguments args env = answer := by
  have hsettings : settings Settings.initial args = stopped answer :=
    settings_of_stop [] hgs h hg
  rw [ofArguments, hsettings]
  cases answer with
  | error e => rfl
  | ok command =>
    rw [Group.eq_help_of_stop? hg]
    rfl

theorem ofArguments_of_goesOn (h : GoesOn (groups args)) :
    ofArguments args env = (ofSettings env (collected (groups args))).map Command.build := by
  have hsettings : settings Settings.initial args = .ok (some (collected (groups args))) :=
    settings_of_goesOn [] h
  rw [ofArguments, hsettings, ok_bind]
  dsimp only
  cases ofSettings env (collected (groups args)) <;> rfl

theorem filled?_of_ne {key value : String} (h : env key = some value)
    (hfilled : Text.trim value ≠ "") : filled? env key = some value := by
  rw [filled?, h]
  exact Option.filter_some_pos (decide_eq_true hfilled)

theorem filled?_eq_none {key : String} (h : ∀ value, env key = some value → Text.trim value = "") :
    filled? env key = none := by
  rw [filled?]
  cases hvalue : env key with
  | none => rfl
  | some value => exact Option.filter_some_neg (by simpa using h value hvalue)

theorem any_isVerbose (h : ∀ g ∈ gs, g.isVerbose = false) : gs.any Group.isVerbose = false := by
  simpa using h

theorem level_of_hasLevel {l : Level} (h : HasLevel env gs l) :
    level env (gs.any Group.isVerbose) = .ok l := by
  cases h with
  | verbose h => rw [List.any_eq_true.mpr h, level, if_pos rfl]
  | named h hvalue hfilled hl =>
    rw [any_isVerbose h, level, if_neg Bool.false_ne_true, filled?_of_ne hvalue hfilled]
    simp only [hl]
  | standard h hblank =>
    rw [any_isVerbose h, level, if_neg Bool.false_ne_true, filled?_eq_none hblank]

theorem level_of_invalid {value : String} (hquiet : ∀ g ∈ gs, g.isVerbose = false)
    (hvalue : env "LAMBDA_LOG" = some value) (hfilled : Text.trim value ≠ "")
    (hl : Level.ofText? (Text.trim value) = none) :
    level env (gs.any Group.isVerbose) = .error (.invalidLevel value) := by
  rw [any_isVerbose hquiet, level, if_neg Bool.false_ne_true, filled?_of_ne hvalue hfilled]
  simp only [hl]

/-- There is a log level, or the environment names none. -/
theorem hasLevel_or_invalid (env : Environment) (gs : List Group) : (∃ l, HasLevel env gs l) ∨
    ∃ value, (∀ g ∈ gs, g.isVerbose = false) ∧ env "LAMBDA_LOG" = some value ∧
      Text.trim value ≠ "" ∧ Level.ofText? (Text.trim value) = none := by
  by_cases hverbose : ∃ g ∈ gs, g.isVerbose = true
  · exact .inl ⟨_, .verbose hverbose⟩
  have hquiet : ∀ g ∈ gs, g.isVerbose = false := by simpa using hverbose
  by_cases hset : ∃ value, env "LAMBDA_LOG" = some value ∧ Text.trim value ≠ ""
  · obtain ⟨value, hvalue, hfilled⟩ := hset
    cases hl : Level.ofText? (Text.trim value) with
    | none => exact .inr ⟨value, hquiet, hvalue, hfilled, hl⟩
    | some l => exact .inl ⟨l, .named hquiet hvalue hfilled hl⟩
  · refine .inl ⟨_, .standard hquiet fun value hvalue => ?_⟩
    by_contra hfilled
    exact hset ⟨value, hvalue, hfilled⟩

/-- Every list of groups has an answer. -/
theorem exists_answers (env : Environment) (gs : List Group) : ∃ answer, Answers env gs answer := by
  rcases goesOn_or_stops gs with h | ⟨before, g, after, answer, rfl, h, hg⟩
  swap
  · exact ⟨answer, .stop h hg after⟩
  rcases hasLevel_or_invalid env gs with ⟨l, hl⟩ | ⟨value, hquiet, hvalue, hfilled, hl⟩
  swap
  · exact ⟨_, .invalidLevel h hquiet hvalue hfilled hl⟩
  cases hsource : gs.filterMap Group.source? with
  | nil => exact ⟨_, .missingInput h hl hsource⟩
  | cons input more =>
    have hinput : .source input ∈ gs :=
      mem_of_sources (by rw [hsource]; exact List.mem_cons_self ..)
    cases houtput : (gs.filterMap Group.output?).getLast? with
    | none => exact ⟨_, .missingOutput h hl hinput (List.getLast?_eq_none_iff.mp houtput)⟩
    | some output => exact ⟨_, .build h hl hinput houtput⟩

theorem input?_collected (h : GoesOn gs) {input : String} (hinput : .source input ∈ gs) :
    (collected gs).input? = some input := by
  rw [collected, h.sources_eq hinput]
  rfl

/-- The answer of the groups is the answer of the arguments. -/
theorem ofArguments_of_answers {answer : Except UsageError Command}
    (h : Answers env (groups args) answer) : ofArguments args env = answer := by
  generalize hgs : groups args = gs at h
  cases h with
  | stop h hg after => exact ofArguments_of_stop hgs h hg
  | invalidLevel h hquiet hvalue hfilled hl =>
    subst hgs
    have hlevel : level env (collected (groups args)).verbose = .error _ :=
      level_of_invalid hquiet hvalue hfilled hl
    rw [ofArguments_of_goesOn h, ofSettings, hlevel]
    rfl
  | missingInput h hl hsource =>
    subst hgs
    have hlevel : level env (collected (groups args)).verbose = .ok _ := level_of_hasLevel hl
    have hinput : (collected (groups args)).input? = none := by
      rw [collected, hsource]
      rfl
    rw [ofArguments_of_goesOn h, ofSettings, hlevel, ok_bind, hinput]
    rfl
  | missingOutput h hl hsource houtput =>
    subst hgs
    have hlevel : level env (collected (groups args)).verbose = .ok _ := level_of_hasLevel hl
    have hnone : (collected (groups args)).output? = none := by
      rw [collected, houtput]
      rfl
    rw [ofArguments_of_goesOn h, ofSettings, hlevel, ok_bind, input?_collected h hsource, hnone]
    rfl
  | build h hl hsource houtput =>
    subst hgs
    have hlevel : level env (collected (groups args)).verbose = .ok _ := level_of_hasLevel hl
    have hsome : (collected (groups args)).output? = some _ := houtput
    rw [ofArguments_of_goesOn h, ofSettings, hlevel, ok_bind, input?_collected h hsource, hsome]
    rfl

theorem ofArguments_eq_iff {answer : Except UsageError Command} :
    ofArguments args env = answer ↔ Answers env (groups args) answer := by
  refine ⟨fun h => ?_, ofArguments_of_answers⟩
  obtain ⟨answer', hanswer⟩ := exists_answers env (groups args)
  rwa [← h, ofArguments_of_answers hanswer]

/-! ## Reordered groups -/

/-- The same groups in another order, with the outputs and the kinds of output in the same order. -/
structure Reordered (gs gs' : List Group) : Prop where
  perm : gs'.Perm gs
  outputs : gs'.filterMap Group.output? = gs.filterMap Group.output?
  emits : gs'.filterMap Group.emit? = gs.filterMap Group.emit?

theorem HasLevel.reordered {l : Level} (h : HasLevel env gs l) {gs' : List Group}
    (hperm : gs'.Perm gs) : HasLevel env gs' l := by
  cases h with
  | verbose h =>
    obtain ⟨g, hg, hverbose⟩ := h
    exact .verbose ⟨g, hperm.mem_iff.mpr hg, hverbose⟩
  | named h hvalue hfilled hl =>
    exact .named (fun g hg => h g (hperm.mem_iff.mp hg)) hvalue hfilled hl
  | standard h hblank => exact .standard (fun g hg => h g (hperm.mem_iff.mp hg)) hblank

theorem Answers.reordered {answer : Except UsageError Command} (h : Answers env gs answer)
    {gs' : List Group} (hgs : GoesOn gs) (hsame : Reordered gs gs') : Answers env gs' answer := by
  have hmem : ∀ {g}, g ∈ gs' ↔ g ∈ gs := hsame.perm.mem_iff
  cases h with
  | stop h hg after =>
    rw [hgs _ _ _ rfl] at hg
    cases hg
  | invalidLevel h hquiet hvalue hfilled hl =>
    exact .invalidLevel (h.perm hsame.perm) (fun g hg => hquiet g (hmem.mp hg)) hvalue hfilled hl
  | missingInput h hl hsource =>
    refine .missingInput (h.perm hsame.perm) (hl.reordered hsame.perm) ?_
    have hnil := hsame.perm.filterMap Group.source?
    rw [hsource] at hnil
    exact hnil.eq_nil
  | missingOutput h hl hsource houtput =>
    exact .missingOutput (h.perm hsame.perm) (hl.reordered hsame.perm) (hmem.mpr hsource)
      (hsame.outputs.trans houtput)
  | build h hl hsource houtput =>
    rw [← hsame.outputs] at houtput
    rw [← hsame.emits]
    exact .build (h.perm hsame.perm) (hl.reordered hsame.perm) (hmem.mpr hsource) houtput

theorem arguments_ofArgument (arg : String) : (Group.ofArgument arg).arguments = [arg] := by
  unfold Group.ofArgument
  split
  · next f hf =>
    have htext : f.text = arg := by simpa using List.find?_some hf
    rw [Group.arguments, htext]
  · split <;> rfl

/-- The first group holds the first arguments. Unless the end cuts it off, it is read off these
arguments whatever comes after them. -/
theorem groups_eq_cons {g : Group} {gs : List Group} (h : groups args = g :: gs) :
    ∃ rest, args = g.arguments ++ rest ∧ groups rest = gs ∧
      (g ≠ .missing → ∀ more, groups (g.arguments ++ more) = g :: groups more) := by
  obtain rfl | rfl | ⟨value, rest, rfl⟩ | ⟨arg, rest, rfl, ho⟩ := groups_cases args
  · cases h
  · cases h
    exact ⟨[], rfl, rfl, fun hg => absurd rfl hg⟩
  · cases (groups_output value rest).symm.trans h
    exact ⟨rest, rfl, rfl, fun _ => groups_output value⟩
  · cases (groups_other ho rest).symm.trans h
    rw [arguments_ofArgument]
    exact ⟨rest, rfl, rfl, fun _ => groups_other ho⟩

/-- The groups of arguments hold these arguments. -/
theorem flatMap_arguments (args : List String) :
    (groups args).flatMap Group.arguments = args := by
  generalize hgs : groups args = gs
  induction gs generalizing args with
  | nil => rw [groups_eq_nil hgs, List.flatMap_nil]
  | cons g gs ih =>
    obtain ⟨rest, rfl, hrest, -⟩ := groups_eq_cons hgs
    rw [List.flatMap_cons, ih rest hrest]

/-- A group that is not cut off by the end is read as that group wherever its arguments stand. -/
theorem groups_arguments {g : Group} (h : g ∈ groups args) (hg : g ≠ .missing)
    (rest : List String) : groups (g.arguments ++ rest) = g :: groups rest := by
  generalize hgs : groups args = gs at h
  induction gs generalizing args with
  | nil => cases h
  | cons g' gs ih =>
    obtain ⟨rest', -, hrest, hread⟩ := groups_eq_cons hgs
    rcases List.mem_cons.mp h with rfl | h
    · exact hread hg rest
    · exact ih hrest h

/-- The arguments of groups that stop nothing are read as these groups, in any order. -/
theorem groups_flatMap (hgs : ∀ g ∈ gs, g ∈ groups args) (h : GoesOn gs) :
    groups (gs.flatMap Group.arguments) = gs := by
  have hmissing : ∀ g ∈ gs, g ≠ .missing := by
    rintro g hg rfl
    cases (goesOn_iff.mp h).1 _ hg
  clear h
  induction gs with
  | nil => rfl
  | cons g gs ih =>
    rw [List.forall_mem_cons] at hgs hmissing
    rw [List.flatMap_cons, groups_arguments hgs.1 hmissing.1, ih hgs.2 hmissing.2]

/-- The groups of a command line tell its answer. Where none of them stops the reading they may
stand in any order that keeps the outputs in order and the flags for the kind of output. -/
theorem ofArguments_answers (args : List String) (env : Environment) :
    (∀ answer, ofArguments args env = answer ↔ Answers env (groups args) answer) ∧
      (groups args).flatMap Group.arguments = args ∧
      ∀ gs, GoesOn (groups args) → Reordered (groups args) gs →
        ofArguments (gs.flatMap Group.arguments) env = ofArguments args env := by
  refine ⟨fun _ => ofArguments_eq_iff, flatMap_arguments args, fun gs h hsame => ?_⟩
  have hgs : groups (gs.flatMap Group.arguments) = gs :=
    groups_flatMap (fun g hg => hsame.perm.mem_iff.mp hg) (h.perm hsame.perm)
  rw [ofArguments_eq_iff, hgs]
  exact (ofArguments_eq_iff.mp rfl).reordered h hsame

/-- Arguments with a flag for a value, two outputs and two kinds of output. -/
def crowded : List String := ["-o", "-h", "-S", "a", "--emit-llvm", "-o", "b", "-v"]

/-- The groups of these arguments in another order. -/
def shuffled : List Group :=
  [.flag .v, .flag .assembly, .output "-h", .flag .llvmIr, .output "b", .source "a"]

/-- A driver of blanks, and a log level that is none. -/
def blankAndLoud : Environment
  | "LAMBDA_CC" => some " \t"
  | "LAMBDA_LOG" => some "loud"
  | _ => none

theorem crowded_shuffled :
    ofArguments crowded blankAndLoud = .ok (.build ⟨"a", "b", .llvmIr, none, .debug⟩) ∧
      ofArguments ["-v", "-S", "-o", "-h", "--emit-llvm", "-o", "b", "a"] blankAndLoud
        = .ok (.build ⟨"a", "b", .llvmIr, none, .debug⟩) ∧
      ofArguments (crowded ++ ["c", "--help"]) blankAndLoud = .error (.extraArgument "c") := by
  have hgroups : groups crowded = [.output "-h", .flag .assembly, .source "a", .flag .llvmIr,
      .output "b", .flag .v] := by
    decide +kernel
  have hgoesOn : GoesOn (groups crowded) := by
    rw [goesOn_iff, hgroups]
    decide
  have hbuild : Answers blankAndLoud (groups crowded)
      (.ok (.build ⟨"a", "b", .llvmIr, none, .debug⟩)) := by
    rw [hgroups] at hgoesOn ⊢
    exact .build hgoesOn (.verbose ⟨.flag .v, by decide, rfl⟩) (by decide) rfl
  have hreordered : Reordered (groups crowded) shuffled := by
    rw [hgroups]
    exact ⟨by decide, rfl, rfl⟩
  have hcrowded := ((ofArguments_answers crowded blankAndLoud).1 _).mpr hbuild
  have hshuffled := (ofArguments_answers crowded blankAndLoud).2.2 shuffled hgoesOn hreordered
  refine ⟨hcrowded, hshuffled.trans hcrowded, ?_⟩
  refine ((ofArguments_answers (crowded ++ ["c", "--help"]) blankAndLoud).1 _).mpr ?_
  have hlonger : groups (crowded ++ ["c", "--help"])
      = groups crowded ++ .source "c" :: [.flag .help] := by
    decide +kernel
  rw [hlonger]
  refine .stop hgoesOn ?_ _
  rw [hgroups]
  rfl

end Looplet.Command
