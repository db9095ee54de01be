/-!
# How processes end

A process ends by itself with a code, or by a signal.
-/

namespace Looplet

/-- How a process ended. -/
inductive ExitStatus where
  | code (code : Nat)
  | signal (number : Nat)
  deriving DecidableEq

namespace ExitStatus

/-- The names of the signals that have one, by number. -/
def signalNames : List (Nat × String) :=
  [(1, "SIGHUP"), (2, "SIGINT"), (3, "SIGQUIT"), (4, "SIGILL"), (5, "SIGTRAP"), (6, "SIGABRT"),
    (7, "SIGBUS"), (8, "SIGFPE"), (9, "SIGKILL"), (10, "SIGUSR1"), (11, "SIGSEGV"),
    (12, "SIGUSR2"), (13, "SIGPIPE"), (14, "SIGALRM"), (15, "SIGTERM"), (16, "SIGSTKFLT"),
    (17, "SIGCHLD"), (18, "SIGCONT"), (19, "SIGSTOP"), (20, "SIGTSTP"), (21, "SIGTTIN"),
    (22, "SIGTTOU"), (23, "SIGURG"), (24, "SIGXCPU"), (25, "SIGXFSZ"), (26, "SIGVTALRM"),
    (27, "SIGPROF"), (28, "SIGWINCH"), (29, "SIGIO"), (30, "SIGPWR"), (31, "SIGSYS")]

/-- The signals that do not end a process: it goes on, or it stops until it is told to go on. -/
def harmlessSignals : List Nat := [17, 18, 19, 20, 21, 22, 23, 28]

/-- An exit status in words. -/
def text : ExitStatus → String
  | code n => "exit status: " ++ Nat.repr n
  | signal n =>
    match signalNames.lookup n with
    | some name => "signal: " ++ Nat.repr n ++ " (" ++ name ++ ")"
    | none => "signal: " ++ Nat.repr n

end ExitStatus

end Looplet
