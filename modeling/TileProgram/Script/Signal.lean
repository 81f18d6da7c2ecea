/-!
# Signals and exit statuses
-/

namespace TileProgram
namespace Script

/-- How a program that was started has ended. -/
inductive ExitStatus where
  | exited (code : Nat)
  | killed (signal : Nat)
  deriving DecidableEq

/-- The names of signals by number. -/
def signalNames : List (Nat × String) :=
  [ (1, "HUP"), (2, "INT"), (3, "QUIT"), (4, "ILL"), (5, "TRAP"), (6, "ABRT"), (7, "BUS"),
    (8, "FPE"), (9, "KILL"), (10, "USR1"), (11, "SEGV"), (12, "USR2"), (13, "PIPE"), (14, "ALRM"),
    (15, "TERM"), (16, "STKFLT"), (17, "CHLD"), (18, "CONT"), (19, "STOP"), (20, "TSTP"),
    (21, "TTIN"), (22, "TTOU"), (23, "URG"), (24, "XCPU"), (25, "XFSZ"), (26, "VTALRM"),
    (27, "PROF"), (28, "WINCH"), (29, "IO"), (30, "PWR"), (31, "SYS") ]

/-- The largest number of a signal. -/
def greatestSignal : Nat := 64

/-- The signals that do nothing to a program that does not care. -/
def harmlessSignals : List Nat := [0, 17, 18, 23, 28]

/-- The signal that a name stands for, in letters of either case. -/
def signalOfName? (name : String) : Option Nat :=
  (signalNames.find? fun entry => entry.2 == String.ofList (name.toList.map Char.toUpper)).map
    Prod.fst

/-- The wording of an exit status. -/
def ExitStatus.message : ExitStatus → String
  | .exited code => "exit status: " ++ toString code
  | .killed signal =>
      match signalNames.lookup signal with
      | some name => "signal: " ++ toString signal ++ " (SIG" ++ name ++ ")"
      | none => "signal: " ++ toString signal

/-- The status by which a script knows how a program has ended. -/
def ExitStatus.code : ExitStatus → Nat
  | .exited code => code
  | .killed signal => 128 + signal

end Script
end TileProgram
