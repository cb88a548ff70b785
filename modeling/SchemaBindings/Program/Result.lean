import SchemaBindings.Text.Utf8

/-!
# What programs leave behind

A program that has been started writes bytes to its two streams and ends, either by
itself with a status or because a signal stopped it.
-/
namespace SchemaBindings.Program

/-- How a program ended. -/
inductive ExitStatus where
  | exited (code : Nat)
  | signalled (signal : Nat)
deriving DecidableEq, Repr

/-- The names of the signals, the first of which has the number one. -/
def signalNames : List String :=
  ["HUP", "INT", "QUIT", "ILL", "TRAP", "ABRT", "BUS", "FPE", "KILL", "USR1", "SEGV", "USR2", "PIPE",
   "ALRM", "TERM", "STKFLT", "CHLD", "CONT", "STOP", "TSTP", "TTIN", "TTOU", "URG", "XCPU", "XFSZ",
   "VTALRM", "PROF", "WINCH", "IO", "PWR", "SYS"]

/-- The name of a signal. -/
def signalName (signal : Nat) : Option String :=
  if signal = 0 then none else (signalNames[signal - 1]?).map ("SIG" ++ ·)

/-- The number of the signal with a name. -/
def signalNumber? (name : String) : Option Nat :=
  (signalNames.findIdx? (· == name.toUpper)).map (· + 1)

/-- The signals that are passed over unless something is to be done about them. -/
def isHarmless (signal : Nat) : Bool := [0, 17, 18, 19, 20, 21, 22, 23, 28].contains signal

/-- The text that describes how a program ended. -/
def ExitStatus.message : ExitStatus → String
  | .exited code => "exit status: " ++ toString code
  | .signalled signal =>
    "signal: " ++ toString signal
      ++ match signalName signal with
        | some name => " (" ++ name ++ ")"
        | none => ""

/-- What a program has written, and how it ended. -/
structure Result where
  stdout : List UInt8 := []
  stderr : List UInt8 := []
  status : ExitStatus := .exited 0
deriving DecidableEq, Repr

/-- A program that writes a text to its error stream and fails. -/
def Result.failure (code : Nat) (message : String) : Result where
  stderr := Text.encode message.toList
  status := .exited code

end SchemaBindings.Program
