import StillMotion.Text.Digit

/-!
# Signals

Signals by their numbers and names, and what becomes of a process that gets one.
-/

namespace StillMotion.Scripting

open StillMotion.Text

def signalNumbers : List (String × Nat) :=
  [("EXIT", 0), ("HUP", 1), ("INT", 2), ("QUIT", 3), ("ILL", 4), ("TRAP", 5), ("ABRT", 6),
   ("BUS", 7), ("FPE", 8), ("KILL", 9), ("USR1", 10), ("SEGV", 11), ("USR2", 12), ("PIPE", 13),
   ("ALRM", 14), ("TERM", 15), ("CHLD", 17), ("CONT", 18), ("STOP", 19), ("TSTP", 20),
   ("WINCH", 28)]

def signal? (text : String) : Option Nat :=
  if !text.isEmpty && text.toList.all isAsciiDigit then some (digitsValue text.toList)
  else
    let name := if text.startsWith "SIG" then (text.drop 3).toString else text
    (signalNumbers.find? fun entry => entry.1 == name).map (·.2)

def terminate : Nat := 15

def isHarmless (signal : Nat) : Bool := [0, 17, 18, 23, 28].contains signal

def isHolding (signal : Nat) : Bool := [19, 20, 21, 22].contains signal

def isCertain (signal : Nat) : Bool := signal == 9 || signal == 19

/-- What is told of a process that a signal has ended; of some nothing is told. -/
def obituary? (signal : Nat) : Option String :=
  match signal with
  | 1 => some "Hangup"
  | 3 => some "Quit"
  | 4 => some "Illegal instruction"
  | 5 => some "Trace/breakpoint trap"
  | 6 => some "Aborted"
  | 7 => some "Bus error"
  | 8 => some "Floating point exception"
  | 9 => some "Killed"
  | 10 => some "User defined signal 1"
  | 11 => some "Segmentation fault"
  | 12 => some "User defined signal 2"
  | 14 => some "Alarm clock"
  | 15 => some "Terminated"
  | _ => none

def statusOfSignal (signal : Nat) : Nat := 128 + signal

end StillMotion.Scripting
