/-!
Severities of log records and the threshold that decides which records are delivered.
-/

namespace ScreenKeyboard.Log

inductive Severity
  | error
  | warn
  | info
  | debug
  | trace
  deriving DecidableEq, Repr

/-- How much is said at this severity and above; a greater number is more talkative. -/
def Severity.verbosity : Severity → Nat
  | error => 1
  | warn => 2
  | info => 3
  | debug => 4
  | trace => 5

def Severity.name : Severity → String
  | error => "error"
  | warn => "warn"
  | info => "info"
  | debug => "debug"
  | trace => "trace"

inductive Threshold
  | off
  | upTo (most : Severity)
  deriving DecidableEq, Repr

def Threshold.name : Threshold → String
  | off => "off"
  | upTo most => most.name

/-- Whether a record of severity `s` is delivered. -/
def Threshold.admits : Threshold → Severity → Bool
  | off, _ => false
  | upTo most, s => s.verbosity ≤ most.verbosity

end ScreenKeyboard.Log
