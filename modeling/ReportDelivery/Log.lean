import ReportDelivery.Text.Blank

/-! Log entries: lines under a level.

A message of several lines gives one entry per line, each with the message's level, and an empty
one gives one empty line. Debug messages are kept only by a verbose log. -/
namespace ReportDelivery

inductive Level where
  | info
  | warn
  | error
  | debug
  | done
deriving DecidableEq

namespace Level

/-- The tag before each line, five characters wide. -/
def tag : Level → String
  | .info => "INFO "
  | .warn => "WARN "
  | .error => "ERROR"
  | .debug => "DEBUG"
  | .done => "DONE "

def style : Level → String
  | .info => "bold green"
  | .warn => "bold yellow"
  | .error => "bold red"
  | .debug => "bold blue"
  | .done => "bold cyan"

end Level

structure LogEntry where
  level : Level
  line : Text
deriving DecidableEq

abbrev Log := List LogEntry

namespace Log

/-- The lines of a message, at least one. -/
def messageLines (message : Text) : List Text :=
  match message.lines with
  | [] => [[]]
  | lines => lines

def entries (verbose : Bool) (level : Level) (message : Text) : Log :=
  if level = .debug && !verbose then []
  else (messageLines message).map (⟨level, ·⟩)

end Log
end ReportDelivery
