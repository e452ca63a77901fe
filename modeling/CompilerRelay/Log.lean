/-!
Log lines.
-/

namespace CompilerRelay

/-- How urgent a log line is. -/
inductive LogLevel where
  | info
  | warning
  | error
  deriving DecidableEq, Repr

namespace LogLevel

def name : LogLevel → String
  | info => "INFO"
  | warning => "WARN"
  | error => "ERROR"

end LogLevel

/-- A line of the log. -/
structure LogEntry where
  level : LogLevel
  text : String
  deriving DecidableEq, Repr

namespace LogEntry

def info (text : String) : LogEntry := ⟨.info, text⟩

def warning (text : String) : LogEntry := ⟨.warning, text⟩

def error (text : String) : LogEntry := ⟨.error, text⟩

def render (entry : LogEntry) : String :=
  entry.level.name ++ " " ++ entry.text

end LogEntry
end CompilerRelay
