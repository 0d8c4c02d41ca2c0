/-!
# The log

The host writes a line for each record that is important enough, in colour to the terminal and
plainly to the log file.  The libraries that carry the connections are held to warnings.
-/

namespace WebviewBridge

/-- How important a log record is. -/
inductive LogLevel where
  | error
  | warn
  | info
  | debug
  | trace
deriving DecidableEq, Repr

namespace LogLevel

/-- The name of a level in a line. -/
def name : LogLevel → String
  | error => "ERROR"
  | warn => "WARN"
  | info => "INFO"
  | debug => "DEBUG"
  | trace => "TRACE"

/-- The levels, most important first. -/
def all : List LogLevel := [error, warn, info, debug, trace]

/-- How far a level is from the most important one. -/
def rank : LogLevel → Nat
  | error => 1
  | warn => 2
  | info => 3
  | debug => 4
  | trace => 5

/-- The colour of a level on a terminal: red, yellow, green, blue or magenta. -/
def colour : LogLevel → Nat
  | error => 31
  | warn => 33
  | info => 32
  | debug => 34
  | trace => 35

/-- The name of a level in its colour. -/
def coloured (l : LogLevel) : String :=
  "\x1b[" ++ toString l.colour ++ "m" ++ l.name ++ "\x1b[0m"

end LogLevel

/-- A record that some part of the program wants to log. -/
structure LogRecord where
  level : LogLevel
  /-- The part of the program, with two colons between a part and the parts inside it. -/
  target : String
  message : String
  file : Option String
  line : Option Nat
deriving Repr

namespace LogRecord

/-- The targets that are held to warnings. -/
def quietTargets : List String := ["tungstenite", "tokio_tungstenite"]

/-- Whether a target is the given one or lies inside it. -/
def isWithin (target whole : String) : Bool :=
  target == whole || (whole ++ "::").isPrefixOf target

/-- The least important level that is logged for a target. -/
def threshold (target : String) : LogLevel :=
  if quietTargets.any (isWithin target) then .warn else .debug

/-- Whether a record is logged. -/
def isLogged (r : LogRecord) : Bool := r.level.rank ≤ (threshold r.target).rank

/-- A line of the log, with the given date and name of the level. -/
def layout (r : LogRecord) (date level : String) : String :=
  "[" ++ date ++ " - " ++ level ++ "] " ++ r.message ++ " [" ++ r.file.getD "unknown" ++ ":"
    ++ toString (r.line.getD 0) ++ "]\n"

/-- The line of a record in the log file. -/
def fileLine (r : LogRecord) (date : String) : String := r.layout date r.level.name

/-- The line of a record on the terminal. -/
def terminalLine (r : LogRecord) (date : String) : String := r.layout date r.level.coloured

end LogRecord

/-- What stands in a line of the log file before the place of the record. -/
def LogRecord.withoutPlace (text : String) : String :=
  match (text.splitOn " [").reverse with
  | _ :: last :: before => " [".intercalate (last :: before).reverse
  | _ => text

/-- Reads the level and the message back from a line of the log file. -/
def LogRecord.ofFileLine? (line : String) : Option (String × String) :=
  match line.splitOn "] " with
  | date :: first :: more =>
    some ((date.splitOn " - ").getLastD "", withoutPlace ("] ".intercalate (first :: more)))
  | _ => none

/-- What a part of the program has to say. -/
structure LogEntry where
  level : LogLevel
  /-- Whether it comes from the application around the bridge or from the bridge itself. -/
  fromApp : Bool
  message : String
deriving DecidableEq, Repr

namespace LogEntry

/-- An entry of the bridge. -/
def bridge (level : LogLevel) (message : String) : LogEntry := ⟨level, false, message⟩

/-- An entry of the application. -/
def app (level : LogLevel) (message : String) : LogEntry := ⟨level, true, message⟩

/-- The record of an entry.  Entries do not know where in the program they come from. -/
def record (e : LogEntry) : LogRecord :=
  { level := e.level, target := "bridge", message := e.message, file := none, line := none }

/-- The level and the message. -/
def line (e : LogEntry) : String := e.level.name ++ " " ++ e.message

end LogEntry

/-- The name of the log file. -/
def logFileName : String := "nellie-bridge.log"

end WebviewBridge
