import SocksProxy.ConfigValues
import SocksProxy.TextLines
import SocksProxy.WorkerQueues

namespace SocksProxy

open ByteStrings ConfigReader TextLines TransitionSystems WorkerQueues

inductive LogLevel
  | off
  | fatal
  | error
  | info
  | debug
  | trace
  | all
  deriving DecidableEq

inductive LogType
  | disable
  | console
  | file
  | enable
  deriving DecidableEq

/-- What `ctime` writes: 24 characters and the end of the line. -/
structure CTime where
  chars : Bytes
  length : chars.length = 24
  plain : ∀ c ∈ chars, c ≠ 0 ∧ c ≠ 10

structure LogLine where
  level : LogLevel
  data : Bytes
  deriving DecidableEq

inductive LoggerStage
  | level
  | type
  | ready
  | joined
  deriving DecidableEq

/-- `console` and `file` are what this process has written; the file may not have opened. -/
structure Logger where
  logLevel : LogLevel := .all
  logType : LogType := .enable
  stage : LoggerStage := .level
  console : Bytes := []
  file : Option Bytes
  deriving DecidableEq

inductive LoggerCall
  | configureLevel
  | configureType
  | log (line : LogLine)
  | join

namespace LogLevel

def value : LogLevel → ℕ
  | off => 0
  | fatal => 1
  | error => 2
  | info => 3
  | debug => 4
  | trace => 5
  | all => 6

end LogLevel

namespace Logger

def logLevelPrefix : List Bytes :=
  [ascii " [FATAL] ", ascii " [ERROR] ", ascii " [ INFO] ", ascii " [DEBUG] ", ascii " [TRACE] "]

def logLevelNames : List Bytes :=
  [ascii "OFF", ascii "FATAL", ascii "ERROR", ascii "INFO", ascii "DEBUG", ascii "TRACE", ascii "ALL"]

def logTypeNames : List Bytes := [ascii "DISABLE", ascii "CONSOLE", ascii "FILE", ascii "ENABLE"]

def logLevels : List LogLevel := [.off, .fatal, .error, .info, .debug, .trace, .all]

def logTypes : List LogType := [.disable, .console, .file, .enable]

def toUpper (s : Bytes) : Bytes := s.map fun c => if 97 ≤ c ∧ c ≤ 122 then c - 32 else c

def setting {α : Type} (c : Config) (tag : Bytes) (names : List Bytes) (values : List α)
    (invalid missing : Bytes) : Except LogLine α :=
  match getValueString c tag [] with
  | (true, text) => match (names.idxOf? (toUpper text)).bind (values[·]?) with
    | some v => .ok v
    | none => .error ⟨.error, invalid⟩
  | (false, _) => .error ⟨.error, missing⟩

def levelSetting (c : Config) : Except LogLine LogLevel :=
  setting c (ascii "log_level") logLevelNames logLevels
    (ascii "[logger] Invalid log level, enabling all log") (ascii "[logger] No log level, enabling all log")

def typeSetting (c : Config) : Except LogLine LogType :=
  setting c (ascii "log_type") logTypeNames logTypes
    (ascii "[logger] Invalid log type, enabling all log") (ascii "[logger] No log type, enabling all log")

def complaint {α : Type} : Except LogLine α → List LogLine
  | .ok _ => []
  | .error line => [line]

def getCurrentTime (now : CTime) : Bytes := (cString ((now.chars ++ [10]).take 26)).dropLast

/-- One line of the log. There is no prefix for the levels that no message should have. -/
def row (now : CTime) (line : LogLine) : Option Bytes :=
  (logLevelPrefix[line.level.value - 1]?).map fun p =>
    getCurrentTime now ++ [32] ++ p ++ [32] ++ line.data ++ [10]

/-- A line in the file and on the console has the time twice. Nothing where the index of the prefix
leaves its table. -/
def logTask (now later : CTime) (line : LogLine) (s : Logger) : Option Logger :=
  if line.level.value ≤ s.logLevel.value ∧ line.level ≠ .off then
    match s.logType with
    | .console => (row now line).map fun r => { s with console := s.console ++ r }
    | .file => (row now line).map fun r => { s with file := s.file.map (· ++ r) }
    | .enable => (row now line).bind fun r => (row later line).map fun r' =>
      { s with file := s.file.map (· ++ r), console := s.console ++ r' }
    | .disable => some s
  else some s

/-- The constructor posts its complaints before the level and the type are final. -/
def posts (c : Config) : LoggerCall → List LogLine
  | .configureLevel => complaint (levelSetting c)
  | .configureType => complaint (typeSetting c)
  | .log line => [line]
  | .join => []

/-- `join` returns when nothing is outstanding, and the worker has gone behind it. -/
def call (c : Config) (k : LoggerCall) (queue : List LogLine) (s : Logger) : Option Logger :=
  match k, s.stage with
  | .configureLevel, .level =>
    some { s with logLevel := (levelSetting c).toOption.getD s.logLevel, stage := .type }
  | .configureType, .type =>
    some { s with logType := (typeSetting c).toOption.getD s.logType, stage := .ready }
  | .log _, .ready => some s
  | .log _, .joined => some s
  | .join, .ready => if queue = [] then some { s with stage := .joined } else none
  | _, _ => none

def protocol (c : Config) : Protocol Logger LogLine LoggerCall (CTime × CTime) where
  posts := posts c
  call := call c
  exec := fun i line s => if s.stage = .joined then none else logTask i.1 i.2 line s

abbrev LoggerEvent := Event LoggerCall (CTime × CTime)

def start (opened : Bool) : Pool Logger LogLine := ⟨{ file := if opened then some [] else none }, []⟩

def levelOf (c : Config) : LogLevel := (levelSetting c).toOption.getD .all

def typeOf (c : Config) : LogType := (typeSetting c).toOption.getD .enable

def logged (es : List LoggerEvent) : List LogLine := es.filterMap fun
  | .call (.log line) => some line
  | _ => none

end Logger

end SocksProxy
