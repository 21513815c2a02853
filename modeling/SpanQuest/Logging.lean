/-
  Logging: what is asked of the logging system, and when.

  The first set-up decides; later ones change nothing.  Logs go to the
  terminal, and to a file in Markdown if one is named.  What calls are made
  with and what they return is shown at the level DEBUG only.
-/
import SpanQuest.Environment.Dotenv
import SpanQuest.Text.LetterCase
import SpanQuest.Trouble.Fault

namespace SpanQuest.Logging

/-- Where logs go. -/
inductive Sink where
  /-- The terminal, in a format; `verbose` shows arguments, results and traces. -/
  | terminal (format : Json) (verbose : Bool)
  | markdown (file : Json)
  deriving Inhabited

/-- What is asked of the logging system. -/
structure Setup where
  level : String
  sinks : List Sink
  deriving Inhabited

/-- What the variables of logging begin with. -/
def variableStart : String := "TRACEQUERY_NFO_"

/-- The level at which calls are shown in full. -/
def verboseLevel : String := "DEBUG"

/-- The level unless said otherwise. -/
def defaultLevel : String := "INFO"

/-- The name that logs go under. -/
def loggerName : String := "tracequery"

/-- The loggers of the transport, which are kept quiet. -/
def transportLoggers : List String := ["httpx", "httpcore", "uvicorn.access"]

/-- The least level of the transport's loggers. -/
def quietLevel : Nat := 30

/-- The names of the arguments of a set-up. -/
def argumentNames : List String := ["level", "log_file", "terminal_format"]

/-- What a variable of logging is set to, or null. -/
def settingIn (env : Environment) (name : String) : Json :=
  .ofOption (Mapping.get? (variableStart ++ name) env)

/-- The set-up for a level, a file and a format; what does not count as given is
    taken from the environment. -/
def plan (env : Environment) (level : String) (file format : Json) : Setup :=
  let file := file.orElse (settingIn env "LOG_FILE")
  let other := settingIn env "FORMAT"
  let format := format.orElse (if other.isNull then .text "color" else other)
  let level := Text.upper level
  { level := level
    sinks := .terminal format (level == verboseLevel) ::
      (if file.isTruthy then [.markdown file] else []) }

/-- The set-up of named arguments: the level has to be a text. -/
def planOf (env : Environment) (arguments : Json) : Except Fault Setup :=
  match (arguments.member? "level").getD (.text defaultLevel) with
  | .text level => .ok (plan env level (arguments.member "log_file") (arguments.member "terminal_format"))
  | v => .error (.noMember v.kindName "upper")

/-- The arguments have no other names than those of a set-up. -/
def areNamed (arguments : Json) : Bool :=
  match arguments with
  | .object members => (Mapping.keys members).all argumentNames.contains
  | _ => true

/-- The set-up in force after one is asked for: the first stays, whatever the
    arguments of a later one are. -/
def setup (inForce : Option Setup) (env : Environment) (arguments : Json) : Except Fault Setup :=
  if !areNamed arguments then .error .badArguments
  else
    match inForce with
    | some s => .ok s
    | none => planOf env arguments

/-- The level of one who asks for the logger before any set-up. -/
def levelOf (env : Environment) : String :=
  (Mapping.get? "TRACEQUERY_LOG_LEVEL" env).getD defaultLevel

/-- The set-up in force for one who asks for the logger. -/
def logger (inForce : Option Setup) (env : Environment) : Setup :=
  inForce.getD (plan env (levelOf env) .null .null)

end SpanQuest.Logging
