-- The program as a function: from its arguments, the filter of its log and
-- the files that it can read to its exit code and its output. A failure is told on
-- standard error in the way of anyhow, with its context and its cause.
import ScriptBalance.Config
import ScriptBalance.Log.Filter
import ScriptBalance.Run

namespace ScriptBalance

/-- How the program ends. -/
structure Outcome where
  exitCode : Nat
  stdout : ByteArray := .empty
  stderr : String := ""

namespace Outcome

/-- Lines of text, each ended by a line feed. -/
def ofLines (lines : List String) : String := String.join (lines.map (· ++ "\n"))

/-- The text about a failure with its context and its cause. -/
def failureText (context cause : String) : String :=
  ofLines ["Error: " ++ context, "", "Caused by:", "    " ++ cause]

/-- The program ends before it has its settings. -/
def ofConfigError : ConfigError → Outcome
  | .stop s =>
    if s.isError then { exitCode := s.exitCode, stderr := ofLines [s.message] }
    else { exitCode := s.exitCode, stdout := s.message.toUTF8 }
  | .invalidLevel name =>
    { exitCode := 1,
      stderr := failureText (ConfigError.levelContext name) ConfigError.levelCause }

/-- The records of the log that a filter shows, as text. -/
def logText (filter : Log.Filter) (session : Session Report) : String :=
  ofLines ((filter.apply session.log).toList.map Log.Record.line)

/-- The program ends with the run that its settings ask for. Findings are no
failure. `warnings` is what there is to say about the filter. -/
def ofRun (read : Reader) (script : String) (filter : Log.Filter) (warnings : List String) :
    Outcome :=
  match run read script { sink := {} } with
  | .ok _ session =>
    { exitCode := 0, stdout := session.sink.channel.written,
      stderr := ofLines warnings ++ logText filter session }
  | .error err session =>
    { exitCode := 1, stdout := session.sink.channel.written,
      stderr := ofLines warnings ++ logText filter session
        ++ failureText err.context err.cause }

end Outcome

/-- The filter of the log: the one that is given, or else the level of the
settings. What is wrong with a given filter goes with it. -/
def chooseFilter (given : Option String) (level : Log.Level) :
    Log.Filter × List Log.FilterFault :=
  match given with
  | some text => Log.Filter.ofString text
  | none => (.upTo level, [])

/-- What the program does with its arguments, the filter that is given for the
log, and the files that it can read. -/
def program (args : List String) (logFilter : Option String) (read : Reader) : Outcome :=
  match Config.ofArguments args with
  | .error err => .ofConfigError err
  | .ok config =>
    let (filter, faults) := chooseFilter logFilter config.level
    .ofRun read config.script filter (faults.map Log.FilterFault.warning)

end ScriptBalance
