-- The command line: reads the script, lets the program decide, and writes
-- what it says.
import ScriptBalance.Program

namespace ScriptBalance

/-- The cause of a failed read. -/
def readErrorOf : IO.Error → ReadError
  | .noFileOrDirectory .. => .notFound
  | .inappropriateType _ code _ => if code = 20 then .notADirectory else .isADirectory
  | err => .other (toString err)

/-- The bytes of a file, or why they cannot be read. -/
def readBytes (path : String) : IO (Except ReadError ByteArray) := do
  try
    return .ok (← IO.FS.readBinFile path)
  catch err =>
    return .error (readErrorOf err)

/-- The whole program in the world. -/
def runProgram (args : List String) : IO UInt32 := do
  let logFilter ← IO.getEnv "RUST_LOG"
  let contents ← readBytes ({} : Config).script
  let outcome := program args logFilter fun _ => contents
  let out ← IO.getStdout
  out.write outcome.stdout
  out.flush
  IO.eprint outcome.stderr
  return outcome.exitCode.toUInt32

end ScriptBalance

def main (args : List String) : IO UInt32 := ScriptBalance.runProgram args
