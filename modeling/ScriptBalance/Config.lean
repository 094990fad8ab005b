-- What a run of the program is set to. The arguments of the command line are read
-- from left to right, and the first one that is wrong, or that asks for help or for
-- the version, ends the reading.
--
-- The reading follows the documented rules of clap, and so do the words of help and
-- of an error, out of which anstream takes what would steer a terminal. The settings
-- depend on the reading alone. The words on standard error, and those of help and of
-- the version, depend on the rest.
import ScriptBalance.Log
import ScriptBalance.Text

namespace ScriptBalance

/-! ## What a terminal shows -/

/-- Where in a text a terminal is: in plain text, or in a sequence that steers
it. -/
inductive Terminal where
  | text
  /-- Right after an escape. -/
  | escape
  /-- After an escape and characters from space to slash. -/
  | intermediate
  /-- In a control sequence, which ends at a character from at sign to tilde. -/
  | control
  /-- In a command to the operating system, which a bell may end. -/
  | command
  /-- In any other string, which a terminator may end. -/
  | string
  deriving Repr, DecidableEq

/-- The control characters of ASCII. -/
def isControl (c : Char) : Bool := c.toNat < 0x20 || c.toNat = 0x7f

/-- The control characters that lay a text out: tab, line feed, form feed and
carriage return. -/
def isLayout (c : Char) : Bool := c = '\t' || c = '\n' || c = '\x0c' || c = '\r'

namespace Terminal

/-- Whether a terminal shows a character. Characters that lay a text out break
off a sequence, but not a string. -/
def shows : Terminal → Char → Bool
  | .text, c => !isControl c || isLayout c
  | .escape, c | .intermediate, c | .control, c => isLayout c
  | .command, _ | .string, _ => false

/-- The place of a terminal after a character right after an escape. -/
def afterEscape (c : Char) : Terminal :=
  if ' ' ≤ c && c ≤ '/' then .intermediate
  else if c = '[' then .control
  else if c = ']' then .command
  else if c = 'P' || c = 'X' || c = '^' || c = '_' then .string
  else if c.toNat < 0x80 then .text
  else .escape

/-- The place of a terminal after a character that it does not show and that
is no control character. -/
def afterHidden : Terminal → Char → Terminal
  | .text, _ => .text
  | .escape, c => afterEscape c
  | .intermediate, c => if '0' ≤ c && c.toNat < 0x80 then .text else .intermediate
  | .control, c => if '@' ≤ c && c.toNat < 0x80 then .text else .control
  | .command, _ => .command
  | .string, c => if (String.utf8EncodeChar c).contains 0x9c then .text else .string

/-- The place of a terminal after a character. An escape starts a new sequence
everywhere, and a cancel or a substitute ends each one. -/
def next (t : Terminal) (c : Char) : Terminal :=
  if c = '\x1b' then .escape
  else if c = '\x18' || c = '\x1a' || t.shows c then .text
  else if t = .command && c = '\x07' then .text
  else if isControl c then t
  else t.afterHidden c

/-- The characters that a terminal shows. -/
def shown (t : Terminal) : List Char → List Char
  | [] => []
  | c :: rest => if t.shows c then c :: (t.next c).shown rest else (t.next c).shown rest

end Terminal

/-- What a terminal shows of a text. -/
def printable (text : String) : String := String.ofList (Terminal.text.shown text.toList)

/-! ## Arguments -/

/-- Why the reading of the arguments ends before the program starts. -/
inductive Stop where
  | help
  | version
  | unknownArgument (text : String)
  /-- The option for the level has no value. -/
  | missingValue
  /-- The option for the level is given more than once. -/
  | repeatedOption
  /-- A flag that takes no value has one. -/
  | unexpectedValue (flag : String) (value : String)
  deriving Repr, DecidableEq

/-- One argument. -/
inductive Argument where
  /-- Two dashes and a name, with the text behind the first equals sign. -/
  | long (name : String) (value : Option String)
  /-- One dash and at least one letter, of which the first decides. -/
  | short (letter : Char)
  /-- Anything else, also a dash alone and an empty text. -/
  | plain (text : String)
  deriving Repr, DecidableEq

/-- The argument that a text is. -/
def Argument.ofString (text : String) : Argument :=
  match text.toList with
  | '-' :: '-' :: chars =>
    let name := chars.takeWhile (· != '=')
    .long (String.ofList name) ((chars.drop name.length).tail?.map String.ofList)
  | '-' :: letter :: _ => .short letter
  | _ => .plain text

/-- An option that is named and not yet settled. Its value may still be
missing. -/
inductive Pending where
  | nothing
  | name
  | value (text : String)
  deriving Repr, DecidableEq

/-- What is known of the level after some of the arguments. -/
structure Reading where
  /-- The value that is settled. -/
  level : Option String := none
  pending : Pending := .nothing
  deriving Repr, DecidableEq

namespace Reading

/-- Takes a value for the level. There is room for one only. -/
def assign (r : Reading) (value : String) : Except Stop Reading :=
  if r.level.isSome then .error .repeatedOption else .ok { level := some value }

/-- Settles the option that is pending. -/
def settle (r : Reading) : Except Stop Reading :=
  match r.pending with
  | .nothing => .ok r
  | .name => .error .missingValue
  | .value text => r.assign text

/-- Settles what is pending and then stops. -/
def stop (r : Reading) (s : Stop) : Except Stop Reading := do
  let _ ← r.settle
  throw s

/-- Reads one argument. A name that is not known stops the reading before
anything that is pending is settled. -/
def step (r : Reading) : Argument → Except Stop Reading
  | .long "log-level" (some value) => do (← r.settle).assign value
  | .long "log-level" none => do return { (← r.settle) with pending := .name }
  | .long "help" none | .short 'h' => r.stop .help
  | .long "version" none | .short 'V' => r.stop .version
  | .long "help" (some value) => .error (.unexpectedValue "--help" value)
  | .long "version" (some value) => .error (.unexpectedValue "--version" value)
  | .long name _ => .error (.unknownArgument ("--" ++ name))
  | .short letter => .error (.unknownArgument (String.ofList ['-', letter]))
  | .plain text =>
    match r.pending with
    | .name => .ok { r with pending := .value text }
    | _ => .error (.unknownArgument text)

/-- Reads the rest of the arguments. Two dashes alone end the options, and no
argument may follow them. -/
def stepAll (r : Reading) : List String → Except Stop Reading
  | [] => r.settle
  | text :: rest =>
    if text = "--" then
      match rest with
      | [] => r.settle
      | extra :: _ => .error (.unknownArgument extra)
    else do (← r.step (Argument.ofString text)).stepAll rest

end Reading

/-- The level that the arguments ask for, in their own words. -/
def readArguments (args : List String) : Except Stop (Option String) :=
  (Reading.stepAll {} args).map (·.level)

/-! ## What the program says when it stops -/

def versionText : String := "psbalance 0.1.0\n"

def helpText : String :=
  "Report unbalanced brackets and suspicious patterns in docker-start.ps1\n\n"
    ++ "Usage: psbalance [OPTIONS]\n\n"
    ++ "Options:\n"
    ++ "      --log-level <LOG_LEVEL>  Log level (off, error, warn, info, debug, trace) [default: warn]\n"
    ++ "  -h, --help                   Print help\n"
    ++ "  -V, --version                Print version\n"

namespace Stop

/-- What the program says: the whole text for help and version, and the first
line for an error. An error quotes an argument as a terminal would show it. -/
def message : Stop → String
  | .help => helpText
  | .version => versionText
  | .unknownArgument text =>
    firstLine ("error: unexpected argument '" ++ printable text ++ "' found")
  | .missingValue =>
    "error: a value is required for '--log-level <LOG_LEVEL>' but none was supplied"
  | .repeatedOption =>
    "error: the argument '--log-level <LOG_LEVEL>' cannot be used multiple times"
  | .unexpectedValue flag value =>
    firstLine ("error: unexpected value '" ++ printable value ++ "' for '" ++ flag
      ++ "' found; no more were expected")

/-- Asking for help or for the version is no error. -/
def isError : Stop → Bool
  | .help | .version => false
  | _ => true

/-- The exit code of the program. -/
def exitCode (s : Stop) : Nat := if s.isError then 2 else 0

end Stop

/-! ## Settings -/

/-- The settings of a run. -/
structure Config where
  /-- The path of the script to check. -/
  script : String := "docker-start.ps1"
  level : Log.Level := .warn
  deriving Repr, DecidableEq

/-- Why there are no settings. -/
inductive ConfigError where
  | stop (stop : Stop)
  /-- The name is the name of no level. -/
  | invalidLevel (name : String)
  deriving Repr, DecidableEq

namespace ConfigError

/-- What is wrong with the name of a level. -/
def levelContext (name : String) : String := "invalid log level '" ++ name ++ "'"

/-- Why the name of a level is wrong. -/
def levelCause : String :=
  "attempted to convert a string that doesn't match an existing log level"

def message : ConfigError → String
  | .stop s => s.message
  | .invalidLevel name => levelContext name ++ ": " ++ levelCause

end ConfigError

namespace Config

/-- The settings with a level that is given by its name. -/
def ofLevelName (name : String) : Except ConfigError Config :=
  match Log.Level.ofName? name with
  | some level => .ok { level }
  | none => .error (.invalidLevel name)

/-- The settings that the arguments ask for. The name of the level is looked
up last, after all arguments are read. -/
def ofArguments (args : List String) : Except ConfigError Config :=
  match readArguments args with
  | .error s => .error (.stop s)
  | .ok none => .ok {}
  | .ok (some name) => ofLevelName name

end Config

end ScriptBalance
