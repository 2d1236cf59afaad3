import NodeCoverage.Config.Override
import NodeCoverage.Config.Read
import NodeCoverage.Host.Environment
import NodeCoverage.Text.Quoted
import NodeCoverage.Text.Utf8

/-!
# Loading settings from files

The settings of the host come from the file that the command line names, else from the usual file
if it is there, else they are the built-in ones.
-/

namespace NodeCoverage

open Host (Files Refusal)

/-- Why a file could not be read as text. -/
inductive ReadFailure where
  | os (why : Refusal)
  | notUtf8
  | nulInName
  deriving DecidableEq, Repr

/-- The text of the failure. -/
def ReadFailure.message : ReadFailure → String
  | .os why => why.message
  | .notUtf8 => "stream did not contain valid UTF-8"
  | .nulInName => "file name contained an unexpected NUL byte"

/-- Why settings could not be loaded from a file. -/
inductive LoadError where
  | unreadable (path : String) (why : ReadFailure)
  | unusable (path : String) (why : ConfigError)
  deriving DecidableEq, Repr

/-- The text of the error. That of a file that is no settings goes on with what the parser says, and
where in the file; that part is left out. -/
def LoadError.message : LoadError → String
  | .unreadable path why => s!"Failed to read config file at {Text.quote path}: {why.message}"
  | .unusable path _ => s!"Failed to parse TOML from config file {Text.quote path}"

/-- The text of a file. -/
def readTextFile (files : Files) (path : String) : Except ReadFailure String :=
  if path.contains '\x00' then .error .nulInName
  else
    match files.read path with
    | .error why => .error (.os why)
    | .ok bytes =>
      match Text.ofUtf8? bytes with
      | some text => .ok text
      | none => .error .notUtf8

namespace Settings

/-- The settings of a file. -/
def load (files : Files) (path : String) : Except LoadError Settings :=
  match readTextFile files path with
  | .error why => .error (.unreadable path why)
  | .ok document => (ofToml document).mapError (.unusable path)

/-- The file that is loaded if it is there and no other is named. -/
def usualFile : String := "covwatch.toml"

/-- The settings before the command line has its say. -/
def choose (files : Files) (configFile : Option String) : Except LoadError Settings :=
  match configFile with
  | some path => load files path
  | none => if files.contains usualFile then load files usualFile else .ok builtIn

/-- The settings that a command line leads to. -/
def effective (files : Files) (a : CommandLine.Arguments) : Except LoadError Settings :=
  (choose files a.configFile).map (·.override a)

end Settings

end NodeCoverage
