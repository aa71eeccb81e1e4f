import Scanout.DisplayError
import Scanout.QuotedText
import Scanout.SystemError
import Scanout.TomlValue

/-!
# What can go wrong with a configuration

A file may not be readable, its text may be no TOML document, a value may be of the wrong
kind, and a value may be out of the question.
-/

namespace Scanout

inductive WantedValue
  | path
  | string
  | milliseconds
  | outputs
  | output
  deriving DecidableEq, Inhabited

/-- What is wanted as messages mention it. -/
def WantedValue.description : WantedValue → String
  | path => "path string"
  | string => "a string"
  | milliseconds => "u64"
  | outputs => "a map"
  | output => "struct OutputConfig"

inductive ConfigValueError
  | wrongKind (found : TomlValue) (wanted : WantedValue)
  | negative (n : Int)
  | malformedMode (cause : MalformedModeRequest)

def ConfigValueError.message : ConfigValueError → String
  | wrongKind found wanted =>
    "invalid type: " ++ found.description ++ ", expected " ++ wanted.description
  | negative n =>
    "invalid value: " ++ (TomlValue.integer n).description ++ ", expected " ++
      WantedValue.milliseconds.description
  | malformedMode cause => cause.message

inductive ConfigError
  | unreadable (path : String) (cause : SystemError)
  | malformed
  | value (cause : ConfigValueError)
  | invalid (field reason : String)

namespace ConfigError

def message : ConfigError → String
  | unreadable path cause =>
    "Failed to read config file " ++ quoted path ++ ": " ++ cause.message
  | malformed => "Failed to parse config: not a TOML document"
  | value cause => "Failed to parse config: " ++ cause.message
  | invalid field reason => "Invalid config value for '" ++ field ++ "': " ++ reason

/-- The messages of the errors it came from, the nearest first. -/
def causes : ConfigError → List String
  | unreadable _ cause => [cause.message]
  | malformed => []
  | value cause => [cause.message]
  | invalid _ _ => []

end ConfigError
end Scanout
