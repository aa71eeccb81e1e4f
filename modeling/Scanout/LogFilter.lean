/-!
# Which messages are logged

A filter has a level for all messages and levels for the parts of the program that differ from
it. It is written as directives with commas between them, the level for all messages first.
-/

namespace Scanout

/-- How important a message is, the most important first. -/
inductive LogLevel
  | error
  | warn
  | info
  | debug
  | trace
  deriving DecidableEq, Inhabited

def LogLevel.text : LogLevel → String
  | error => "error"
  | warn => "warn"
  | info => "info"
  | debug => "debug"
  | trace => "trace"

/-- The least important messages that are logged. -/
structure LogFilter where
  level : LogLevel
  parts : List (String × LogLevel)
  deriving DecidableEq, Inhabited

namespace LogFilter

def text (f : LogFilter) : String :=
  ",".intercalate (f.level.text :: f.parts.map fun (name, level) => name ++ "=" ++ level.text)

/-- What is logged unless something else is asked for: of the outputs also what goes well. -/
def standard : LogFilter := ⟨.warn, [("novade_drm_backend", .info), ("novade_drm_probe", .info)]⟩

end LogFilter
end Scanout
