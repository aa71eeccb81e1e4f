import Scanout.Config
import Scanout.TomlReader

/-!
# Reading a configuration

A configuration is the default one with what a document says put over it. Names that mean
nothing are passed over. The entries are looked at in the order they are in, and the first
that cannot be taken is the one that is told of.
-/

namespace Scanout

namespace TomlValue

def path? : TomlValue → Except ConfigValueError String
  | string s => .ok s
  | v => .error (.wrongKind v .path)

def milliseconds? : TomlValue → Except ConfigValueError UInt64
  | integer n => if n < 0 then .error (.negative n) else .ok (UInt64.ofNat n.toNat)
  | v => .error (.wrongKind v .milliseconds)

def modeRequest? : TomlValue → Except ConfigValueError ModeRequest
  | string s =>
    match ModeRequest.parse s with
    | .ok request => .ok request
    | .error cause => .error (.malformedMode cause)
  | v => .error (.wrongKind v .string)

/-- What is said of an output: a table, or a list whose first element is the mode. A date is a
table of nothing known. -/
def output? : TomlValue → Except ConfigValueError (Option ModeRequest)
  | table _ entries =>
    entries.foldlM (fun mode (key, v) =>
      if key = "mode" then some <$> v.modeRequest? else .ok mode) none
  | array _ [] => .ok none
  | array _ (v :: _) => some <$> v.modeRequest?
  | dateTime _ => .ok none
  | v => .error (.wrongKind v .output)

/-- What is said of the outputs. A date is a table with its text under a name of no output, and a
text says nothing of an output. -/
def outputs? : TomlValue → Except ConfigValueError (ByName (Option ModeRequest))
  | table _ entries =>
    entries.foldlM (fun outputs (name, v) => do
      return ByName.put name (← v.output?) outputs) []
  | dateTime d => .error (.wrongKind (.string d.text) .output)
  | v => .error (.wrongKind v .outputs)

end TomlValue

namespace Config

/-- The configuration with an entry put over it. -/
def overlay (c : Config) (key : String) (v : TomlValue) : Except ConfigValueError Config :=
  match key with
  | "device" => do return { c with device := ← v.path? }
  | "mode" => do return { c with mode := ← v.modeRequest? }
  | "flip_drain_timeout_ms" => do return { c with flipDrainTimeoutMs := ← v.milliseconds? }
  | "scan_interval_ms" => do return { c with scanIntervalMs := ← v.milliseconds? }
  | "outputs" => do return { c with outputs := ← v.outputs? }
  | _ => return c

/-- The default configuration with entries put over it. -/
def ofEntries (entries : TomlEntries) : Except ConfigValueError Config :=
  entries.foldlM (fun c (key, v) => c.overlay key v) default

/-- Reads a configuration that is fit for use. -/
def ofText (text : String) : Except ConfigError Config :=
  match TomlEntries.ofText? text with
  | none => .error .malformed
  | some entries =>
    match ofEntries entries with
    | .error cause => .error (.value cause)
    | .ok c =>
      match c.validate with
      | .error e => .error e
      | .ok () => .ok c

end Config
end Scanout
