import Scanout.ByName
import Scanout.ConfigError
import Scanout.Duration

/-!
# The configuration

Which device to drive, how to choose the mode of each output, and how long to wait.
-/

namespace Scanout

structure Config where
  device : String
  /-- How the mode is chosen of outputs that have no entry of their own. -/
  mode : ModeRequest
  flipDrainTimeoutMs : UInt64
  scanIntervalMs : UInt64
  /-- How the mode is chosen of outputs by their names, if it is said. -/
  outputs : ByName (Option ModeRequest)
  deriving DecidableEq, Inhabited

namespace Config

def default : Config where
  device := "/dev/dri/card0"
  mode := .preferred
  flipDrainTimeoutMs := 1000
  scanIntervalMs := 2000
  outputs := []

/-- Refuses waits of no length and a device without a path. -/
def validate (c : Config) : Except ConfigError Unit :=
  if c.flipDrainTimeoutMs = 0 then
    .error (.invalid "flip_drain_timeout_ms" "must be greater than zero")
  else if c.scanIntervalMs = 0 then
    .error (.invalid "scan_interval_ms" "must be greater than zero")
  else if c.device = "" then .error (.invalid "device" "must not be empty")
  else .ok ()

def modeFor (c : Config) (output : String) : ModeRequest :=
  match c.outputs.lookup output with
  | some (some request) => request
  | _ => c.mode

def flipDrainTimeout (c : Config) : Duration := .ofMilliseconds c.flipDrainTimeoutMs.toNat

def scanInterval (c : Config) : Duration := .ofMilliseconds c.scanIntervalMs.toNat

end Config
end Scanout
