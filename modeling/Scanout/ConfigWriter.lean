import Scanout.Config
import Scanout.TomlWriter

/-!
# Writing a configuration

The settings come first, one on a line, and then a section for each output in the order of
their names. Without outputs the section that would hold them is there, and empty.
-/

namespace Scanout
namespace Config

/-- The greatest number that a document can hold. -/
def greatestInteger : Nat := Nat.pow 2 63 - 1

def stringLine (key : String) (s : String) : List Char :=
  key.toList ++ " = ".toList ++ TomlText.stringForm s.toList ++ ['\n']

def numberLine (key : String) (n : UInt64) : List Char :=
  key.toList ++ " = ".toList ++ Nat.toDigits 10 n.toNat ++ ['\n']

def outputSection (name : String) (mode : Option ModeRequest) : List Char :=
  "\n[outputs.".toList ++ TomlText.keyForm name.toList ++ "]\n".toList ++
    match mode with
    | some request => stringLine "mode" request.text
    | none => []

def outputSections : ByName (Option ModeRequest) → List Char
  | [] => "\n[outputs]\n".toList
  | outputs => outputs.flatMap fun (name, mode) => outputSection name mode

/-- The text of a configuration, unless a number is too great for it. -/
def text? (c : Config) : Option String :=
  if c.flipDrainTimeoutMs.toNat ≤ greatestInteger ∧ c.scanIntervalMs.toNat ≤ greatestInteger then
    some <| String.ofList <|
      stringLine "device" c.device ++ stringLine "mode" c.mode.text ++
        numberLine "flip_drain_timeout_ms" c.flipDrainTimeoutMs ++
        numberLine "scan_interval_ms" c.scanIntervalMs ++ outputSections c.outputs
  else none

end Config
end Scanout
