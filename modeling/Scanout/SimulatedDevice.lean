import Scanout.FaultList
import Scanout.JournalText
import Scanout.SimulatedGpu
import Scanout.SimulatedKernel

/-!
# A simulated device

A simulated kernel and a simulated GPU platform under one list of faults.
-/

namespace Scanout

structure SimulatedDevice where
  faults : List Fault
  kernel : SimulatedKernel
  gpu : SimulatedGpu
  deriving Inhabited

namespace SimulatedDevice

def addFault (d : SimulatedDevice) (f : Fault) : SimulatedDevice :=
  { d with faults := d.faults ++ [f] }

def answer : (c : Call) → SimulatedDevice → c.Answer × SimulatedDevice
  | .kernel request, d =>
    let (failure, faults) := meetFault request.name d.faults
    let (a, kernel) := d.kernel.answer failure request
    (a, { d with faults, kernel })
  | .gpu operation, d =>
    let (failure, faults) := meetFault operation.name d.faults
    let (a, gpu) := d.gpu.answer failure operation
    (a, { d with faults, gpu })
  | .clock, d =>
    let (time, kernel) := d.kernel.readClock
    (time, { d with kernel })

def world : World := ⟨SimulatedDevice, answer, Nat.pow 2 40⟩

end SimulatedDevice
end Scanout
