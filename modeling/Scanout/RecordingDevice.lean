import Scanout.RecordingGpu
import Scanout.RecordingKernel

/-!
# A device that keeps records

A kernel and a GPU platform that keep records, beside a clock that ticks whenever it is read.
-/

namespace Scanout

structure RecordingDevice where
  kernel : RecordingKernel
  gpu : RecordingGpu
  clock : Duration
  deriving Inhabited

namespace RecordingDevice

/-- A device whose platform has the given formats and refuses one kind of operation. -/
def new (visuals : List (Option UInt32)) (failOn : Option GpuCallKind) : RecordingDevice :=
  ⟨.new, .new visuals failOn, .zero⟩

/-- The time that passes from one reading of the clock to the next. -/
def clockTick : Duration := ⟨1000⟩

def answer : (c : Call) → RecordingDevice → c.Answer × RecordingDevice
  | .kernel request, d => let (a, kernel) := d.kernel.answer request; (a, { d with kernel })
  | .gpu operation, d => let (a, gpu) := d.gpu.answer operation; (a, { d with gpu })
  | .clock, d => (d.clock, { d with clock := d.clock + clockTick })

def world : World := ⟨RecordingDevice, answer, Nat.pow 2 40⟩

end RecordingDevice
end Scanout
