import Scanout.Session
import Scanout.ShortestDecimal

/-!
# Journals in words

A call is shown on one line: who is called, what for, with which arguments, and what came
back where that matters. A call that failed ends in an exclamation mark instead.
-/

namespace Scanout

/-- A value, or a dash if there is none. -/
def dashOr {α : Type} (text : α → String) : Option α → String
  | some a => text a
  | none => "-"

def bracketed (items : List String) : String := "[" ++ ",".intercalate items ++ "]"

/-- A surface, such as `s1`. -/
def SurfaceId.text (s : SurfaceId) : String := "s" ++ toString s.number

/-- A buffer of a surface, such as `s1.b0`. -/
def BufferSlot.text (b : BufferSlot) : String := b.surface.text ++ ".b" ++ toString b.index

/-- The name by which a request is known in journals and to fault injection. -/
def KernelCall.name : KernelCall → String
  | resources => "resources"
  | connector _ => "connector"
  | encoder _ => "encoder"
  | crtc _ => "crtc"
  | addFramebuffer _ _ _ => "add_fb"
  | removeFramebuffer _ => "rm_fb"
  | setCrtc _ => "set_crtc"
  | pageFlip _ _ => "page_flip"
  | wait _ => "wait"
  | receive => "receive"

/-- The name by which an operation is known in journals and to fault injection. -/
def GpuCall.name : GpuCall → String
  | loadExtensions => "load_extensions"
  | createDevice => "create_device"
  | destroyDevice _ => "destroy_device"
  | bindApi => "bind_api"
  | openDisplay _ => "open_display"
  | terminateDisplay _ => "terminate_display"
  | configs _ => "configs"
  | createContext _ _ => "create_context"
  | destroyContext _ _ => "destroy_context"
  | createSurface _ _ _ _ _ _ => "create_surface"
  | destroySurface _ _ => "destroy_surface"
  | makeCurrent _ _ _ => "make_current"
  | clear _ _ _ => "clear"
  | swapBuffers _ _ => "swap"
  | lockFrontBuffer _ => "lock"
  | geometry _ => "geometry"
  | attach _ _ => "attach"
  | releaseBuffer _ => "release"

def pairText (separator : String) (p : UInt32 × UInt32) : String :=
  toString p.1 ++ separator ++ toString p.2

def KernelCall.arguments : KernelCall → List String
  | resources | wait _ | receive => []
  | connector h => [toString h.id]
  | encoder h => [toString h.id]
  | crtc h => [toString h.id]
  | addFramebuffer g depth bpp =>
    [pairText "x" (g.width, g.height), s!"stride={g.stride}", s!"handle={g.handle}",
      s!"depth={depth}", s!"bpp={bpp}"]
  | removeFramebuffer fb => [toString fb.id]
  | setCrtc c =>
    [toString c.crtc.id, "fb=" ++ dashOr (toString ·.id) c.framebuffer,
      "at=" ++ pairText "," c.position,
      "on=" ++ bracketed (c.connectors.map (toString ·.id)),
      "mode=" ++ dashOr DisplayMode.trace c.mode]
  | pageFlip c fb => [toString c.id, s!"fb={fb.id}"]

def Colour.text (c : Colour) : String :=
  ",".intercalate ([c.red, c.green, c.blue, c.alpha].map float32Text)

/-- The arguments of an operation. The platform's own handles are not shown. -/
def GpuCall.arguments : GpuCall → List String
  | loadExtensions | createDevice | destroyDevice _ | bindApi | openDisplay _
  | terminateDisplay _ | configs _ => []
  | createContext _ config => [toString config.id]
  | destroyContext _ context => [toString context.id]
  | createSurface _ _ _ config width height =>
    [toString config.id, pairText "x" (width, height)]
  | destroySurface _ s => [s.text]
  | makeCurrent _ _ s => [dashOr SurfaceId.text s]
  | clear width height colour => [pairText "x" (width, height), colour.text]
  | swapBuffers _ s => [s.text]
  | lockFrontBuffer s => [s.text]
  | geometry b => [b.text]
  | attach b fb => [b.text, s!"fb={fb.id}"]
  | releaseBuffer b => [b.text]

/-- Whether a call failed, and if not, what of its answer is shown. -/
abbrev Outcome := Option (Option String)

def Outcome.ofExcept {ε α : Type} (shown : α → Option String) : Except ε α → Outcome
  | .ok a => some (shown a)
  | .error _ => none

/-- The outcome of a call that may come back empty-handed. -/
def Outcome.ofBool (b : Bool) : Outcome := if b then some none else none

def KernelCall.outcome : (k : KernelCall) → k.Answer → Outcome
  | resources, a => .ofExcept (fun _ => none) a
  | connector _, a => .ofExcept (fun _ => none) a
  | encoder _, a => .ofExcept (fun _ => none) a
  | crtc _, a => .ofExcept (fun _ => none) a
  | addFramebuffer _ _ _, a => .ofExcept (fun fb => some (toString fb.id)) a
  | removeFramebuffer _, a => .ofExcept (fun _ => none) a
  | setCrtc _, a => .ofExcept (fun _ => none) a
  | pageFlip _ _, a => .ofExcept (fun _ => none) a
  | wait _, a => .ofExcept (fun b => some (if b then "true" else "false")) a
  | receive, a => .ofExcept (fun cs => some (toString cs.length)) a

def GpuCall.outcome : (g : GpuCall) → g.Answer → Outcome
  | loadExtensions, a => .ofBool a
  | createDevice, a => .ofExcept (fun _ => none) a
  | bindApi, a => .ofBool a
  | openDisplay _, a => .ofBool a.isSome
  | configs _, a => .ofBool a.isSome
  | createContext _ _, a => .ofBool a.isSome
  | createSurface _ _ _ _ _ _, a => .ofExcept (fun _ => none) a
  | makeCurrent _ _ _, a => .ofExcept (fun _ => none) a
  | swapBuffers _ _, a => .ofExcept (fun _ => none) a
  | lockFrontBuffer _, a => .ofExcept (fun index => some ("b" ++ toString index)) a
  | geometry _, a => .ofExcept (fun _ => none) a
  | attach _ _, a => .ofExcept (fun _ => none) a
  | destroyDevice _, _ | terminateDisplay _, _ | destroyContext _ _, _ | destroySurface _ _, _
  | clear _ _ _, _ | releaseBuffer _, _ => some none

/-- Who is called, what for, with which arguments, and what came of it. -/
def callLine (callee : String) (arguments : List String) (outcome : Outcome) : String :=
  " ".intercalate (callee :: arguments) ++
    match outcome with
    | none => " !"
    | some none => ""
    | some (some answer) => " -> " ++ answer

/-- The line of a journal entry; readings of the clock and notes between calls have none. -/
def JournalEntry.line? : JournalEntry → Option String
  | .call (.kernel k) a => some (callLine ("kms." ++ k.name) k.arguments (k.outcome a))
  | .call (.gpu g) a => some (callLine ("gpu." ++ g.name) g.arguments (g.outcome a))
  | .call .clock _ | .claimed _ _ | .released _ | .event _ => none

end Scanout
