import Scanout.Backend

/-!
# Looking for outputs

A scan asks the kernel for its connectors, gives every new one a slot, and compares the
state of each link with the output's record. Records are matched to connectors by handle.
A connector that cannot be read is left as it is until the next scan, and so is a record
whose connector is no longer listed.
-/

namespace Scanout

/-- A record after its connector was read, and the event that tells about the change. A
record that is read for the first time gets its name; the modes are taken when the link
comes up. -/
def Output.reconcile (o : Output) (info : ConnectorInfo) (id : OutputId) :
    Output × Option OutputEvent :=
  let o := if o.state = .invalid then { o with state := .disconnected, name := info.name } else o
  match o.state, info.isConnected with
  | .disconnected, true =>
    ({ o with state := .needsModeset, modes := info.modes }, some (.added id))
  | .connected, false => ({ o with state := .disconnected }, some (.removed id))
  | _, _ => (o, none)

namespace Backend

variable {W : World}

/-- The slot of a connector, which is a new one if the connector has none yet. -/
def slotOf (connector : ConnectorHandle) : BackendM W OutputId := do
  let b ← get
  match b.outputs.findIdx? (·.connector == connector) with
  | some slot => return ⟨slot⟩
  | none =>
    set { b with outputs := b.outputs ++ [Output.new connector] }
    return ⟨b.outputs.length⟩

def scanConnector (connector : ConnectorHandle) : BackendM W Unit := do
  let id ← slotOf connector
  match ← kernel (.connector connector) with
  | .error _ => return
  | .ok info =>
    match (← get).output? id with
    | none => return
    | some output =>
      let (output, event) := output.reconcile info id
      updateOutput id fun _ => output
      match event with
      | some event => emit event
      | none => return

/-- Looks at all connectors the kernel lists, in its order. -/
def scan : ExceptT BackendError (BackendM W) Unit := do
  let resources ← orFail .kernel (kernel .resources)
  ExceptT.lift (resources.connectors.forM scanConnector)

end Backend
end Scanout
