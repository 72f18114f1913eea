import Convergence.Decode.Basic

/-!
# `Convergence.Telemetry.Status`: states that telemetry reports

Each state has one name, under which it is written in documents, tables and messages.
-/

set_option autoImplicit false

namespace Convergence

/-- Physical state of a port of the traffic generator. -/
inductive LinkState where
  | up
  | down
  deriving DecidableEq, Repr

/-- Operational status of an interface or of an aggregated link. -/
inductive OperStatus where
  | up
  | down
  | lowerLayerDown
  | dormant
  | testing
  | notPresent
  | unknown
  deriving DecidableEq, Repr

/-- State of a BGP session. -/
inductive SessionState where
  | up
  | down
  deriving DecidableEq, Repr

/-- Whether a member of an aggregated link is in step with its partner. -/
inductive Synchronization where
  | inSync
  | outSync
  deriving DecidableEq, Repr

instance : Inhabited LinkState := ⟨.down⟩
instance : Inhabited OperStatus := ⟨.down⟩
instance : Inhabited SessionState := ⟨.down⟩
instance : Inhabited Synchronization := ⟨.outSync⟩

namespace LinkState

/-- The name of the state. -/
def name : LinkState → String
  | up => "up"
  | down => "down"

/-- Reads a state by its name. -/
def decode : Decoder LinkState := .choice ([up, down].map fun s => (s.name, s))

end LinkState

namespace OperStatus

/-- The name of the status. -/
def name : OperStatus → String
  | up => "up"
  | down => "down"
  | lowerLayerDown => "lower-layer-down"
  | dormant => "dormant"
  | testing => "testing"
  | notPresent => "not-present"
  | unknown => "unknown"

/-- Reads a status by its name. -/
def decode : Decoder OperStatus :=
  .choice ([up, down, lowerLayerDown, dormant, testing, notPresent, unknown].map
    fun s => (s.name, s))

end OperStatus

namespace SessionState

/-- The name of the state. -/
def name : SessionState → String
  | up => "up"
  | down => "down"

/-- Reads a state by its name. -/
def decode : Decoder SessionState := .choice ([up, down].map fun s => (s.name, s))

end SessionState

namespace Synchronization

/-- The name of the state. -/
def name : Synchronization → String
  | inSync => "in-sync"
  | outSync => "out-sync"

/-- Reads a state by its name. -/
def decode : Decoder Synchronization := .choice ([inSync, outSync].map fun s => (s.name, s))

end Synchronization

end Convergence
