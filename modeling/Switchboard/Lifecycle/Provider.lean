import Switchboard.Failure.Cause

/-!
# Listener resources

A provider makes, runs and disposes of the resource behind a destination. It acts on a world of
its own; `η` is what it hands out as a handle. Any of its calls may fail.
-/

namespace Switchboard

/-- What is seen of a destination's listener. -/
inductive ListenerState
  | uninitialized
  | stopped
  | running
deriving DecidableEq, Repr

def ListenerState.name : ListenerState → String
  | uninitialized => "uninitialized"
  | stopped => "stopped"
  | running => "running"

/-- The name of the state in a shown record. -/
def ListenerState.title : ListenerState → String
  | uninitialized => "Uninitialized"
  | stopped => "Stopped"
  | running => "Running"

structure Provider (ω η : Type) where
  /-- Makes an initialized resource. -/
  acquire : ω → Except ResourceError η × ω
  dispose : η → ω → Except ResourceError Unit × ω
  start : η → ω → Except ResourceError Unit × η × ω
  stop : η → ω → Except ResourceError Unit × η × ω
  isInitialized : η → ω → Bool
  isRunning : η → ω → Bool

namespace Provider

variable {ω η : Type}

/-- The state that a handle, if one is held, is in. -/
def stateOf (p : Provider ω η) (handle : Option η) (w : ω) : ListenerState :=
  match handle with
  | none => .uninitialized
  | some h =>
    if !p.isInitialized h w then .uninitialized
    else if p.isRunning h w then .running
    else .stopped

end Provider

end Switchboard
