import Switchboard.Lifecycle.Provider
import Std.Data.ExtTreeMap

/-!
# A scripted listener resource

A provider whose calls fail when the script says so, and which records every call. Its handles are
numbers: every attempt to initialize takes the next one. Whether the resource runs, and whether it
was invalidated, is a property of the resource and not of a handle.
-/

namespace Switchboard

/-- The calls of a provider that can be told to fail. -/
inductive ResourceCall
  | acquire
  | start
  | stop
  | dispose
deriving DecidableEq, Repr

def ResourceCall.name : ResourceCall → String
  | acquire => "initialize"
  | start => "start"
  | stop => "stop"
  | dispose => "dispose"

def ResourceCall.ofText : String → ResourceCall
  | "initialize" => acquire
  | "start" => start
  | "stop" => stop
  | _ => dispose

/-- A resource under a script. -/
structure Script where
  /-- The failures that calls are told to report, the latest instruction in front. -/
  failures : List (ResourceCall × Option ResourceError) := []
  running : Bool := false
  invalidated : Bool := false
  /-- How many attempts to initialize there were. -/
  attempts : Nat := 0
  /-- The calls made so far with the number of the handle, oldest first. -/
  calls : List (ResourceCall × Nat) := []

namespace Script

/-- From now on `call` fails with `failure`, or succeeds if there is none. -/
def instruct (call : ResourceCall) (failure : Option ResourceError) (s : Script) : Script :=
  { s with failures := (call, failure) :: s.failures }

/-- Records a call and gives the outcome that the script has for it. -/
def perform (call : ResourceCall) (handle : Nat) (s : Script) :
    Except ResourceError Unit × Script :=
  let s := { s with calls := s.calls ++ [(call, handle)] }
  match s.failures.lookup call with
  | some (some e) => (.error e, s)
  | _ => (.ok (), s)

def acquire (s : Script) : Except ResourceError Nat × Script :=
  let n := s.attempts + 1
  match { s with attempts := n }.perform .acquire n with
  | (.ok (), s) => (.ok n, { s with running := false, invalidated := false })
  | (.error e, s) => (.error e, s)

/-- Sets the running flag unless the call fails. -/
def switch (call : ResourceCall) (running : Bool) (n : Nat) (s : Script) :
    Except ResourceError Unit × Nat × Script :=
  match s.perform call n with
  | (.ok (), s) => (.ok (), n, { s with running })
  | (.error e, s) => (.error e, n, s)

/-- The provider that follows the script. -/
def provider : Provider Script Nat where
  acquire := acquire
  dispose n s := s.perform .dispose n
  start := switch .start true
  stop := switch .stop false
  isInitialized _ s := !s.invalidated
  isRunning _ s := s.running

end Script

end Switchboard
