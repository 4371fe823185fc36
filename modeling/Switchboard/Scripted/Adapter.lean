import Switchboard.Adapter
import Switchboard.Registry
import Switchboard.View.Failure
import Switchboard.View.Message

/-!
# Scripted destinations

Doubles for trying out a broker: an adapter that records its calls and fails the ones it is told to
fail, and a service with a few fixed operations.
-/

namespace Switchboard

/-- What doubles record, oldest first. -/
structure Record where
  trace : List String := []
  calls : List String := []

/-- An adapter without a channel. -/
structure Stub where
  id : String
  /-- What a publish answers. -/
  receivers : Nat := 0
  /-- The calls that fail, by name. -/
  failures : List (String × Failure) := []

namespace Stub

/-- Records a call and gives the outcome that the script has for it. -/
def call (s : Stub) (name detail : String) : Attempt (α × Site Record) Unit := ExceptT.mk do
  let line := (s.id ++ " " ++ name ++ " " ++ detail).trimAsciiEnd.toString
  modify fun (a, site) =>
    (a, { site with extra := { site.extra with calls := site.extra.calls ++ [line] } })
  match s.failures.lookup name with
  | some f => return .error f
  | none => return .ok ()

end Stub

/-- A channel adapter or a double. -/
inductive BenchAdapter
  | channel (a : ChannelAdapter)
  | stub (s : Stub)

namespace BenchAdapter

/-- Runs the operation for the kind of adapter at hand. -/
def either (onChannel : Attempt (ChannelAdapter × Site Record) β)
    (onStub : Stub → Attempt (BenchAdapter × Site Record) β) :
    Attempt (BenchAdapter × Site Record) β := ExceptT.mk fun (a, site) =>
  match a with
  | .channel c =>
    let (r, c, site) := onChannel.exec (c, site)
    (r, .channel c, site)
  | .stub s => (onStub s).exec (.stub s, site)

instance : MessagingAdapter BenchAdapter Record where
  destination
    | .channel a => a.destination
    | .stub s => s.id
  start := either ChannelAdapter.start fun s => s.call "start" ""
  stop := either ChannelAdapter.stop fun s => s.call "stop" ""
  subscribe c := either (ChannelAdapter.subscribe c) fun s => s.call "subscribe" c
  unsubscribe c := either (ChannelAdapter.unsubscribe c) fun s => s.call "unsubscribe" c
  invoke m := either (ChannelAdapter.invoke m) fun s => do
    s.call "invoke" ((Bytes.text? m.body).getD (Bytes.hex m.body))
    return s.receivers
  state a site := match a with
    | .channel a => a.state site.hub
    | .stub _ => .stopped
  subscriberCount
    | .channel a => a.coordinator.subscriberCount
    | .stub _ => 0
  listener?
    | .channel a => a.coordinator.held
    | .stub _ => none
  setListener l
    | .channel a => .channel (MessagingAdapter.setListener Record l a)
    | .stub s => .stub s

end BenchAdapter

/-- A service that adds whole numbers, answers null, fails or answers what it was called with. -/
def Target.scripted {ε : Type} : Target ε := fun operation args =>
  match operation with
  | "sum" => return .int ((args.filterMap Json.asInt64).foldl (· + ·) 0).toInt
  | "null" => return .null
  | "fail" => throw (.ofScript (args.head?.getD .null))
  | _ => return .obj [("operation", .str operation), ("args", .arr args)]

/-- The options that a script describes. -/
def RemotingOptions.ofScript (v : Json) : RemotingOptions :=
  (({} : RemotingOptions).including (v.texts "include")).excluding (v.texts "exclude")

namespace Registry

/-- Registers the destination that a script describes. -/
def addScripted (r : Registry BenchAdapter Record) (v : Json) :
    Except Failure (Registry BenchAdapter Record) :=
  let id := v.text "id"
  match v.text "kind" with
  | "channel" => r.registerMessaging (.channel (.ofChannel id (v.text "channel" id)))
  | "remoting" => r.registerRemoting id .scripted (.ofScript v)
  | _ => r.registerMessaging (.stub
      { id, receivers := v.nat "receivers"
        failures := (v.field "fail").members.map fun (k, e) => (k, .ofScript e) })

end Registry

end Switchboard
