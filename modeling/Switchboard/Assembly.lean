import Switchboard.Broker
import Switchboard.Settings.Basic

/-!
# Assembling a broker

The broker that settings describe: a channel adapter for each destination, access rules for the
destinations that declare roles, and a chain that masks server-side failures before it authorizes.
-/

namespace Switchboard

namespace Assembly

/-- The destinations and access rules of a broker, and the events of setting them up. -/
structure Plan where
  registry : Registry ChannelAdapter Unit := {}
  rules : AccessRules := {}
  journal : Journal := []

namespace Plan

/-- Adds a destination. -/
def add (p : Plan) (d : DestinationConfig) : Except Failure Plan :=
  let destination : Destination ChannelAdapter Unit :=
    .messaging (ChannelAdapter.ofChannel d.id d.effectiveChannel)
  match p.registry.register d.id destination with
  | .error f => .error (f.withNote ("configuring destination '" ++ d.id ++ "'"))
  | .ok registry => .ok {
      registry
      rules := if d.roles.isEmpty then p.rules else p.rules.require d.id d.roles
      journal := p.journal ++ [Registry.registered d.id destination] }

def addAll (p : Plan) (ds : List DestinationConfig) : Except Failure Plan :=
  ds.foldlM add p

/-- The stages of an assembled broker. -/
def chain (p : Plan) : Chain (Exchange ChannelAdapter Unit) :=
  [.conversion [.maskServerErrors], .authorization p.rules]

end Plan

/-- The event that logs an assembled broker. -/
def assembled (destinations capacity : Nat) : Event where
  level := .debug
  target := "flexlink::bootstrap"
  message := "broker assembled"
  fields := [("destinations", .number destinations), ("channel_capacity", .number capacity)]

/-- The broker that `settings` describe, or the failure at the first repeated destination. What
was logged before is kept in `journal`. -/
def build (settings : Settings) (journal : Journal := []) :
    Except Failure (Broker ChannelAdapter Unit) := do
  let plan ← Plan.addAll { journal } settings.destinations
  let capacity := settings.channelCapacity.toNat
  return Broker.ofRegistry plan.chain plan.registry {
    hub := Hub.ofCapacity capacity
    journal := plan.journal ++ [assembled plan.registry.size capacity]
    extra := () }

end Assembly

end Switchboard
