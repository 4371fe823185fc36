/-!
# Kinds of requests
-/

namespace Switchboard

inductive RequestKind
  | subscribe
  | unsubscribe
  | publish
  | invoke
deriving DecidableEq, Repr, Inhabited

namespace RequestKind

def all : List RequestKind := [subscribe, unsubscribe, publish, invoke]

def name : RequestKind → String
  | subscribe => "subscribe"
  | unsubscribe => "unsubscribe"
  | publish => "publish"
  | invoke => "invoke"

end RequestKind

end Switchboard
