/-!
# Version
-/

namespace Switchboard

def version : String := "0.1.0"

end Switchboard
