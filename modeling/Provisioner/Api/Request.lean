import Provisioner.Api.Address
import Provisioner.Api.Reply

/-!
Requests to the API server, and the line over which they go.

The replies that the server has in store are given out one for each request that is sent; after the
last of them every request is granted.
-/

namespace Provisioner.Api

structure Request where
  method : String
  path : String
  body : Json

/-- The address is looked at before anything is sent. -/
def Request.make (method address : String) (body : Json) : Except ApiFailure Request :=
  if Address.isTooLong address then .error .longAddress
  else if Address.isValid address then .ok ⟨method, Address.pathOf address, body⟩
  else .error .badAddress

structure Line where
  replies : List Reply := []
  sent : List Request := []

namespace Line

def send (l : Line) (r : Request) : Reply × Line :=
  (l.replies.headD .granted, { replies := l.replies.tail, sent := l.sent ++ [r] })

end Line

end Provisioner.Api
