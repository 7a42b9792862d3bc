import Mathlib.Data.List.Basic

/-!
# Lightning payment errors

What the user is shown of a failed Lightning payment, built from the failures reported by the node.
-/

namespace EclairMobile

/-- A hop of a route; a channel hop carries the short id of its last channel update. -/
structure Hop where
  nodeId : String
  nextNodeId : String
  shortChannelId : Option String
  deriving DecidableEq, Repr

/-- The cause of a local failure. -/
inductive LocalCause
  | routeNotFound
  | channelException (message : Option String) (channelId : String)
  | other (simpleName : String)
  deriving DecidableEq, Repr

/-- A failure reported by the node, after `transformForUser`. -/
inductive PaymentFailure
  | remoteFailure (originNode failureMessage : String) (route : List Hop)
  | localFailure (t : LocalCause)
  | unreadableRemoteFailure (route : List Hop)
  | other (simpleName : String)
  deriving DecidableEq, Repr

structure LightningPaymentError where
  type : Option String
  cause : Option String
  origin : Option String
  originChannelId : Option String
  hops : List String
  deriving DecidableEq, Repr

namespace LightningPaymentError

/-- The 5-argument constructor: missing hops become the empty list. -/
def new (type cause origin originChannelId : Option String) (hops : Option (List String)) :
    LightningPaymentError := ⟨type, cause, origin, originChannelId, hops.getD []⟩

/-- The nodes of a route: the start of the first hop, then the end of every hop. -/
def hopsNodesPK : List Hop → List String
  | [] => []
  | h :: hs => h.nodeId :: (h :: hs).map Hop.nextNodeId

/-- The short id of the last channel hop that starts at the origin of the failure. -/
def originChannel (origin : String) (route : List Hop) : Option String :=
  route.foldl (fun acc h =>
    if origin = h.nodeId ∧ h.shortChannelId.isSome then h.shortChannelId else acc) none

def generateDetailedErrorCause : PaymentFailure → LightningPaymentError
  | .remoteFailure originNode failureMessage route =>
    new "RemoteFailure" failureMessage originNode (originChannel originNode route)
      (hopsNodesPK route)
  | .localFailure t =>
    match t with
    | .routeNotFound => new "Local" "Route not found." none none none
    | .channelException message channelId => new "Local" message none channelId none
    | .other simpleName => new "Local" simpleName none none none
  | .unreadableRemoteFailure route =>
    new "UnreadableRemoteFailure"
      "A peer on the route failed the payment with an non readable cause"
      none none (hopsNodesPK route)
  | .other simpleName =>
    new ("Unknown Error:" ++ simpleName) "Unknown Cause" none none none

end LightningPaymentError

end EclairMobile
