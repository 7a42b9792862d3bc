import EclairMobile.Models.LightningPaymentError
import EclairMobile.Models.LocalChannel

/-!
# What the node reports

The data that the events of the Lightning node carry, as far as `NodeSupervisor` reads it.  Amounts
are in millisatoshis unless a name says otherwise, hashes and ids are in their text form.
-/

namespace EclairMobile

/-- The reference of an actor of the node. -/
abbrev ActorRef := String

/-- An HTLC of a commitment, with its direction and its payment hash. -/
inductive DirectedHtlc
  | incoming (paymentHash : String)
  | outgoing (paymentHash : String)
  deriving DecidableEq, Repr

namespace DirectedHtlc

/-- The payment hash of an `OutgoingHtlc`. -/
def outgoingHash? : DirectedHtlc → Option String
  | outgoing h => some h
  | incoming _ => none

/-- The payment hash of an `IncomingHtlc`. -/
def incomingHash? : DirectedHtlc → Option String
  | incoming h => some h
  | outgoing _ => none

end DirectedHtlc

structure CommitmentSpec where
  htlcs : List DirectedHtlc
  toLocal : ℤ
  totalFunds : ℤ
  deriving DecidableEq, Repr

structure Commitments where
  localCommit : CommitmentSpec
  /-- The spec of the next remote commit while its revocation is awaited. -/
  remoteNextCommitInfo : Option CommitmentSpec
  localChannelReserveSat : ℤ
  localHtlcMinimum : ℤ
  localToSelfDelay : ℤ
  remoteFeatures : String
  remoteToSelfDelay : ℤ
  fundingTxId : String
  availableBalanceForSend : ℤ
  deriving DecidableEq, Repr

structure LocalCommitPublished where
  commitTx : Transaction
  claimMainDelayedOutputTx : Option Transaction
  deriving DecidableEq, Repr

/-- The transactions published by a channel that is closing. -/
structure ClosingData where
  mutualClosePublished : List Transaction
  localCommitPublished : Option LocalCommitPublished
  /-- The commitment transaction of `remoteCommitPublished`. -/
  remoteCommitPublished : Option Transaction
  revokedCommitPublished : List Transaction
  deriving DecidableEq, Repr

/-- The data of a channel state: `DATA_CLOSING`, another one with commitments, or one without. -/
inductive ChannelData
  | closing (d : ClosingData) (commitments : Commitments)
  | hasCommitments (commitments : Commitments)
  | other
  deriving DecidableEq, Repr

/-- The commitments of the data that `HasCommitments`. -/
def ChannelData.commitments? : ChannelData → Option Commitments
  | .closing _ c => some c
  | .hasCommitments c => some c
  | .other => none

/-- The error of a channel.  A local error has a `Throwable`, which may be null and whose message
may be null; a remote error has bytes, shown as ASCII if all of them are printable. -/
inductive ChannelError
  | localError (t : Option (Option String))
  | remoteError (isAsciiPrintable : Bool) (ascii text : String)
  deriving DecidableEq, Repr

structure ChannelUpdate where
  feeBaseMsat : ℤ
  feeProportionalMillionths : ℤ
  cltvExpiryDelta : ℤ
  deriving DecidableEq, Repr

structure ExtraHop where
  nodeId : String
  shortChannelId : String
  feeBase : ℤ
  feeProportionalMillionths : ℤ
  cltvExpiryDelta : ℤ
  deriving DecidableEq, Repr

/-- An invoice.  Its description is a text or the hash of one. -/
structure PaymentRequest where
  paymentHash : String
  nodeId : String
  description : String ⊕ String
  amount : Option ℤ
  minFinalCltvExpiryDelta : Option ℤ
  routingInfo : List (List ExtraHop)
  deriving DecidableEq, Repr

/-- The messages that `NodeSupervisor` handles. -/
inductive NodeMessage
  | channelCreated (channel : ActorRef) (temporaryChannelId remoteNodeId : String) (isFunder : Bool)
  | channelRestored (channel : ActorRef) (channelId remoteNodeId : String) (isFunder : Bool)
      (commitments : Commitments)
  | channelIdAssigned (channel : ActorRef) (channelId : String)
  | shortChannelIdAssigned (channel : ActorRef) (shortChannelId : String)
  | channelSignatureSent (channel : ActorRef) (commitments : Commitments)
  | channelSignatureReceived (channel : ActorRef) (commitments : Commitments)
  | backupCompleted
  | syncProgress
  | terminated (actor : ActorRef)
  | channelErrorOccurred (channel : ActorRef) (error : ChannelError) (isFatal : Bool)
  | localCommitConfirmed (channel : ActorRef) (refundAtBlock : ℤ)
  | channelStateChanged (channel : ActorRef) (previousState currentState : String)
      (currentData : ChannelData)
  | localChannelUpdate (channel : ActorRef) (channelUpdate : Option ChannelUpdate)
  | paymentFailed (paymentHash : String) (failures : List PaymentFailure)
  | paymentSent (paymentHash : String) (amountWithFees feesPaid : ℤ) (paymentPreimage : String)
  | paymentReceived (paymentHash : String) (amount : ℤ)
  deriving DecidableEq, Repr

end EclairMobile
