import Mathlib.Algebra.BigOperators.Group.List.Basic
import Mathlib.Data.List.AList
import EclairMobile.DBHelper

/-!
# NodeSupervisor

The actor that handles the messages of the Lightning node.  Its state is the database and the static
map of the active channels; `onReceive` gives the next state and what the handler tells to the rest
of the app.  `lnStatus_onReceive` says what a message does to the status of a Lightning payment, and
is all that later results use of the handlers.
-/

namespace EclairMobile

open Lib

/-- `activeChannelsMap`: the channel objects by their actor. -/
abbrev ChannelsMap := AList fun _ : ActorRef => LocalChannel

namespace NodeSupervisor

structure State where
  dbHelper : DBHelper
  activeChannelsMap : ChannelsMap

/-- What a handler tells to the refresh schedulers, the event bus, the backup worker and akka. -/
inductive Effect
  | refreshPayments
  | refreshBalance
  | refreshChannels
  | watch (channel : ActorRef)
  | scheduleWorkASAP
  | postSyncProgress
  | closingChannelNotification (channelId peerNodeId : Option String) (isLocalClosing : Bool)
      (balance toSelfDelay : ℤ)
  | lnPaymentFailed (paymentHash : String) (paymentDescription : Option String) (isSimple : Bool)
      (simpleMessage : Option String) (errors : List LightningPaymentError)
  | lnPaymentSuccess (payment : Option Payment)
  | receivedLNPaymentNotification (paymentHash : String) (paymentDescription : Option String)
      (amount : ℤ)
  deriving DecidableEq

namespace State

/-- The state of a process that has just started on a database. -/
def start (dbHelper : DBHelper) : State := ⟨dbHelper, ∅⟩

/-- `activeChannelsMap.get(ref)`. -/
def channel? (s : State) (ref : ActorRef) : Option LocalChannel := s.activeChannelsMap.lookup ref

/-- `activeChannelsMap.put(ref, c)`; also a change of the object that the map already holds. -/
def put (s : State) (ref : ActorRef) (c : LocalChannel) : State :=
  { s with activeChannelsMap := s.activeChannelsMap.insert ref c }

def remove (s : State) (ref : ActorRef) : State :=
  { s with activeChannelsMap := s.activeChannelsMap.erase ref }

/-- `getOrCreateChannel`. -/
def getOrCreateChannel (s : State) (ref : ActorRef) (now : Date) : LocalChannel :=
  (s.channel? ref).getD (LocalChannel.new now)

/-- `dbHelper.saveLocalChannel(c)` for the object of a channel actor. -/
def save (s : State) (ref : ActorRef) (c : LocalChannel) (now : Date) : State :=
  let (dbHelper, c) := s.dbHelper.saveLocalChannel (some ref) c now
  { s with dbHelper }.put ref c

/-- `dbHelper.channelTerminated(channelId)`. -/
def channelTerminated (s : State) (channelId : Option String) (now : Date) : State :=
  match s.dbHelper.getLocalChannel s.channel? channelId with
  | none => s
  | some (owner, c) =>
    let (dbHelper, c) := s.dbHelper.saveLocalChannel owner { c with isActive := false } now
    match owner with
    | none => { s with dbHelper }
    | some ref => { s with dbHelper }.put ref c

@[simp] theorem put_dbHelper (s : State) (ref : ActorRef) (c : LocalChannel) :
    (s.put ref c).dbHelper = s.dbHelper := rfl

@[simp] theorem remove_dbHelper (s : State) (ref : ActorRef) :
    (s.remove ref).dbHelper = s.dbHelper := rfl

end State

/-! ### Payments that leave `INIT` -/

/-- The body of both HTLC loops: a payment in `INIT` becomes `PENDING`. -/
def initToPending (db : DBHelper) (paymentHash : String) (now : Date) : DBHelper × List Effect :=
  match db.getPayment paymentHash .BTC_LN with
  | none => (db, [])
  | some p =>
    if p.status = some .INIT then (db.updatePaymentPending p now, [.refreshPayments]) else (db, [])

/-- The loop over the HTLCs of a commitment; `hash?` selects those that the loop looks at. -/
def htlcLoop (hash? : DirectedHtlc → Option String) (now : Date) :
    DBHelper → List DirectedHtlc → DBHelper × List Effect
  | db, [] => (db, [])
  | db, h :: hs =>
    match hash? h with
    | none => htlcLoop hash? now db hs
    | some paymentHash =>
      let (db', es) := initToPending db paymentHash now
      let (db'', es') := htlcLoop hash? now db' hs
      (db'', es ++ es')

/-! ### The handlers -/

section Handlers

variable (s : State) (channel : ActorRef) (now : Date)

def onChannelCreated (temporaryChannelId remoteNodeId : String) (isFunder : Bool) :
    State × List Effect :=
  let c := s.getOrCreateChannel channel now
  let c :=
    { c with channelId := some temporaryChannelId, peerNodeId := some remoteNodeId, isFunder }
  (s.put channel c, [.watch channel, .refreshChannels])

/-- The data sent only once by the node is restored from the database. -/
def onChannelRestored (channelId remoteNodeId : String) (isFunder : Bool)
    (commitments : Commitments) : State × List Effect :=
  let c := s.getOrCreateChannel channel now
  let c := { c with channelId := some channelId, peerNodeId := some remoteNodeId, isFunder }
  let htlcs := commitments.localCommit.htlcs
  let (dbHelper, es) := htlcLoop DirectedHtlc.outgoingHash? now s.dbHelper htlcs
  let c := { c with
    htlcsInFlightCount := htlcs.length, sendableBalanceMsat := commitments.availableBalanceForSend }
  -- the object of this channel may itself be the one attached to the row
  let live := fun ref => if s.activeChannelsMap.lookup channel ≠ none ∧ ref = channel then some c
    else s.channel? ref
  let c := match dbHelper.getLocalChannel live c.channelId with
    | none => c
    | some (_, channelInDB) => { c with
        closingErrorMessage := channelInDB.closingErrorMessage
        refundAtBlock := channelInDB.refundAtBlock }
  ({ s with dbHelper }.put channel c, es ++ [.watch channel, .refreshBalance, .refreshChannels])

def onChannelIdAssigned (channelId : String) : State × List Effect :=
  match s.channel? channel with
  | none => (s, [])
  | some c => (s.save channel { c with channelId := some channelId } now, [])

def onShortChannelIdAssigned (shortChannelId : String) : State × List Effect :=
  match s.channel? channel with
  | none => (s, [])
  | some c => (s.put channel { c with shortChannelId := some shortChannelId }, [])

/-- If an HTLC is outbound, its payment moves to `PENDING` (`IN` from the remote commit means that
the payment is sent). -/
def onChannelSignatureSent (commitments : Commitments) : State × List Effect :=
  match commitments.remoteNextCommitInfo with
  | none => (s, [])
  | some nextRemoteCommit =>
    let (dbHelper, es) :=
      htlcLoop DirectedHtlc.incomingHash? now s.dbHelper nextRemoteCommit.htlcs
    ({ s with dbHelper }, es)

def onChannelSignatureReceived (commitments : Commitments) : State × List Effect :=
  match s.channel? channel with
  | none => (s, [])
  | some c =>
    let c := { c with
      channelReserveSat := commitments.localChannelReserveSat
      minimumHtlcAmountMsat := commitments.localHtlcMinimum
      htlcsInFlightCount := commitments.localCommit.htlcs.length
      sendableBalanceMsat := commitments.availableBalanceForSend
      balanceMsat := commitments.localCommit.toLocal
      capacityMsat := commitments.localCommit.totalFunds }
    (s.put channel c, [.refreshBalance, .refreshChannels])

def onTerminated : State × List Effect :=
  let s := match s.channel? channel with
    | none => s
    | some c => s.channelTerminated c.channelId now
  (s.remove channel, [.refreshBalance, .refreshChannels])

def onChannelErrorOccurred (error : ChannelError) (isFatal : Bool) : State × List Effect :=
  match s.channel? channel with
  | none => (s, [])
  | some c =>
    if isFatal then
      match error with
      | .localError none => (s, [])
      | .localError (some message) =>
        (s.save channel { c with closingErrorMessage := message } now, [])
      | .remoteError isAsciiPrintable ascii text =>
        let message := if isAsciiPrintable then ascii else text
        (s.save channel { c with closingErrorMessage := some message } now, [])
    else (s, [])

def onLocalCommitConfirmed (refundAtBlock : ℤ) : State × List Effect :=
  match s.channel? channel with
  | none => (s, [])
  | some c => (s.save channel { c with refundAtBlock } now, [.refreshChannels])

/-- The closing type that the published transactions show, with the transactions to display. -/
def withClosingData (c : LocalChannel) (d : ClosingData) : LocalChannel :=
  match d.mutualClosePublished, d.localCommitPublished, d.remoteCommitPublished,
      d.revokedCommitPublished with
  | txs@(_ :: _), none, none, [] => { c with closingType := some .MUTUAL, mainClosingTxs := txs }
  | [], none, some commitTx, [] =>
    { c with closingType := some .REMOTE, mainClosingTxs := [commitTx] }
  | [], some l, none, [] =>
    { c with
      closingType := some .LOCAL, mainClosingTxs := [l.commitTx]
      mainDelayedClosingTx := l.claimMainDelayedOutputTx }
  | _, _, _, _ => { c with closingType := some .OTHER }

/-- The notification is not shown when a closing channel is restored, nor for `CLOSING` to
`CLOSED`. -/
def closingNotification (c : LocalChannel) (previousState currentState : String)
    (commitments : Commitments) : List Effect :=
  if "CLOSED" ≠ currentState ∧ "WAIT_FOR_INIT_INTERNAL" ≠ previousState then
    [.closingChannelNotification c.channelId c.peerNodeId (c.closingType = some .LOCAL)
      commitments.localCommit.toLocal c.toSelfDelayBlocks]
  else []

/-- The fields that the data with commitments sets. -/
def withCommitments (c : LocalChannel) (commitments : Commitments) : LocalChannel :=
  { c with
    localFeatures := some commitments.remoteFeatures
    toSelfDelayBlocks := commitments.remoteToSelfDelay
    remoteToSelfDelayBlocks := commitments.localToSelfDelay
    htlcsInFlightCount := commitments.localCommit.htlcs.length
    channelReserveSat := commitments.localChannelReserveSat
    minimumHtlcAmountMsat := commitments.localHtlcMinimum
    fundingTxId := some commitments.fundingTxId
    sendableBalanceMsat := commitments.availableBalanceForSend
    balanceMsat := commitments.localCommit.toLocal
    capacityMsat := commitments.localCommit.totalFunds }

def onChannelStateChanged (previousState currentState : String) (currentData : ChannelData) :
    State × List Effect :=
  match s.channel? channel with
  | none => (s, [])
  | some c =>
    let (c, es) := match currentData with
      | .closing d commitments =>
        let c := withClosingData c d
        (c, closingNotification c previousState currentState commitments)
      | _ => (c, [])
    let c := { c with state := currentState }
    let c := match currentData.commitments? with
      | none => c
      | some commitments => withCommitments c commitments
    ((s.put channel c).save channel c now, es ++ [.refreshBalance, .refreshChannels])

def onLocalChannelUpdate (channelUpdate : Option ChannelUpdate) : State × List Effect :=
  match channelUpdate, s.channel? channel with
  | some u, some c =>
    let c := { c with
      feeBaseMsat := some u.feeBaseMsat
      feeProportionalMillionths := some u.feeProportionalMillionths
      cltvExpiryDelta := some u.cltvExpiryDelta }
    (s.put channel c, [])
  | _, _ => (s, [])

end Handlers

section PaymentHandlers

variable (s : State) (paymentHash : String) (now : Date)

def onPaymentFailed (failures : List PaymentFailure) : State × List Effect :=
  match s.dbHelper.getPayment paymentHash .BTC_LN with
  | none => (s, [])
  | some p =>
    ({ s with dbHelper := s.dbHelper.updatePaymentFailed p now },
      [.lnPaymentFailed p.reference p.description false none
        (failures.map LightningPaymentError.generateDetailedErrorCause), .refreshPayments])

/-- The event carries the payment object that was just saved. -/
def onPaymentSent (amountWithFees feesPaid : ℤ) (paymentPreimage : String) :
    State × List Effect :=
  match s.dbHelper.getPayment paymentHash .BTC_LN with
  | none => (s, [])
  | some p =>
    ({ s with
        dbHelper := s.dbHelper.updatePaymentPaid p amountWithFees feesPaid paymentPreimage now },
      [.lnPaymentSuccess (DBHelper.asPaid p amountWithFees feesPaid paymentPreimage now),
        .refreshPayments])

/-- The payment inserted for an unknown hash. -/
def receivedPayment (amount : ℤ) : Payment :=
  { Payment.new now .BTC_LN .RECEIVED paymentHash with
    amountPaidMsat := amount, status := some .PAID, updated := some now }

def onPaymentReceived (amount : ℤ) : State × List Effect :=
  match s.dbHelper.getPayment paymentHash .BTC_LN with
  | some p =>
    ({ s with dbHelper := s.dbHelper.updatePaymentReceived p amount now },
      [.lnPaymentSuccess (DBHelper.asReceived p amount now),
        .receivedLNPaymentNotification paymentHash p.description amount, .refreshPayments])
  | none =>
    ({ s with
        dbHelper := s.dbHelper.insertOrUpdatePayment (receivedPayment paymentHash now amount) },
      -- the event carries the payment that was looked up, which is null here
      [.lnPaymentSuccess none, .receivedLNPaymentNotification paymentHash none amount,
        .refreshPayments])

end PaymentHandlers

def onReceive (s : State) (message : NodeMessage) (now : Date) : State × List Effect :=
  match message with
  | .channelCreated ch id node isFunder => onChannelCreated s ch now id node isFunder
  | .channelRestored ch id node isFunder c => onChannelRestored s ch now id node isFunder c
  | .channelIdAssigned ch id => onChannelIdAssigned s ch now id
  | .shortChannelIdAssigned ch id => onShortChannelIdAssigned s ch id
  | .channelSignatureSent _ c => onChannelSignatureSent s now c
  | .channelSignatureReceived ch c => onChannelSignatureReceived s ch c
  | .backupCompleted => (s, [.scheduleWorkASAP])
  | .syncProgress => (s, [.postSyncProgress])
  | .terminated ch => onTerminated s ch now
  | .channelErrorOccurred ch error isFatal => onChannelErrorOccurred s ch now error isFatal
  | .localCommitConfirmed ch refundAtBlock => onLocalCommitConfirmed s ch now refundAtBlock
  | .channelStateChanged ch previous current data =>
    onChannelStateChanged s ch now previous current data
  | .localChannelUpdate ch update => onLocalChannelUpdate s ch update
  | .paymentFailed h failures => onPaymentFailed s h now failures
  | .paymentSent h amount fees preimage => onPaymentSent s h now amount fees preimage
  | .paymentReceived h amount => onPaymentReceived s h now amount

/-! ### Queries on the active channels -/

section Queries

variable (map : ChannelsMap)

def getChannelsBalance : ℤ :=
  (map.entries.map fun e => if e.2.fundsAreAccountedFor then e.2.balanceMsat else 0).sum

/-- `getMaxReceivable`: with multi-part payments, the incoming capacity of all channels. -/
def getMaxReceivable : ℤ :=
  (map.entries.map fun e => if e.2.fundsAreUsable then e.2.getReceivableMsat else 0).sum

/-- `getChannelFromId`: the first entry with the id. -/
def getChannelFromId (channelId : Option String) :
    Option (Sigma fun _ : ActorRef => LocalChannel) :=
  map.entries.find? fun e => e.2.channelId = channelId

end Queries

/-! ### Routing hints -/

/-- What `getExtraHops` throws: on a null field, or on an id that is not one. -/
inductive HintError
  | nullPointer
  | invalidId (text : String)
  deriving DecidableEq, Repr

/-- `PublicKey.apply` on the decoded bytes of a text, and `ShortChannelId.apply`; the results are in
text form. -/
structure IdParsers where
  publicKey : String → Except HintError String
  shortChannelId : String → Except HintError String

section Routes

variable (ids : IdParsers)

/-- A field that is dereferenced. -/
def deref {α : Type} : Option α → Except HintError α
  | some a => .ok a
  | none => .error .nullPointer

def getExtraHops (channel : LocalChannel) : Except HintError (List ExtraHop) := do
  let nodeId ← ids.publicKey (← deref channel.peerNodeId)
  let shortChannelId ← ids.shortChannelId (← deref channel.shortChannelId)
  let feeBase ← deref channel.feeBaseMsat
  let feeProportionalMillionths ← deref channel.feeProportionalMillionths
  let cltvExpiryDelta ← deref channel.cltvExpiryDelta
  pure [{ nodeId, shortChannelId, feeBase, feeProportionalMillionths, cltvExpiryDelta }]

/-- `!Strings.isNullOrEmpty(channel.getShortChannelId())`. -/
def hasShortChannelId (channel : LocalChannel) : Bool := channel.shortChannelId.any (· ≠ "")

/-- The body of the loop of `getRoutes`, for any way to make a hint of a channel. -/
def routeStep {m : Type → Type} [Monad m] {α : Type} (hop : LocalChannel → m α)
    (acc : List α × List (Option String)) (channel : LocalChannel) :
    m (List α × List (Option String)) :=
  let (routes, peersInRoute) := acc
  if hasShortChannelId channel ∧ channel.peerNodeId ∉ peersInRoute ∧ routes.length < 5 ∧
      channel.receivedChannelUpdate then do
    let route ← hop channel
    pure (routes ++ [route], channel.peerNodeId :: peersInRoute)
  else pure (routes, peersInRoute)

/-- The loop over the values of the map. -/
def routesOf {m : Type → Type} [Monad m] {α : Type} (hop : LocalChannel → m α)
    (channels : List LocalChannel) : m (List α) := do
  let (routes, _) ← channels.foldlM (routeStep hop) ([], [])
  pure routes

def getRoutes (map : ChannelsMap) : Except HintError (List (List ExtraHop)) :=
  routesOf (getExtraHops ids) (map.entries.map Sigma.snd)

end Routes

end NodeSupervisor

end EclairMobile
