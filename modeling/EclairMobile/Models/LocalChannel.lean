import EclairMobile.Lib.Table

/-!
# Local channels

The `LocalChannel` entity.  The database keeps the columns; the fields marked `@Transient` in the
source live in memory only, and a row read from the database has their initial values
(`LocalChannel.persisted`).
-/

namespace EclairMobile

open Lib

inductive ClosingType
  | MUTUAL
  | LOCAL
  | REMOTE
  | OTHER
  deriving DecidableEq, Repr

/-- A transaction, in its serialized form. -/
abbrev Transaction := String

structure LocalChannel where
  id : Option ℕ := none
  channelId : Option String := none
  shortChannelId : Option String := none
  peerNodeId : Option String := none
  capacityMsat : ℤ := 0
  balanceMsat : ℤ := 0
  refundAtBlock : ℤ := 0
  channelReserveSat : ℤ := 0
  minimumHtlcAmountMsat : ℤ := 0
  toSelfDelayBlocks : ℤ := 0
  fundingTxId : Option String := none
  closingType : Option ClosingType := none
  closingErrorMessage : Option String := none
  localFeatures : Option String := none
  isActive : Bool := true
  created : ℤ
  updated : Option ℤ := none
  -- transient fields
  sendableBalanceMsat : ℤ := 0
  remoteToSelfDelayBlocks : ℤ := 0
  isFunder : Bool := true
  state : String := "N/A"
  htlcsInFlightCount : ℕ := 0
  feeBaseMsat : Option ℤ := none
  feeProportionalMillionths : Option ℤ := none
  cltvExpiryDelta : Option ℤ := none
  mainClosingTxs : List Transaction := []
  mainDelayedClosingTx : Option Transaction := none
  deriving DecidableEq, Repr

instance : Entity LocalChannel (Option String) where
  id := LocalChannel.id
  setId i c := { c with id := some i }
  key c := c.channelId
  id_setId _ _ := rfl
  key_setId _ _ := rfl

/-- The table `LOCAL_CHANNEL`. -/
abbrev LocalChannelTable := Table LocalChannel

namespace LocalChannel

/-- `new LocalChannel()` at the time `now`. -/
def new (now : ℤ) : LocalChannel := { created := now }

/-- The row that the database keeps of a channel: the transient fields are not columns. -/
def persisted (c : LocalChannel) : LocalChannel :=
  { c with
    sendableBalanceMsat := 0, remoteToSelfDelayBlocks := 0, isFunder := true, state := "N/A"
    htlcsInFlightCount := 0, feeBaseMsat := none, feeProportionalMillionths := none
    cltvExpiryDelta := none, mainClosingTxs := [], mainDelayedClosingTx := none }

@[simp] theorem entity_id (c : LocalChannel) : Entity.id c = c.id := rfl
@[simp] theorem entity_key (c : LocalChannel) : Entity.key c = c.channelId := rfl
/-- `getReceivableMsat`: does not take the state of the channel into account. -/
def getReceivableMsat (c : LocalChannel) : ℤ :=
  max (c.capacityMsat - c.balanceMsat - c.channelReserveSat * 1000) 0

/-- `receivedChannelUpdate`: there has been a `LocalChannelUpdate` for this channel. -/
def receivedChannelUpdate (c : LocalChannel) : Bool :=
  c.feeBaseMsat.isSome && c.feeProportionalMillionths.isSome && c.cltvExpiryDelta.isSome

/-- `fundsAreAccountedFor`: the channel counts in the lightning balance of the wallet. -/
def fundsAreAccountedFor (c : LocalChannel) : Bool :=
  !"ERR_".toList.isPrefixOf c.state.toList && c.state != "WAIT_FOR_INIT_INTERNAL" &&
    c.state != "WAIT_FOR_ACCEPT_CHANNEL" && c.state != "CLOSING" && c.state != "CLOSED"

/-- `fundsAreUsable`: the funds can be used to receive or to send payments. -/
def fundsAreUsable (c : LocalChannel) : Bool :=
  c.state == "NORMAL" || c.state == "OFFLINE" || c.state == "SYNCING"

end LocalChannel

end EclairMobile
