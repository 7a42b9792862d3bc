import EclairMobile.Payments.Rows

/-!
# The channels of the supervisor

The supervisor keeps a channel twice: as an object in the map of active channels, under its actor,
and as a row of the table, under its channel id.  `ChannelStep` says once what a message does to
both, and every result on channels starts from it; the payments play no part.
-/

namespace EclairMobile

open Lib

namespace NodeSupervisor

/-- The state without its payments. -/
def State.channels (s : State) : State :=
  ⟨⟨.empty, s.dbHelper.localChannels, s.dbHelper.identityScope⟩, s.activeChannelsMap⟩

/-! ### The record of a channel -/

/-- The channel whose record a message changes, if the supervisor knows it. -/
def subject? : NodeMessage → Option ActorRef
  | .channelIdAssigned ch _ => some ch
  | .shortChannelIdAssigned ch _ => some ch
  | .channelSignatureReceived ch _ => some ch
  | .channelErrorOccurred ch (.localError (some _)) true => some ch
  | .channelErrorOccurred ch (.remoteError ..) true => some ch
  | .localCommitConfirmed ch _ => some ch
  | .channelStateChanged ch _ _ _ => some ch
  | .localChannelUpdate ch (some _) => some ch
  | _ => none

/-- The message of a channel error, as it is kept. -/
def errorMessage : ChannelError → Option String
  | .localError t => t.join
  | .remoteError isAsciiPrintable ascii text => some (if isAsciiPrintable then ascii else text)

/-- The record of its subject after a message. -/
def updated (c : LocalChannel) : NodeMessage → LocalChannel
  | .channelIdAssigned _ channelId => { c with channelId := some channelId }
  | .shortChannelIdAssigned _ shortChannelId => { c with shortChannelId := some shortChannelId }
  | .channelSignatureReceived _ commitments =>
    { c with
      channelReserveSat := commitments.localChannelReserveSat
      minimumHtlcAmountMsat := commitments.localHtlcMinimum
      htlcsInFlightCount := commitments.localCommit.htlcs.length
      sendableBalanceMsat := commitments.availableBalanceForSend
      balanceMsat := commitments.localCommit.toLocal
      capacityMsat := commitments.localCommit.totalFunds }
  | .channelErrorOccurred _ error _ => { c with closingErrorMessage := errorMessage error }
  | .localCommitConfirmed _ refundAtBlock => { c with refundAtBlock }
  | .channelStateChanged _ _ currentState data =>
    let c := match data with
      | .closing d _ => withClosingData c d
      | _ => c
    let c := { c with state := currentState }
    data.commitments?.elim c (withCommitments c)
  | .localChannelUpdate _ (some u) =>
    { c with
      feeBaseMsat := some u.feeBaseMsat
      feeProportionalMillionths := some u.feeProportionalMillionths
      cltvExpiryDelta := some u.cltvExpiryDelta }
  | _ => c

/-- What a message leaves alone in a record: the key, the activity and the creation date; the id,
the closing error and the refund block, unless it is about them. -/
structure Leaves (c c' : LocalChannel) (m : NodeMessage) : Prop where
  id : c'.id = c.id
  isActive : c'.isActive = c.isActive
  created : c'.created = c.created
  channelId : c'.channelId = c.channelId ∨ ∃ ref id, m = .channelIdAssigned ref id
  closingErrorMessage : c'.closingErrorMessage = c.closingErrorMessage ∨
    ∃ ch error isFatal, m = .channelErrorOccurred ch error isFatal
  refundAtBlock : c'.refundAtBlock = c.refundAtBlock ∨
    ∃ ch block, m = .localCommitConfirmed ch block

theorem leaves_withClosingData (c : LocalChannel) (d : ClosingData) (m : NodeMessage) :
    Leaves c (withClosingData c d) m := by
  unfold withClosingData
  split <;> exact ⟨rfl, rfl, rfl, Or.inl rfl, Or.inl rfl, Or.inl rfl⟩

theorem leaves_updated (c : LocalChannel) (m : NodeMessage) : Leaves c (updated c m) m := by
  cases m with
  | channelIdAssigned ch id =>
    exact ⟨rfl, rfl, rfl, Or.inr ⟨ch, id, rfl⟩, Or.inl rfl, Or.inl rfl⟩
  | channelErrorOccurred ch error isFatal =>
    exact ⟨rfl, rfl, rfl, Or.inl rfl, Or.inr ⟨ch, error, isFatal, rfl⟩, Or.inl rfl⟩
  | localCommitConfirmed ch block =>
    exact ⟨rfl, rfl, rfl, Or.inl rfl, Or.inl rfl, Or.inr ⟨ch, block, rfl⟩⟩
  | channelStateChanged ch previous current data =>
    cases data with
    | closing d k =>
      have h := leaves_withClosingData c d (.channelStateChanged ch previous current (.closing d k))
      exact ⟨h.id, h.isActive, h.created, h.channelId, h.closingErrorMessage, h.refundAtBlock⟩
    | hasCommitments k => exact ⟨rfl, rfl, rfl, Or.inl rfl, Or.inl rfl, Or.inl rfl⟩
    | other => exact ⟨rfl, rfl, rfl, Or.inl rfl, Or.inl rfl, Or.inl rfl⟩
  | localChannelUpdate ch update =>
    cases update <;> exact ⟨rfl, rfl, rfl, Or.inl rfl, Or.inl rfl, Or.inl rfl⟩
  | _ => exact ⟨rfl, rfl, rfl, Or.inl rfl, Or.inl rfl, Or.inl rfl⟩

theorem id_updated (c : LocalChannel) (m : NodeMessage) : (updated c m).id = c.id :=
  (leaves_updated c m).id

/-- The messages after which the record of their subject is saved. -/
def saves : NodeMessage → Bool
  | .channelIdAssigned .. => true
  | .channelErrorOccurred .. => true
  | .localCommitConfirmed .. => true
  | .channelStateChanged .. => true
  | _ => false

/-- The record of a channel that is announced: the one in the map, or a new one. -/
def announced (s : State) (ch : ActorRef) (channelId remoteNodeId : String) (isFunder : Bool)
    (now : Date) : LocalChannel :=
  { s.getOrCreateChannel ch now with
    channelId := some channelId, peerNodeId := some remoteNodeId, isFunder }

/-- The record of a channel that is restored, before the database is looked at. -/
def restored (s : State) (ch : ActorRef) (channelId remoteNodeId : String) (isFunder : Bool)
    (commitments : Commitments) (now : Date) : LocalChannel :=
  { announced s ch channelId remoteNodeId isFunder now with
    htlcsInFlightCount := commitments.localCommit.htlcs.length
    sendableBalanceMsat := commitments.availableBalanceForSend }

/-- A record with the data that is sent only once taken from another. -/
def withOnceSent (c d : LocalChannel) : LocalChannel :=
  { c with closingErrorMessage := d.closingErrorMessage, refundAtBlock := d.refundAtBlock }

/-- The objects in memory while a channel is restored. -/
def liveWith (s : State) (ch : ActorRef) (c : LocalChannel) (ref : ActorRef) :
    Option LocalChannel :=
  if s.activeChannelsMap.lookup ch ≠ none ∧ ref = ch then some c else s.channel? ref

/-! ### The map after an operation -/

section Map

variable (s : State) (ref : ActorRef) (c : LocalChannel) (now : Date)

/-- The object after it was saved: a channel without capacity is left as it is. -/
def State.savedRecord (s : State) (c : LocalChannel) (now : Date) : LocalChannel :=
  if c.capacityMsat > 0 then s.dbHelper.localChannels.stored { c with updated := some now } else c

theorem channel?_put (r : ActorRef) :
    (s.put ref c).channel? r = if r = ref then some c else s.channel? r := by
  by_cases hr : r = ref
  · subst hr
    simp [State.put, State.channel?]
  · simp [State.put, State.channel?, hr, AList.lookup_insert_ne]

theorem channel?_remove (r : ActorRef) :
    (s.remove ref).channel? r = if r = ref then none else s.channel? r := by
  by_cases hr : r = ref
  · subst hr
    simp [State.remove, State.channel?]
  · simp [State.remove, State.channel?, hr, AList.lookup_erase_ne]

theorem saveLocalChannel_snd (owner : Option ActorRef) :
    (s.dbHelper.saveLocalChannel owner c now).2 = s.savedRecord c now := by
  unfold DBHelper.saveLocalChannel State.savedRecord
  split_ifs <;> rfl

theorem channel?_save (r : ActorRef) : (s.save ref c now).channel? r =
    if r = ref then some (s.savedRecord c now) else s.channel? r := by
  rw [← saveLocalChannel_snd s c now (some ref)]
  exact channel?_put { s with dbHelper := (s.dbHelper.saveLocalChannel (some ref) c now).1 } ref
    (s.dbHelper.saveLocalChannel (some ref) c now).2 r

/-- The object that is attached to a row is the one in memory. -/
theorem live_of_getLocalChannel {db : DBHelper} {live : ActorRef → Option LocalChannel}
    {id : Option String} {r : ActorRef} {d : LocalChannel}
    (h : db.getLocalChannel live id = some (some r, d)) : live r = some d := by
  unfold DBHelper.getLocalChannel at h
  obtain ⟨row, -, hd⟩ := Option.map_eq_some_iff.mp h
  split at hd
  · cases hd
  · next ref _ =>
    split at hd
    · cases hd
    · next e he =>
      cases hd
      exact he

/-- Ending a channel changes the object that is attached to its row and no other. -/
theorem channel?_channelTerminated (id : Option String) (r : ActorRef) :
    (s.channelTerminated id now).channel? r = s.channel? r ∨
      ∃ d, s.channel? r = some d ∧ s.dbHelper.getLocalChannel s.channel? id = some (some r, d) ∧
        (s.channelTerminated id now).channel? r =
          some (s.savedRecord { d with isActive := false } now) := by
  unfold State.channelTerminated
  cases hd : s.dbHelper.getLocalChannel s.channel? id with
  | none => exact Or.inl rfl
  | some od =>
    obtain ⟨owner, d⟩ := od
    cases owner with
    | none => exact Or.inl rfl
    | some o =>
      by_cases hr : r = o
      · subst hr
        refine Or.inr ⟨d, live_of_getLocalChannel hd, rfl, ?_⟩
        have h := channel?_save s r { d with isActive := false } now r
        rw [if_pos rfl] at h
        exact h
      · left
        have h := channel?_save s o { d with isActive := false } now r
        rw [if_neg hr] at h
        exact h

end Map

section Fields

variable (s : State) (c : LocalChannel) (now : Date)

/-! Saving an object sets its key and its date, and nothing else of it. -/

@[simp] theorem savedRecord_channelId : (s.savedRecord c now).channelId = c.channelId := by
  unfold State.savedRecord
  split_ifs <;> rfl

@[simp] theorem savedRecord_isActive : (s.savedRecord c now).isActive = c.isActive := by
  unfold State.savedRecord
  split_ifs <;> rfl

@[simp] theorem savedRecord_created : (s.savedRecord c now).created = c.created := by
  unfold State.savedRecord
  split_ifs <;> rfl

@[simp] theorem savedRecord_closingErrorMessage :
    (s.savedRecord c now).closingErrorMessage = c.closingErrorMessage := by
  unfold State.savedRecord
  split_ifs <;> rfl

@[simp] theorem savedRecord_refundAtBlock :
    (s.savedRecord c now).refundAtBlock = c.refundAtBlock := by
  unfold State.savedRecord
  split_ifs <;> rfl

@[simp] theorem savedRecord_capacityMsat :
    (s.savedRecord c now).capacityMsat = c.capacityMsat := by
  unfold State.savedRecord
  split_ifs <;> rfl

@[simp] theorem savedRecord_balanceMsat : (s.savedRecord c now).balanceMsat = c.balanceMsat := by
  unfold State.savedRecord
  split_ifs <;> rfl

@[simp] theorem savedRecord_sendableBalanceMsat :
    (s.savedRecord c now).sendableBalanceMsat = c.sendableBalanceMsat := by
  unfold State.savedRecord
  split_ifs <;> rfl

@[simp] theorem savedRecord_htlcsInFlightCount :
    (s.savedRecord c now).htlcsInFlightCount = c.htlcsInFlightCount := by
  unfold State.savedRecord
  split_ifs <;> rfl

end Fields

/-! ### What a message does to the channels -/

/-- A message that announces a channel or ends one. -/
def IsAnnouncement : NodeMessage → Prop
  | .channelCreated .. | .channelRestored .. | .terminated .. => True
  | _ => False

/-- The channels after a message, one case per way of handling it. -/
inductive ChannelStep (s : State) (now : Date) : NodeMessage → State → Prop
  | ignored {m : NodeMessage} : ¬ IsAnnouncement m →
      (∀ ch, subject? m = some ch → s.channel? ch = none) → ChannelStep s now m s
  | created (ch : ActorRef) (id node : String) (isFunder : Bool) :
      ChannelStep s now (.channelCreated ch id node isFunder)
        (s.put ch (announced s ch id node isFunder now))
  | restoredNew (ch : ActorRef) (id node : String) (isFunder : Bool) (k : Commitments) :
      s.dbHelper.getLocalChannel (liveWith s ch (restored s ch id node isFunder k now))
        (some id) = none →
      ChannelStep s now (.channelRestored ch id node isFunder k)
        (s.put ch (restored s ch id node isFunder k now))
  | restoredOld (ch : ActorRef) (id node : String) (isFunder : Bool) (k : Commitments)
      (owner : Option ActorRef) (d : LocalChannel) :
      s.dbHelper.getLocalChannel (liveWith s ch (restored s ch id node isFunder k now))
        (some id) = some (owner, d) →
      ChannelStep s now (.channelRestored ch id node isFunder k)
        (s.put ch (withOnceSent (restored s ch id node isFunder k now) d))
  | changed {m : NodeMessage} {ch : ActorRef} {c : LocalChannel} : subject? m = some ch →
      s.channel? ch = some c → saves m = false → ChannelStep s now m (s.put ch (updated c m))
  | saved {m : NodeMessage} {ch : ActorRef} {c : LocalChannel} : subject? m = some ch →
      s.channel? ch = some c → saves m = true → ChannelStep s now m (s.save ch (updated c m) now)
  | terminated {ch : ActorRef} {c : LocalChannel} : s.channel? ch = some c →
      ChannelStep s now (.terminated ch) ((s.channelTerminated c.channelId now).remove ch)
  | unknown {ch : ActorRef} : s.channel? ch = none →
      ChannelStep s now (.terminated ch) (s.remove ch)

section Channels

variable (s : State) (ch : ActorRef) (now : Date)

theorem channels_htlcLoop (hash? : DirectedHtlc → Option String) (htlcs : List DirectedHtlc)
    (db : DBHelper) : (htlcLoop hash? now db htlcs).1.localChannels = db.localChannels ∧
      (htlcLoop hash? now db htlcs).1.identityScope = db.identityScope := by
  induction htlcs generalizing db with
  | nil => exact ⟨rfl, rfl⟩
  | cons h hs ih =>
    unfold htlcLoop
    cases hash? h with
    | none => exact ih db
    | some paymentHash =>
      have hstep : (initToPending db paymentHash now).1.localChannels = db.localChannels ∧
          (initToPending db paymentHash now).1.identityScope = db.identityScope := by
        unfold initToPending
        cases db.getPayment paymentHash .BTC_LN with
        | none => exact ⟨rfl, rfl⟩
        | some p =>
          simp only
          split_ifs
          · unfold DBHelper.updatePaymentPending
            split_ifs <;> exact ⟨rfl, rfl⟩
          · exact ⟨rfl, rfl⟩
      obtain ⟨h1, h2⟩ := ih (initToPending db paymentHash now).1
      exact ⟨h1.trans hstep.1, h2.trans hstep.2⟩

theorem channels_save (c : LocalChannel) :
    (s.save ch c now).channels = s.channels.save ch c now := by
  unfold State.save State.put State.channels DBHelper.saveLocalChannel
  split_ifs <;> rfl

theorem channels_channelTerminated (id : Option String) :
    (s.channelTerminated id now).channels = s.channels.channelTerminated id now := by
  unfold State.channelTerminated
  have hget : s.channels.dbHelper.getLocalChannel s.channels.channel? id =
      s.dbHelper.getLocalChannel s.channel? id := rfl
  rw [hget]
  cases s.dbHelper.getLocalChannel s.channel? id with
  | none => rfl
  | some oc =>
    obtain ⟨owner, c⟩ := oc
    simp only
    unfold State.put State.channels DBHelper.saveLocalChannel
    cases owner <;> split_ifs <;> rfl

theorem put_save (c c' : LocalChannel) : (s.put ch c).save ch c' now = s.save ch c' now := by
  unfold State.save State.put DBHelper.saveLocalChannel
  split_ifs <;> simp [AList.insert_insert]

end Channels

/-! ### The handlers follow the steps -/

section Handlers

variable (s : State) (ch : ActorRef) (now : Date)

theorem step_onChannelRestored (id node : String) (isFunder : Bool) (k : Commitments) :
    ChannelStep s.channels now (.channelRestored ch id node isFunder k)
      (onChannelRestored s ch now id node isFunder k).1.channels := by
  obtain ⟨h1, h2⟩ := channels_htlcLoop now DirectedHtlc.outgoingHash? k.localCommit.htlcs s.dbHelper
  have hget : ∀ live, (htlcLoop DirectedHtlc.outgoingHash? now s.dbHelper
      k.localCommit.htlcs).1.getLocalChannel live (some id) =
        s.channels.dbHelper.getLocalChannel live (some id) := by
    intro live
    unfold DBHelper.getLocalChannel
    rw [h1, h2]
    rfl
  have hput : ∀ c, (State.put { s with dbHelper := (htlcLoop DirectedHtlc.outgoingHash? now
      s.dbHelper k.localCommit.htlcs).1 } ch c).channels = s.channels.put ch c := by
    intro c
    unfold State.put State.channels
    simp only [h1, h2]
  unfold onChannelRestored
  simp only
  split
  · next hd =>
    rw [hput]
    exact .restoredNew ch id node isFunder k ((hget _).symm.trans hd)
  · next o d hd =>
    rw [hput]
    exact .restoredOld ch id node isFunder k o d ((hget _).symm.trans hd)

/-- **Every message is handled in one of the ways of `ChannelStep`.** -/
theorem step_onReceive (m : NodeMessage) :
    ChannelStep s.channels now m (onReceive s m now).1.channels := by
  cases m with
  | channelCreated ch id node isFunder => exact .created ch id node isFunder
  | channelRestored ch id node isFunder k =>
    exact step_onChannelRestored s ch now id node isFunder k
  | channelIdAssigned ch channelId =>
    show ChannelStep _ _ _ (onChannelIdAssigned s ch now channelId).1.channels
    unfold onChannelIdAssigned
    cases hc : s.channel? ch with
    | none => exact .ignored id fun _ h => Option.some.inj h ▸ hc
    | some c =>
      rw [channels_save]
      exact .saved rfl hc rfl
  | shortChannelIdAssigned ch shortChannelId =>
    show ChannelStep _ _ _ (onShortChannelIdAssigned s ch shortChannelId).1.channels
    unfold onShortChannelIdAssigned
    cases hc : s.channel? ch with
    | none => exact .ignored id fun _ h => Option.some.inj h ▸ hc
    | some c => exact .changed rfl hc rfl
  | channelSignatureSent ch k =>
    have h : (onChannelSignatureSent s now k).1.channels = s.channels := by
      unfold onChannelSignatureSent
      cases k.remoteNextCommitInfo with
      | none => rfl
      | some next =>
        obtain ⟨h1, h2⟩ := channels_htlcLoop now DirectedHtlc.incomingHash? next.htlcs s.dbHelper
        simp only [State.channels, h1, h2]
    show ChannelStep _ _ _ (onChannelSignatureSent s now k).1.channels
    rw [h]
    exact .ignored id fun _ h => by cases h
  | channelSignatureReceived ch k =>
    show ChannelStep _ _ _ (onChannelSignatureReceived s ch k).1.channels
    unfold onChannelSignatureReceived
    cases hc : s.channel? ch with
    | none => exact .ignored id fun _ h => Option.some.inj h ▸ hc
    | some c => exact .changed rfl hc rfl
  | backupCompleted => exact .ignored id fun _ h => by cases h
  | syncProgress => exact .ignored id fun _ h => by cases h
  | terminated ch =>
    show ChannelStep _ _ _ (onTerminated s ch now).1.channels
    unfold onTerminated
    cases hc : s.channel? ch with
    | none => exact .unknown hc
    | some c =>
      have h : ((s.channelTerminated c.channelId now).remove ch).channels =
          (s.channels.channelTerminated c.channelId now).remove ch := by
        rw [← channels_channelTerminated]
        rfl
      simp only
      rw [h]
      exact .terminated hc
  | channelErrorOccurred ch error isFatal =>
    show ChannelStep _ _ _ (onChannelErrorOccurred s ch now error isFatal).1.channels
    unfold onChannelErrorOccurred
    cases isFatal with
    | false =>
      have h : subject? (.channelErrorOccurred ch error false) = none := by
        cases error with
        | localError t => cases t <;> rfl
        | remoteError => rfl
      cases s.channel? ch <;> exact .ignored id fun _ hs => by rw [h] at hs; cases hs
    | true =>
      cases error with
      | localError t =>
        cases t with
        | none => cases s.channel? ch <;> exact .ignored id fun _ h => by cases h
        | some message =>
          cases hc : s.channel? ch with
          | none => exact .ignored id fun _ h => Option.some.inj h ▸ hc
          | some c =>
            simp only [if_true]
            rw [channels_save]
            exact .saved rfl hc rfl
      | remoteError printable ascii text =>
        cases hc : s.channel? ch with
        | none => exact .ignored id fun _ h => Option.some.inj h ▸ hc
        | some c =>
          simp only [if_true]
          rw [channels_save]
          exact .saved rfl hc rfl
  | localCommitConfirmed ch block =>
    show ChannelStep _ _ _ (onLocalCommitConfirmed s ch now block).1.channels
    unfold onLocalCommitConfirmed
    cases hc : s.channel? ch with
    | none => exact .ignored id fun _ h => Option.some.inj h ▸ hc
    | some c =>
      simp only
      rw [channels_save]
      exact .saved rfl hc rfl
  | channelStateChanged ch previous current data =>
    show ChannelStep _ _ _ (onChannelStateChanged s ch now previous current data).1.channels
    unfold onChannelStateChanged
    cases hc : s.channel? ch with
    | none => exact .ignored id fun _ h => Option.some.inj h ▸ hc
    | some c =>
      simp only
      rw [put_save, channels_save]
      have h : ChannelStep s.channels now (.channelStateChanged ch previous current data) _ :=
        .saved rfl hc rfl
      cases data <;> exact h
  | localChannelUpdate ch update =>
    show ChannelStep _ _ _ (onLocalChannelUpdate s ch update).1.channels
    unfold onLocalChannelUpdate
    cases update with
    | none => exact .ignored id fun _ h => by cases h
    | some u =>
      cases hc : s.channel? ch with
      | none => exact .ignored id fun _ h => Option.some.inj h ▸ hc
      | some c => exact .changed rfl hc rfl
  | paymentFailed h failures =>
    have he : (onPaymentFailed s h now failures).1.channels = s.channels := by
      unfold onPaymentFailed
      cases s.dbHelper.getPayment h .BTC_LN with
      | none => rfl
      | some p =>
        simp only [DBHelper.updatePaymentFailed]
        split_ifs <;> rfl
    show ChannelStep _ _ _ (onPaymentFailed s h now failures).1.channels
    rw [he]
    exact .ignored id fun _ h => by cases h
  | paymentSent h amount fees preimage =>
    show ChannelStep _ _ _ (onPaymentSent s h now amount fees preimage).1.channels
    unfold onPaymentSent
    cases s.dbHelper.getPayment h .BTC_LN <;> exact .ignored id fun _ h => by cases h
  | paymentReceived h amount =>
    show ChannelStep _ _ _ (onPaymentReceived s h now amount).1.channels
    unfold onPaymentReceived
    cases s.dbHelper.getPayment h .BTC_LN <;> exact .ignored id fun _ h => by cases h

end Handlers

end NodeSupervisor

end EclairMobile
