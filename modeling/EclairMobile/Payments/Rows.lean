import EclairMobile.Actors.NodeSupervisor

/-!
# The Lightning row of a hash under the messages of the node

`nextRow` says what a message leaves of the row of one payment hash, given the row before and
nothing else of the database.  `lnRow_onReceive` says that `onReceive` does the same to every hash
at once.  The primary key is left out, as a new row takes one that depends on the other rows.
-/

namespace EclairMobile

/-- A payment as it is before it is stored. -/
def Payment.withoutId (p : Payment) : Payment := { p with id := none }

namespace DBHelper

/-- The Lightning payment of a hash, without its primary key. -/
def lnRow (db : DBHelper) (hash : String) : Option Payment :=
  (db.getPayment hash .BTC_LN).map Payment.withoutId

theorem lnStatus_eq_lnRow (db : DBHelper) (hash : String) :
    db.lnStatus hash = (db.lnRow hash).map Payment.status := by
  simp [lnStatus, lnRow, Function.comp_def, Payment.withoutId]

theorem lnRow_congr {db db' : DBHelper} (h : db'.payments = db.payments) (hash : String) :
    db'.lnRow hash = db.lnRow hash := by
  unfold lnRow getPayment
  rw [h]

/-- Saving a fitting Lightning payment changes the row of its own hash only. -/
theorem lnRow_insert {db : DBHelper} {p : Payment} (hfit : db.payments.Fits p)
    (ht : p.type = .BTC_LN) (hash : String) : (db.insertOrUpdatePayment p).lnRow hash =
      if hash = p.reference then some p.withoutId else db.lnRow hash := by
  unfold lnRow
  rw [getPayment_insert hfit]
  by_cases hr : hash = p.reference
  · rw [if_pos (by rw [hr, ht]), if_pos hr]
    rfl
  · rw [if_neg (by simp [ht, hr]), if_neg hr]

theorem lnRow_save {db : DBHelper} {hash : String} {q : Payment} (p : Payment)
    (h : db.getPayment hash .BTC_LN = some q) (hid : p.id = q.id) (ht : p.type = q.type)
    (hr : p.reference = q.reference) (hash' : String) :
    (db.insertOrUpdatePayment p).lnRow hash' =
      if hash' = hash then some p.withoutId else db.lnRow hash' := by
  obtain ⟨hqt, hqr⟩ := key_of_getPayment h
  rw [lnRow_insert (fits_of_getPayment h hid ht hr) (ht.trans hqt), hr, hqr]

end DBHelper

namespace NodeSupervisor

/-- The state after messages, each with the time at which it is handled. -/
def afterAll (s : State) (ms : List (NodeMessage × Date)) : State :=
  ms.foldl (fun s m => (onReceive s m.1 m.2).1) s

/-! ### What a message leaves of a row -/

/-- A payment in `INIT` becomes `PENDING`. -/
def pendRow (now : Date) (p : Payment) : Payment :=
  if p.status = some .INIT then { p with status := some .PENDING, updated := some now } else p

/-- A payment that is not paid becomes `FAILED`. -/
def failRow (now : Date) (p : Payment) : Payment :=
  if p.status ≠ some .PAID then { p with status := some .FAILED, updated := some now } else p

/-- The row of a hash after a message. -/
def nextRow (message : NodeMessage) (now : Date) (hash : String) (row : Option Payment) :
    Option Payment :=
  match message with
  | .channelRestored _ _ _ _ c =>
    if hash ∈ c.localCommit.htlcs.filterMap DirectedHtlc.outgoingHash? then row.map (pendRow now)
    else row
  | .channelSignatureSent _ c =>
    match c.remoteNextCommitInfo with
    | none => row
    | some next =>
      if hash ∈ next.htlcs.filterMap DirectedHtlc.incomingHash? then row.map (pendRow now) else row
  | .paymentFailed h _ => if h = hash then row.map (failRow now) else row
  | .paymentSent h amount fees preimage =>
    if h = hash then row.map fun p => DBHelper.asPaid p amount fees preimage now else row
  | .paymentReceived h amount =>
    if h = hash then
      some (row.elim (receivedPayment h now amount) fun p => DBHelper.asReceived p amount now)
    else row
  | _ => row

/-! ### The loops over HTLCs -/

theorem pendRow_pendRow (now : Date) (p : Payment) :
    pendRow now (pendRow now p) = pendRow now p := by
  unfold pendRow
  split <;> simp_all

theorem lnRow_initToPending (db : DBHelper) (paymentHash : String) (now : Date) (hash : String) :
    (initToPending db paymentHash now).1.lnRow hash =
      if hash = paymentHash then (db.lnRow hash).map (pendRow now) else db.lnRow hash := by
  unfold initToPending
  cases hp : db.getPayment paymentHash .BTC_LN with
  | none =>
    by_cases he : hash = paymentHash
    · subst he
      simp [DBHelper.lnRow, hp]
    · simp [he]
  | some p =>
    by_cases hs : p.status = some .INIT
    · have hne : p.status ≠ some .PAID := by rw [hs]; decide
      simp only [if_pos hs, DBHelper.updatePaymentPending, if_pos hne]
      rw [DBHelper.lnRow_save { p with status := some .PENDING, updated := some now } hp rfl rfl
        rfl]
      by_cases he : hash = paymentHash
      · subst he
        simp [DBHelper.lnRow, hp, pendRow, hs, Payment.withoutId]
      · simp [he]
    · simp only [if_neg hs]
      by_cases he : hash = paymentHash
      · subst he
        simp [DBHelper.lnRow, hp, pendRow, hs, Payment.withoutId]
      · simp [he]

theorem lnRow_htlcLoop (hash? : DirectedHtlc → Option String) (now : Date) (hash : String)
    (htlcs : List DirectedHtlc) (db : DBHelper) :
    (htlcLoop hash? now db htlcs).1.lnRow hash =
      if hash ∈ htlcs.filterMap hash? then (db.lnRow hash).map (pendRow now)
      else db.lnRow hash := by
  induction htlcs generalizing db with
  | nil => simp [htlcLoop]
  | cons h hs ih =>
    unfold htlcLoop
    cases hh : hash? h with
    | none =>
      simp only
      rw [ih, List.filterMap_cons_none hh]
    | some paymentHash =>
      simp only
      rw [ih, List.filterMap_cons_some hh, lnRow_initToPending]
      by_cases he : hash = paymentHash
      · simp [he, Function.comp_def, pendRow_pendRow]
      · simp [he]

/-! ### Channel handlers do not write payments -/

section Frame

variable (s : State) (ref : ActorRef) (c : LocalChannel) (now : Date)

@[simp] theorem payments_saveLocalChannel (db : DBHelper) (owner : Option ActorRef) :
    (db.saveLocalChannel owner c now).1.payments = db.payments := by
  unfold DBHelper.saveLocalChannel
  split <;> rfl

@[simp] theorem payments_save : (s.save ref c now).dbHelper.payments = s.dbHelper.payments := by
  simp [State.save]

@[simp] theorem payments_channelTerminated (channelId : Option String) :
    (s.channelTerminated channelId now).dbHelper.payments = s.dbHelper.payments := by
  unfold State.channelTerminated
  cases s.dbHelper.getLocalChannel s.channel? channelId with
  | none => rfl
  | some oc =>
    obtain ⟨owner, c⟩ := oc
    cases owner with
    | none => simp
    | some ref => simp

end Frame

/-- A message that the supervisor handles without looking at a payment. -/
def IsChannelMessage : NodeMessage → Prop
  | .channelRestored .. | .channelSignatureSent .. | .paymentFailed .. | .paymentSent ..
  | .paymentReceived .. => False
  | _ => True

theorem payments_onReceive_of_isChannelMessage {m : NodeMessage} (hm : IsChannelMessage m)
    (s : State) (now : Date) : (onReceive s m now).1.dbHelper.payments = s.dbHelper.payments := by
  cases m with
  | channelRestored | channelSignatureSent | paymentFailed | paymentSent | paymentReceived =>
    exact hm.elim
  | channelCreated => rfl
  | backupCompleted => rfl
  | syncProgress => rfl
  | channelIdAssigned ch id =>
    show (onChannelIdAssigned s ch now id).1.dbHelper.payments = _
    unfold onChannelIdAssigned
    cases s.channel? ch <;> simp
  | shortChannelIdAssigned ch id =>
    show (onShortChannelIdAssigned s ch id).1.dbHelper.payments = _
    unfold onShortChannelIdAssigned
    cases s.channel? ch <;> simp
  | channelSignatureReceived ch c =>
    show (onChannelSignatureReceived s ch c).1.dbHelper.payments = _
    unfold onChannelSignatureReceived
    cases s.channel? ch <;> simp
  | terminated ch =>
    show (onTerminated s ch now).1.dbHelper.payments = _
    unfold onTerminated
    cases s.channel? ch <;> simp
  | channelErrorOccurred ch error isFatal =>
    show (onChannelErrorOccurred s ch now error isFatal).1.dbHelper.payments = _
    unfold onChannelErrorOccurred
    cases s.channel? ch with
    | none => rfl
    | some c =>
      cases isFatal with
      | false => rfl
      | true =>
        cases error with
        | localError t => cases t <;> simp
        | remoteError => simp
  | localCommitConfirmed ch block =>
    show (onLocalCommitConfirmed s ch now block).1.dbHelper.payments = _
    unfold onLocalCommitConfirmed
    cases s.channel? ch <;> simp
  | channelStateChanged ch previous current data =>
    show (onChannelStateChanged s ch now previous current data).1.dbHelper.payments = _
    unfold onChannelStateChanged
    cases s.channel? ch <;> simp
  | localChannelUpdate ch update =>
    show (onLocalChannelUpdate s ch update).1.dbHelper.payments = _
    unfold onLocalChannelUpdate
    cases update with
    | none => rfl
    | some u => cases s.channel? ch <;> simp

/-! ### The handlers of payments -/

section Payments

variable (s : State) (paymentHash : String) (now : Date) (hash : String)

theorem lnRow_onPaymentFailed (failures : List PaymentFailure) :
    (onPaymentFailed s paymentHash now failures).1.dbHelper.lnRow hash =
      nextRow (.paymentFailed paymentHash failures) now hash (s.dbHelper.lnRow hash) := by
  simp only [onPaymentFailed, nextRow]
  cases hp : s.dbHelper.getPayment paymentHash .BTC_LN with
  | none =>
    by_cases he : paymentHash = hash
    · subst he
      simp [DBHelper.lnRow, hp]
    · simp [he]
  | some p =>
    simp only [DBHelper.updatePaymentFailed]
    have hsave := DBHelper.lnRow_save { p with status := some .FAILED, updated := some now } hp
      rfl rfl rfl hash
    by_cases he : paymentHash = hash
    · subst he
      by_cases hs : p.status = some .PAID
      · simp [DBHelper.lnRow, hp, failRow, hs, Payment.withoutId]
      · rw [if_pos hs, hsave]
        simp [DBHelper.lnRow, hp, failRow, hs, Payment.withoutId]
    · by_cases hs : p.status = some .PAID
      · simp [hs, he]
      · rw [if_pos hs, hsave]
        simp [he, Ne.symm he]

theorem lnRow_onPaymentSent (amount fees : ℤ) (preimage : String) :
    (onPaymentSent s paymentHash now amount fees preimage).1.dbHelper.lnRow hash =
      nextRow (.paymentSent paymentHash amount fees preimage) now hash
        (s.dbHelper.lnRow hash) := by
  simp only [onPaymentSent, nextRow]
  cases hp : s.dbHelper.getPayment paymentHash .BTC_LN with
  | none =>
    by_cases he : paymentHash = hash
    · subst he
      simp [DBHelper.lnRow, hp]
    · simp [he]
  | some p =>
    simp only [DBHelper.updatePaymentPaid]
    rw [DBHelper.lnRow_save (DBHelper.asPaid p amount fees preimage now) hp rfl rfl rfl]
    by_cases he : paymentHash = hash
    · subst he
      simp [DBHelper.lnRow, hp, DBHelper.asPaid, Payment.withoutId]
    · simp [he, Ne.symm he]

theorem lnRow_onPaymentReceived (amount : ℤ) :
    (onPaymentReceived s paymentHash now amount).1.dbHelper.lnRow hash =
      nextRow (.paymentReceived paymentHash amount) now hash (s.dbHelper.lnRow hash) := by
  simp only [onPaymentReceived, nextRow]
  cases hp : s.dbHelper.getPayment paymentHash .BTC_LN with
  | none =>
    simp only
    rw [DBHelper.lnRow_insert (Lib.Table.Fits.of_id_none rfl) rfl]
    by_cases he : paymentHash = hash
    · subst he
      simp [DBHelper.lnRow, hp, receivedPayment, Payment.new, Payment.withoutId]
    · simp [receivedPayment, Payment.new, he, Ne.symm he]
  | some p =>
    simp only [DBHelper.updatePaymentReceived]
    rw [DBHelper.lnRow_save (DBHelper.asReceived p amount now) hp rfl rfl rfl]
    by_cases he : paymentHash = hash
    · subst he
      simp [DBHelper.lnRow, hp, DBHelper.asReceived, Payment.withoutId]
    · simp [he, Ne.symm he]

end Payments

theorem nextRow_of_isChannelMessage {m : NodeMessage} (hm : IsChannelMessage m) (now : Date)
    (hash : String) (row : Option Payment) : nextRow m now hash row = row := by
  cases m <;> first | rfl | exact hm.elim

/-- **`onReceive` does to the row of every hash what `nextRow` says.** -/
theorem lnRow_onReceive (s : State) (m : NodeMessage) (now : Date) (hash : String) :
    (onReceive s m now).1.dbHelper.lnRow hash = nextRow m now hash (s.dbHelper.lnRow hash) := by
  by_cases hm : IsChannelMessage m
  · rw [nextRow_of_isChannelMessage hm]
    exact DBHelper.lnRow_congr (payments_onReceive_of_isChannelMessage hm s now) hash
  · cases m with
    | channelRestored ch id node isFunder c =>
      exact lnRow_htlcLoop DirectedHtlc.outgoingHash? now hash c.localCommit.htlcs s.dbHelper
    | channelSignatureSent ch c =>
      show (onChannelSignatureSent s now c).1.dbHelper.lnRow hash = _
      unfold onChannelSignatureSent
      simp only [nextRow]
      cases c.remoteNextCommitInfo with
      | none => rfl
      | some next =>
        exact lnRow_htlcLoop DirectedHtlc.incomingHash? now hash next.htlcs s.dbHelper
    | paymentFailed h failures => exact lnRow_onPaymentFailed s h now hash failures
    | paymentSent h amount fees preimage =>
      exact lnRow_onPaymentSent s h now hash amount fees preimage
    | paymentReceived h amount => exact lnRow_onPaymentReceived s h now hash amount
    | _ => exact absurd trivial hm

end NodeSupervisor

end EclairMobile
