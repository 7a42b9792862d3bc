import EclairMobile.Lib.Reach
import EclairMobile.Payments.Status

/-!
# Notifications and records

The user is told of a success with the payment itself, and of a failure by its hash.  The success of
a payment that was not known is posted without a payment, and the failure of a paid one is posted
although its row stays `PAID`; every other event agrees with the row at the moment it is posted.
-/

namespace EclairMobile

namespace NodeSupervisor

open Lib

/-! ### What a posted event says -/

/-- What an event tells the user of a payment is what the database holds. -/
def EventAgrees (db : DBHelper) : Effect → Prop
  | .lnPaymentSuccess payment => ∃ p, payment = some p ∧ p.status = some .PAID ∧
      db.getPayment p.reference p.type = some p
  | .lnPaymentFailed paymentHash .. => db.lnStatus paymentHash = some (some .FAILED)
  | _ => True

/-- All events that the handler of a message posts agree with the database that it leaves. -/
def PostsAgree (s : State) (m : NodeMessage × Date) : Prop :=
  ∀ e ∈ (onReceive s m.1 m.2).2, EventAgrees (onReceive s m.1 m.2).1.dbHelper e

/-- A received payment is known, and a failed one is not paid. -/
def Expected (s : State) (m : NodeMessage × Date) : Prop :=
  match m.1 with
  | .paymentReceived paymentHash _ => s.dbHelper.lnStatus paymentHash ≠ none
  | .paymentFailed paymentHash _ => s.dbHelper.lnStatus paymentHash ≠ some (some .PAID)
  | _ => True

/-- The supervisor handles one message after the other. -/
def receive (s : State) (m : NodeMessage × Date) : Option State := some (onReceive s m.1 m.2).1

/-! ### Messages about channels -/

section Channel

variable {db : DBHelper} {e : Effect}

theorem eq_refreshPayments_of_initToPending {paymentHash : String} {now : Date}
    (h : e ∈ (initToPending db paymentHash now).2) : e = .refreshPayments := by
  unfold initToPending at h
  split at h
  · cases h
  · split at h
    · exact List.mem_singleton.mp h
    · cases h

theorem eq_refreshPayments_of_htlcLoop {hash? : DirectedHtlc → Option String} {now : Date}
    {htlcs : List DirectedHtlc} (h : e ∈ (htlcLoop hash? now db htlcs).2) :
    e = .refreshPayments := by
  induction htlcs generalizing db with
  | nil => cases h
  | cons htlc htlcs ih =>
    unfold htlcLoop at h
    split at h
    · exact ih h
    · rcases List.mem_append.mp h with h | h
      · exact eq_refreshPayments_of_initToPending h
      · exact ih h

/-- A message that reports the end of a payment. -/
def IsPaymentMessage : NodeMessage → Prop
  | .paymentFailed .. | .paymentSent .. | .paymentReceived .. => True
  | _ => False

/-- The handlers of all other messages tell the user nothing of a payment. -/
theorem postsAgree_of_not_isPaymentMessage {s : State} {m : NodeMessage} {now : Date}
    (hm : ¬ IsPaymentMessage m) : PostsAgree s (m, now) := by
  unfold PostsAgree
  cases m with
  | paymentFailed h failures => exact absurd trivial hm
  | paymentSent h amount fees preimage => exact absurd trivial hm
  | paymentReceived h amount => exact absurd trivial hm
  | channelRestored ch id node isFunder c =>
    intro e he
    rcases List.mem_append.mp he with he | he
    · rw [eq_refreshPayments_of_htlcLoop he]
      trivial
    · simp only [List.mem_cons, List.not_mem_nil, or_false] at he
      rcases he with rfl | rfl | rfl <;> trivial
  | channelSignatureSent ch c =>
    intro e he
    simp only [onReceive, onChannelSignatureSent] at he
    split at he
    · cases he
    · rw [eq_refreshPayments_of_htlcLoop he]
      trivial
  | channelStateChanged ch previous current data =>
    simp only [onReceive, onChannelStateChanged]
    cases s.channel? ch with
    | none => simp
    | some c =>
      cases data with
      | closing d commitments =>
        simp only [closingNotification]
        split <;> simp [EventAgrees]
      | hasCommitments commitments => simp [EventAgrees]
      | other => simp [EventAgrees]
  | channelCreated => simp [onReceive, onChannelCreated, EventAgrees]
  | channelIdAssigned ch id =>
    simp only [onReceive, onChannelIdAssigned]
    split <;> simp
  | shortChannelIdAssigned ch id =>
    simp only [onReceive, onShortChannelIdAssigned]
    split <;> simp
  | channelSignatureReceived ch c =>
    simp only [onReceive, onChannelSignatureReceived]
    split <;> simp [EventAgrees]
  | backupCompleted => simp [onReceive, EventAgrees]
  | syncProgress => simp [onReceive, EventAgrees]
  | terminated ch => simp [onReceive, onTerminated, EventAgrees]
  | channelErrorOccurred ch error isFatal =>
    simp only [onReceive, onChannelErrorOccurred]
    repeat' split
    all_goals simp
  | localCommitConfirmed ch height =>
    simp only [onReceive, onLocalCommitConfirmed]
    split <;> simp [EventAgrees]
  | localChannelUpdate ch update =>
    simp only [onReceive, onLocalChannelUpdate]
    split <;> simp

end Channel

/-! ### Messages about payments -/

section Payments

variable {s : State} {now : Date} {paymentHash : String}

theorem getPayment_save {db : DBHelper} {p q : Payment} {type : PaymentType}
    (hq : db.getPayment paymentHash type = some q) (hid : p.id = q.id) :
    (db.insertOrUpdatePayment p).getPayment p.reference p.type = some p := by
  rw [DBHelper.getPayment_insert_self]
  obtain ⟨i, hi⟩ : ∃ i, p.id = some i := by
    have hsome := db.payments.hasId q (DBHelper.getPayment_eq_some_iff.mp hq).1
    rw [hid]
    exact Option.isSome_iff_exists.mp hsome
  show some { p with id := some (p.id.getD db.payments.nextId) } = some p
  rw [hi]
  congr 1
  rw [Option.getD_some, ← hi]

theorem postsAgree_paymentSent (amount fees : ℤ) (preimage : String) :
    PostsAgree s (.paymentSent paymentHash amount fees preimage, now) := by
  show ∀ e ∈ (onPaymentSent s paymentHash now amount fees preimage).2, EventAgrees
    (onPaymentSent s paymentHash now amount fees preimage).1.dbHelper e
  unfold onPaymentSent
  cases hp : s.dbHelper.getPayment paymentHash .BTC_LN with
  | none => simp
  | some p =>
    have hstored := getPayment_save (p := DBHelper.asPaid p amount fees preimage now) hp rfl
    simp only [List.forall_mem_cons]
    exact ⟨⟨_, rfl, rfl, hstored⟩, trivial, by simp⟩

theorem postsAgree_paymentReceived_iff (amount : ℤ) :
    PostsAgree s (.paymentReceived paymentHash amount, now) ↔
      s.dbHelper.lnStatus paymentHash ≠ none := by
  show (∀ e ∈ (onPaymentReceived s paymentHash now amount).2, EventAgrees
    (onPaymentReceived s paymentHash now amount).1.dbHelper e) ↔ _
  unfold onPaymentReceived DBHelper.lnStatus
  cases hp : s.dbHelper.getPayment paymentHash .BTC_LN with
  | none =>
    -- the event carries no payment
    simp [EventAgrees]
  | some p =>
    have hstored := getPayment_save (p := DBHelper.asReceived p amount now) hp rfl
    refine iff_of_true ?_ (by simp)
    simp only [List.forall_mem_cons]
    exact ⟨⟨_, rfl, rfl, hstored⟩, trivial, trivial, by simp⟩

theorem postsAgree_paymentFailed_iff (failures : List PaymentFailure) :
    PostsAgree s (.paymentFailed paymentHash failures, now) ↔
      s.dbHelper.lnStatus paymentHash ≠ some (some .PAID) := by
  have hafter := lnStatus_onReceive s (.paymentFailed paymentHash failures) now paymentHash
  unfold PostsAgree
  simp only [onReceive] at hafter ⊢
  cases hp : s.dbHelper.getPayment paymentHash .BTC_LN with
  | none => simp [onPaymentFailed, DBHelper.lnStatus, hp]
  | some p =>
    have hstatus : s.dbHelper.lnStatus paymentHash = some p.status := by
      simp [DBHelper.lnStatus, hp]
    have hposts : (∀ e ∈ (onPaymentFailed s paymentHash now failures).2, EventAgrees
        (onPaymentFailed s paymentHash now failures).1.dbHelper e) ↔
        (onPaymentFailed s paymentHash now failures).1.dbHelper.lnStatus paymentHash =
          some (some .FAILED) := by
      obtain ⟨-, hr⟩ := DBHelper.key_of_getPayment hp
      simp [onPaymentFailed, hp, EventAgrees, hr]
    rw [hposts, hafter, hstatus]
    by_cases hpaid : p.status = some .PAID
    · simp [hpaid]
    · simp [nextStatus, hpaid]

end Payments

/-! ### All messages -/

/-- The events of one message agree with the database exactly if the message was to be expected. -/
theorem postsAgree_iff (s : State) (m : NodeMessage × Date) : PostsAgree s m ↔ Expected s m := by
  obtain ⟨m, now⟩ := m
  cases m with
  | paymentFailed h failures => exact postsAgree_paymentFailed_iff failures
  | paymentReceived h amount => exact postsAgree_paymentReceived_iff amount
  | paymentSent h amount fees preimage =>
    exact iff_of_true (postsAgree_paymentSent amount fees preimage) trivial
  | _ => exact iff_of_true (postsAgree_of_not_isPaymentMessage fun h => h) trivial

/-- **In every sequence of messages, all events agree with the database exactly if every received
payment is known and no failed one is paid.** -/
theorem notified_iff (s : State) (ms : List (NodeMessage × Date)) :
    Meets receive PostsAgree s ms ↔ Meets receive Expected s ms :=
  Meets.congr postsAgree_iff s ms

/-- The success of an unknown payment is posted without a payment. -/
theorem not_notified : ¬ ∀ s ms, Meets receive PostsAgree s ms := by
  intro h
  have hposts := (h (.start .empty) [(.paymentReceived "h" 5, 1)]).1
  obtain ⟨p, hp, -⟩ := hposts (.lnPaymentSuccess none) (by decide)
  cases hp

end NodeSupervisor

end EclairMobile
