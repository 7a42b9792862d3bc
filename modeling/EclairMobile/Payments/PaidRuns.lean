import EclairMobile.Lib.Reach
import EclairMobile.Activities.SendPaymentActivity
import EclairMobile.Actors.ElectrumSupervisor
import EclairMobile.Payments.Status

/-!
# A paid payment stays paid

Ten operations of three classes rewrite, replace or delete payment rows.  Each of them is an action
here, and for each the status of a hash after it is a function of the status before: the
supervisor's automaton, the retry of a failed payment, and clean-ups that delete by status or by
type. -/

namespace EclairMobile

open Lib NodeSupervisor

namespace PaidRuns

/-- Everything that writes payments. -/
inductive Action
  | node (message : NodeMessage) (now : Date)
  | send (order : SendPaymentActivity.Order) (now : Date)
  | generatePaymentRequest (pr : PaymentRequest) (paymentRequestStr : String) (now : Date)
  | electrum (message : ElectrumSupervisor.Message) (now : Date)
  | cleanLightningPayments
  | cleanUpZeroConfs
  | deleteAllOnchainTxs

/-- One action.  A generated invoice has a fresh payment hash: no row carries it. -/
def step (s : State) : Action → Option State
  | .node message now => some (onReceive s message now).1
  | .send order now =>
    some { s with dbHelper := (SendPaymentActivity.sendLNPayment s.dbHelper order now).1 }
  | .generatePaymentRequest pr paymentRequestStr now =>
    if s.dbHelper.lnStatus pr.paymentHash = none then
      some { s with
        dbHelper :=
          ReceivePaymentFragment.generatePaymentRequest s.dbHelper pr paymentRequestStr now }
    else none
  | .electrum message now =>
    some { s with dbHelper := (ElectrumSupervisor.onReceive s.dbHelper message now).1 }
  | .cleanLightningPayments => some { s with dbHelper := s.dbHelper.cleanLightningPayments }
  | .cleanUpZeroConfs => some { s with dbHelper := s.dbHelper.cleanUpZeroConfs }
  | .deleteAllOnchainTxs => some { s with dbHelper := s.dbHelper.deleteAllOnchainTxs }

/-- The Lightning row of the hash exists and is `PAID`. -/
def Paid (hash : String) (s : State) : Prop := s.dbHelper.lnStatus hash = some (some .PAID)

instance (hash : String) (s : State) : Decidable (Paid hash s) :=
  inferInstanceAs (Decidable (_ = _))

theorem paid_iff {hash : String} {s : State} : Paid hash s ↔
    ∃ p ∈ s.dbHelper.payments.rows, p.type = .BTC_LN ∧ p.reference = hash ∧
      p.status = some .PAID := by
  unfold Paid
  rw [DBHelper.lnStatus_eq_some_iff]
  constructor
  · rintro ⟨p, hp, hs⟩
    obtain ⟨hmem, ht, hr⟩ := DBHelper.getPayment_eq_some_iff.mp hp
    exact ⟨p, hmem, ht, hr, hs⟩
  · rintro ⟨p, hmem, ht, hr, hs⟩
    exact ⟨p, DBHelper.getPayment_eq_some_iff.mpr ⟨hmem, ht, hr⟩, hs⟩

/-- No action takes a payment out of `PAID`. -/
theorem Paid.step {hash : String} {s s' : State} {a : Action} (hp : Paid hash s)
    (h : step s a = some s') : Paid hash s' := by
  unfold Paid at hp ⊢
  cases a with
  | node m now =>
    obtain rfl := Option.some.inj h
    rw [lnStatus_onReceive, hp, nextStatus_paid]
  | send o now =>
    obtain rfl := Option.some.inj h
    show (SendPaymentActivity.sendLNPayment s.dbHelper o now).1.lnStatus hash = _
    rw [SendPaymentActivity.lnStatus_sendLNPayment, hp]
    simp
  | generatePaymentRequest pr str now =>
    simp only [PaidRuns.step] at h
    split at h
    · next hfresh =>
      obtain rfl := Option.some.inj h
      have hne : hash ≠ pr.paymentHash := by
        rintro rfl
        rw [hp] at hfresh
        cases hfresh
      show (ReceivePaymentFragment.generatePaymentRequest s.dbHelper pr str now).lnStatus hash = _
      rw [ReceivePaymentFragment.lnStatus_generatePaymentRequest, if_neg hne, hp]
    · cases h
  | electrum m now =>
    obtain rfl := Option.some.inj h
    show (ElectrumSupervisor.onReceive s.dbHelper m now).1.lnStatus hash = _
    rw [← hp]
    apply DBHelper.lnStatus_congr
    exact ElectrumSupervisor.getPayment_congr_lightning
      (ElectrumSupervisor.lightning_onReceive m now) hash
  | cleanLightningPayments =>
    obtain rfl := Option.some.inj h
    show s.dbHelper.cleanLightningPayments.lnStatus hash = _
    rw [DBHelper.lnStatus_cleanLightningPayments, hp]
    simp
  | cleanUpZeroConfs =>
    obtain rfl := Option.some.inj h
    rw [← hp]
    exact DBHelper.lnStatus_congr (DBHelper.getPayment_cleanUpZeroConfs s.dbHelper hash)
  | deleteAllOnchainTxs =>
    obtain rfl := Option.some.inj h
    rw [← hp]
    exact DBHelper.lnStatus_congr (DBHelper.getPayment_deleteAllOnchainTxs s.dbHelper hash)

/-- **Once the Lightning row of a hash is `PAID`, it exists and is `PAID` in every later state.** -/
theorem paid_forever {hash : String} {s : State} (hp : Paid hash s) :
    ∀ s', Reach step anyStep (· = s) s' →
      ∃ p ∈ s'.dbHelper.payments.rows, p.type = .BTC_LN ∧ p.reference = hash ∧
        p.status = some .PAID := by
  intro s' hs'
  have h : Paid hash s' := by
    refine Reach.invariant (I := Paid hash) ?_ (fun s a s' h _ hst => h.step hst) s' hs'
    rintro s rfl
    exact hp
  exact paid_iff.mp h

/-- A received payment, then the failure and the clean-up of the same hash. -/
theorem paid_forever_received :
    let s := (onReceive (.start .empty) (.paymentReceived "h" 5) 1).1
    let s' := { (onReceive s (.paymentFailed "h" []) 2).1 with
      dbHelper := (onReceive s (.paymentFailed "h" []) 2).1.dbHelper.cleanLightningPayments }
    ∃ p ∈ s'.dbHelper.payments.rows, p.type = .BTC_LN ∧ p.reference = "h" ∧
      p.status = some .PAID := by
  intro s s'
  have hrun : run step s [.node (.paymentFailed "h" []) 2, .cleanLightningPayments] = some s' := rfl
  exact paid_forever (by decide) s' (reach_of_run rfl hrun)

end PaidRuns

end EclairMobile
