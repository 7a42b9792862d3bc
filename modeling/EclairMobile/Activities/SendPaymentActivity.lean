import EclairMobile.App

/-!
# SendPaymentActivity

`sendLNPayment` runs in a thread of its own.  It is cut here where another thread may come between:
the payment is read, its status is tested, the `INIT` row is written, and the request is handed to
the payment initiator (`App.sendLNPayment`).
-/

namespace EclairMobile

namespace SendPaymentActivity

/-- What the user asked the thread to pay. -/
structure Order where
  amount : ℤ
  pr : PaymentRequest
  prAsString : String
  deriving DecidableEq, Repr

/-- `getLongAmountFromInvoice`. -/
def getLongAmountFromInvoice (pr : PaymentRequest) : ℤ := pr.amount.getD 0

/-- The text of the description, or of its hash. -/
def paymentDescription (pr : PaymentRequest) : String := pr.description.elim id id

/-- The message of an attempt that is given up. -/
inductive Abort
  | payment_error_pending
  | payment_error_paid
  | payment_error_unhandled_state
  deriving DecidableEq, Repr

/-- The row that a failed payment gets when it is retried with a new amount. -/
def retriedPayment (p : Payment) (o : Order) (now : Date) : Payment :=
  { p with amountSentMsat := o.amount, updated := some now, status := some .INIT }

/-- The row of a payment that does not exist yet. -/
def newPayment (o : Order) (now : Date) : Payment :=
  { Payment.new now .BTC_LN .SENT o.pr.paymentHash with
    amountRequestedMsat := getLongAmountFromInvoice o.pr
    amountSentMsat := o.amount
    recipient := some o.pr.nodeId
    paymentRequest := some o.prAsString.toLower
    status := some .INIT
    description := some (paymentDescription o.pr)
    updated := some now }

/-- The test of the payment that was read: give up, or go on with the row to write. -/
def checkPayment (p : Option Payment) (o : Order) (now : Date) : Except Abort Payment :=
  match p with
  | none => .ok (newPayment o now)
  | some p =>
    match p.status with
    | some .INIT | some .PENDING => .error .payment_error_pending
    | some .PAID => .error .payment_error_paid
    | some .FAILED => .ok (retriedPayment p o now)
    | none => .error .payment_error_unhandled_state

/-- `sendLNPayment` without interleaving: the database afterwards, and whether the request is handed
to the payment initiator. -/
def sendLNPayment (db : DBHelper) (o : Order) (now : Date) : DBHelper × Except Abort Order :=
  match checkPayment (db.getPayment o.pr.paymentHash .BTC_LN) o now with
  | .error e => (db, .error e)
  | .ok p => (db.insertOrUpdatePayment p, .ok o)

/-! ### What an attempt does to the payments -/

section Check

variable {p : Option Payment} {o : Order} {now : Date} {q : Payment}

theorem checkPayment_eq_ok_iff : checkPayment p o now = .ok q ↔
    (p = none ∧ q = newPayment o now) ∨
      ∃ p', p = some p' ∧ p'.status = some .FAILED ∧ q = retriedPayment p' o now := by
  cases p with
  | none => simp [checkPayment, eq_comm]
  | some p =>
    unfold checkPayment
    rcases hs : p.status with _ | st
    · simp [hs]
    · cases st <;> simp [hs, eq_comm]

theorem status_of_checkPayment (h : checkPayment p o now = .ok q) : q.status = some .INIT := by
  rcases checkPayment_eq_ok_iff.mp h with ⟨-, rfl⟩ | ⟨p', -, -, rfl⟩ <;> rfl

end Check

/-- An attempt that is not interrupted moves the status of its own hash to `INIT`, and only from the
absence of a row or from `FAILED`. -/
theorem lnStatus_sendLNPayment (db : DBHelper) (o : Order) (now : Date) (hash : String) :
    (sendLNPayment db o now).1.lnStatus hash =
      if hash = o.pr.paymentHash ∧
          (db.lnStatus hash = none ∨ db.lnStatus hash = some (some .FAILED))
      then some (some .INIT) else db.lnStatus hash := by
  unfold sendLNPayment
  cases hp : db.getPayment o.pr.paymentHash .BTC_LN with
  | none =>
    show (db.insertOrUpdatePayment (newPayment o now)).lnStatus hash = _
    rw [DBHelper.lnStatus_insert_new rfl]
    by_cases he : hash = o.pr.paymentHash
    · subst he
      simp [newPayment, Payment.new, DBHelper.lnStatus, hp]
    · simp [newPayment, Payment.new, he]
  | some p =>
    by_cases hs : p.status = some .FAILED
    · have hc : checkPayment (some p) o now = .ok (retriedPayment p o now) :=
        checkPayment_eq_ok_iff.mpr (Or.inr ⟨p, rfl, hs, rfl⟩)
      simp only [hc]
      rw [DBHelper.lnStatus_save (retriedPayment p o now) hp rfl rfl rfl]
      by_cases he : hash = o.pr.paymentHash
      · subst he
        simp [retriedPayment, DBHelper.lnStatus, hp, hs]
      · simp [he]
    · have hkeep : (match checkPayment (some p) o now with
          | .error e => (db, Except.error e)
          | .ok p => (db.insertOrUpdatePayment p, .ok o)).1 = db := by
        cases hc : checkPayment (some p) o now with
        | error e => rfl
        | ok q =>
          rcases checkPayment_eq_ok_iff.mp hc with ⟨h, -⟩ | ⟨p', h, hf, -⟩
          · cases h
          · cases h
            exact absurd hf hs
      rw [hkeep]
      by_cases he : hash = o.pr.paymentHash
      · subst he
        simp [DBHelper.lnStatus, hp, hs]
      · simp [he]

end SendPaymentActivity

/-! ### Invoices -/

namespace ReceivePaymentFragment

/-- The row of an invoice that has just been generated. -/
def newPayment (pr : PaymentRequest) (paymentRequestStr : String) (now : Date) : Payment :=
  { Payment.new now .BTC_LN .RECEIVED pr.paymentHash with
    amountRequestedMsat := SendPaymentActivity.getLongAmountFromInvoice pr
    recipient := some pr.nodeId
    paymentRequest := some paymentRequestStr.toLower
    status := some .INIT
    description := some (SendPaymentActivity.paymentDescription pr)
    updated := some now }

/-- The payment part of `generatePaymentRequest`. -/
def generatePaymentRequest (db : DBHelper) (pr : PaymentRequest) (paymentRequestStr : String)
    (now : Date) : DBHelper := db.insertOrUpdatePayment (newPayment pr paymentRequestStr now)

theorem lnStatus_generatePaymentRequest (db : DBHelper) (pr : PaymentRequest) (str : String)
    (now : Date) (hash : String) : (generatePaymentRequest db pr str now).lnStatus hash =
      if hash = pr.paymentHash then some (some .INIT) else db.lnStatus hash := by
  unfold generatePaymentRequest
  rw [DBHelper.lnStatus_insert_new rfl]
  simp [newPayment, Payment.new]

end ReceivePaymentFragment

end EclairMobile
