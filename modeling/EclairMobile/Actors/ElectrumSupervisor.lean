import EclairMobile.DBHelper

/-!
# ElectrumSupervisor

The actor that handles the messages of the on-chain wallet.  A transaction is looked up by its id,
type and direction, and its confidence by its id and type only.
-/

namespace EclairMobile

open Lib

namespace ElectrumSupervisor

/-- A transaction, with its id and its serialized form in hexadecimal. -/
structure Tx where
  txid : String
  payload : String
  deriving DecidableEq, Repr

/-- The messages of the wallet and of the client.  Amounts are in satoshis, timestamps in seconds.
-/
inductive Message
  | transactionReceived (tx : Tx) (depth received sent : ℤ) (feeOpt timestamp : Option ℤ)
  | transactionConfidenceChanged (txid : String) (depth : ℤ)
  | walletReady
  | newWalletReceiveAddress (address : String)
  | electrumDisconnected
  | electrumReady (serverAddress : String)
  deriving DecidableEq, Repr

inductive Effect
  | refreshPayments
  | refreshBalance
  | post (message : Message)
  | postSticky (message : Message)
  deriving DecidableEq, Repr

/-- The cast of a `long` to an `int`. -/
def toInt (n : ℤ) : ℤ := n.bmod (2 ^ 32)

def toMilliSatoshi (amount : ℤ) : ℤ := amount * 1000

def directionOf (received sent : ℤ) : PaymentDirection :=
  if received ≥ sent then .RECEIVED else .SENT

def amountOf (received sent : ℤ) : ℤ := if received ≥ sent then received - sent else sent - received

/-- The payment that is saved for a transaction. -/
def paymentReceived (paymentInDB : Option Payment) (tx : Tx) (depth received sent : ℤ)
    (feeOpt timestamp : Option ℤ) (now : Date) : Payment :=
  let direction := directionOf received sent
  let p := paymentInDB.getD (Payment.new now .BTC_ONCHAIN direction tx.txid)
  let p := { p with
    type := .BTC_ONCHAIN
    direction
    reference := tx.txid
    -- fee makes sense only if the tx is sent by us
    feesPaidMsat := if direction = .SENT then toMilliSatoshi (feeOpt.getD 0) else p.feesPaidMsat
    txPayload := some tx.payload
    amountPaidMsat := toMilliSatoshi (amountOf received sent)
    confidenceBlocks := toInt depth
    confidenceType := 0 }
  match timestamp.filter (0 < ·) with
  -- the transaction is included in a block, its timestamp is the block's timestamp
  | some t => { p with created := t * 1000, updated := some (t * 1000) }
  | none => if paymentInDB.isNone then { p with created := now, updated := some now } else p

def onTransactionReceived (db : DBHelper) (tx : Tx) (depth received sent : ℤ)
    (feeOpt timestamp : Option ℤ) (now : Date) : DBHelper :=
  let paymentInDB := db.getPaymentInDirection tx.txid .BTC_ONCHAIN (directionOf received sent)
  db.insertOrUpdatePayment (paymentReceived paymentInDB tx depth received sent feeOpt timestamp now)

def onTransactionConfidenceChanged (db : DBHelper) (txid : String) (depth : ℤ) : DBHelper :=
  match db.getPayment txid .BTC_ONCHAIN with
  | none => db
  | some p => db.updatePayment { p with confidenceBlocks := toInt depth }

def onReceive (db : DBHelper) (message : Message) (now : Date) : DBHelper × List Effect :=
  match message with
  | .transactionReceived tx depth received sent feeOpt timestamp =>
    (onTransactionReceived db tx depth received sent feeOpt timestamp now,
      [.refreshPayments, .refreshBalance])
  | .transactionConfidenceChanged txid depth =>
    -- don't update the ui for updates in tx with confidence > 6
    (onTransactionConfidenceChanged db txid depth,
      if toInt depth ≤ 6 then [.refreshPayments] else [])
  | .newWalletReceiveAddress _ => (db, [.postSticky message])
  | .walletReady | .electrumDisconnected | .electrumReady _ => (db, [.post message])

/-! ### What is saved -/

section Saved

variable (paymentInDB : Option Payment) (tx : Tx) (depth received sent : ℤ)
  (feeOpt timestamp : Option ℤ) (now : Date)

/-- Whichever branch sets the dates, the columns of the ledger are those of the message. -/
theorem paymentReceived_spec :
    let p := paymentReceived paymentInDB tx depth received sent feeOpt timestamp now
    p.id = paymentInDB.bind Payment.id ∧ p.type = .BTC_ONCHAIN ∧ p.reference = tx.txid ∧
      p.direction = directionOf received sent ∧
      p.amountPaidMsat = toMilliSatoshi (amountOf received sent) ∧
      p.confidenceBlocks = toInt depth := by
  have hid : ((paymentInDB.getD (Payment.new now .BTC_ONCHAIN (directionOf received sent)
      tx.txid)).id) = paymentInDB.bind Payment.id := by
    cases paymentInDB <;> rfl
  simp only [paymentReceived]
  split
  · exact ⟨hid, rfl, rfl, rfl, rfl, rfl⟩
  · split
    · exact ⟨hid, rfl, rfl, rfl, rfl, rfl⟩
    · exact ⟨hid, rfl, rfl, rfl, rfl, rfl⟩

end Saved

variable {db : DBHelper}

theorem getPaymentInDirection_eq_some {txid : String} {type : PaymentType}
    {direction : PaymentDirection} {p : Payment}
    (h : db.getPaymentInDirection txid type direction = some p) :
    db.getPayment txid type = some p := by
  have hp := List.find?_some h
  simp only [decide_eq_true_eq] at hp
  exact DBHelper.getPayment_eq_some_iff.mpr ⟨List.mem_of_find?_eq_some h, hp.2.2, hp.1⟩

/-- The saved payment replaces at most the row of its own transaction. -/
theorem fits_paymentReceived (db : DBHelper) (tx : Tx) (depth received sent : ℤ)
    (feeOpt timestamp : Option ℤ)
    (now : Date) : db.payments.Fits (paymentReceived
      (db.getPaymentInDirection tx.txid .BTC_ONCHAIN (directionOf received sent))
      tx depth received sent feeOpt timestamp now) := by
  obtain ⟨hid, ht, hr, -⟩ := paymentReceived_spec
    (db.getPaymentInDirection tx.txid .BTC_ONCHAIN (directionOf received sent))
    tx depth received sent feeOpt timestamp now
  cases hq : db.getPaymentInDirection tx.txid .BTC_ONCHAIN (directionOf received sent) with
  | none =>
    rw [hq] at hid
    exact Table.Fits.of_id_none hid
  | some q =>
    rw [hq] at hid ht hr
    obtain ⟨hqt, hqr⟩ := DBHelper.key_of_getPayment (getPaymentInDirection_eq_some hq)
    exact DBHelper.fits_of_getPayment (getPaymentInDirection_eq_some hq) hid (by rw [ht, hqt])
      (by rw [hr, hqr])

theorem lightning_onReceive (m : Message) (now : Date) :
    (onReceive db m now).1.payments.rows.filter (fun p => p.type = .BTC_LN) =
      db.payments.rows.filter (fun p => p.type = .BTC_LN) := by
  cases m with
  | transactionReceived tx depth received sent feeOpt timestamp =>
    refine Table.filter_insertOrReplace (fits_paymentReceived db tx depth received sent
      feeOpt timestamp now) fun q hq => ?_
    obtain ⟨-, ht, -⟩ := paymentReceived_spec
      (db.getPaymentInDirection tx.txid .BTC_ONCHAIN (directionOf received sent))
      tx depth received sent feeOpt timestamp now
    have hqt : q.type = .BTC_ONCHAIN := (Prod.mk.inj hq).1.trans ht
    simp [hqt]
  | transactionConfidenceChanged txid depth =>
    show (onTransactionConfidenceChanged db txid depth).payments.rows.filter _ = _
    unfold onTransactionConfidenceChanged
    cases hp : db.getPayment txid .BTC_ONCHAIN with
    | none => rfl
    | some p =>
      have hget := hp
      rw [DBHelper.getPayment_eq] at hget
      have hkey : (p.type, p.reference) = (.BTC_ONCHAIN, txid) := Table.key_of_get? hget
      refine Table.filter_update hget rfl hkey fun q hq => ?_
      have hqt : q.type = .BTC_ONCHAIN := (Prod.mk.inj hq).1
      simp [hqt]
  | walletReady | newWalletReceiveAddress | electrumDisconnected | electrumReady => rfl

theorem getPayment_congr_lightning {db db' : DBHelper}
    (h : db'.payments.rows.filter (fun p => p.type = .BTC_LN) =
      db.payments.rows.filter (fun p => p.type = .BTC_LN)) (hash : String) :
    db'.getPayment hash .BTC_LN = db.getPayment hash .BTC_LN := by
  have hmem : ∀ p : Payment, p.type = .BTC_LN → (p ∈ db'.payments.rows ↔ p ∈ db.payments.rows) := by
    intro p hp
    have := congrArg (p ∈ ·) h
    simpa [List.mem_filter, hp] using this
  rw [DBHelper.getPayment_eq, DBHelper.getPayment_eq]
  refine Table.get?_congr fun p hp => hmem p (Prod.mk.inj hp).1

end ElectrumSupervisor

end EclairMobile
