import Mathlib.Algebra.BigOperators.Group.List.Basic
import Mathlib.Algebra.Ring.Int.Defs
import EclairMobile.Models.Payment
import EclairMobile.Models.NodeEvents

/-!
# The database helper

`DBHelper` holds the two tables and the identity scope of the channel table: greenDAO returns, for a
row, the object that is already attached to its primary key.  Payments need no such scope, since
every change to a payment object is followed at once by its save.  Each operation is a function on
the helper, and each comes with what it does to the Lightning row of a hash.
-/

namespace EclairMobile

open Lib

structure DBHelper where
  payments : PaymentTable
  localChannels : LocalChannelTable
  /-- The channel object, named by the actor it belongs to, attached to a row. -/
  identityScope : ℕ → Option ActorRef

namespace DBHelper

/-- The helper of an empty database. -/
def empty : DBHelper := ⟨.empty, .empty, fun _ => none⟩

/-- `daoSession.clear()`. -/
def clear (db : DBHelper) : DBHelper := { db with identityScope := fun _ => none }

/-! ### Payments -/

/-- `getPayment(reference, type)`. -/
def getPayment (db : DBHelper) (reference : String) (type : PaymentType) : Option Payment :=
  db.payments.rows.find? fun p => p.reference = reference ∧ p.type = type

/-- `getPayment(reference, type, direction)`. -/
def getPaymentInDirection (db : DBHelper) (reference : String) (type : PaymentType)
    (direction : PaymentDirection) : Option Payment :=
  db.payments.rows.find? fun p =>
    p.reference = reference ∧ p.direction = direction ∧ p.type = type

/-- `SELECT SUM(AMOUNT_PAID_MSAT)` over the on-chain payments of a direction. -/
def rawQueryOnchain (db : DBHelper) (direction : PaymentDirection) : ℤ :=
  ((db.payments.rows.filter fun p => p.type = .BTC_ONCHAIN ∧ p.direction = direction).map
    Payment.amountPaidMsat).sum

def getOnchainBalanceMsat (db : DBHelper) : ℤ :=
  max (db.rawQueryOnchain .RECEIVED - db.rawQueryOnchain .SENT) 0

def insertOrUpdatePayment (db : DBHelper) (p : Payment) : DBHelper :=
  { db with payments := db.payments.insertOrReplace p }

def updatePayment (db : DBHelper) (p : Payment) : DBHelper :=
  { db with payments := db.payments.update p }

/-- The fields that `updatePaymentPaid` sets. -/
def asPaid (p : Payment) (amountPaidMsat feesMsat : ℤ) (preimage : String) (now : Date) : Payment :=
  { p with preimage := some preimage, amountPaidMsat := amountPaidMsat, feesPaidMsat := feesMsat
           status := some .PAID, updated := some now }

def updatePaymentPaid (db : DBHelper) (p : Payment) (amountPaidMsat feesMsat : ℤ)
    (preimage : String) (now : Date) : DBHelper :=
  db.insertOrUpdatePayment (asPaid p amountPaidMsat feesMsat preimage now)

def updatePaymentFailed (db : DBHelper) (p : Payment) (now : Date) : DBHelper :=
  if p.status ≠ some .PAID then
    db.insertOrUpdatePayment { p with status := some .FAILED, updated := some now }
  else db

def updatePaymentPending (db : DBHelper) (p : Payment) (now : Date) : DBHelper :=
  if p.status ≠ some .PAID then
    db.insertOrUpdatePayment { p with status := some .PENDING, updated := some now }
  else db

/-- The fields that `updatePaymentReceived` sets. -/
def asReceived (p : Payment) (amountReceivedMsat : ℤ) (now : Date) : Payment :=
  { p with amountPaidMsat := amountReceivedMsat, status := some .PAID, updated := some now }

def updatePaymentReceived (db : DBHelper) (p : Payment) (amountReceivedMsat : ℤ) (now : Date) :
    DBHelper := db.insertOrUpdatePayment (asReceived p amountReceivedMsat now)

def cleanUpZeroConfs (db : DBHelper) : DBHelper :=
  let payments := db.payments.deleteWhere fun p => p.type = .BTC_ONCHAIN ∧ p.confidenceBlocks = 0
  clear { db with payments }

def deleteAllOnchainTxs (db : DBHelper) : DBHelper :=
  let payments := db.payments.deleteWhere fun p => p.type = .BTC_ONCHAIN
  clear { db with payments }

/-- Removes all Lightning payments in `INIT` status, be it sent or received. -/
def cleanLightningPayments (db : DBHelper) : DBHelper :=
  let payments := db.payments.deleteWhere fun p => p.type = .BTC_LN ∧ p.status = some .INIT
  clear { db with payments }

/-! ### Local channels -/

/-- `getLocalChannel`: the object attached to the row, found among the live ones, or the row. -/
def getLocalChannel (db : DBHelper) (live : ActorRef → Option LocalChannel)
    (channelId : Option String) : Option (Option ActorRef × LocalChannel) :=
  (db.localChannels.rows.find? fun c => c.channelId = channelId).map fun row =>
    match row.id.bind db.identityScope with
    | none => (none, row)
    | some ref =>
      match live ref with
      | none => (none, row)
      | some c => (some ref, c)

/-- `saveLocalChannel`, on the object that belongs to `owner`: channels without capacity are
ignored; otherwise the row is written, the object gets its key and is attached to it. -/
def saveLocalChannel (db : DBHelper) (owner : Option ActorRef) (c : LocalChannel) (now : Date) :
    DBHelper × LocalChannel :=
  if c.capacityMsat > 0 then
    let c := db.localChannels.stored { c with updated := some now }
    ({ db with
        localChannels := db.localChannels.insertOrReplace c.persisted
        identityScope := fun i => if c.id = some i then owner else db.identityScope i }, c)
  else (db, c)

/-! ### The Lightning row of a hash -/

theorem getPayment_eq (db : DBHelper) (reference : String) (type : PaymentType) :
    db.getPayment reference type = db.payments.get? (type, reference) := by
  unfold getPayment Table.get?
  congr 1
  funext p
  simp only [Payment.entity_key, Prod.mk.injEq, decide_eq_decide]
  exact and_comm

section Row

variable {db : DBHelper} {p : Payment} {reference : String} {type : PaymentType}

theorem key_of_getPayment (h : db.getPayment reference type = some p) :
    p.type = type ∧ p.reference = reference := by
  rw [getPayment_eq] at h
  simpa using Table.key_of_get? h

theorem getPayment_eq_some_iff : db.getPayment reference type = some p ↔
    p ∈ db.payments.rows ∧ p.type = type ∧ p.reference = reference := by
  rw [getPayment_eq, Table.get?_eq_some_iff]
  simp

theorem getPayment_insert_self (p : Payment) :
    (db.insertOrUpdatePayment p).getPayment p.reference p.type = some (db.payments.stored p) := by
  rw [getPayment_eq]
  exact db.payments.get?_insertOrReplace_self p

/-- Saving a fitting payment changes the payment of its own type and reference only. -/
theorem getPayment_insert (hfit : db.payments.Fits p) (reference : String) (type : PaymentType) :
    (db.insertOrUpdatePayment p).getPayment reference type =
      if (type, reference) = (p.type, p.reference) then some (db.payments.stored p)
      else db.getPayment reference type := by
  split
  · next he =>
    obtain ⟨rfl, rfl⟩ := Prod.mk.inj he
    exact getPayment_insert_self p
  · next hne =>
    rw [getPayment_eq, getPayment_eq]
    exact Table.get?_insertOrReplace_of_ne hfit hne

theorem fits_of_getPayment {q : Payment} (h : db.getPayment reference type = some q)
    (hid : p.id = q.id) (ht : p.type = q.type) (hr : p.reference = q.reference) :
    db.payments.Fits p := by
  rw [getPayment_eq] at h
  refine Table.Fits.of_get? h hid ?_
  rw [Payment.entity_key, ht, hr]
  exact Table.key_of_get? h

end Row

/-! ### The status of a Lightning payment -/

/-- The status column of the Lightning payment of a hash: `none` without a row. -/
def lnStatus (db : DBHelper) (hash : String) : Option (Option PaymentStatus) :=
  (db.getPayment hash .BTC_LN).map Payment.status

theorem lnStatus_eq_some_iff {db : DBHelper} {hash : String} {st : Option PaymentStatus} :
    db.lnStatus hash = some st ↔ ∃ p, db.getPayment hash .BTC_LN = some p ∧ p.status = st := by
  simp [lnStatus]

theorem lnStatus_congr {db db' : DBHelper} {hash : String}
    (h : db'.getPayment hash .BTC_LN = db.getPayment hash .BTC_LN) :
    db'.lnStatus hash = db.lnStatus hash := by unfold lnStatus; rw [h]

/-- Saving a fitting payment sets the status of its hash, if it is a Lightning payment. -/
theorem lnStatus_insert {db : DBHelper} {p : Payment} (hfit : db.payments.Fits p) (hash : String) :
    (db.insertOrUpdatePayment p).lnStatus hash =
      if p.type = .BTC_LN ∧ hash = p.reference then some p.status else db.lnStatus hash := by
  unfold lnStatus
  rw [getPayment_insert hfit]
  by_cases ht : p.type = .BTC_LN
  · by_cases hr : hash = p.reference
    · simp [ht, hr]
    · simp [ht, hr]
  · have hne : ¬ (PaymentType.BTC_LN, hash) = (p.type, p.reference) := fun he =>
      ht (Prod.mk.inj he).1.symm
    simp [ht, hne]

theorem lnStatus_insert_new {db : DBHelper} {p : Payment} (hid : p.id = none) (hash : String) :
    (db.insertOrUpdatePayment p).lnStatus hash =
      if p.type = .BTC_LN ∧ hash = p.reference then some p.status else db.lnStatus hash :=
  lnStatus_insert (Table.Fits.of_id_none hid) hash

/-- Saving a Lightning payment that was read sets its status and no other. -/
theorem lnStatus_save {db : DBHelper} {hash : String} {q : Payment} (p : Payment)
    (h : db.getPayment hash .BTC_LN = some q) (hid : p.id = q.id) (ht : p.type = q.type)
    (hr : p.reference = q.reference) (hash' : String) :
    (db.insertOrUpdatePayment p).lnStatus hash' =
      if hash' = hash then some p.status else db.lnStatus hash' := by
  obtain ⟨hqt, hqr⟩ := key_of_getPayment h
  rw [lnStatus_insert (fits_of_getPayment h hid ht hr)]
  simp [ht, hqt, hr, hqr]

section CleanUps

variable (db : DBHelper) (hash : String)

/-- Deleting on-chain payments keeps every Lightning payment. -/
theorem getPayment_deleteWhere_onchain {f : Payment → Bool}
    (hf : ∀ p, f p = true → p.type = .BTC_ONCHAIN) :
    (clear { db with payments := db.payments.deleteWhere f }).getPayment hash .BTC_LN =
      db.getPayment hash .BTC_LN := by
  rw [getPayment_eq, getPayment_eq, clear, Table.get?_deleteWhere]
  cases hp : db.payments.get? (.BTC_LN, hash) with
  | none => rfl
  | some p =>
    have ht : p.type = .BTC_LN := (Prod.mk.inj (Table.key_of_get? hp)).1
    cases hfp : f p with
    | false => simp [hfp]
    | true =>
      have := hf p hfp
      rw [ht] at this
      cases this

@[simp] theorem getPayment_cleanUpZeroConfs :
    db.cleanUpZeroConfs.getPayment hash .BTC_LN = db.getPayment hash .BTC_LN :=
  getPayment_deleteWhere_onchain db hash fun p h => by
    rw [decide_eq_true_eq] at h
    exact h.1

@[simp] theorem getPayment_deleteAllOnchainTxs :
    db.deleteAllOnchainTxs.getPayment hash .BTC_LN = db.getPayment hash .BTC_LN :=
  getPayment_deleteWhere_onchain db hash fun p h => by rwa [decide_eq_true_eq] at h

theorem getPayment_cleanLightningPayments :
    db.cleanLightningPayments.getPayment hash .BTC_LN =
      (db.getPayment hash .BTC_LN).filter fun p => p.status ≠ some .INIT := by
  rw [getPayment_eq, getPayment_eq, cleanLightningPayments, clear, Table.get?_deleteWhere]
  cases hp : db.payments.get? (.BTC_LN, hash) with
  | none => rfl
  | some p =>
    have ht : p.type = .BTC_LN := (Prod.mk.inj (Table.key_of_get? hp)).1
    simp [Option.filter, ht]

theorem lnStatus_cleanLightningPayments :
    db.cleanLightningPayments.lnStatus hash =
      if db.lnStatus hash = some (some .INIT) then none else db.lnStatus hash := by
  unfold lnStatus
  rw [getPayment_cleanLightningPayments]
  cases hp : db.getPayment hash .BTC_LN with
  | none => rfl
  | some p =>
    by_cases hs : p.status = some .INIT
    · simp [Option.filter, hs]
    · simp [Option.filter, hs]

end CleanUps

end DBHelper

end EclairMobile
