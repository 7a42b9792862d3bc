import EclairMobile.Lib.Table

/-!
# Payments

The `Payment` entity.  Its unique index is on the type and the reference: the payment hash of a
Lightning payment, the transaction id of an on-chain one.  A field that the source leaves `null` is
`none`.
-/

namespace EclairMobile

open Lib

/-- Milliseconds since the epoch. -/
abbrev Date := ℤ

inductive PaymentType
  | BTC_LN
  | BTC_ONCHAIN
  deriving DecidableEq, Repr

inductive PaymentDirection
  | RECEIVED
  | SENT
  | FORWARDED
  deriving DecidableEq, Repr

inductive PaymentStatus
  | INIT
  | PENDING
  | PAID
  | FAILED
  deriving DecidableEq, Repr

structure Payment where
  id : Option ℕ := none
  type : PaymentType
  direction : PaymentDirection
  reference : String
  recipient : Option String := none
  preimage : Option String := none
  paymentRequest : Option String := none
  description : Option String := none
  confidenceBlocks : ℤ := 0
  confidenceType : ℤ := 0
  txPayload : Option String := none
  status : Option PaymentStatus := none
  created : Date
  updated : Option Date := none
  amountRequestedMsat : ℤ := 0
  amountSentMsat : ℤ := 0
  amountPaidMsat : ℤ := 0
  feesPaidMsat : ℤ := 0
  deriving DecidableEq, Repr

instance : Entity Payment (PaymentType × String) where
  id := Payment.id
  setId i p := { p with id := some i }
  key p := (p.type, p.reference)
  id_setId _ _ := rfl
  key_setId _ _ := rfl

/-- The table `PAYMENT`. -/
abbrev PaymentTable := Table Payment

namespace Payment

/-- `new Payment()` at the time `now`, with the three columns that must not be null. -/
def new (now : Date) (type : PaymentType) (direction : PaymentDirection) (reference : String) :
    Payment := { type, direction, reference, created := now }

@[simp] theorem entity_id (p : Payment) : Entity.id p = p.id := rfl
@[simp] theorem entity_key (p : Payment) : Entity.key p = (p.type, p.reference) := rfl
end Payment

section Stored

variable (t : PaymentTable) (p : Payment)

/-! Storing a payment gives it a primary key and changes nothing else. -/

@[simp] theorem stored_type : (t.stored p).type = p.type := rfl
@[simp] theorem stored_direction : (t.stored p).direction = p.direction := rfl
@[simp] theorem stored_reference : (t.stored p).reference = p.reference := rfl
@[simp] theorem stored_status : (t.stored p).status = p.status := rfl
@[simp] theorem stored_confidenceBlocks :
    (t.stored p).confidenceBlocks = p.confidenceBlocks := rfl
@[simp] theorem stored_amountPaidMsat : (t.stored p).amountPaidMsat = p.amountPaidMsat := rfl

end Stored

end EclairMobile
