import EclairMobile.Lib.Sql
import EclairMobile.Models.LocalChannel
import EclairMobile.Models.Payment

/-!
# The data access objects

What greenDAO generates for the two entities, as far as a migration depends on it: the columns of
the tables, and how a row of `PAYMENT` is read.  A property that is declared `NotNull` is read
through its converter without a null check.
-/

namespace EclairMobile

open Lib

/-- Why a row cannot be read. -/
inductive LoadError
  | nullPointerException
  | illegalArgumentException
  | noSuchColumn
  deriving DecidableEq, Repr

/-! ### Cells and converters -/

namespace Cursor

/-- `getString`, which is `null` for `NULL`. -/
def getString : Cell → Option String
  | none => none
  | some (.text s) => some s
  | some (.integer n) => some (toString n)

/-- `getLong`, which is 0 for `NULL`.  A column of integers holds no text. -/
def getLong : Cell → ℤ
  | some (.integer n) => n
  | some (.text _) | none => 0

def getInt (cell : Cell) : ℤ := (getLong cell).bmod (2 ^ 32)

end Cursor

open Cursor

/-- `Enum.valueOf` for constants with these names. -/
def valueOf {α : Type} (constants : List (String × α)) : Option String → Except LoadError α
  | none => .error .nullPointerException
  | some name =>
    match constants.lookup name with
    | none => .error .illegalArgumentException
    | some constant => .ok constant

def PaymentTypeConverter.convertToEntityProperty : Option String → Except LoadError PaymentType :=
  valueOf [("BTC_LN", .BTC_LN), ("BTC_ONCHAIN", .BTC_ONCHAIN)]

def PaymentDirectionConverter.convertToEntityProperty :
    Option String → Except LoadError PaymentDirection :=
  valueOf [("RECEIVED", .RECEIVED), ("SENT", .SENT), ("FORWARDED", .FORWARDED)]

def PaymentStatusConverter.convertToEntityProperty :
    Option String → Except LoadError PaymentStatus :=
  valueOf [("INIT", .INIT), ("PENDING", .PENDING), ("PAID", .PAID), ("FAILED", .FAILED)]

/-! ### Payments -/

namespace PaymentDao

def TABLENAME : String := "PAYMENT"

inductive Properties
  | Id
  | Type
  | Direction
  | Reference
  | Recipient
  | Preimage
  | PaymentRequest
  | LocalChannelId
  | SerializedRoute
  | Description
  | ConfidenceBlocks
  | ConfidenceType
  | TxPayload
  | Status
  | Created
  | Updated
  | LastErrorCause
  | AmountRequestedMsat
  | AmountSentMsat
  | AmountPaidMsat
  | FeesPaidMsat
  deriving DecidableEq, Repr

namespace Properties

def columnName : Properties → String
  | .Id => "_id"
  | .Type => "TYPE"
  | .Direction => "DIRECTION"
  | .Reference => "REFERENCE"
  | .Recipient => "RECIPIENT"
  | .Preimage => "PREIMAGE"
  | .PaymentRequest => "PAYMENT_REQUEST"
  | .LocalChannelId => "LOCAL_CHANNEL_ID"
  | .SerializedRoute => "SERIALIZED_ROUTE"
  | .Description => "DESCRIPTION"
  | .ConfidenceBlocks => "CONFIDENCE_BLOCKS"
  | .ConfidenceType => "CONFIDENCE_TYPE"
  | .TxPayload => "TX_PAYLOAD"
  | .Status => "STATUS"
  | .Created => "CREATED"
  | .Updated => "UPDATED"
  | .LastErrorCause => "LAST_ERROR_CAUSE"
  | .AmountRequestedMsat => "AMOUNT_REQUESTED_MSAT"
  | .AmountSentMsat => "AMOUNT_SENT_MSAT"
  | .AmountPaidMsat => "AMOUNT_PAID_MSAT"
  | .FeesPaidMsat => "FEES_PAID_MSAT"

def type : Properties → SqlType
  | .Id | .ConfidenceBlocks | .ConfidenceType | .Created | .Updated | .AmountRequestedMsat
  | .AmountSentMsat | .AmountPaidMsat | .FeesPaidMsat => .INTEGER
  | .Type | .Direction | .Reference | .Recipient | .Preimage | .PaymentRequest | .LocalChannelId
  | .SerializedRoute | .Description | .TxPayload | .Status | .LastErrorCause => .TEXT

def column (p : Properties) : Column := ⟨p.columnName, p.type⟩

/-- The properties in the order of the entity. -/
def all : List Properties :=
  [.Id, .Type, .Direction, .Reference, .Recipient, .Preimage, .PaymentRequest, .LocalChannelId,
    .SerializedRoute, .Description, .ConfidenceBlocks, .ConfidenceType, .TxPayload, .Status,
    .Created, .Updated, .LastErrorCause, .AmountRequestedMsat, .AmountSentMsat, .AmountPaidMsat,
    .FeesPaidMsat]

theorem mem_all (p : Properties) : p ∈ all := by
  cases p <;> decide

end Properties

/-- The columns of the table. -/
def columns : List Column := Properties.all.map Properties.column

/-- What a row of the table is read as: the arguments of the constructor of `Payment`. -/
structure Entity where
  id : Option ℤ
  type : PaymentType
  direction : PaymentDirection
  reference : Option String
  recipient : Option String
  preimage : Option String
  paymentRequest : Option String
  localChannelId : Option String
  serializedRoute : Option String
  description : Option String
  confidenceBlocks : ℤ
  confidenceType : ℤ
  txPayload : Option String
  status : Option PaymentStatus
  created : Date
  updated : Option Date
  lastErrorCause : Option String
  amountRequestedMsat : ℤ
  amountSentMsat : ℤ
  amountPaidMsat : ℤ
  feesPaidMsat : ℤ
  deriving DecidableEq, Repr

/-- The converter of the status is not asked about `NULL`. -/
def readStatus (cell : Cell) : Except LoadError (Option PaymentStatus) :=
  if cell.isNone then .ok none
  else (PaymentStatusConverter.convertToEntityProperty (getString cell)).map some

def readEntity (cell : Properties → Cell) : Except LoadError Entity := do
  let type ← PaymentTypeConverter.convertToEntityProperty (getString (cell .Type))
  let direction ← PaymentDirectionConverter.convertToEntityProperty (getString (cell .Direction))
  let status ← readStatus (cell .Status)
  .ok
    { id := (cell .Id).map fun _ => getLong (cell .Id)
      type := type
      direction := direction
      reference := getString (cell .Reference)
      recipient := getString (cell .Recipient)
      preimage := getString (cell .Preimage)
      paymentRequest := getString (cell .PaymentRequest)
      localChannelId := getString (cell .LocalChannelId)
      serializedRoute := getString (cell .SerializedRoute)
      description := getString (cell .Description)
      confidenceBlocks := getInt (cell .ConfidenceBlocks)
      confidenceType := getInt (cell .ConfidenceType)
      txPayload := getString (cell .TxPayload)
      status := status
      created := getLong (cell .Created)
      updated := (cell .Updated).map fun _ => getLong (cell .Updated)
      lastErrorCause := getString (cell .LastErrorCause)
      amountRequestedMsat := getLong (cell .AmountRequestedMsat)
      amountSentMsat := getLong (cell .AmountSentMsat)
      amountPaidMsat := getLong (cell .AmountPaidMsat)
      feesPaidMsat := getLong (cell .FeesPaidMsat) }

/-- A row is selected by the names of all columns, and read. -/
def load (t : SqlTable) (row : List Cell) : Except LoadError Entity :=
  if ∀ p ∈ Properties.all, (t.cell? row p.columnName).isSome then
    readEntity fun p => (t.cell? row p.columnName).join
  else .error .noSuchColumn

/-! ### What can be read -/

/-- The property can be read from the cell. -/
def Properties.Readable (p : Properties) (cell : Cell) : Prop :=
  match p with
  | .Type => ∃ type, PaymentTypeConverter.convertToEntityProperty (getString cell) = .ok type
  | .Direction =>
    ∃ direction, PaymentDirectionConverter.convertToEntityProperty (getString cell) = .ok direction
  | .Status => ∃ status, readStatus cell = .ok status
  | _ => True

/-- Only the two properties that are read without a null check cannot be `NULL`. -/
theorem readable_null_iff (p : Properties) : p.Readable none ↔ p ≠ .Type ∧ p ≠ .Direction := by
  cases p <;> simp [Properties.Readable, readStatus, getString, valueOf,
    PaymentTypeConverter.convertToEntityProperty, PaymentDirectionConverter.convertToEntityProperty]

theorem readEntity_ok_iff (cell : Properties → Cell) :
    (∃ e, readEntity cell = .ok e) ↔ ∀ p : Properties, p.Readable (cell p) := by
  unfold readEntity
  constructor
  · rintro ⟨e, he⟩ p
    obtain ⟨type, htype, he⟩ := bind_eq_ok_iff.mp he
    obtain ⟨direction, hdirection, he⟩ := bind_eq_ok_iff.mp he
    obtain ⟨status, hstatus, -⟩ := bind_eq_ok_iff.mp he
    -- three of the properties have a converter
    cases p <;>
      first
      | exact ⟨type, htype⟩
      | exact ⟨direction, hdirection⟩
      | exact ⟨status, hstatus⟩
      | trivial
  · intro h
    obtain ⟨type, htype⟩ := h .Type
    obtain ⟨direction, hdirection⟩ := h .Direction
    obtain ⟨status, hstatus⟩ := h .Status
    rw [htype, hdirection, hstatus]
    exact ⟨_, rfl⟩

theorem load_ok_iff {t : SqlTable} {row : List Cell} (cell : Properties → Cell)
    (h : ∀ p : Properties, t.cell? row p.columnName = some (cell p)) :
    (∃ e, load t row = .ok e) ↔ ∀ p : Properties, p.Readable (cell p) := by
  have hall : ∀ p ∈ Properties.all, (t.cell? row p.columnName).isSome := by
    intro p _
    rw [h p]
    rfl
  unfold load
  rw [if_pos hall, ← readEntity_ok_iff]
  simp only [h, Option.join_some]

end PaymentDao

/-! ### Channels -/

namespace LocalChannelDao

def TABLENAME : String := "LOCAL_CHANNEL"

inductive Properties
  | Id
  | ChannelId
  | ShortChannelId
  | PeerNodeId
  | PeerAddress
  | CapacityMsat
  | BalanceMsat
  | RefundAtBlock
  | ChannelReserveSat
  | MinimumHtlcAmountMsat
  | ToSelfDelayBlocks
  | FundingTxId
  | ClosingTxId
  | ClosingType
  | ClosingErrorMessage
  | LocalFeatures
  | IsActive
  | Created
  | Updated
  deriving DecidableEq, Repr

namespace Properties

def columnName : Properties → String
  | .Id => "_id"
  | .ChannelId => "CHANNEL_ID"
  | .ShortChannelId => "SHORT_CHANNEL_ID"
  | .PeerNodeId => "PEER_NODE_ID"
  | .PeerAddress => "PEER_ADDRESS"
  | .CapacityMsat => "CAPACITY_MSAT"
  | .BalanceMsat => "BALANCE_MSAT"
  | .RefundAtBlock => "REFUND_AT_BLOCK"
  | .ChannelReserveSat => "CHANNEL_RESERVE_SAT"
  | .MinimumHtlcAmountMsat => "MINIMUM_HTLC_AMOUNT_MSAT"
  | .ToSelfDelayBlocks => "TO_SELF_DELAY_BLOCKS"
  | .FundingTxId => "FUNDING_TX_ID"
  | .ClosingTxId => "CLOSING_TX_ID"
  | .ClosingType => "CLOSING_TYPE"
  | .ClosingErrorMessage => "CLOSING_ERROR_MESSAGE"
  | .LocalFeatures => "LOCAL_FEATURES"
  | .IsActive => "IS_ACTIVE"
  | .Created => "CREATED"
  | .Updated => "UPDATED"

def type : Properties → SqlType
  | .ChannelId | .ShortChannelId | .PeerNodeId | .PeerAddress | .FundingTxId | .ClosingTxId
  | .ClosingType | .ClosingErrorMessage | .LocalFeatures => .TEXT
  | .Id | .CapacityMsat | .BalanceMsat | .RefundAtBlock | .ChannelReserveSat
  | .MinimumHtlcAmountMsat | .ToSelfDelayBlocks | .IsActive | .Created | .Updated => .INTEGER

def column (p : Properties) : Column := ⟨p.columnName, p.type⟩

/-- The properties in the order of the entity, whose transient fields are not among them. -/
def all : List Properties :=
  [.Id, .ChannelId, .ShortChannelId, .PeerNodeId, .PeerAddress, .CapacityMsat, .BalanceMsat,
    .RefundAtBlock, .ChannelReserveSat, .MinimumHtlcAmountMsat, .ToSelfDelayBlocks, .FundingTxId,
    .ClosingTxId, .ClosingType, .ClosingErrorMessage, .LocalFeatures, .IsActive, .Created, .Updated]

end Properties

/-- The columns of the table. -/
def columns : List Column := Properties.all.map Properties.column

theorem names_nodup : (columns.map Column.name).Nodup := by decide

/-- `createTable(db, ifNotExists)` with `ifNotExists`. -/
def createTable (db : SqlDatabase) : SqlDatabase :=
  db.createTable TABLENAME (SqlTable.create columns names_nodup)

end LocalChannelDao

end EclairMobile
