import Mathlib.Data.Rat.Defs
import EclairMobile.DBHelper

/-!
# App

What the application object does for payments: the request handed to the payment initiator, and the
clean-up of the database when a process starts.
-/

namespace EclairMobile

namespace App

/-! ### Sending -/

structure WeightRatios where
  cltvDeltaFactor : ℚ
  ageFactor : ℚ
  capacityFactor : ℚ
  deriving DecidableEq

structure MultiPartParams where
  minPartAmount : ℤ
  maxParts : ℤ
  deriving DecidableEq

/-- The router configuration of the node. -/
structure RouterConf where
  randomizeRouteSelection : Bool
  searchMaxRouteLength : ℤ
  searchMaxCltv : ℤ
  searchHeuristicsEnabled : Bool
  searchRatioCltv : ℚ
  searchRatioChannelAge : ℚ
  searchRatioChannelCapacity : ℚ
  mppMinPartAmount : ℤ
  mppMaxParts : ℤ

structure RouteParams where
  randomize : Bool
  maxFeeBase : ℤ
  maxFeePct : ℚ
  routeMaxLength : ℤ
  routeMaxCltv : ℤ
  ratios : Option WeightRatios
  mpp : MultiPartParams
  deriving DecidableEq

/-- What the payment initiator receives, without the fields that are always empty. -/
structure SendPaymentRequest where
  recipientAmount : ℤ
  paymentHash : String
  recipientNodeId : String
  maxAttempts : ℕ
  finalExpiryDelta : ℤ
  paymentRequest : Option PaymentRequest
  assistedRoutes : List (List ExtraHop)
  routeParams : Option RouteParams
  deriving DecidableEq

/-- A "no limit" `RouteParams` with no randomize, 1mBTC base fee, 100% prop fee. -/
def noLimit (routerConf : RouterConf) : RouteParams where
  randomize := routerConf.randomizeRouteSelection
  maxFeeBase := 100000000
  maxFeePct := 1
  routeMaxLength := routerConf.searchMaxRouteLength
  routeMaxCltv := routerConf.searchMaxCltv
  ratios :=
    if routerConf.searchHeuristicsEnabled then
      some ⟨routerConf.searchRatioCltv, routerConf.searchRatioChannelAge,
        routerConf.searchRatioChannelCapacity⟩
    else none
  mpp := ⟨routerConf.mppMinPartAmount, routerConf.mppMaxParts⟩

/-- `sendLNPayment`: the request told to the payment initiator.  `minCltvExpiryDelta` is
`Channel.MIN_CLTV_EXPIRY_DELTA` of the node. -/
def sendLNPayment (routerConf : RouterConf) (minCltvExpiryDelta : ℤ)
    (paymentRequest : PaymentRequest) (amount : ℤ) (checkFees : Bool) : SendPaymentRequest where
  recipientAmount := amount
  paymentHash := paymentRequest.paymentHash
  recipientNodeId := paymentRequest.nodeId
  maxAttempts := 10
  finalExpiryDelta := paymentRequest.minFinalCltvExpiryDelta.getD minCltvExpiryDelta + 1
  paymentRequest := some paymentRequest
  assistedRoutes := paymentRequest.routingInfo
  routeParams := if checkFees then none else some (noLimit routerConf)

/-! ### Starting -/

/-- The database part of `checkupInit`: the helper is opened and cleaned by the first start of a
process, and kept by later ones. -/
def checkupInit (dbHelper : Option DBHelper) (payments : PaymentTable)
    (localChannels : LocalChannelTable) : DBHelper :=
  let dbHelper := match dbHelper with
    | none => DBHelper.cleanLightningPayments ⟨payments, localChannels, fun _ => none⟩
    | some dbHelper => dbHelper
  dbHelper.cleanUpZeroConfs

/-- The database after a process was killed and the next one has run `checkupInit`. -/
def restart (db : DBHelper) : DBHelper := checkupInit none db.payments db.localChannels

/-- A start forgets the Lightning payments in `INIT`, and no other. -/
theorem lnStatus_restart (db : DBHelper) (hash : String) :
    (restart db).lnStatus hash =
      if db.lnStatus hash = some (some .INIT) then none else db.lnStatus hash := by
  have h : (restart db).lnStatus hash = db.cleanLightningPayments.lnStatus hash := by
    apply DBHelper.lnStatus_congr
    exact DBHelper.getPayment_cleanUpZeroConfs db.cleanLightningPayments hash
  rw [h, DBHelper.lnStatus_cleanLightningPayments]

end App

end EclairMobile
