import EclairMobile.Fragments.PinDialog
import EclairMobile.Lib.Reach
import Mathlib.Data.Int.Notation

/-!
# OpenChannelActivity

The screen that opens a channel: the page of the capacity and the fees, the page of the liquidity
that is bought with the channel, the PIN, and the two questions to the switchboard.  Pages are
changed by transactions that run later, dialogs confirm with a delay, and the price of the liquidity
is fixed when the offers are loaded for the first time.
-/

namespace EclairMobile

open Lib

/-- `Long.parseLong`. -/
def parseLong (text : String) : Option ℤ :=
  let digits? (digits : List Char) : Option ℤ :=
    if digits ≠ [] ∧ digits.all Char.isDigit = true then
      some (digits.foldl (fun value c => 10 * value + (c.toNat - '0'.toNat : ℕ)) 0)
    else none
  let value : Option ℤ :=
    match text.toList with
    | '-' :: digits => (digits? digits).map fun value => -value
    | '+' :: digits => digits? digits
    | digits => digits? digits
  value.filter fun value => -0x8000000000000000 ≤ value ∧ value < 0x8000000000000000

namespace App

/-- The answers of the fee estimator for a number of blocks, which may fail. -/
abbrev FeeEstimator := ℕ → Option ℤ

def estimateSlowFees (getFeeratePerKb : FeeEstimator) : ℤ :=
  match getFeeratePerKb 72 with
  | some feerate => max (feerate.tdiv 1000) 3
  | none => 3

def estimateMediumFees (getFeeratePerKb : FeeEstimator) : ℤ :=
  match getFeeratePerKb 12 with
  | some feerate => max (feerate.tdiv 1000) (estimateSlowFees getFeeratePerKb)
  | none => 18

def estimateFastFees (getFeeratePerKb : FeeEstimator) : ℤ :=
  match getFeeratePerKb 3 with
  | some feerate => max (feerate.tdiv 1000) (estimateMediumFees getFeeratePerKb)
  | none => 108

end App

open App (FeeEstimator estimateSlowFees estimateMediumFees estimateFastFees)

structure NodeURI where
  nodeId : String
  address : String
  deriving DecidableEq, Repr

def ACINQ_NODE_URI : NodeURI where
  nodeId := "03933884aaf1d6b108397e5efe5c86bcf2d8ca8d2f700eda99db9214fc2712b134"
  address := "endurance.acinq.co:9735"

/-- What is used of the node's library: amounts in the preferred unit, fee rates, the largest
funding, and the cost of an inbound capacity at the rate of the wallet context. -/
structure ChannelUnits (Rate : Type) where
  convertStringAmountToSat : String → Option ℤ
  rawAmountInUnit : ℤ → String
  feerateByte2Kw : ℤ → ℤ
  MAX_FUNDING : ℤ
  cost : (inboundCapacity_mbtc : ℕ) → Rate → ℤ

namespace OpenChannelActivity

/-- 1 mBTC. -/
def minFunding : ℤ := 100000

/-- 0.5 BTC. -/
def maxFunding : ℤ := 50000000

inductive Message
  | openchannel_error_address
  | openchannel_dns_seed
  | openchannel_capacity_invalid
  | openchannel_capacity_notenoughfunds
  | openchannel_error_capacity_nan
  | openchannel_error_fees_invalid
  | openchannel_liquidity_unavailable
  | home_toast_openchannel_failed
  | payment_fees_verylow
  | payment_fees_veryhigh
  | payment_error_incorrect_pin
  deriving DecidableEq, Repr

inductive FeeRating
  | SLOW
  | MEDIUM
  | FAST
  | CUSTOM
  deriving DecidableEq, Repr

/-- `OpenChannelCapacityFragment`, with its binding. -/
structure OpenChannelCapacityFragment where
  capacityValue : String := ""
  capacityEnabled : Bool := true
  fundingFeesValue : String := ""
  feeRatingState : FeeRating := .FAST
  useAllFundsCheckbox : Bool := false
  useAllFundsEnabled : Bool := true
  requestLiquidityCheckbox : Bool := false
  amountError : Option Message := none
  feesError : Option Message := none
  feesWarning : Option Message := none
  deriving DecidableEq, Repr

namespace OpenChannelCapacityFragment

variable {Rate : Type} (u : ChannelUnits Rate)

/-- The checkbox is unchecked by the program; its listener runs if it was checked. -/
def uncheckAllFunds (f : OpenChannelCapacityFragment) : OpenChannelCapacityFragment :=
  if f.useAllFundsCheckbox then { f with useAllFundsCheckbox := false, capacityEnabled := true }
  else f

/-- The fees in satoshi per kw, and the fragment with the feedback. -/
def extractFundingFees (estimator : FeeEstimator) (feesString : String)
    (f : OpenChannelCapacityFragment) : Option ℤ × OpenChannelCapacityFragment :=
  let f := uncheckAllFunds { f with feesWarning := none, feesError := none }
  match parseLong feesString with
  | none => (none, { f with feesError := some .openchannel_error_fees_invalid })
  | some feesSatPerByte =>
    let f :=
      if feesSatPerByte ≠ estimateSlowFees estimator ∧
          feesSatPerByte ≠ estimateMediumFees estimator ∧
          feesSatPerByte ≠ estimateFastFees estimator then
        { f with feeRatingState := .CUSTOM }
      else f
    let feesWarning :=
      if feesSatPerByte ≤ (estimateSlowFees estimator).tdiv 2 then some .payment_fees_verylow
      else if estimateFastFees estimator * 2 ≤ feesSatPerByte then some .payment_fees_veryhigh
      else none
    (some (u.feerateByte2Kw feesSatPerByte), { f with feesWarning := feesWarning })

/-- The capacity, and the fragment with the feedback. -/
def extractCapacity (onchainBalance : ℤ) (amount : String) (f : OpenChannelCapacityFragment) :
    Option ℤ × OpenChannelCapacityFragment :=
  match u.convertStringAmountToSat amount with
  | none => (none, { f with amountError := some .openchannel_error_capacity_nan })
  | some capacity =>
    if capacity < minFunding ∨ maxFunding < capacity then
      (none, { f with amountError := some .openchannel_capacity_invalid })
    else if onchainBalance < capacity then
      (none, { f with amountError := some .openchannel_capacity_notenoughfunds })
    else (some capacity, { f with amountError := none })

/-- `capacityValue.setText`, with its listener. -/
def setCapacityValue (onchainBalance : ℤ) (text : String) (f : OpenChannelCapacityFragment) :
    OpenChannelCapacityFragment :=
  (extractCapacity u onchainBalance text { f with capacityValue := text }).2

/-- `fundingFeesValue.setText`, with its listener. -/
def setFundingFeesValue (estimator : FeeEstimator) (text : String)
    (f : OpenChannelCapacityFragment) : OpenChannelCapacityFragment :=
  (extractFundingFees u estimator text { f with fundingFeesValue := text }).2

/-- When the view is created there is no listener yet. -/
def setFeesToDefault (estimator : FeeEstimator) (f : OpenChannelCapacityFragment) :
    OpenChannelCapacityFragment :=
  { f with feeRatingState := .FAST, fundingFeesValue := toString (estimateFastFees estimator) }

def pickFees (estimator : FeeEstimator) (f : OpenChannelCapacityFragment) :
    OpenChannelCapacityFragment :=
  match f.feeRatingState with
  | .SLOW =>
    setFundingFeesValue u estimator (toString (estimateMediumFees estimator))
      { f with feeRatingState := .MEDIUM }
  | .MEDIUM =>
    setFundingFeesValue u estimator (toString (estimateFastFees estimator))
      { f with feeRatingState := .FAST }
  | .FAST =>
    setFundingFeesValue u estimator (toString (estimateSlowFees estimator))
      { f with feeRatingState := .SLOW }
  | .CUSTOM =>
    setFundingFeesValue u estimator (toString (estimateFastFees estimator))
      { f with feeRatingState := .FAST }

/-- A click on the checkbox, without the thread that it starts. -/
def clickAllFunds (f : OpenChannelCapacityFragment) : OpenChannelCapacityFragment :=
  if f.useAllFundsCheckbox then { f with useAllFundsCheckbox := false, capacityEnabled := true }
  else { f with useAllFundsCheckbox := true, useAllFundsEnabled := false }

/-- The end of the thread of `useAllAvailableFunds`, which may fail. -/
def allFunds (available : Option ℤ) (onchainBalance : ℤ) (f : OpenChannelCapacityFragment) :
    OpenChannelCapacityFragment :=
  match available with
  | some available =>
    { setCapacityValue u onchainBalance (u.rawAmountInUnit (min available (u.MAX_FUNDING - 1))) f
      with capacityEnabled := false, useAllFundsEnabled := true }
  | none => { f with useAllFundsEnabled := true }

end OpenChannelCapacityFragment

/-- What the page of the capacity hands over. -/
structure Funding where
  capacity : ℤ
  feesSatPerKW : ℤ
  /-- History: the two fields, and the balance at this moment. -/
  capacityValue : String
  fundingFeesValue : String
  onchainBalance : ℤ
  deriving DecidableEq, Repr

namespace OpenChannelCapacityFragment

/-- `confirmOpenChannel`: what is handed over, if both fields are correct. -/
def confirmOpenChannel {Rate : Type} (u : ChannelUnits Rate) (estimator : FeeEstimator)
    (onchainBalance : ℤ) (f : OpenChannelCapacityFragment) :
    Option Funding × OpenChannelCapacityFragment :=
  let (capacity, f) := extractCapacity u onchainBalance f.capacityValue f
  let (feesSatPerKW, f) := extractFundingFees u estimator f.fundingFeesValue f
  let funding := capacity.bind fun capacity => feesSatPerKW.map fun feesSatPerKW =>
    { capacity := capacity
      feesSatPerKW := feesSatPerKW
      capacityValue := f.capacityValue
      fundingFeesValue := f.fundingFeesValue
      onchainBalance := onchainBalance }
  (funding, f)

end OpenChannelCapacityFragment

/-- The inbound capacities that are offered, in mBTC. -/
inductive LiquidityRequest
  | _10_MBTC
  | _25_MBTC
  | _50_MBTC
  deriving DecidableEq, Repr

namespace LiquidityRequest

def inboundCapacity : LiquidityRequest → ℕ
  | ._10_MBTC => 10
  | ._25_MBTC => 25
  | ._50_MBTC => 50

/-- The cost, as computed when the offers were loaded. -/
def cost {Rate : Type} (u : ChannelUnits Rate) (loadedWith : Option Rate) (r : LiquidityRequest) :
    ℤ :=
  match loadedWith with
  | some liquidityRate => u.cost r.inboundCapacity liquidityRate
  | none => 0

end LiquidityRequest

/-- `OpenChannelLiquidityFragment`, with its binding. -/
structure OpenChannelLiquidityFragment where
  funding : Option Funding := none
  liquidityOpt : Option LiquidityRequest := none
  /-- `onStart` has set the listeners. -/
  listening : Bool := false
  deriving DecidableEq, Repr

/-- An order to open a channel. -/
structure Order where
  nodeURI : NodeURI
  funding : Funding
  push : ℤ
  isPinRequired : Bool
  deriving DecidableEq, Repr

/-- The order behind `openChannel_secure`, with the dialog, if it needs one. -/
structure Press where
  order : Order
  dialog : Option PinDialog := none
  /-- History: the calls of `doOpenChannel`. -/
  openings : ℕ := 0
  deriving DecidableEq, Repr

/-- A call of `doOpenChannel`. -/
structure Opening where
  order : Order
  /-- History: the PIN that was entered, and that of the app. -/
  pin : Option (String × String)
  deriving DecidableEq, Repr

/-- `Peer.OpenChannel`. -/
structure OpenChannel where
  remoteNodeId : String
  fundingSatoshis : ℤ
  pushMsat : ℤ
  fundingTxFeeratePerKw_opt : Option ℤ
  deriving DecidableEq, Repr

def Opening.message (o : Opening) : OpenChannel where
  remoteNodeId := o.order.nodeURI.nodeId
  fundingSatoshis := o.order.funding.capacity
  pushMsat := o.order.push
  fundingTxFeeratePerKw_opt := some o.order.funding.feesSatPerKW

inductive Page
  | capacity
  | liquidity
  deriving DecidableEq, Repr

end OpenChannelActivity

open OpenChannelActivity

/-- The activity, with the wallet context and the offers of the process. -/
structure OpenChannelActivity (Rate : Type) where
  /-- The URI of the intent is being read. -/
  reading : Bool := true
  nodeURI : Option NodeURI := none
  errorMessage : Option OpenChannelActivity.Message := none
  mCapacityFragment : OpenChannelCapacityFragment := {}
  mLiquidityFragment : OpenChannelLiquidityFragment := {}
  page : Option Page := none
  /-- The transactions that are committed and have not run. -/
  transactions : List Page := []
  /-- How many of the transactions that have run can be taken back. -/
  backStack : ℕ := 0
  /-- The threads of `useAllAvailableFunds`. -/
  fundsThreads : ℕ := 0
  /-- The dialog of the last press that needed one. -/
  pinDialog : Option ℕ := none
  presses : List Press := []
  /-- The openings that wait for the connection. -/
  connecting : List Opening := []
  /-- The openings whose `Peer.OpenChannel` was sent to the switchboard. -/
  sent : List Opening := []
  toasts : List OpenChannelActivity.Message := []
  finished : Bool := false
  walletContext : Option Rate := none
  /-- `LIQUIDITY_REQUESTS`, with the rate at the moment when the class was loaded. -/
  liquidityRequests : Option (Option Rate) := none

namespace OpenChannelActivity

variable {Rate : Type}

/-! ### The pages -/

/-- `onCreate`, in a process that may have a wallet context and loaded offers. -/
def onCreate (useDnsSeed : Bool) (walletContext : Option Rate)
    (liquidityRequests : Option (Option Rate)) : OpenChannelActivity Rate where
  reading := !useDnsSeed
  errorMessage := if useDnsSeed then some .openchannel_dns_seed else none
  walletContext := walletContext
  liquidityRequests := liquidityRequests

def processNodeURIFinish (uri : Option NodeURI) (estimator : FeeEstimator)
    (s : OpenChannelActivity Rate) : OpenChannelActivity Rate :=
  match uri with
  | none => { s with reading := false, errorMessage := some .openchannel_error_address }
  | some uri =>
    { s with
      reading := false
      nodeURI := some uri
      mCapacityFragment := OpenChannelCapacityFragment.setFeesToDefault estimator {}
      mLiquidityFragment := {}
      transactions := s.transactions ++ [.capacity] }

def goToCapacityPage (s : OpenChannelActivity Rate) : OpenChannelActivity Rate :=
  { s with transactions := s.transactions ++ [.capacity] }

def goToLiquidityPage (funding : Funding) (s : OpenChannelActivity Rate) :
    OpenChannelActivity Rate :=
  { s with
    mLiquidityFragment := { s.mLiquidityFragment with funding := some funding }
    transactions := s.transactions ++ [.liquidity] }

/-- A committed transaction runs; only the way to the liquidity can be taken back. -/
def runTransaction (s : OpenChannelActivity Rate) (page : Page) : OpenChannelActivity Rate :=
  { s with
    page := some page
    backStack := s.backStack + if page = .liquidity then 1 else 0 }

def executePendingTransactions (s : OpenChannelActivity Rate) : OpenChannelActivity Rate :=
  s.transactions.foldl runTransaction { s with transactions := [] }

def finish (s : OpenChannelActivity Rate) : OpenChannelActivity Rate := { s with finished := true }

/-- The last way to the liquidity is taken back, or the screen is left. -/
def onBackPressed (s : OpenChannelActivity Rate) : OpenChannelActivity Rate :=
  let s := s.executePendingTransactions
  if 0 < s.backStack then { s with page := some .capacity, backStack := s.backStack - 1 }
  else s.finish

/-- `onStart` of the fragment of the liquidity.  The offers are loaded when they are used for the
first time. -/
def startLiquidity (u : ChannelUnits Rate) (s : OpenChannelActivity Rate) :
    OpenChannelActivity Rate :=
  let loadedWith := s.liquidityRequests.getD s.walletContext
  let s := { s with liquidityRequests := some loadedWith }
  if LiquidityRequest._10_MBTC.cost u loadedWith = 0 ∨
      LiquidityRequest._25_MBTC.cost u loadedWith = 0 ∨
      LiquidityRequest._50_MBTC.cost u loadedWith = 0 then
    goToCapacityPage
      { s with mLiquidityFragment := { s.mLiquidityFragment with liquidityOpt := none } }
  else { s with mLiquidityFragment := { s.mLiquidityFragment with listening := true } }

/-! ### The channel -/

/-- The thread that asks the switchboard is started, and the screen is left. -/
def doOpenChannel (opening : Opening) (s : OpenChannelActivity Rate) : OpenChannelActivity Rate :=
  finish { s with connecting := s.connecting ++ [opening] }

def openChannel_secure (nodeURI : Option NodeURI) (funding : Funding) (push : ℤ)
    (isPinRequired : Bool) (s : OpenChannelActivity Rate) : OpenChannelActivity Rate :=
  match nodeURI with
  | none => s.finish
  | some nodeURI =>
    let order : Order :=
      { nodeURI := nodeURI
        funding := funding
        push := push
        isPinRequired := isPinRequired }
    if isPinRequired then
      { s with
        presses := s.presses ++ [{ order := order, dialog := some (PinDialog.shows {}) }]
        pinDialog := some s.presses.length }
    else
      doOpenChannel { order := order, pin := none }
        { s with presses := s.presses ++ [{ order := order, openings := 1 }] }

def onCapacityConfirm (funding : Funding) (requireLiquidity isPinRequired : Bool)
    (s : OpenChannelActivity Rate) : OpenChannelActivity Rate :=
  if requireLiquidity ∧ s.nodeURI.map NodeURI.nodeId = some ACINQ_NODE_URI.nodeId then
    if s.walletContext.isNone then
      { s with toasts := s.toasts ++ [.openchannel_liquidity_unavailable] }
    else s.goToLiquidityPage funding
  else s.openChannel_secure s.nodeURI funding 0 isPinRequired

/-- A click on the button of the page of the capacity. -/
def confirmOpenChannel (u : ChannelUnits Rate) (estimator : FeeEstimator) (onchainBalance : ℤ)
    (isPinRequired : Bool) (s : OpenChannelActivity Rate) : OpenChannelActivity Rate :=
  let (funding, f) := s.mCapacityFragment.confirmOpenChannel u estimator onchainBalance
  let s := { s with mCapacityFragment := f }
  match funding with
  | some funding => s.onCapacityConfirm funding f.requestLiquidityCheckbox isPinRequired
  | none => s

/-- The push of the chosen offer, or nothing. -/
def push (u : ChannelUnits Rate) (s : OpenChannelActivity Rate) : ℤ :=
  match s.mLiquidityFragment.liquidityOpt with
  | some request => request.cost u (s.liquidityRequests.getD s.walletContext)
  | none => 0

/-- A click on the button of the page of the liquidity, which is shown only with a capacity. -/
def onLiquidityConfirm (u : ChannelUnits Rate) (isPinRequired : Bool)
    (s : OpenChannelActivity Rate) : OpenChannelActivity Rate :=
  match s.mLiquidityFragment.funding with
  | some funding => s.openChannel_secure s.nodeURI funding (s.push u) isPinRequired
  | none => s

/-! ### The PIN dialog -/

/-- The press `i` with its dialog. -/
def dialog? (s : OpenChannelActivity Rate) (i : ℕ) : Option (Press × PinDialog) :=
  s.presses[i]?.bind fun press => press.dialog.map fun dialog => (press, dialog)

def setDialog (i : ℕ) (press : Press) (dialog : PinDialog) (s : OpenChannelActivity Rate) :
    OpenChannelActivity Rate :=
  { s with presses := s.presses.set i { press with dialog := some dialog } }

/-- A posted confirmation runs.  `app` is the PIN of the app, or `none` if the app is not ready and
`checkInit` goes back to `StartupActivity`. -/
def onPinConfirm (i : ℕ) (press : Press) (dialog : PinDialog) (app : Option String)
    (s : OpenChannelActivity Rate) : OpenChannelActivity Rate :=
  match app with
  | none =>
    { s.setDialog i press dialog.confirm with
      errorMessage := some .payment_error_incorrect_pin
      finished := true }
  | some pin =>
    let closed := dialog.confirm.dismiss
    if PinDialog.text dialog.mPinValue = pin then
      doOpenChannel
        { order := press.order
          pin := some (PinDialog.text dialog.mPinValue, pin) }
        (s.setDialog i { press with openings := press.openings + 1 } closed)
    else { s.setDialog i press closed with errorMessage := some .payment_error_incorrect_pin }

/-- What `onPause` does to the dialog of the last press. -/
def onPause (s : OpenChannelActivity Rate) : OpenChannelActivity Rate :=
  match s.pinDialog.bind fun i => (s.dialog? i).map fun d => (i, d) with
  | some (i, press, dialog) => s.setDialog i press dialog.dismiss
  | none => s

/-- The switchboard answers to `Peer.Connect`, or the question fails. -/
def onConnectComplete (opening : Opening) (answer : Option String)
    (s : OpenChannelActivity Rate) : OpenChannelActivity Rate :=
  let s := { s with connecting := s.connecting.erase opening }
  if answer = some "connected" ∨ answer = some "already connected" then
    { s with sent := s.sent ++ [opening] }
  else { s with toasts := s.toasts ++ [.home_toast_openchannel_failed] }

/-! ### Events -/

inductive Event (Rate : Type)
  /-- The URI of the intent was read, or could not be. -/
  | processNodeURIFinish (uri : Option NodeURI) (estimator : FeeEstimator)
  | fetchedWalletContext (liquidityRate : Rate)
  | startLiquidity
  | executePendingTransactions
  | typeCapacity (text : String) (onchainBalance : ℤ)
  | typeFees (text : String) (estimator : FeeEstimator)
  | pickFees (estimator : FeeEstimator)
  | requestLiquidity (isChecked : Bool)
  | useAllFunds
  | allFunds (available : Option ℤ) (onchainBalance : ℤ)
  | confirmOpenChannel (estimator : FeeEstimator) (onchainBalance : ℤ) (isPinRequired : Bool)
  | onCapacityBack
  | setLiquidityOpt (request : LiquidityRequest)
  | onLiquidityConfirm (isPinRequired : Bool)
  | onLiquidityBack
  | onBackPressed
  /-- A key of the PIN dialog of a press. -/
  | onClick (i : ℕ) (key : PinKey)
  | onPinCancel (i : ℕ)
  | onPinConfirm (i : ℕ) (app : Option String)
  | onPause
  | onConnectComplete (opening : Opening) (answer : Option String)

/-- Which events are possible, also on a screen that is being left. -/
def Enabled (s : OpenChannelActivity Rate) : Event Rate → Prop
  | .processNodeURIFinish _ _ => s.reading = true
  | .fetchedWalletContext _ | .executePendingTransactions | .onBackPressed | .onPause => True
  | .startLiquidity => s.page.isSome
  | .typeCapacity _ _ => s.page = some .capacity ∧ s.mCapacityFragment.capacityEnabled
  | .useAllFunds => s.page = some .capacity ∧ s.mCapacityFragment.useAllFundsEnabled
  | .typeFees _ _ | .pickFees _ | .requestLiquidity _ | .confirmOpenChannel _ _ _
  | .onCapacityBack => s.page = some .capacity
  | .allFunds _ _ => 0 < s.fundsThreads
  | .setLiquidityOpt _ | .onLiquidityConfirm _ | .onLiquidityBack =>
    s.page = some .liquidity ∧ s.mLiquidityFragment.listening
  | .onClick i _ | .onPinCancel i => ((s.dialog? i).any fun d => d.2.showing) = true
  | .onPinConfirm i _ => ((s.dialog? i).any fun d => 0 < d.2.posted) = true
  | .onConnectComplete opening _ => opening ∈ s.connecting

instance (s : OpenChannelActivity Rate) : DecidablePred s.Enabled
  | .processNodeURIFinish _ _ => inferInstanceAs (Decidable (s.reading = true))
  | .fetchedWalletContext _ | .executePendingTransactions | .onBackPressed | .onPause =>
    inferInstanceAs (Decidable True)
  | .startLiquidity => inferInstanceAs (Decidable (s.page.isSome = true))
  | .typeCapacity _ _ | .useAllFunds | .setLiquidityOpt _ | .onLiquidityConfirm _
  | .onLiquidityBack => inferInstanceAs (Decidable (_ ∧ _))
  | .typeFees _ _ | .pickFees _ | .requestLiquidity _ | .confirmOpenChannel _ _ _
  | .onCapacityBack => inferInstanceAs (Decidable (s.page = some .capacity))
  | .allFunds _ _ => inferInstanceAs (Decidable (0 < s.fundsThreads))
  | .onClick _ _ | .onPinCancel _ | .onPinConfirm _ _ => inferInstanceAs (Decidable (_ = true))
  | .onConnectComplete _ _ => inferInstanceAs (Decidable (_ ∈ s.connecting))

/-- A change of the page of the capacity. -/
def onCapacityPage (s : OpenChannelActivity Rate)
    (f : OpenChannelCapacityFragment → OpenChannelCapacityFragment) : OpenChannelActivity Rate :=
  { s with mCapacityFragment := f s.mCapacityFragment }

/-- A change of the dialog of a press. -/
def onDialog (i : ℕ) (f : Press → PinDialog → OpenChannelActivity Rate)
    (s : OpenChannelActivity Rate) : OpenChannelActivity Rate :=
  match s.dialog? i with
  | some (press, dialog) => f press dialog
  | none => s

def act (u : ChannelUnits Rate) (s : OpenChannelActivity Rate) :
    Event Rate → OpenChannelActivity Rate
  | .processNodeURIFinish uri estimator => s.processNodeURIFinish uri estimator
  | .fetchedWalletContext liquidityRate => { s with walletContext := some liquidityRate }
  | .startLiquidity => s.startLiquidity u
  | .executePendingTransactions => s.executePendingTransactions
  | .typeCapacity text onchainBalance =>
    s.onCapacityPage fun f => f.setCapacityValue u onchainBalance text
  | .typeFees text estimator => s.onCapacityPage fun f => f.setFundingFeesValue u estimator text
  | .pickFees estimator => s.onCapacityPage fun f => f.pickFees u estimator
  | .requestLiquidity isChecked =>
    s.onCapacityPage fun f => { f with requestLiquidityCheckbox := isChecked }
  | .useAllFunds =>
    onCapacityPage { s with
      fundsThreads := if s.mCapacityFragment.useAllFundsCheckbox then s.fundsThreads
        else s.fundsThreads + 1 } fun f => f.clickAllFunds
  | .allFunds available onchainBalance =>
    onCapacityPage { s with fundsThreads := s.fundsThreads - 1 } fun f =>
      f.allFunds u available onchainBalance
  | .confirmOpenChannel estimator onchainBalance isPinRequired =>
    s.confirmOpenChannel u estimator onchainBalance isPinRequired
  | .onCapacityBack => s.finish
  | .setLiquidityOpt request =>
    { s with mLiquidityFragment := { s.mLiquidityFragment with liquidityOpt := some request } }
  | .onLiquidityConfirm isPinRequired => s.onLiquidityConfirm u isPinRequired
  | .onLiquidityBack =>
    goToCapacityPage
      { s with mLiquidityFragment := { s.mLiquidityFragment with liquidityOpt := none } }
  | .onBackPressed => s.onBackPressed
  | .onClick i key => s.onDialog i fun press dialog => s.setDialog i press (dialog.onClick key)
  | .onPinCancel i => s.onDialog i fun press dialog => s.setDialog i press dialog.dismiss
  | .onPinConfirm i app => s.onDialog i fun press dialog => s.onPinConfirm i press dialog app
  | .onPause => s.onPause
  | .onConnectComplete opening answer => s.onConnectComplete opening answer

/-- One event, if it is possible. -/
def step (u : ChannelUnits Rate) (s : OpenChannelActivity Rate) (event : Event Rate) :
    Option (OpenChannelActivity Rate) :=
  if s.Enabled event then some (s.act u event) else none

theorem step_eq_some_iff {u : ChannelUnits Rate} {s s' : OpenChannelActivity Rate}
    {event : Event Rate} : step u s event = some s' ↔ s.Enabled event ∧ s.act u event = s' := by
  unfold step
  split_ifs with h
  · simp [h]
  · simp [h]

end OpenChannelActivity

end EclairMobile
