import EclairMobile.Activities.OpenChannelActivity
import EclairMobile.App.ElectrumState
import EclairMobile.Payments.PaidRuns

/-!
# ReceivePaymentFragment

The screen that asks for a payment.  A Lightning request is generated in the serial executor of the
app, inserted into the database, and published to the fields of the fragment; what is seen of it
comes from a runnable and from a bitmap, which are posted to the main thread.  The flag
`isGeneratingLightningPR` is set when a generation starts, and taken back with its bitmap or by its
failure.
-/

namespace EclairMobile

open Lib

/-- What the screen uses of the node: `CoinUtils` in the preferred unit, and
`PaymentRequest.write`. -/
structure ReceiveLibraries where
  /-- `convertStringAmountToMsat`, or none if it throws. -/
  convertStringAmountToMsat : String → Option ℤ
  rawAmountInUnit : ℤ → String
  write : PaymentRequest → String

structure ReceivePrefs where
  enableLightningInboundPayments : Bool := false
  paymentRequestDefaultDescription : String := ""
  paymentRequestExpiry : String := "3600"
  deriving DecidableEq, Repr

/-! ### The dialog for the parameters -/

structure PaymentRequestParametersDialog where
  maxReceivableAmount : ℤ
  description : String := ""
  amount : String := ""
  /-- The maximum that the warning shows. -/
  amountWarning : Option ℤ := none
  amountError : Bool := false
  showing : Bool := false
  deriving DecidableEq, Repr

namespace PaymentRequestParametersDialog

variable (lib : ReceiveLibraries) (dialog : PaymentRequestParametersDialog)

def extractAmount (amountString : String) : PaymentRequestParametersDialog × Option ℤ :=
  let dialog := { dialog with amountWarning := none, amountError := false }
  if amountString = "" then (dialog, none)
  else
    match lib.convertStringAmountToMsat amountString with
    | none => ({ dialog with amountError := true }, none)
    | some amount =>
      if amount > dialog.maxReceivableAmount then
        ({ dialog with amountWarning := dialog.maxReceivableAmount }, some amount)
      else (dialog, some amount)

/-- The text of the amount is set, and its watcher runs. -/
def setAmount (amount : String) : PaymentRequestParametersDialog :=
  (extractAmount lib { dialog with amount } amount).1

def setParams (description : String) (amount : Option ℤ) : PaymentRequestParametersDialog :=
  setAmount lib { dialog with description } (amount.elim "" lib.rawAmountInUnit)

/-- The listener of the confirm button: the dialog, and the amount that is confirmed, if one is. -/
def confirm : PaymentRequestParametersDialog × Option (Option ℤ) :=
  if dialog.amount = "" then (dialog, some none)
  else
    let (dialog, amount) := dialog.extractAmount lib dialog.amount
    (dialog, amount.map some)

end PaymentRequestParametersDialog

/-! ### The fragment -/

namespace ReceiveScreen

/-- How far a generation is. -/
inductive Pc
  | asked
  | answered (pr : PaymentRequest)
  /-- Inserted, or passed over without an app. -/
  | inserted (pr : PaymentRequest)
  deriving DecidableEq

/-- What waits in `AsyncTask.SERIAL_EXECUTOR`. -/
inductive Work
  | generate (pc : Pc)
  | onchainQr (address : String)
  | lightningQr (paymentRequestStr : String)
  deriving DecidableEq

/-- What waits in the queue of the main thread. -/
inductive Post
  | generated (paymentRequestStr : String)
  | failed
  | onchainQr (address : String) (drawn : Bool)
  | lightningQr (paymentRequestStr : String) (drawn : Bool)
  deriving DecidableEq

/-- The text view of the request. -/
inductive PrText
  | lightning_wait
  | lightning_error
  | request (paymentRequestStr : String)
  deriving DecidableEq, Repr

end ReceiveScreen

open ReceiveScreen in
/-- The fragment with its binding, the wallet around it, and the two queues. -/
structure ReceiveScreen where
  node : NodeSupervisor.State
  prefs : ReceivePrefs := {}
  attached : Bool := false
  resumed : Bool := false
  lightningUseDefaultDescription : Bool := true
  lightningPaymentRequest : Option String := none
  lightningPaymentHash : Option String := none
  lightningDescription : String := ""
  lightningAmount : Option ℤ := none
  mPRParamsDialog : Option PaymentRequestParametersDialog := none
  paymentType : ℕ := 0
  isLightningInboundEnabled : Bool := false
  hasNoLightningChannels : Bool := false
  isGeneratingLightningPR : Bool := false
  maxReceivable : ℤ := 0
  excessiveLightningAmount : Bool := false
  lightningPr : PrText := .lightning_wait
  /-- What the bitmap encodes: none is the placeholder. -/
  lightningQr : Option String := none
  /-- The description and the amount that are seen: none where the view is gone. -/
  lightningDescriptionView : Option String := none
  lightningAmountView : Option ℤ := none
  /-- What the listeners of the share button and of the bitmap were set to. -/
  lightningSharePr : Option String := none
  lightningQrListener : Option String := none
  onchainAddress : Option String := none
  onchainQr : Option String := none
  executor : List Work := []
  posts : List Post := []
  /-- History: the description and the amount with which the last generation was started. -/
  asked : String × Option ℤ := ("", none)
  /-- History: the requests that were inserted, the last first. -/
  recorded : List PaymentRequest := []

namespace ReceiveScreen

variable (lib : ReceiveLibraries) (s : ReceiveScreen)

/-! ### The views of a request -/

def updateLightningDescriptionView : ReceiveScreen :=
  { s with
    lightningDescriptionView :=
      if s.lightningDescription = s.prefs.paymentRequestDefaultDescription then none
      else some s.lightningDescription }

def updateLightningAmountView : ReceiveScreen :=
  { s with lightningAmountView := s.lightningAmount }

def checkLightningAmount : ReceiveScreen :=
  let maxReceivable := NodeSupervisor.getMaxReceivable s.node.activeChannelsMap
  { s with
    maxReceivable
    excessiveLightningAmount := s.lightningAmount.any fun amount => amount > maxReceivable }

def loadingPaymentRequestFields : ReceiveScreen :=
  { s with
    excessiveLightningAmount := false
    lightningPr := .lightning_wait
    lightningQr := none }

def resetPaymentRequestFields : ReceiveScreen :=
  let s := { s with
    lightningPaymentRequest := none
    lightningPaymentHash := none
    lightningDescription := s.prefs.paymentRequestDefaultDescription
    lightningAmount := none }
  { s.updateLightningDescriptionView.updateLightningAmountView with lightningQr := none }

def failPaymentRequestFields : ReceiveScreen :=
  resetPaymentRequestFields { s with lightningPr := .lightning_error }

/-! ### Asking for a request -/

def isCurrentPaymentRequestPaid : Bool :=
  s.lightningPaymentHash.any fun hash =>
    (s.node.dbHelper.getPayment hash .BTC_LN).any fun p => p.status = some .PAID

/-- `generatePaymentRequest`, as far as the executor. -/
def generatePaymentRequest : ReceiveScreen :=
  if s.prefs.enableLightningInboundPayments = true ∧ s.isGeneratingLightningPR = false then
    let lightningDescription :=
      if s.lightningUseDefaultDescription then s.prefs.paymentRequestDefaultDescription
      else s.lightningDescription
    let s := loadingPaymentRequestFields
      { s with isGeneratingLightningPR := true, lightningDescription }
    { s with
      executor := s.executor ++ [.generate .asked]
      asked := (s.lightningDescription, s.lightningAmount) }
  else s

def refreshLightningPaneState : ReceiveScreen :=
  if s.paymentType = 1 ∧ s.attached = true then
    let s := checkLightningAmount
      { s with
        hasNoLightningChannels := s.node.activeChannelsMap.entries.isEmpty
        isLightningInboundEnabled := s.prefs.enableLightningInboundPayments }
    if s.node.activeChannelsMap.entries.isEmpty = false ∧ s.isLightningInboundEnabled = true ∧
        s.isGeneratingLightningPR = false ∧
        (s.lightningPaymentRequest = none ∨ s.isCurrentPaymentRequestPaid = true) then
      s.resetPaymentRequestFields.generatePaymentRequest
    else s
  else s

/-- `onConfirm`, the callback of the dialog. -/
def onConfirm (description : String) (amount : Option ℤ) : ReceiveScreen :=
  generatePaymentRequest
    { s with
      lightningDescription := description
      lightningAmount := amount
      lightningUseDefaultDescription := false
      mPRParamsDialog := s.mPRParamsDialog.map fun dialog => { dialog with showing := false } }

/-! ### The executor -/

/-- The `catch` of a generation. -/
def caught (executor : List Work) : ReceiveScreen :=
  { s with
    isGeneratingLightningPR := false
    executor
    posts := if s.attached then s.posts ++ [.failed] else s.posts }

/-- The first step of a generation, with the answer of the node.  Without an app, or where the
expiry is no number, it throws. -/
def ask (answer : Option PaymentRequest) : ReceiveScreen :=
  match s.executor with
  | .generate .asked :: rest =>
    match answer with
    | some pr =>
      if s.attached = true ∧ (parseLong s.prefs.paymentRequestExpiry).isSome = true then
        { s with executor := .generate (.answered pr) :: rest }
      else s.caught rest
    | none => s.caught rest
  | _ => s

def insert (now : Date) (throws : Bool) : ReceiveScreen :=
  match s.executor with
  | .generate (.answered pr) :: rest =>
    if s.attached = false then { s with executor := .generate (.inserted pr) :: rest }
    else if throws then s.caught rest
    else
      { s with
        node.dbHelper := ReceivePaymentFragment.generatePaymentRequest s.node.dbHelper pr
          (lib.write pr) now
        executor := .generate (.inserted pr) :: rest
        recorded := pr :: s.recorded }
  | _ => s

/-- The end of a generation: the fields, the runnable, and the task that draws the bitmap. -/
def publish : ReceiveScreen :=
  match s.executor with
  | .generate (.inserted pr) :: rest =>
    { s with
      lightningPaymentRequest := lib.write pr
      lightningPaymentHash := pr.paymentHash
      lightningDescription := SendPaymentActivity.paymentDescription pr
      lightningAmount := pr.amount
      posts := if s.attached then s.posts ++ [.generated (lib.write pr)] else s.posts
      executor := rest ++ [.lightningQr (lib.write pr)] }
  | _ => s

/-- `doInBackground` of the two tasks that draw. -/
def draw (drawn : Bool) : ReceiveScreen :=
  match s.executor with
  | .onchainQr address :: rest =>
    { s with executor := rest, posts := s.posts ++ [.onchainQr address drawn] }
  | .lightningQr paymentRequestStr :: rest =>
    { s with executor := rest, posts := s.posts ++ [.lightningQr paymentRequestStr drawn] }
  | _ => s

/-! ### The main thread -/

def setOnchainAddress (address : Option String) : ReceiveScreen :=
  { s with
    executor :=
      match address with
      | some a => if s.onchainAddress = some a then s.executor else s.executor ++ [.onchainQr a]
      | none => s.executor
    onchainAddress := address }

def runPost : Post → ReceiveScreen
  | .generated paymentRequestStr =>
    { s.checkLightningAmount.updateLightningDescriptionView.updateLightningAmountView with
      lightningPr := .request paymentRequestStr
      lightningSharePr := paymentRequestStr
      lightningQrListener := paymentRequestStr }
  | .failed => s.failPaymentRequestFields
  | .onchainQr address drawn => if drawn then { s with onchainQr := address } else s
  | .lightningQr paymentRequestStr drawn =>
    let s := { s with isGeneratingLightningPR := false }
    if drawn then { s with lightningQr := paymentRequestStr } else s

/-- The next post. -/
def post : ReceiveScreen :=
  match s.posts with
  | p :: posts => runPost { s with posts } p
  | [] => s

/-- `sticky` is the last receive address that was posted: registering at the bus delivers it. -/
def onResume (sticky : Option String) (electrumState : Option App.ElectrumState) :
    ReceiveScreen :=
  let s := { s with attached := true, resumed := true }
  let s := sticky.elim s fun address => s.setOnchainAddress address
  let s := s.refreshLightningPaneState
  match electrumState with
  | some state =>
    if s.paymentType = 0 ∧ s.onchainAddress = none then s.setOnchainAddress state.onchainAddress
    else s
  | none => s

def onPause : ReceiveScreen :=
  { s with
    resumed := false
    mPRParamsDialog := s.mPRParamsDialog.map fun dialog => { dialog with showing := false } }

/-- The listener of the edit button. -/
def editPr : ReceiveScreen :=
  if s.isGeneratingLightningPR = false then
    let dialog := s.mPRParamsDialog.getD
      { maxReceivableAmount := NodeSupervisor.getMaxReceivable s.node.activeChannelsMap }
    { s with
      mPRParamsDialog := some
        { dialog.setParams lib s.lightningDescription s.lightningAmount with showing := true } }
  else s

def confirm : ReceiveScreen :=
  match s.mPRParamsDialog with
  | some dialog =>
    let (dialog, confirmed) := dialog.confirm lib
    let s := { s with mPRParamsDialog := some dialog }
    match confirmed with
    | some amount => s.onConfirm dialog.description amount
    | none => s
  | none => s

inductive Event
  | resume (sticky : Option String) (electrumState : Option App.ElectrumState)
  | pause
  /-- The pager takes the fragment away. -/
  | detach
  | handleNewWalletAddress (address : String)
  | pickOnchain
  | pickLightning
  | notifyChannelsUpdate
  | editPr
  | typeDescription (description : String)
  | typeAmount (amount : String)
  | confirm
  | cancel
  | setPrefs (prefs : ReceivePrefs)
  /-- What else writes payments. -/
  | other (action : PaidRuns.Action)
  | ask (answer : Option PaymentRequest)
  | insert (now : Date) (throws : Bool)
  | publish
  | draw (drawn : Bool)
  | post

def showsDialog : Bool := s.mPRParamsDialog.any fun dialog => dialog.showing

/-- A button of the fragment can be touched. -/
def touchable : Bool := s.resumed && !s.showsDialog

/-- The view that holds the request is visible. -/
def lightningView : Bool :=
  s.paymentType = 1 && s.isLightningInboundEnabled && !s.hasNoLightningChannels

/-- An answer of the node is a new request with the description and the amount that were given. -/
def Answers (pr : PaymentRequest) : Prop :=
  pr.description = .inl s.lightningDescription ∧ pr.amount = s.lightningAmount ∧
    s.node.dbHelper.lnStatus pr.paymentHash = none

instance (pr : PaymentRequest) : Decidable (s.Answers pr) :=
  inferInstanceAs (Decidable (_ ∧ _ ∧ _))

/-- The other writers of a process that has started: requests are generated here only, and the
clean-up of Lightning payments is over. -/
def isOther : PaidRuns.Action → Bool
  | .generatePaymentRequest _ _ _ | .cleanLightningPayments => false
  | _ => true

/-- A post that reads the context of the fragment. -/
def Post.needsContext : Post → Bool
  | .generated _ | .failed => true
  | .onchainQr _ _ | .lightningQr _ _ => false

/-- Which events are possible. -/
def Enabled : Event → Prop
  | .resume _ _ => s.resumed = false
  | .pause => s.resumed = true
  | .detach | .notifyChannelsUpdate => s.attached = true
  | .handleNewWalletAddress _ => s.resumed = true
  | .pickOnchain | .pickLightning => s.touchable = true
  | .editPr => s.touchable = true ∧ s.lightningView = true
  | .typeDescription _ | .typeAmount _ | .confirm | .cancel => s.showsDialog = true
  | .setPrefs _ => s.resumed = false
  | .other action => isOther action = true
  | .ask answer => s.executor.head? = some (.generate .asked) ∧
      (answer.all fun pr => s.Answers pr) = true
  | .insert _ _ => (s.executor.head?.any fun
      | .generate (.answered _) => true
      | _ => false) = true
  | .publish => (s.executor.head?.any fun
      | .generate (.inserted _) => true
      | _ => false) = true
  | .draw _ => (s.executor.head?.any fun
      | .onchainQr _ | .lightningQr _ => true
      | .generate _ => false) = true
  | .post => (s.posts.head?.any fun p => !p.needsContext || s.attached) = true

instance : DecidablePred s.Enabled
  | .resume _ _ | .pause | .detach | .notifyChannelsUpdate | .handleNewWalletAddress _
  | .pickOnchain | .pickLightning | .typeDescription _ | .typeAmount _ | .confirm | .cancel
  | .setPrefs _ | .other _ | .insert _ _ | .publish | .draw _ | .post =>
    inferInstanceAs (Decidable (_ = _))
  | .editPr | .ask _ => inferInstanceAs (Decidable (_ ∧ _))

def onDialog (f : PaymentRequestParametersDialog → PaymentRequestParametersDialog) :
    ReceiveScreen := { s with mPRParamsDialog := s.mPRParamsDialog.map f }

/-- What an event that is possible does. -/
def act : Event → ReceiveScreen
  | .resume sticky electrumState => s.onResume sticky electrumState
  | .pause => s.onPause
  | .detach => { s.onPause with attached := false }
  | .handleNewWalletAddress address => s.setOnchainAddress address
  | .pickOnchain => { s with paymentType := 0 }
  | .pickLightning => refreshLightningPaneState { s with paymentType := 1 }
  | .notifyChannelsUpdate => s.refreshLightningPaneState
  | .editPr => s.editPr lib
  | .typeDescription description => s.onDialog fun dialog => { dialog with description }
  | .typeAmount amount => s.onDialog fun dialog => dialog.setAmount lib amount
  | .confirm => s.confirm lib
  | .cancel => s.onDialog fun dialog => { dialog with showing := false }
  | .setPrefs prefs => { s with prefs }
  | .other action => { s with node := (PaidRuns.step s.node action).getD s.node }
  | .ask answer => s.ask answer
  | .insert now throws => s.insert lib now throws
  | .publish => s.publish lib
  | .draw drawn => s.draw drawn
  | .post => s.post

def step (e : Event) : Option ReceiveScreen := if s.Enabled e then some (s.act lib e) else none

end ReceiveScreen

end EclairMobile
