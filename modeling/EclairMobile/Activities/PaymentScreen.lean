import EclairMobile.Activities.SendPaymentActivity
import EclairMobile.Fragments.PinDialog

/-!
# The payment screen

What `SendPaymentActivity` does on its main thread, event by event: setting up the form, a press of
Send with the PIN dialog or the biometric prompt that it opens, their results, and the life cycle.
-/

namespace EclairMobile

structure BitcoinURI where
  address : String
  lightning : Option PaymentRequest
  deriving DecidableEq, Repr

namespace SendPaymentActivity

inductive Steps
  | LOADING
  | INVOICE_READING_ERROR
  | PICK_PAYMENT_SETTLEMENT_TYPE
  | ON_CHAIN_PAYMENT
  | LIGHTNING_PAYMENT
  deriving DecidableEq, Repr

/-- The messages that the screen shows. -/
inductive Message
  | payment_invalid_generic
  | payment_invalid_lightning
  | payment_invalid_onchain
  | payment_ln_invalid_chain
  | payment_ln_expiry_outdated
  | payment_error_same_node
  | payment_error_ln_no_channels
  | payment_error_ln_insufficient_funds
  | payment_error_pending
  | payment_error_paid
  | payment_error_unhandled_state
  | payment_error_amount
  | payment_error_amount_zero_or_less
  | payment_error_amount_onchain_insufficient_funds
  | payment_error_fees_onchain
  | payment_error_incorrect_pin
  | payment_error
  deriving DecidableEq, Repr

/-- The message of a payment that `sendLNPayment` gives up. -/
def Abort.message : Abort → Message
  | .payment_error_pending => .payment_error_pending
  | .payment_error_paid => .payment_error_paid
  | .payment_error_unhandled_state => .payment_error_unhandled_state

/-- What is handed to the electrum wallet. -/
inductive Submission
  | sendOnchain (amountSat : ℤ) (address : String) (feesPerKw : ℤ)
  | sendAllOnchain (address : String) (feesPerKw : ℤ)
  deriving DecidableEq, Repr

/-- The payment that a press of Send has prepared. -/
inductive Execution
  | sendLNPayment (order : Order)
  | sendBitcoinPayment (amountSat feesPerKw : ℤ) (bitcoinURI : BitcoinURI) (emptyWallet : Bool)
  deriving DecidableEq, Repr

/-- An accepted press of Send that came to a payment: its PIN dialog, if it needs one, and what was
submitted on-chain for it so far. -/
structure Press where
  execution : Execution
  dialog : Option PinDialog := none
  submissions : List Submission := []
  deriving DecidableEq, Repr

/-- Why an amount could not be read. -/
inductive AmountError
  | numberFormatException
  | exception
  deriving DecidableEq, Repr

/-- The message of the `catch` blocks of `confirmPayment` for an amount that could not be read. -/
def AmountError.message : AmountError → Message
  | .numberFormatException => .payment_error_amount
  | .exception => .payment_error

/-- The codes of `onAuthenticationError` that are told apart. -/
inductive BiometricError
  | ERROR_NEGATIVE_BUTTON
  | ERROR_USER_CANCELED
  | other (errorCode : ℤ)
  deriving DecidableEq, Repr

/-- What a press of Send finds: the readiness of the wallet (`none` without app or electrum state),
the amount in the unit of the payment, the balance, the fees (`none` if they are not a number), and
the settings. -/
structure Form where
  walletReady : Option Bool
  amount : Except AmountError ℤ
  onchainBalance : ℤ
  isExpired : Bool
  feesPerKw : Option ℤ
  emptyWallet : Bool
  isPinRequired : Bool
  canUseBiometric : Bool

/-- The activity.  A press is known by its position in `presses`. -/
structure Screen where
  isProcessingPayment : Bool := false
  invoice : Option (BitcoinURI ⊕ PaymentRequest) := none
  invoiceAsString : String := ""
  paymentStep : Steps := .LOADING
  enableSendButton : Bool := true
  formEnabled : Bool := true
  paymentError : Option Message := none
  readError : Option Message := none
  mPinDialog : Option ℕ := none
  presses : List Press := []
  /-- The presses whose biometric prompt has not ended. -/
  prompts : List ℕ := []
  /-- The presses whose `sendLNPayment` thread is running. -/
  threads : List ℕ := []
  /-- `finish()` was called, or `StartupActivity` clears the task. -/
  left : Bool := false
  deriving DecidableEq, Repr

namespace Screen

/-! ### The form -/

def toggleForm (s : Screen) : Screen :=
  if s.isProcessingPayment then { s with formEnabled := false, paymentError := none }
  else { s with formEnabled := true }

def handlePaymentError (s : Screen) (message : Message) : Screen :=
  { toggleForm { s with isProcessingPayment := false } with paymentError := some message }

def canNotHandlePayment (s : Screen) (message : Message) : Screen :=
  { s with readError := some message, paymentStep := .INVOICE_READING_ERROR }

def closeAndGoHome (s : Screen) : Screen := { s with left := true }

def checkWalletReady (s : Screen) (walletReady : Option Bool) : Screen :=
  match walletReady with
  | some isWalletReady => { s with enableSendButton := isWalletReady }
  | none => s

def setupOnchainPaymentForm (s : Screen) (bitcoinURI : BitcoinURI) (walletReady : Option Bool) :
    Screen :=
  { s.checkWalletReady walletReady with
    paymentStep := .ON_CHAIN_PAYMENT
    invoice := some (.inl bitcoinURI) }

/-- `invalid` is the message of `checkPaymentRequestValid`, if the check fails. -/
def setupLightningPaymentForm (s : Screen) (paymentRequest : PaymentRequest)
    (invalid : Option Message) (walletReady : Option Bool) : Screen :=
  match invalid with
  | some message => s.canNotHandlePayment message
  | none =>
    { s.checkWalletReady walletReady with
      paymentStep := .LIGHTNING_PAYMENT
      invoice := some (.inr paymentRequest) }

def invoiceReadSuccessfully (s : Screen) (pInvoice : BitcoinURI ⊕ PaymentRequest)
    (invalid : Option Message) (walletReady : Option Bool) : Screen :=
  match pInvoice with
  | .inl bitcoinURI =>
    match bitcoinURI.lightning with
    | some _ => { s with paymentStep := .PICK_PAYMENT_SETTLEMENT_TYPE }
    | none => s.setupOnchainPaymentForm bitcoinURI walletReady
  | .inr paymentRequest => s.setupLightningPaymentForm paymentRequest invalid walletReady

/-- Called when an amount is typed. -/
def checkOnchainBalance (s : Screen) (amount onchainBalance : ℤ) : Screen :=
  match s.invoice with
  | some (.inl _) =>
    if onchainBalance < amount then
      s.handlePaymentError .payment_error_amount_onchain_insufficient_funds
    else { s with paymentError := none }
  | _ => s

/-! ### Payments -/

def sendBitcoinPayment (s : Screen) (i : ℕ) (press : Press) (amountSat feesPerKw : ℤ)
    (bitcoinURI : BitcoinURI) (emptyWallet : Bool) : Screen :=
  let submission :=
    if emptyWallet then .sendAllOnchain bitcoinURI.address feesPerKw
    else .sendOnchain amountSat bitcoinURI.address feesPerKw
  closeAndGoHome
    { s with
      presses := s.presses.set i
        { press with submissions := press.submissions ++ [submission] } }

/-- The thread of `sendLNPayment` starts. -/
def sendLNPayment (s : Screen) (i : ℕ) : Screen := { s with threads := s.threads ++ [i] }

/-- The payment of the press `i` is executed. -/
def execute (s : Screen) (i : ℕ) (press : Press) : Screen :=
  match press.execution with
  | .sendLNPayment _ => s.sendLNPayment i
  | .sendBitcoinPayment amountSat feesPerKw bitcoinURI emptyWallet =>
    s.sendBitcoinPayment i press amountSat feesPerKw bitcoinURI emptyWallet

/-- `confirmPayment` with a payment that is prepared: the dialog or the prompt is opened, or the
payment is executed at once. -/
def prepared (s : Screen) (execution : Execution) (isPinRequired useBiometric : Bool) : Screen :=
  let i := s.presses.length
  if isPinRequired then
    if useBiometric then
      { s with
        presses := s.presses ++ [{ execution := execution, dialog := some {} }]
        mPinDialog := some i
        prompts := s.prompts ++ [i] }
    else
      { s with
        presses := s.presses ++ [{ execution := execution, dialog := some (PinDialog.shows {}) }]
        mPinDialog := some i }
  else
    execute { s with presses := s.presses ++ [{ execution := execution }] } i
      { execution := execution }

/-- `confirmPayment` of a Lightning invoice. -/
def confirmLightning (s : Screen) (paymentRequest : PaymentRequest) (form : Form) : Screen :=
  match form.amount with
  | .error e => s.handlePaymentError e.message
  | .ok amount =>
    if amount ≤ 0 then s.handlePaymentError .payment_error_amount_zero_or_less
    else if form.isExpired then s.canNotHandlePayment .payment_ln_expiry_outdated
    else
      s.prepared (.sendLNPayment ⟨amount, paymentRequest, s.invoiceAsString⟩) form.isPinRequired
        form.canUseBiometric

/-- `confirmPayment` of an on-chain invoice, which never asks for the fingerprint. -/
def confirmOnchain (s : Screen) (bitcoinURI : BitcoinURI) (form : Form) : Screen :=
  match form.amount with
  | .error e => s.handlePaymentError e.message
  | .ok amountSat =>
    if form.onchainBalance < amountSat then
      s.handlePaymentError .payment_error_amount_onchain_insufficient_funds
    else if amountSat ≤ 0 then s.handlePaymentError .payment_error_amount_zero_or_less
    else
      match form.feesPerKw with
      | none => s.handlePaymentError .payment_error_fees_onchain
      | some feesPerKw =>
        s.prepared (.sendBitcoinPayment amountSat feesPerKw bitcoinURI form.emptyWallet)
          form.isPinRequired false

/-- A press of Send. -/
def confirmPayment (s : Screen) (form : Form) : Screen :=
  let s := s.checkWalletReady form.walletReady
  if form.walletReady ≠ some true then { s with enableSendButton := false }
  else if s.isProcessingPayment then s
  else
    let s := toggleForm { s with isProcessingPayment := true }
    match s.invoice with
    | some (.inr paymentRequest) => s.confirmLightning paymentRequest form
    | some (.inl bitcoinURI) => s.confirmOnchain bitcoinURI form
    | none => s

/-! ### The PIN dialog -/

def setDialog (s : Screen) (i : ℕ) (press : Press) (dialog : PinDialog) : Screen :=
  { s with presses := s.presses.set i { press with dialog := some dialog } }

/-- What is done to `mPinDialog` if it is not null. -/
def onPinDialog (s : Screen) (f : PinDialog → PinDialog) : Screen :=
  match s.mPinDialog with
  | none => s
  | some i =>
    match s.presses[i]? with
    | none => s
    | some press =>
      match press.dialog with
      | none => s
      | some dialog => s.setDialog i press (f dialog)

/-- `isPinCorrect` and what `onPinConfirm` does with its answer.  `app` is the PIN of the app, or
`none` if the app is not ready and `checkInit` goes back to `StartupActivity`. -/
def onPinConfirm (s : Screen) (i : ℕ) (press : Press) (dialog : PinDialog)
    (pinValue : List (Fin 10)) (app : Option String) : Screen :=
  match app with
  | none =>
    handlePaymentError { s.setDialog i press dialog with left := true } .payment_error_incorrect_pin
  | some pin =>
    let s := s.setDialog i press dialog.dismiss
    if PinDialog.text pinValue = pin then
      s.execute i { press with dialog := some dialog.dismiss }
    else s.handlePaymentError .payment_error_incorrect_pin

def onPinCancel (s : Screen) : Screen := toggleForm { s with isProcessingPayment := false }

end Screen

/-! ### Events -/

inductive Event
  /-- The invoice of the intent was read. -/
  | invoiceReadSuccessfully (invoiceAsString : String) (pInvoice : BitcoinURI ⊕ PaymentRequest)
      (invalid : Option Message) (walletReady : Option Bool)
  /-- It could not be read. -/
  | invoiceNotRead (invoiceAsString : String) (message : Message)
  | pickLightning (paymentRequest : PaymentRequest) (invalid : Option Message)
      (walletReady : Option Bool)
  | pickOnchain (bitcoinURI : BitcoinURI) (walletReady : Option Bool)
  | checkWalletReady (walletReady : Option Bool)
  | checkOnchainBalance (amount onchainBalance : ℤ)
  | confirmPayment (form : Form)
  | cancelPayment
  /-- A key of the PIN dialog of a press. -/
  | onClick (i : ℕ) (key : PinKey)
  /-- The dialog is cancelled with the back button. -/
  | cancel (i : ℕ)
  /-- A confirmation that the dialog has posted runs. -/
  | onPinConfirm (i : ℕ) (app : Option String)
  | onAuthenticationSucceeded (i : ℕ)
  | onAuthenticationError (i : ℕ) (error : BiometricError)
  /-- The thread of `sendLNPayment` comes to its end, having read the payment `p`. -/
  | sendLNPayment (i : ℕ) (p : Option Payment) (now : Date)
  | onPause
  /-- The activity resumes; `app` is as in `onPinConfirm`. -/
  | onResume (app : Option String)

namespace Screen

/-- The press `i` with its dialog. -/
def dialog? (s : Screen) (i : ℕ) : Option (Press × PinDialog) :=
  s.presses[i]?.bind fun press => press.dialog.map fun dialog => (press, dialog)

/-- One event, if it is possible. -/
def step (s : Screen) : Event → Option Screen
  | .invoiceReadSuccessfully invoiceAsString pInvoice invalid walletReady =>
    some (invoiceReadSuccessfully { s with invoiceAsString := invoiceAsString } pInvoice invalid
      walletReady)
  | .invoiceNotRead invoiceAsString message =>
    some (canNotHandlePayment { s with invoiceAsString := invoiceAsString } message)
  | .pickLightning paymentRequest invalid walletReady =>
    some (s.setupLightningPaymentForm paymentRequest invalid walletReady)
  | .pickOnchain bitcoinURI walletReady => some (s.setupOnchainPaymentForm bitcoinURI walletReady)
  | .checkWalletReady walletReady => some (s.checkWalletReady walletReady)
  | .checkOnchainBalance amount onchainBalance => some (s.checkOnchainBalance amount onchainBalance)
  | .confirmPayment form => some (s.confirmPayment form)
  | .cancelPayment => some s.closeAndGoHome
  | .onClick i key =>
    (s.dialog? i).bind fun (press, dialog) =>
      if dialog.showing then some (s.setDialog i press (dialog.onClick key)) else none
  | .cancel i =>
    (s.dialog? i).bind fun (press, dialog) =>
      if dialog.showing then some (s.setDialog i press dialog.dismiss).onPinCancel else none
  | .onPinConfirm i app =>
    (s.dialog? i).bind fun (press, dialog) =>
      if 0 < dialog.posted then some (s.onPinConfirm i press dialog.confirm dialog.mPinValue app)
      else none
  | .onAuthenticationSucceeded i =>
    if i ∈ s.prompts then some (sendLNPayment { s with prompts := s.prompts.erase i } i) else none
  | .onAuthenticationError i error =>
    if i ∈ s.prompts then
      let s := { s with prompts := s.prompts.erase i }
      match error with
      | .ERROR_NEGATIVE_BUTTON => some (s.onPinDialog fun dialog => dialog.dismiss.reset.shows)
      | .ERROR_USER_CANCELED => some s.onPinCancel
      | .other _ => some s
    else none
  | .sendLNPayment i p now =>
    if i ∈ s.threads then
      s.presses[i]?.bind fun press =>
        let s := { s with threads := s.threads.erase i }
        match press.execution with
        | .sendLNPayment order =>
          match checkPayment p order now with
          | .error e => some (s.canNotHandlePayment e.message)
          | .ok _ => some s.closeAndGoHome
        | .sendBitcoinPayment .. => none
    else none
  | .onPause => some (s.onPinDialog PinDialog.dismiss)
  | .onResume app =>
    match app with
    | some _ => some s
    | none => some { s with left := true }

end Screen

end SendPaymentActivity

end EclairMobile
