import EclairMobile.Activities.PaymentScreen
import EclairMobile.Lib.Counting
import EclairMobile.Lib.Reach

/-!
# One submission for each press of Send

In a run in which no key changes a PIN whose confirmation is posted, every press of Send leads to at
most one on-chain submission, and every PIN dialog calls `onPinConfirm` at most once between resets,
with a complete PIN.
-/

namespace EclairMobile

namespace SendPaymentActivity

open Lib
open EclairActivity (PIN_LENGTH)

/-- What is asked of a press of Send. -/
def Press.ConfirmedOnce (press : Press) : Prop :=
  press.submissions.length ≤ 1 ∧ ∀ dialog ∈ press.dialog, dialog.ConfirmedOnce

/-- The invariant of a press: nothing is submitted while a confirmation is posted. -/
structure Press.Sound (press : Press) : Prop where
  submissions_le : press.submissions.length ≤ 1
  dialog_sound : ∀ dialog ∈ press.dialog, dialog.Sound
  of_posted : ∀ dialog ∈ press.dialog, 0 < dialog.posted → press.submissions = []

theorem Press.Sound.once {press : Press} (h : press.Sound) : press.ConfirmedOnce :=
  ⟨h.submissions_le, fun dialog hd => (h.dialog_sound dialog hd).once⟩

namespace Screen

def ConfirmedOnce (s : Screen) : Prop := ∀ press ∈ s.presses, press.ConfirmedOnce

def Sound (s : Screen) : Prop := ∀ press ∈ s.presses, press.Sound

/-- The keys are pressed with care: they take nothing away while a confirmation is posted, and
complete no PIN after one has run or after the payment is submitted.  No dialog with a posted
confirmation is reset. -/
def Careful (s : Screen) : Event → Prop
  | .onClick i key => ∀ d ∈ s.dialog? i,
      d.2.Careful key ∧ (d.2.Completes key → d.1.submissions = [])
  | .onAuthenticationError _ .ERROR_NEGATIVE_BUTTON =>
      ∀ i ∈ s.mPinDialog, ∀ d ∈ s.dialog? i, d.2.posted = 0
  | _ => True

instance (s : Screen) : DecidablePred s.Careful := by
  intro e
  unfold Careful
  split <;> infer_instance

/-! ### What leaves the presses as they are -/

section

variable (s : Screen)

@[simp] theorem presses_toggleForm : s.toggleForm.presses = s.presses := by
  unfold toggleForm
  split <;> rfl

@[simp] theorem presses_handlePaymentError (message : Message) :
    (s.handlePaymentError message).presses = s.presses := by
  simp [handlePaymentError]

@[simp] theorem presses_canNotHandlePayment (message : Message) :
    (s.canNotHandlePayment message).presses = s.presses := rfl

@[simp] theorem presses_closeAndGoHome : s.closeAndGoHome.presses = s.presses := rfl

@[simp] theorem presses_checkWalletReady (walletReady : Option Bool) :
    (s.checkWalletReady walletReady).presses = s.presses := by
  cases walletReady <;> rfl

@[simp] theorem presses_setupOnchainPaymentForm (bitcoinURI : BitcoinURI)
    (walletReady : Option Bool) :
    (s.setupOnchainPaymentForm bitcoinURI walletReady).presses = s.presses := by
  simp [setupOnchainPaymentForm]

@[simp] theorem presses_setupLightningPaymentForm (paymentRequest : PaymentRequest)
    (invalid : Option Message) (walletReady : Option Bool) :
    (s.setupLightningPaymentForm paymentRequest invalid walletReady).presses = s.presses := by
  cases invalid <;> simp [setupLightningPaymentForm]

@[simp] theorem presses_invoiceReadSuccessfully (pInvoice : BitcoinURI ⊕ PaymentRequest)
    (invalid : Option Message) (walletReady : Option Bool) :
    (s.invoiceReadSuccessfully pInvoice invalid walletReady).presses = s.presses := by
  cases pInvoice with
  | inl bitcoinURI =>
    unfold invoiceReadSuccessfully
    cases hl : bitcoinURI.lightning <;> simp [hl]
  | inr paymentRequest => simp [invoiceReadSuccessfully]

@[simp] theorem presses_checkOnchainBalance (amount onchainBalance : ℤ) :
    (s.checkOnchainBalance amount onchainBalance).presses = s.presses := by
  unfold checkOnchainBalance
  split
  · split <;> simp
  · rfl

@[simp] theorem presses_onPinCancel : s.onPinCancel.presses = s.presses := by
  simp [onPinCancel]

end

/-! ### What changes one press -/

section

variable {s : Screen} {i : ℕ} {press : Press} {dialog : PinDialog}

theorem dialog?_eq_some : s.dialog? i = some (press, dialog) ↔
    s.presses[i]? = some press ∧ press.dialog = some dialog := by
  unfold dialog?
  rw [Option.bind_eq_some_iff]
  constructor
  · rintro ⟨p, hp, hd⟩
    rw [Option.map_eq_some_iff] at hd
    obtain ⟨d, hd, he⟩ := hd
    cases he
    exact ⟨hp, hd⟩
  · rintro ⟨hp, hd⟩
    exact ⟨press, hp, by rw [hd]; rfl⟩

theorem Sound.of_getElem? (h : s.Sound) (hi : s.presses[i]? = some press) : press.Sound :=
  h press (List.mem_of_getElem? hi)

/-- A dialog that is sound, and posts no confirmation once its payment is submitted. -/
theorem Sound.setDialog (h : s.Sound) (hp : press.Sound) (hd : dialog.Sound)
    (hposted : 0 < dialog.posted → press.submissions = []) :
    (s.setDialog i press dialog).Sound := by
  refine forall_mem_set h ⟨hp.submissions_le, ?_, ?_⟩
  · rintro d ⟨⟩
    exact hd
  · rintro d ⟨⟩
    exact hposted

theorem Sound.onPinDialog {f : PinDialog → PinDialog} (h : s.Sound)
    (hf : ∀ i press dialog, s.mPinDialog = some i → s.dialog? i = some (press, dialog) →
      (f dialog).Sound ∧ (0 < (f dialog).posted → press.submissions = [])) :
    (s.onPinDialog f).Sound := by
  unfold Screen.onPinDialog
  cases hm : s.mPinDialog with
  | none => exact h
  | some i =>
    cases hi : s.presses[i]? with
    | none => simpa [hi] using h
    | some press =>
      cases hd : press.dialog with
      | none => simpa [hi, hd] using h
      | some dialog =>
        obtain ⟨hsound, hposted⟩ := hf i press dialog hm (dialog?_eq_some.mpr ⟨hi, hd⟩)
        simpa [hi, hd] using h.setDialog (h.of_getElem? hi) hsound hposted

/-- A payment is executed that was not submitted before, and of which no confirmation is posted. -/
theorem Sound.execute (h : s.Sound) (hp : press.Sound) (hnone : press.submissions = [])
    (hposted : ∀ dialog ∈ press.dialog, dialog.posted = 0) : (s.execute i press).Sound := by
  unfold Screen.execute
  cases press.execution with
  | sendLNPayment order => exact h
  | sendBitcoinPayment amountSat feesPerKw bitcoinURI emptyWallet =>
    refine forall_mem_set h ⟨?_, hp.dialog_sound, ?_⟩
    · simp [hnone]
    · intro dialog hd hpos
      exact absurd (hposted dialog hd) (Nat.pos_iff_ne_zero.mp hpos)

theorem Sound.handlePaymentError (h : s.Sound) (message : Message) :
    (s.handlePaymentError message).Sound := by
  simpa [Sound] using h

theorem Sound.onPinConfirm (h : s.Sound) (hi : s.dialog? i = some (press, dialog))
    (hpos : 0 < dialog.posted) (app : Option String) :
    (s.onPinConfirm i press dialog.confirm dialog.mPinValue app).Sound := by
  obtain ⟨hpress, hdialog⟩ := dialog?_eq_some.mp hi
  have hp := h.of_getElem? hpress
  have hd := hp.dialog_sound dialog hdialog
  have hnone := hp.of_posted dialog hdialog hpos
  have hconfirm := hd.confirm hpos
  have hzero : dialog.confirm.posted = 0 := by
    have hle := hd.posted_le
    show dialog.posted - 1 = 0
    omega
  unfold Screen.onPinConfirm
  cases app with
  | none =>
    exact Sound.handlePaymentError (s := { s.setDialog i press dialog.confirm with left := true })
      (h.setDialog hp hconfirm fun _ => hnone) _
  | some pin =>
    have hset : (s.setDialog i press dialog.confirm.dismiss).Sound :=
      h.setDialog hp hconfirm.dismiss fun _ => hnone
    by_cases hpin : PinDialog.text dialog.mPinValue = pin
    · simp only [if_pos hpin]
      refine hset.execute ⟨hp.submissions_le, ?_, ?_⟩ hnone ?_
      · rintro d ⟨⟩
        exact hconfirm.dismiss
      · rintro d ⟨⟩ _
        exact hnone
      · rintro d ⟨⟩
        exact hzero
    · simp only [if_neg hpin]
      exact hset.handlePaymentError _

end

/-! ### A press of Send -/

section

variable {s : Screen}

theorem sound_append (h : s.Sound) {press : Press} (hp : press.Sound) :
    ∀ p ∈ s.presses ++ [press], p.Sound := by
  intro p hmem
  rcases List.mem_append.mp hmem with hmem | hmem
  · exact h p hmem
  · rw [List.mem_singleton.mp hmem]
    exact hp

theorem Press.sound_new (execution : Execution) {dialog : Option PinDialog}
    (hd : ∀ d ∈ dialog, d.Sound) : Press.Sound { execution := execution, dialog := dialog } :=
  ⟨Nat.zero_le _, hd, fun _ _ _ => rfl⟩

theorem Sound.prepared (h : s.Sound) (execution : Execution) (isPinRequired useBiometric : Bool) :
    (s.prepared execution isPinRequired useBiometric).Sound := by
  unfold Screen.prepared
  by_cases hpin : isPinRequired
  · rw [if_pos hpin]
    by_cases hbio : useBiometric
    · rw [if_pos hbio]
      refine sound_append h (Press.sound_new execution ?_)
      rintro d ⟨⟩
      exact PinDialog.Sound.new
    · rw [if_neg hbio]
      refine sound_append h (Press.sound_new execution ?_)
      rintro d ⟨⟩
      exact PinDialog.Sound.new.shows
  · rw [if_neg hpin]
    have hnew : Press.Sound { execution := execution } :=
      Press.sound_new execution (fun d hd => absurd hd (by simp))
    have happend : Sound { s with presses := s.presses ++ [{ execution := execution }] } :=
      sound_append h hnew
    exact happend.execute hnew rfl (fun d hd => absurd hd (by simp))

theorem Sound.confirmLightning (h : s.Sound) (paymentRequest : PaymentRequest) (form : Form) :
    (s.confirmLightning paymentRequest form).Sound := by
  unfold Screen.confirmLightning
  cases form.amount with
  | error e => exact h.handlePaymentError _
  | ok amount =>
    by_cases hpos : amount ≤ 0
    · simp only [if_pos hpos]
      exact h.handlePaymentError _
    · simp only [if_neg hpos]
      split
      · exact h
      · exact h.prepared _ _ _

theorem Sound.confirmOnchain (h : s.Sound) (bitcoinURI : BitcoinURI) (form : Form) :
    (s.confirmOnchain bitcoinURI form).Sound := by
  unfold Screen.confirmOnchain
  cases form.amount with
  | error e => exact h.handlePaymentError _
  | ok amountSat =>
    by_cases hfunds : form.onchainBalance < amountSat
    · simp only [if_pos hfunds]
      exact h.handlePaymentError _
    · by_cases hpos : amountSat ≤ 0
      · simp only [if_neg hfunds, if_pos hpos]
        exact h.handlePaymentError _
      · simp only [if_neg hfunds, if_neg hpos]
        cases form.feesPerKw with
        | none => exact h.handlePaymentError _
        | some feesPerKw => exact h.prepared _ _ _

theorem Sound.confirmPayment (h : s.Sound) (form : Form) : (s.confirmPayment form).Sound := by
  have hready : (s.checkWalletReady form.walletReady).Sound := by simpa [Sound] using h
  unfold Screen.confirmPayment
  by_cases hwallet : form.walletReady ≠ some true
  · simp only [if_pos hwallet]
    exact hready
  · simp only [if_neg hwallet]
    by_cases hprocessing : (s.checkWalletReady form.walletReady).isProcessingPayment
    · simp only [if_pos hprocessing]
      exact hready
    · simp only [if_neg hprocessing]
      have htoggle : (toggleForm { s.checkWalletReady form.walletReady with
          isProcessingPayment := true }).Sound := by
        simpa [Sound] using h
      split
      · exact htoggle.confirmLightning _ form
      · exact htoggle.confirmOnchain _ form
      · exact htoggle

end

/-! ### Runs -/

theorem Sound.step {s s' : Screen} {e : Event} (h : s.Sound) (hc : s.Careful e)
    (hs : s.step e = some s') : s'.Sound := by
  cases e with
  | invoiceReadSuccessfully invoiceAsString pInvoice invalid walletReady =>
    cases hs
    simpa [Sound] using h
  | invoiceNotRead invoiceAsString message =>
    cases hs
    exact h
  | pickLightning paymentRequest invalid walletReady =>
    cases hs
    simpa [Sound] using h
  | pickOnchain bitcoinURI walletReady =>
    cases hs
    simpa [Sound] using h
  | checkWalletReady walletReady =>
    cases hs
    simpa [Sound] using h
  | checkOnchainBalance amount onchainBalance =>
    cases hs
    simpa [Sound] using h
  | confirmPayment form =>
    cases hs
    exact h.confirmPayment form
  | cancelPayment =>
    cases hs
    exact h
  | onClick i key =>
    obtain ⟨⟨press, dialog⟩, hi, hs⟩ := Option.bind_eq_some_iff.mp hs
    obtain ⟨hpress, hdialog⟩ := dialog?_eq_some.mp hi
    obtain ⟨hcareful, hsubmitted⟩ := hc (press, dialog) hi
    obtain ⟨-, ⟨⟩⟩ := Option.ite_none_right_eq_some.mp hs
    have hp := h.of_getElem? hpress
    have hd := hp.dialog_sound dialog hdialog
    refine h.setDialog hp (hd.onClick hcareful) ?_
    intro hpos
    rcases hd.posted_onClick hpos with hposted | hlast
    · exact hp.of_posted dialog hdialog hposted
    · exact hsubmitted hlast
  | cancel i =>
    obtain ⟨⟨press, dialog⟩, hi, hs⟩ := Option.bind_eq_some_iff.mp hs
    obtain ⟨hpress, hdialog⟩ := dialog?_eq_some.mp hi
    obtain ⟨-, ⟨⟩⟩ := Option.ite_none_right_eq_some.mp hs
    have hp := h.of_getElem? hpress
    have hset := h.setDialog (i := i) hp (hp.dialog_sound dialog hdialog).dismiss
      (hp.of_posted dialog hdialog)
    simpa [Sound] using hset
  | onPinConfirm i app =>
    obtain ⟨⟨press, dialog⟩, hi, hs⟩ := Option.bind_eq_some_iff.mp hs
    obtain ⟨hpos, ⟨⟩⟩ := Option.ite_none_right_eq_some.mp hs
    exact h.onPinConfirm hi hpos app
  | onAuthenticationSucceeded i =>
    obtain ⟨-, ⟨⟩⟩ := Option.ite_none_right_eq_some.mp hs
    exact h
  | onAuthenticationError i error =>
    obtain ⟨-, hs⟩ := Option.ite_none_right_eq_some.mp hs
    cases error with
    | ERROR_NEGATIVE_BUTTON =>
      cases hs
      refine Sound.onPinDialog (s := { s with prompts := s.prompts.erase i }) h ?_
      intro j press dialog hj hd
      obtain ⟨hpress, hdialog⟩ := dialog?_eq_some.mp hd
      have hzero := hc j hj (press, dialog) hd
      have hp := h.of_getElem? hpress
      refine ⟨((hp.dialog_sound dialog hdialog).dismiss.reset hzero).shows, ?_⟩
      intro hpos
      exact absurd hzero (Nat.pos_iff_ne_zero.mp hpos)
    | ERROR_USER_CANCELED =>
      cases hs
      simpa [Sound] using h
    | other errorCode =>
      cases hs
      exact h
  | sendLNPayment i p now =>
    obtain ⟨-, hs⟩ := Option.ite_none_right_eq_some.mp hs
    obtain ⟨press, hpress, hs⟩ := Option.bind_eq_some_iff.mp hs
    cases hx : press.execution with
    | sendLNPayment order =>
      simp only [hx] at hs
      cases hcheck : checkPayment p order now with
      | error e =>
        simp only [hcheck] at hs
        cases hs
        exact h
      | ok q =>
        simp only [hcheck] at hs
        cases hs
        exact h
    | sendBitcoinPayment amountSat feesPerKw bitcoinURI emptyWallet =>
      simp [hx] at hs
  | onPause =>
    cases hs
    refine h.onPinDialog ?_
    intro i press dialog hm hi
    obtain ⟨hpress, hdialog⟩ := dialog?_eq_some.mp hi
    have hp := h.of_getElem? hpress
    exact ⟨(hp.dialog_sound dialog hdialog).dismiss, hp.of_posted dialog hdialog⟩
  | onResume app =>
    cases app with
    | some pin =>
      cases hs
      exact h
    | none =>
      cases hs
      exact h

/-- **One submission for each press of Send, and one confirmation of a complete PIN for each dialog,
in every run of careful events.** -/
theorem confirmedOnce {s : Screen} (h : Reach step Careful (· = {}) s) : s.ConfirmedOnce := by
  have hsound := Reach.invariant (I := Sound) (by
    rintro _ rfl press hpress
    cases hpress) (fun _ _ _ hI hc hs => hI.step hc hs) s h
  intro press hpress
  exact (hsound press hpress).once

/-- An on-chain payment that asks for the PIN. -/
def pinForm : Form where
  walletReady := some true
  amount := .ok 1000
  onchainBalance := 5000
  isExpired := false
  feesPerKw := some 253
  emptyWallet := false
  isPinRequired := true
  canUseBiometric := false

def somebody : BitcoinURI := ⟨"2N8epVuuUA9N6aPgx8kvFZ6rUnzVLJ6CqBx", none⟩

/-- The screen with the form, a press of Send, and the PIN 123456. -/
def typesPin : List Event :=
  [.invoiceReadSuccessfully "bitcoin:2N8epVuuUA9N6aPgx8kvFZ6rUnzVLJ6CqBx" (.inl somebody) none
      (some true), .confirmPayment pinForm] ++
    ([1, 2, 3, 4, 5, 6].map fun n => .onClick 0 (.pinNum n))

/-- How often the payment of each press was submitted after these events. -/
def submitted (events : List Event) : Option (List ℕ) :=
  (run step {} events).map fun s => s.presses.map (·.submissions.length)

theorem confirmedOnce_pin : ∃ s, run step {} (typesPin ++ [.onPinConfirm 0 (some "123456")]) =
    some s ∧ s.presses.map (·.submissions.length) = [1] ∧ s.ConfirmedOnce := by
  have hone : submitted (typesPin ++ [.onPinConfirm 0 (some "123456")]) = some [1] := by
    decide +kernel
  have hmeets : Meets step Careful {} (typesPin ++ [.onPinConfirm 0 (some "123456")]) := by
    decide +kernel
  obtain ⟨s, hrun, hlength⟩ := Option.map_eq_some_iff.mp hone
  exact ⟨s, hrun, hlength, confirmedOnce (reach_of_meets rfl hmeets hrun)⟩

/-- The last digit is taken back and typed again before the first confirmation runs: bitcoins are
sent twice. -/
theorem not_confirmedOnce : ¬ ∀ s, Reach step anyStep (· = {}) s → s.ConfirmedOnce := by
  intro h
  have htwice : submitted (typesPin ++ [.onClick 0 .pinBackspace, .onClick 0 (.pinNum 6),
      .onPinConfirm 0 (some "123456"), .onPinConfirm 0 (some "123456")]) = some [2] := by
    decide +kernel
  obtain ⟨s, hrun, hlength⟩ := Option.map_eq_some_iff.mp htwice
  obtain ⟨press, hpress, hpair⟩ := List.mem_map.mp (hlength ▸ List.mem_singleton_self 2)
  have hle := (h s (reach_of_run rfl hrun) press hpress).1
  omega

end Screen

end SendPaymentActivity

end EclairMobile
