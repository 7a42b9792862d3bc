import EclairMobile.Payments.ConfirmedOnce

/-!
# The form is released again

While a payment is being processed the form is disabled.  As long as it is displayed, something must
be pending that resets it or leaves the screen: a visible PIN dialog, a biometric prompt, or a
thread of `sendLNPayment`.  Two events may take the last of them away: the activity is paused, which
dismisses the dialog without cancelling it, and the prompt ends with an error that is not forwarded.
After an attempt that has ended with a reading error, a third one displays the form again.
-/

namespace EclairMobile

namespace SendPaymentActivity

open Lib

namespace Screen

/-! ### The property and its condition -/

/-- A step of the form is shown. -/
def FormStep (s : Screen) : Prop :=
  s.paymentStep = .ON_CHAIN_PAYMENT ∨ s.paymentStep = .LIGHTNING_PAYMENT

/-- The form is displayed and disabled. -/
def Waiting (s : Screen) : Prop := s.isProcessingPayment = true ∧ s.FormStep ∧ s.left = false

/-- The presses whose PIN dialog is visible. -/
def visible (s : Screen) : List ℕ :=
  (List.range s.presses.length).filter fun i => (s.dialog? i).any (·.2.showing)

/-- A continuation is pending. -/
def Pending (s : Screen) : Prop := s.visible ≠ [] ∨ s.prompts ≠ [] ∨ s.threads ≠ []

/-- What is asked of a state. -/
def ReleasesForm (s : Screen) : Prop := s.Waiting → s.Pending

/-- The invoice is shown in the form, and not as an error or a choice. -/
def DisplaysForm (pInvoice : BitcoinURI ⊕ PaymentRequest) (invalid : Option Message) : Prop :=
  match pInvoice with
  | .inl bitcoinURI => bitcoinURI.lightning = none
  | .inr _ => invalid = none

/-- The event does not take away the last continuation of a payment that is being processed, nor
does it display the form when there is none. -/
def KeepsPending (s : Screen) : Event → Prop
  | .invoiceReadSuccessfully _ pInvoice invalid _ =>
    DisplaysForm pInvoice invalid → s.isProcessingPayment = true → s.left = false → s.Pending
  | .pickLightning _ invalid _ =>
    invalid = none → s.isProcessingPayment = true → s.left = false → s.Pending
  | .pickOnchain _ _ => s.isProcessingPayment = true → s.left = false → s.Pending
  | .onAuthenticationError i (.other _) =>
    s.Waiting → s.visible ≠ [] ∨ s.prompts.erase i ≠ [] ∨ s.threads ≠ []
  | .onPause =>
    s.Waiting → (∃ i ∈ s.visible, s.mPinDialog ≠ some i) ∨ s.prompts ≠ [] ∨ s.threads ≠ []
  | _ => True

instance (s : Screen) : Decidable s.FormStep := inferInstanceAs (Decidable (_ ∨ _))

instance (s : Screen) : Decidable s.Waiting := inferInstanceAs (Decidable (_ ∧ _ ∧ _))

instance (s : Screen) : Decidable s.Pending := inferInstanceAs (Decidable (_ ∨ _ ∨ _))

instance (pInvoice : BitcoinURI ⊕ PaymentRequest) (invalid : Option Message) :
    Decidable (DisplaysForm pInvoice invalid) := by
  unfold DisplaysForm
  split <;> infer_instance

instance (s : Screen) : DecidablePred s.KeepsPending := by
  intro e
  unfold KeepsPending
  split <;> infer_instance

/-! ### What the operations leave alone -/

section

variable {s : Screen} {i j : ℕ} {press : Press} {dialog : PinDialog}

theorem toggleForm_eq (s : Screen) : s.toggleForm = { s with
    formEnabled := !s.isProcessingPayment
    paymentError := if s.isProcessingPayment then none else s.paymentError } := by
  unfold toggleForm
  split_ifs with h
  · simp [h]
  · simp [h]

theorem checkWalletReady_eq (s : Screen) (walletReady : Option Bool) :
    s.checkWalletReady walletReady =
      { s with enableSendButton := walletReady.getD s.enableSendButton } := by
  cases walletReady <;> rfl

theorem mem_visible : i ∈ s.visible ↔
    ∃ press dialog, s.dialog? i = some (press, dialog) ∧ dialog.showing = true := by
  unfold visible
  rw [List.mem_filter, List.mem_range]
  constructor
  · rintro ⟨-, h⟩
    obtain ⟨⟨press, dialog⟩, hd, hs⟩ := (Option.any_eq_true _ _).mp h
    exact ⟨press, dialog, hd, hs⟩
  · rintro ⟨press, dialog, hd, hs⟩
    refine ⟨?_, (Option.any_eq_true _ _).mpr ⟨_, hd, hs⟩⟩
    exact (List.getElem?_eq_some_iff.mp (dialog?_eq_some.mp hd).1).1

theorem dialog?_setDialog_self (hi : i < s.presses.length) :
    (s.setDialog i press dialog).dialog? i =
      some ({ press with dialog := some dialog }, dialog) := by
  rw [dialog?_eq_some]
  exact ⟨List.getElem?_set_self hi, rfl⟩

theorem dialog?_set_of_ne (h : i ≠ j) (q : Press) :
    dialog? { s with presses := s.presses.set i q } j = s.dialog? j := by
  unfold dialog?
  rw [List.getElem?_set_ne h]

theorem dialog?_setDialog_of_ne (h : i ≠ j) :
    (s.setDialog i press dialog).dialog? j = s.dialog? j := dialog?_set_of_ne h _

theorem lt_of_dialog? (h : s.dialog? i = some (press, dialog)) : i < s.presses.length :=
  (List.getElem?_eq_some_iff.mp (dialog?_eq_some.mp h).1).1

/-- A dialog that is set stays visible, and so do the others. -/
theorem mem_visible_setDialog (hd : s.dialog? i = some (press, dialog)) {dialog' : PinDialog}
    (hshow : dialog.showing = true → dialog'.showing = true) (hj : j ∈ s.visible) :
    j ∈ (s.setDialog i press dialog').visible := by
  obtain ⟨q, d, hq, hs⟩ := mem_visible.mp hj
  rw [mem_visible]
  by_cases hij : i = j
  · subst hij
    obtain ⟨rfl, rfl⟩ := Prod.mk.inj (Option.some.inj (hd.symm.trans hq))
    exact ⟨_, _, dialog?_setDialog_self (lt_of_dialog? hd), hshow hs⟩
  · exact ⟨q, d, (dialog?_setDialog_of_ne hij).trans hq, hs⟩

theorem dialog?_append (h : s.dialog? i = some (press, dialog)) (q : Press) :
    dialog? { s with presses := s.presses ++ [q] } i = some (press, dialog) := by
  obtain ⟨hp, hd⟩ := dialog?_eq_some.mp h
  rw [dialog?_eq_some]
  refine ⟨?_, hd⟩
  rw [List.getElem?_append_left (lt_of_dialog? h)]
  exact hp

theorem dialog?_length (s : Screen) (execution : Execution) (dialog : PinDialog) :
    dialog? { s with presses := s.presses ++ [{ execution := execution, dialog := some dialog }] }
      s.presses.length = some ({ execution := execution, dialog := some dialog }, dialog) := by
  rw [dialog?_eq_some]
  exact ⟨List.getElem?_concat_length, rfl⟩

end

/-! ### The invariant -/

/-- A form that is displayed has an invoice, and a prompt has a dialog for its negative button. -/
structure Linked (s : Screen) : Prop where
  invoice : s.FormStep → s.invoice ≠ none
  dialog : ∀ i ∈ s.mPinDialog, ∃ press dialog, s.dialog? i = some (press, dialog)
  prompt : s.prompts ≠ [] → s.mPinDialog ≠ none

/-- The invariant: every continuation is at its place, and one is pending when it has to be. -/
structure Released (s : Screen) : Prop where
  linked : s.Linked
  releases : s.ReleasesForm

section

variable {s : Screen} {i : ℕ} {press : Press} {dialog : PinDialog}

/-! The three ways to keep it: no payment is processed, the form is not displayed, or a continuation
is pending. -/

theorem Released.of_idle (h : s.Linked) (hp : s.isProcessingPayment = false) : s.Released :=
  ⟨h, fun hw => absurd hw.1 (by simp [hp])⟩

theorem Released.of_hidden (h : s.Linked) (hd : ¬(s.FormStep ∧ s.left = false)) : s.Released :=
  ⟨h, fun hw => absurd hw.2 hd⟩

theorem Released.of_left (h : s.Linked) (hl : s.left = true) : s.Released :=
  .of_hidden h fun hd => by simp [hl] at hd

theorem Released.handlePaymentError (h : s.Linked) (message : Message) :
    (s.handlePaymentError message).Released := by
  unfold Screen.handlePaymentError
  rw [toggleForm_eq]
  exact .of_idle ⟨h.invoice, h.dialog, h.prompt⟩ rfl

theorem Released.onPinCancel (h : s.Linked) : s.onPinCancel.Released := by
  unfold Screen.onPinCancel
  rw [toggleForm_eq]
  exact .of_idle ⟨h.invoice, h.dialog, h.prompt⟩ rfl

theorem Released.canNotHandlePayment (h : s.Linked) (message : Message) :
    (s.canNotHandlePayment message).Released := by
  have hstep : ¬(s.canNotHandlePayment message).FormStep := by
    rintro (hf | hf) <;> cases hf
  exact .of_hidden ⟨fun hf => absurd hf hstep, h.dialog, h.prompt⟩ fun hd => hstep hd.1

theorem Released.closeAndGoHome (h : s.Linked) : s.closeAndGoHome.Released :=
  .of_left ⟨h.invoice, h.dialog, h.prompt⟩ rfl

/-! ### The dialogs -/

/-- A press is replaced by one that has a dialog if it is the one of `mPinDialog`. -/
theorem Linked.set (h : s.Linked) {q : Press} (hq : s.mPinDialog = some i → q.dialog ≠ none) :
    Linked { s with presses := s.presses.set i q } := by
  refine ⟨h.invoice, ?_, h.prompt⟩
  intro j hj
  obtain ⟨p, d, hd⟩ := h.dialog j hj
  by_cases hij : i = j
  · subst hij
    obtain ⟨e, he⟩ := Option.ne_none_iff_exists'.mp (hq hj)
    exact ⟨q, e, dialog?_eq_some.mpr ⟨List.getElem?_set_self (lt_of_dialog? hd), he⟩⟩
  · exact ⟨p, d, (dialog?_set_of_ne hij q).trans hd⟩

theorem Linked.setDialog (h : s.Linked) : (s.setDialog i press dialog).Linked :=
  h.set fun _ => Option.some_ne_none _

/-- A key of a visible dialog leaves it visible. -/
theorem Released.onClick (h : s.Released) (hd : s.dialog? i = some (press, dialog))
    (key : PinKey) : (s.setDialog i press (dialog.onClick key)).Released := by
  refine ⟨h.linked.setDialog, ?_⟩
  have hshow : dialog.showing = true → (dialog.onClick key).showing = true := by
    intro hs
    cases key with
    | pinNum n =>
      unfold PinDialog.onClick PinDialog.pinNum
      split_ifs <;> exact hs
    | pinNumClear => exact hs
    | pinBackspace =>
      unfold PinDialog.onClick PinDialog.pinBackspace
      split_ifs <;> exact hs
  rintro hw
  rcases h.releases hw with hv | hprompt | hthread
  · obtain ⟨j, hj⟩ := List.exists_mem_of_ne_nil _ hv
    exact Or.inl (List.ne_nil_of_mem (mem_visible_setDialog hd hshow hj))
  · exact Or.inr (Or.inl hprompt)
  · exact Or.inr (Or.inr hthread)

theorem Released.execute (h : s.Linked) (hq : s.mPinDialog = some i → press.dialog ≠ none) :
    (s.execute i press).Released := by
  unfold Screen.execute
  cases press.execution with
  | sendLNPayment order =>
    refine ⟨⟨h.invoice, h.dialog, h.prompt⟩, fun _ => Or.inr (Or.inr ?_)⟩
    exact List.append_ne_nil_of_right_ne_nil _ (List.cons_ne_nil _ _)
  | sendBitcoinPayment amountSat feesPerKw bitcoinURI emptyWallet =>
    exact closeAndGoHome (h.set hq)

theorem Released.onPinConfirm (h : s.Linked) (pinValue : List (Fin 10)) (app : Option String) :
    (s.onPinConfirm i press dialog pinValue app).Released := by
  unfold Screen.onPinConfirm
  cases app with
  | none =>
    have hset : (s.setDialog i press dialog).Linked := h.setDialog
    exact handlePaymentError (s := { s.setDialog i press dialog with left := true })
      ⟨hset.invoice, hset.dialog, hset.prompt⟩ _
  | some pin =>
    dsimp only
    split_ifs
    · exact execute h.setDialog fun _ => Option.some_ne_none _
    · exact handlePaymentError h.setDialog _

/-- The negative button shows the dialog. -/
theorem Released.shows (h : s.Linked) (hm : s.mPinDialog ≠ none) {f : PinDialog → PinDialog}
    (hf : ∀ dialog, (f dialog).showing = true) : (s.onPinDialog f).Released := by
  obtain ⟨i, hi⟩ := Option.ne_none_iff_exists'.mp hm
  obtain ⟨press, dialog, hd⟩ := h.dialog i hi
  obtain ⟨hpress, hdialog⟩ := dialog?_eq_some.mp hd
  have hset : s.onPinDialog f = s.setDialog i press (f dialog) := by
    simp [Screen.onPinDialog, hi, hpress, hdialog]
  rw [hset]
  refine ⟨h.setDialog, fun _ => Or.inl ?_⟩
  have hmem : i ∈ (s.setDialog i press (f dialog)).visible :=
    mem_visible.mpr ⟨_, _, dialog?_setDialog_self (lt_of_dialog? hd), hf dialog⟩
  exact List.ne_nil_of_mem hmem

theorem dismiss_eq (h : s.Linked) : (s.mPinDialog = none ∧ s.onPinDialog PinDialog.dismiss = s) ∨
    ∃ i press dialog, s.mPinDialog = some i ∧ s.dialog? i = some (press, dialog) ∧
      s.onPinDialog PinDialog.dismiss = s.setDialog i press dialog.dismiss := by
  cases hm : s.mPinDialog with
  | none => exact Or.inl ⟨rfl, by simp [Screen.onPinDialog, hm]⟩
  | some i =>
    obtain ⟨press, dialog, hd⟩ := h.dialog i hm
    obtain ⟨hpress, hdialog⟩ := dialog?_eq_some.mp hd
    exact Or.inr ⟨i, press, dialog, rfl, hd, by
      simp [Screen.onPinDialog, hm, hpress, hdialog]⟩

theorem mem_visible_dismiss (h : s.Linked) :
    i ∈ (s.onPinDialog PinDialog.dismiss).visible ↔ i ∈ s.visible ∧ s.mPinDialog ≠ some i := by
  rcases dismiss_eq h with ⟨hm, heq⟩ | ⟨j, press, dialog, hm, hd, heq⟩
  · rw [heq, hm]
    simp
  · rw [heq, hm, ne_eq, Option.some_inj]
    by_cases hij : j = i
    · subst hij
      simp only [not_true_eq_false, and_false, iff_false]
      intro hmem
      obtain ⟨q, d, hq, hs⟩ := mem_visible.mp hmem
      rw [dialog?_setDialog_self (lt_of_dialog? hd)] at hq
      obtain ⟨-, rfl⟩ := Prod.mk.inj (Option.some.inj hq)
      cases hs
    · simp only [hij, not_false_eq_true, and_true]
      rw [mem_visible, mem_visible, dialog?_setDialog_of_ne hij]

theorem onPause_eq (s : Screen) (f : PinDialog → PinDialog) :
    s.onPinDialog f = { s with presses := (s.onPinDialog f).presses } := by
  unfold Screen.onPinDialog
  split
  · rfl
  · split
    · rfl
    · split <;> rfl

theorem pending_dismiss_iff (h : s.Linked) : (s.onPinDialog PinDialog.dismiss).Pending ↔
    (∃ i ∈ s.visible, s.mPinDialog ≠ some i) ∨ s.prompts ≠ [] ∨ s.threads ≠ [] := by
  have hvisible : (s.onPinDialog PinDialog.dismiss).visible ≠ [] ↔
      ∃ i ∈ s.visible, s.mPinDialog ≠ some i := by
    constructor
    · intro hne
      obtain ⟨i, hi⟩ := List.exists_mem_of_ne_nil _ hne
      exact ⟨i, (mem_visible_dismiss h).mp hi⟩
    · rintro ⟨i, hi⟩
      exact List.ne_nil_of_mem ((mem_visible_dismiss h).mpr hi)
  have hprompts : (s.onPinDialog PinDialog.dismiss).prompts = s.prompts := by
    rw [onPause_eq]
  have hthreads : (s.onPinDialog PinDialog.dismiss).threads = s.threads := by
    rw [onPause_eq]
  unfold Pending
  rw [hvisible, hprompts, hthreads]

theorem waiting_onPinDialog_iff (f : PinDialog → PinDialog) :
    (s.onPinDialog f).Waiting ↔ s.Waiting := by
  rw [onPause_eq]
  exact Iff.rfl

/-- The dialog of `mPinDialog` is dismissed, and another continuation is pending. -/
theorem Released.dismiss (h : s.Released) (hother : s.Waiting →
      (∃ i ∈ s.visible, s.mPinDialog ≠ some i) ∨ s.prompts ≠ [] ∨ s.threads ≠ []) :
    (s.onPinDialog PinDialog.dismiss).Released := by
  refine ⟨?_, fun hw => ?_⟩
  · rcases dismiss_eq h.linked with ⟨-, heq⟩ | ⟨i, press, dialog, -, -, heq⟩
    · rw [heq]
      exact h.linked
    · rw [heq]
      exact h.linked.setDialog
  · rw [pending_dismiss_iff h.linked]
    exact hother ((waiting_onPinDialog_iff _).mp hw)

/-! ### A press of Send -/

theorem Linked.append (h : s.Linked) (q : Press) :
    Linked { s with presses := s.presses ++ [q] } := by
  refine ⟨h.invoice, ?_, h.prompt⟩
  intro i hi
  obtain ⟨p, d, hd⟩ := h.dialog i hi
  exact ⟨p, d, dialog?_append hd q⟩

theorem Released.prepared (h : s.Linked) (execution : Execution)
    (isPinRequired useBiometric : Bool) :
    (s.prepared execution isPinRequired useBiometric).Released := by
  unfold Screen.prepared
  dsimp only
  split_ifs
  · refine ⟨⟨h.invoice, ?_, fun _ => Option.some_ne_none _⟩, fun _ => Or.inr (Or.inl ?_)⟩
    · rintro i ⟨⟩
      exact ⟨_, _, dialog?_length s execution {}⟩
    · exact List.append_ne_nil_of_right_ne_nil _ (List.cons_ne_nil _ _)
  · refine ⟨⟨h.invoice, ?_, fun _ => Option.some_ne_none _⟩, fun _ => Or.inl ?_⟩
    · rintro i ⟨⟩
      exact ⟨_, _, dialog?_length s execution (PinDialog.shows {})⟩
    · exact List.ne_nil_of_mem
        (mem_visible.mpr ⟨_, _, dialog?_length s execution (PinDialog.shows {}), rfl⟩)
  · refine execute (h.append _) ?_
    -- the new press is not the one of `mPinDialog`
    intro hm
    obtain ⟨p, d, hd⟩ := h.dialog _ hm
    exact absurd (lt_of_dialog? hd) (lt_irrefl _)

theorem Released.confirmLightning (h : s.Linked) (paymentRequest : PaymentRequest) (form : Form) :
    (s.confirmLightning paymentRequest form).Released := by
  unfold Screen.confirmLightning
  cases form.amount with
  | error e => exact handlePaymentError h _
  | ok amount =>
    dsimp only
    split_ifs
    · exact handlePaymentError h _
    · exact canNotHandlePayment h _
    · exact prepared h _ _ _

theorem Released.confirmOnchain (h : s.Linked) (bitcoinURI : BitcoinURI) (form : Form) :
    (s.confirmOnchain bitcoinURI form).Released := by
  unfold Screen.confirmOnchain
  cases form.amount with
  | error e => exact handlePaymentError h _
  | ok amountSat =>
    dsimp only
    split_ifs
    · exact handlePaymentError h _
    · exact handlePaymentError h _
    · cases form.feesPerKw with
      | none => exact handlePaymentError h _
      | some feesPerKw => exact prepared h _ _ _

theorem Released.confirmPayment (h : s.Released) (form : Form) :
    (s.confirmPayment form).Released := by
  obtain ⟨hlinked, hreleases⟩ := h
  unfold Screen.confirmPayment
  simp only [checkWalletReady_eq, toggleForm_eq]
  split_ifs
  · exact ⟨⟨hlinked.invoice, hlinked.dialog, hlinked.prompt⟩, hreleases⟩
  · exact ⟨⟨hlinked.invoice, hlinked.dialog, hlinked.prompt⟩, hreleases⟩
  · split
    · refine confirmLightning ?_ _ form
      exact ⟨hlinked.invoice, hlinked.dialog, hlinked.prompt⟩
    · refine confirmOnchain ?_ _ form
      exact ⟨hlinked.invoice, hlinked.dialog, hlinked.prompt⟩
    · -- without an invoice no form is displayed
      next hnone =>
      refine .of_hidden ⟨hlinked.invoice, hlinked.dialog, hlinked.prompt⟩ ?_
      rintro ⟨hstep, -⟩
      exact hlinked.invoice hstep hnone

/-! ### The invoice -/

theorem Released.setupOnchainPaymentForm (h : s.Linked)
    (hc : s.isProcessingPayment = true → s.left = false → s.Pending) (bitcoinURI : BitcoinURI)
    (walletReady : Option Bool) :
    (s.setupOnchainPaymentForm bitcoinURI walletReady).Released := by
  unfold Screen.setupOnchainPaymentForm
  rw [checkWalletReady_eq]
  exact ⟨⟨fun _ => Option.some_ne_none _, h.dialog, h.prompt⟩, fun hw => hc hw.1 hw.2.2⟩

theorem Released.setupLightningPaymentForm (h : s.Linked) {invalid : Option Message}
    (hc : invalid = none → s.isProcessingPayment = true → s.left = false → s.Pending)
    (paymentRequest : PaymentRequest) (walletReady : Option Bool) :
    (s.setupLightningPaymentForm paymentRequest invalid walletReady).Released := by
  unfold Screen.setupLightningPaymentForm
  cases invalid with
  | some message => exact canNotHandlePayment h message
  | none =>
    rw [checkWalletReady_eq]
    exact ⟨⟨fun _ => Option.some_ne_none _, h.dialog, h.prompt⟩, fun hw => hc rfl hw.1 hw.2.2⟩

theorem Released.invoiceReadSuccessfully (h : s.Linked) {pInvoice : BitcoinURI ⊕ PaymentRequest}
    {invalid : Option Message}
    (hc : DisplaysForm pInvoice invalid → s.isProcessingPayment = true → s.left = false →
      s.Pending) (walletReady : Option Bool) :
    (s.invoiceReadSuccessfully pInvoice invalid walletReady).Released := by
  unfold Screen.invoiceReadSuccessfully
  cases pInvoice with
  | inr paymentRequest => exact setupLightningPaymentForm h hc paymentRequest walletReady
  | inl bitcoinURI =>
    cases hl : bitcoinURI.lightning with
    | none =>
      simp only [hl]
      exact setupOnchainPaymentForm h (hc hl) bitcoinURI walletReady
    | some paymentRequest =>
      simp only [hl]
      have hstep : ¬FormStep { s with paymentStep := .PICK_PAYMENT_SETTLEMENT_TYPE } := by
        rintro (hf | hf) <;> cases hf
      exact .of_hidden ⟨fun hf => absurd hf hstep, h.dialog, h.prompt⟩ fun hd => hstep hd.1

theorem Released.checkOnchainBalance (h : s.Released) (amount onchainBalance : ℤ) :
    (s.checkOnchainBalance amount onchainBalance).Released := by
  unfold Screen.checkOnchainBalance
  split
  · split_ifs
    · exact handlePaymentError h.linked _
    · exact ⟨⟨h.linked.invoice, h.linked.dialog, h.linked.prompt⟩, h.releases⟩
  · exact h

/-! ### Runs -/

variable {s' : Screen}

theorem Released.step (h : s.Released) {e : Event} (hc : s.KeepsPending e)
    (hs : s.step e = some s') : s'.Released := by
  have hlinked := h.linked
  cases e with
  | invoiceReadSuccessfully invoiceAsString pInvoice invalid walletReady =>
    cases hs
    exact invoiceReadSuccessfully (s := { s with invoiceAsString := invoiceAsString })
      ⟨hlinked.invoice, hlinked.dialog, hlinked.prompt⟩ hc walletReady
  | invoiceNotRead invoiceAsString message =>
    cases hs
    exact canNotHandlePayment (s := { s with invoiceAsString := invoiceAsString })
      ⟨hlinked.invoice, hlinked.dialog, hlinked.prompt⟩ message
  | pickLightning paymentRequest invalid walletReady =>
    cases hs
    exact setupLightningPaymentForm hlinked hc paymentRequest walletReady
  | pickOnchain bitcoinURI walletReady =>
    cases hs
    exact setupOnchainPaymentForm hlinked hc bitcoinURI walletReady
  | checkWalletReady walletReady =>
    cases hs
    rw [checkWalletReady_eq]
    exact ⟨⟨hlinked.invoice, hlinked.dialog, hlinked.prompt⟩, h.releases⟩
  | checkOnchainBalance amount onchainBalance =>
    cases hs
    exact h.checkOnchainBalance amount onchainBalance
  | confirmPayment form =>
    cases hs
    exact h.confirmPayment form
  | cancelPayment =>
    cases hs
    exact closeAndGoHome hlinked
  | onClick i key =>
    obtain ⟨⟨press, dialog⟩, hi, hs⟩ := Option.bind_eq_some_iff.mp hs
    obtain ⟨-, ⟨⟩⟩ := Option.ite_none_right_eq_some.mp hs
    exact h.onClick hi key
  | cancel i =>
    obtain ⟨⟨press, dialog⟩, -, hs⟩ := Option.bind_eq_some_iff.mp hs
    obtain ⟨-, ⟨⟩⟩ := Option.ite_none_right_eq_some.mp hs
    exact onPinCancel hlinked.setDialog
  | onPinConfirm i app =>
    obtain ⟨⟨press, dialog⟩, -, hs⟩ := Option.bind_eq_some_iff.mp hs
    obtain ⟨-, ⟨⟩⟩ := Option.ite_none_right_eq_some.mp hs
    exact onPinConfirm hlinked _ app
  | onAuthenticationSucceeded i =>
    obtain ⟨-, ⟨⟩⟩ := Option.ite_none_right_eq_some.mp hs
    refine ⟨⟨hlinked.invoice, hlinked.dialog, fun hp => ?_⟩, fun _ => Or.inr (Or.inr ?_)⟩
    · exact hlinked.prompt fun hnil => hp (by simp [Screen.sendLNPayment, hnil])
    · exact List.append_ne_nil_of_right_ne_nil _ (List.cons_ne_nil _ _)
  | onAuthenticationError i error =>
    obtain ⟨hi, hs⟩ := Option.ite_none_right_eq_some.mp hs
    have hprompts : s.prompts ≠ [] := List.ne_nil_of_mem hi
    have herase : Linked { s with prompts := s.prompts.erase i } :=
      ⟨hlinked.invoice, hlinked.dialog, fun _ => hlinked.prompt hprompts⟩
    cases error with
    | ERROR_NEGATIVE_BUTTON =>
      cases hs
      exact shows herase (hlinked.prompt hprompts) fun _ => rfl
    | ERROR_USER_CANCELED =>
      cases hs
      exact onPinCancel herase
    | other errorCode =>
      cases hs
      exact ⟨herase, hc⟩
  | sendLNPayment i p now =>
    obtain ⟨-, hs⟩ := Option.ite_none_right_eq_some.mp hs
    obtain ⟨press, -, hs⟩ := Option.bind_eq_some_iff.mp hs
    have herase : Linked { s with threads := s.threads.erase i } :=
      ⟨hlinked.invoice, hlinked.dialog, hlinked.prompt⟩
    cases hx : press.execution with
    | sendLNPayment order =>
      simp only [hx] at hs
      cases hcheck : checkPayment p order now with
      | error e =>
        simp only [hcheck] at hs
        cases hs
        exact canNotHandlePayment herase _
      | ok q =>
        simp only [hcheck] at hs
        cases hs
        exact closeAndGoHome herase
    | sendBitcoinPayment amountSat feesPerKw bitcoinURI emptyWallet => simp [hx] at hs
  | onPause =>
    cases hs
    exact h.dismiss hc
  | onResume app =>
    cases app with
    | some pin =>
      cases hs
      exact h
    | none =>
      cases hs
      exact .of_left ⟨hlinked.invoice, hlinked.dialog, hlinked.prompt⟩ rfl

theorem released_start : Released {} where
  linked := ⟨fun h => absurd h (by decide), fun i hi => absurd hi (by simp), fun h => absurd rfl h⟩
  releases hw := absurd hw (by decide)

/-- Any other event leaves a disabled form with nothing pending. -/
theorem not_releasesForm_of_step (h : s.Linked) {e : Event} (hc : ¬s.KeepsPending e)
    (hs : s.step e = some s') : ¬s'.ReleasesForm := by
  unfold KeepsPending at hc
  split at hc
  · next invoiceAsString pInvoice invalid walletReady =>
    cases hs
    simp only [Classical.not_imp] at hc
    obtain ⟨hdisplays, hp, hl, hnot⟩ := hc
    cases pInvoice with
    | inl bitcoinURI =>
      replace hdisplays : bitcoinURI.lightning = none := hdisplays
      simp only [Screen.invoiceReadSuccessfully, hdisplays, Screen.setupOnchainPaymentForm,
        checkWalletReady_eq]
      exact fun hr => hnot (hr ⟨hp, Or.inl rfl, hl⟩)
    | inr paymentRequest =>
      obtain rfl : invalid = none := hdisplays
      simp only [Screen.invoiceReadSuccessfully, Screen.setupLightningPaymentForm,
        checkWalletReady_eq]
      exact fun hr => hnot (hr ⟨hp, Or.inr rfl, hl⟩)
  · next paymentRequest invalid walletReady =>
    cases hs
    simp only [Classical.not_imp] at hc
    obtain ⟨rfl, hp, hl, hnot⟩ := hc
    simp only [Screen.setupLightningPaymentForm, checkWalletReady_eq]
    exact fun hr => hnot (hr ⟨hp, Or.inr rfl, hl⟩)
  · next bitcoinURI walletReady =>
    cases hs
    simp only [Classical.not_imp] at hc
    obtain ⟨hp, hl, hnot⟩ := hc
    simp only [Screen.setupOnchainPaymentForm, checkWalletReady_eq]
    exact fun hr => hnot (hr ⟨hp, Or.inl rfl, hl⟩)
  · next i errorCode =>
    obtain ⟨-, ⟨⟩⟩ := Option.ite_none_right_eq_some.mp hs
    obtain ⟨hw, hnot⟩ := Classical.not_imp.mp hc
    exact fun hr => hnot (hr hw)
  · cases hs
    obtain ⟨hw, hnot⟩ := Classical.not_imp.mp hc
    exact fun hr =>
      hnot ((pending_dismiss_iff h).mp (hr ((waiting_onPinDialog_iff _).mpr hw)))
  · exact absurd trivial hc

/-- **In every run whose events take away no last continuation and display no form without one, a
form that is disabled has a continuation that releases it.**  The first event that does leaves it
without one. -/
theorem releasesForm (h : Reach Screen.step KeepsPending (· = {}) s) : s.ReleasesForm ∧
    ∀ e s', s.step e = some s' → (s'.ReleasesForm ↔ s.KeepsPending e) := by
  have hreleased : s.Released := by
    refine Reach.invariant ?_ (fun _ _ _ hI hc hs => hI.step hc hs) s h
    rintro s rfl
    exact released_start
  refine ⟨hreleased.releases, fun e s' hs => ⟨fun hreleases => ?_, fun hc => ?_⟩⟩
  · by_contra hc
    exact not_releasesForm_of_step hreleased.linked hc hs hreleases
  · exact (hreleased.step hc hs).releases

end

/-- Whether the form waits, and whether something is pending, after these events. -/
def waitsAfter (events : List Event) : Option (Bool × Bool) :=
  (run step {} events).map fun s => (decide s.Waiting, decide s.Pending)

/-- The form waits for the PIN. -/
theorem releasesForm_pin : ∃ s, run step {} typesPin = some s ∧ s.Waiting ∧ s.Pending ∧
    ∀ e s', s.step e = some s' → (s'.ReleasesForm ↔ s.KeepsPending e) := by
  have hwaits : waitsAfter typesPin = some (true, true) := by
    decide +kernel
  have hmeets : Meets step KeepsPending {} typesPin := by
    decide +kernel
  obtain ⟨s, hrun, hs⟩ := Option.map_eq_some_iff.mp hwaits
  have hw := of_decide_eq_true (Prod.mk.inj hs).1
  obtain ⟨hreleases, hiff⟩ := releasesForm (reach_of_meets rfl hmeets hrun)
  exact ⟨s, hrun, hw, hreleases hw, hiff⟩

/-- The activity is paused while the PIN is typed. -/
theorem not_releasesForm : ¬ ∀ s, Reach step anyStep (· = {}) s → s.ReleasesForm := by
  intro h
  have hwaits : waitsAfter [
      .invoiceReadSuccessfully "bitcoin:2N8epVuuUA9N6aPgx8kvFZ6rUnzVLJ6CqBx" (.inl somebody) none
        (some true),
      .confirmPayment pinForm, .onPause, .onResume (some "123456")] = some (true, false) := by
    decide +kernel
  obtain ⟨s, hrun, hs⟩ := Option.map_eq_some_iff.mp hwaits
  obtain ⟨hw, hnot⟩ := Prod.mk.inj hs
  exact of_decide_eq_false hnot (h s (reach_of_run rfl hrun) (of_decide_eq_true hw))

end Screen

end SendPaymentActivity

end EclairMobile
