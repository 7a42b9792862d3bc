import EclairMobile.Activities.EclairActivity

/-!
# PinDialog

The dialog in which the PIN is entered.  Displaying the last character of a PIN posts a delayed
confirmation, which reads the PIN only when it runs; nothing takes it back.
-/

namespace EclairMobile

open EclairActivity (PIN_LENGTH)

/-- The keys of the dialog. -/
inductive PinKey
  | pinNum (n : Fin 10)
  | pinNumClear
  | pinBackspace
  deriving DecidableEq, Repr

structure PinDialog where
  mPinValue : List (Fin 10) := []
  pinDisplay : String := ""
  showing : Bool := false
  /-- The confirmations that are posted and have not run. -/
  posted : ℕ := 0
  /-- History: what `onPinConfirm` was called with since the last `reset`. -/
  confirmed : List (List (Fin 10)) := []
  deriving DecidableEq, Repr

namespace PinDialog

def PIN_PLACEHOLDER : Char := '\u25CF'

/-- The text of a PIN. -/
def text (pin : List (Fin 10)) : String := String.ofList (pin.map fun n => Nat.digitChar n.val)

/-- `Strings.repeat(PIN_PLACEHOLDER, count)`. -/
def placeholders (count : ℕ) : String := String.ofList (List.replicate count PIN_PLACEHOLDER)

/-- `pinDisplay.setText`, with the listener of the text: a complete PIN is confirmed later. -/
def setText (dialog : PinDialog) (s : String) : PinDialog :=
  { dialog with
    pinDisplay := s
    posted := if s.length = PIN_LENGTH then dialog.posted + 1 else dialog.posted }

/-- The listener of the digits, which add to a PIN that is not complete. -/
def pinNum (dialog : PinDialog) (n : Fin 10) : PinDialog :=
  if dialog.mPinValue = [] ∨ dialog.mPinValue.length ≠ PIN_LENGTH then
    setText { dialog with mPinValue := dialog.mPinValue ++ [n] }
      (placeholders (dialog.mPinValue ++ [n]).length)
  else dialog

def pinNumClear (dialog : PinDialog) : PinDialog := setText { dialog with mPinValue := [] } ""

def pinBackspace (dialog : PinDialog) : PinDialog :=
  if 0 < dialog.mPinValue.length then
    setText { dialog with mPinValue := dialog.mPinValue.dropLast }
      (placeholders dialog.mPinValue.dropLast.length)
  else dialog

def onClick (dialog : PinDialog) : PinKey → PinDialog
  | .pinNum n => dialog.pinNum n
  | .pinNumClear => dialog.pinNumClear
  | .pinBackspace => dialog.pinBackspace

def reset (dialog : PinDialog) : PinDialog :=
  setText { dialog with mPinValue := [], confirmed := [] } ""

def shows (dialog : PinDialog) : PinDialog := { dialog with showing := true }

def dismiss (dialog : PinDialog) : PinDialog := { dialog with showing := false }

/-- A posted confirmation runs and calls `onPinConfirm` with the PIN of this moment. -/
def confirm (dialog : PinDialog) : PinDialog :=
  { dialog with
    posted := dialog.posted - 1
    confirmed := dialog.confirmed ++ [dialog.mPinValue] }

/-! ### One confirmation of a complete PIN -/

/-- What is asked of the confirmations since the last `reset`. -/
def ConfirmedOnce (dialog : PinDialog) : Prop :=
  dialog.confirmed.length ≤ 1 ∧ ∀ pin ∈ dialog.confirmed, pin.length = PIN_LENGTH

/-- The key is the last digit of the PIN. -/
def Completes (dialog : PinDialog) : PinKey → Prop
  | .pinNum _ => dialog.mPinValue.length + 1 = PIN_LENGTH
  | .pinNumClear | .pinBackspace => False

/-- A key takes nothing away while a confirmation is posted, and completes no PIN after one has
run. -/
def Careful (dialog : PinDialog) (key : PinKey) : Prop :=
  (key = .pinNumClear ∨ key = .pinBackspace → dialog.posted = 0) ∧
    (dialog.Completes key → dialog.confirmed = [])

instance (dialog : PinDialog) : DecidablePred dialog.Completes
  | .pinNum _ => inferInstanceAs (Decidable (_ = _))
  | .pinNumClear | .pinBackspace => inferInstanceAs (Decidable False)

instance (dialog : PinDialog) : DecidablePred dialog.Careful := fun _ =>
  inferInstanceAs (Decidable (_ ∧ _))

/-- At most one confirmation is posted or has run, and a posted one finds a complete PIN. -/
structure Sound (dialog : PinDialog) : Prop where
  length_le : dialog.mPinValue.length ≤ PIN_LENGTH
  posted_le : dialog.posted ≤ 1
  of_posted : 0 < dialog.posted → dialog.mPinValue.length = PIN_LENGTH ∧ dialog.confirmed = []
  once : dialog.ConfirmedOnce

section

variable {dialog : PinDialog}

@[simp] theorem length_placeholders (count : ℕ) : (placeholders count).length = count := by
  simp [placeholders]

@[simp] theorem posted_setText (s : String) : (dialog.setText s).posted =
    if s.length = PIN_LENGTH then dialog.posted + 1 else dialog.posted := rfl

theorem Sound.new : Sound {} :=
  ⟨by decide, by decide, fun h => absurd h (by decide), by decide, by decide⟩

theorem Sound.setText_short (h : dialog.Sound) (hposted : dialog.posted = 0) {pin : List (Fin 10)}
    {s : String} (hs : s.length ≠ PIN_LENGTH) (hpin : pin.length ≤ PIN_LENGTH) :
    (setText { dialog with mPinValue := pin } s).Sound := by
  have hkeep : (setText { dialog with mPinValue := pin } s).posted = 0 := by
    rw [posted_setText, if_neg hs]
    exact hposted
  refine ⟨hpin, ?_, ?_, h.once⟩
  · omega
  · omega

theorem Sound.pinNum (h : dialog.Sound) {n : Fin 10}
    (hc : dialog.mPinValue.length + 1 = PIN_LENGTH → dialog.confirmed = []) :
    (dialog.pinNum n).Sound := by
  unfold PinDialog.pinNum
  by_cases hguard : dialog.mPinValue = [] ∨ dialog.mPinValue.length ≠ PIN_LENGTH
  · rw [if_pos hguard]
    have hle := h.length_le
    have hlt : dialog.mPinValue.length < PIN_LENGTH := by
      rcases hguard with hnil | hne
      · rw [hnil]
        decide
      · omega
    -- a confirmation is posted only when the PIN is complete
    have hzero : dialog.posted = 0 := by
      by_contra hpos
      have hcomplete := (h.of_posted (Nat.pos_of_ne_zero hpos)).1
      omega
    have hlen : (dialog.mPinValue ++ [n]).length = dialog.mPinValue.length + 1 := by simp
    by_cases hlast : dialog.mPinValue.length + 1 = PIN_LENGTH
    · have hone : (setText { dialog with mPinValue := dialog.mPinValue ++ [n] }
          (placeholders (dialog.mPinValue ++ [n]).length)).posted = 1 := by
        rw [posted_setText, length_placeholders, hlen, if_pos hlast]
        exact congrArg (· + 1) hzero
      refine ⟨?_, ?_, ?_, h.once⟩
      · exact hlen ▸ hlt
      · omega
      · intro _
        exact ⟨hlen.trans hlast, hc hlast⟩
    · exact h.setText_short hzero (by simpa using hlast) (hlen ▸ hlt)
  · rw [if_neg hguard]
    exact h

theorem Sound.pinNumClear (h : dialog.Sound) (hposted : dialog.posted = 0) :
    dialog.pinNumClear.Sound :=
  h.setText_short hposted (by decide) (Nat.zero_le _)

theorem Sound.pinBackspace (h : dialog.Sound) (hposted : dialog.posted = 0) :
    dialog.pinBackspace.Sound := by
  unfold PinDialog.pinBackspace
  by_cases hpos : 0 < dialog.mPinValue.length
  · rw [if_pos hpos]
    have hle := h.length_le
    have hlt : dialog.mPinValue.dropLast.length < PIN_LENGTH := by
      rw [List.length_dropLast]
      omega
    refine h.setText_short hposted ?_ (Nat.le_of_lt hlt)
    rw [length_placeholders]
    omega
  · rw [if_neg hpos]
    exact h

/-- **A key that is pressed with care keeps the confirmations sound.** -/
theorem Sound.onClick {key : PinKey} (h : dialog.Sound) (hc : dialog.Careful key) :
    (dialog.onClick key).Sound := by
  cases key with
  | pinNum n => exact h.pinNum hc.2
  | pinNumClear => exact h.pinNumClear (hc.1 (Or.inl rfl))
  | pinBackspace => exact h.pinBackspace (hc.1 (Or.inr rfl))

/-- Only a digit that completes the PIN posts a confirmation. -/
theorem Sound.posted_onClick {key : PinKey} (h : dialog.Sound)
    (hpos : 0 < (dialog.onClick key).posted) : 0 < dialog.posted ∨ dialog.Completes key := by
  have hle := h.length_le
  cases key with
  | pinNum n =>
    by_cases hlast : dialog.mPinValue.length + 1 = PIN_LENGTH
    · exact Or.inr hlast
    · refine Or.inl ?_
      change 0 < (dialog.pinNum n).posted at hpos
      unfold PinDialog.pinNum at hpos
      split at hpos
      · rwa [posted_setText, if_neg (by simpa using hlast)] at hpos
      · exact hpos
  | pinNumClear => exact Or.inl hpos
  | pinBackspace =>
    refine Or.inl ?_
    change 0 < dialog.pinBackspace.posted at hpos
    unfold PinDialog.pinBackspace at hpos
    split at hpos
    · have hshort : (placeholders dialog.mPinValue.dropLast.length).length ≠ PIN_LENGTH := by
        rw [length_placeholders, List.length_dropLast]
        omega
      rwa [posted_setText, if_neg hshort] at hpos
    · exact hpos

theorem confirmedOnce_nil (h : dialog.confirmed = []) : dialog.ConfirmedOnce := by
  unfold ConfirmedOnce
  simp [h]

theorem Sound.reset (h : dialog.Sound) (hposted : dialog.posted = 0) : dialog.reset.Sound := by
  have hnil : Sound { dialog with confirmed := [] } :=
    ⟨h.length_le, h.posted_le, fun hpos => ⟨(h.of_posted hpos).1, rfl⟩, confirmedOnce_nil rfl⟩
  exact hnil.pinNumClear hposted

theorem Sound.shows (h : dialog.Sound) : dialog.shows.Sound :=
  ⟨h.length_le, h.posted_le, h.of_posted, h.once⟩

theorem Sound.dismiss (h : dialog.Sound) : dialog.dismiss.Sound :=
  ⟨h.length_le, h.posted_le, h.of_posted, h.once⟩

theorem Sound.confirm (h : dialog.Sound) (hpos : 0 < dialog.posted) : dialog.confirm.Sound := by
  obtain ⟨hcomplete, hnone⟩ := h.of_posted hpos
  have hle := h.posted_le
  refine ⟨h.length_le, ?_, ?_, ?_, ?_⟩
  · show dialog.posted - 1 ≤ 1
    omega
  · intro hpos'
    change 0 < dialog.posted - 1 at hpos'
    omega
  · simp [PinDialog.confirm, hnone]
  · intro pin hpin
    simp only [PinDialog.confirm, hnone, List.nil_append, List.mem_singleton] at hpin
    rw [hpin]
    exact hcomplete

end

end PinDialog

end EclairMobile
