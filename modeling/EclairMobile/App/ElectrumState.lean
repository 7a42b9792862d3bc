import Mathlib.Data.Int.Notation
import Mathlib.Data.List.Induction
import Mathlib.Data.List.TakeWhile

/-!
# The state of the Electrum wallet

`App` keeps what the Electrum client and wallet report in a state that is created by the first event
that needs it.  A new receive address does not create it: addresses that come before any other event
are lost, and nothing else is.
-/

namespace EclairMobile

namespace App

/-- Amounts are in satoshis. -/
structure ElectrumState where
  confirmedBalance : Option ℤ := none
  unconfirmedBalance : Option ℤ := none
  blockTimestamp : ℤ := 0
  address : Option String := none
  isConnected : Bool := false
  onchainAddress : Option String := none
  deriving DecidableEq, Repr

inductive ElectrumEvent
  | newWalletReceiveAddress (address : String)
  | walletReady (confirmedBalance unconfirmedBalance timestamp : ℤ)
  | electrumDisconnected
  | electrumReady (serverAddress : String)
  deriving DecidableEq, Repr

/-! ### The handlers -/

section Handlers

variable (electrumState : Option ElectrumState)

/-- The other handlers create a state; this one only changes the one that is there. -/
def handleNewWalletAddress (address : String) : Option ElectrumState :=
  match electrumState with
  | some state => some { state with onchainAddress := some address }
  | none => none

def handleWalletReadyEvent (confirmedBalance unconfirmedBalance timestamp : ℤ) :
    Option ElectrumState :=
  let state := electrumState.getD {}
  some { state with
    confirmedBalance := some confirmedBalance
    unconfirmedBalance := some unconfirmedBalance
    blockTimestamp := timestamp
    isConnected := true }

def handleWalletDisconnectedEvent : Option ElectrumState :=
  some { electrumState.getD {} with isConnected := false }

def handleElectrumReadyEvent (serverAddress : String) : Option ElectrumState :=
  some { electrumState.getD {} with address := some serverAddress }

def handleElectrumEvent : ElectrumEvent → Option ElectrumState
  | .newWalletReceiveAddress address => handleNewWalletAddress electrumState address
  | .walletReady confirmed unconfirmed timestamp =>
    handleWalletReadyEvent electrumState confirmed unconfirmed timestamp
  | .electrumDisconnected => handleWalletDisconnectedEvent electrumState
  | .electrumReady serverAddress => handleElectrumReadyEvent electrumState serverAddress

end Handlers

/-- The state after events, from the start of the process. -/
def electrumStateAfter (events : List ElectrumEvent) : Option ElectrumState :=
  events.foldl handleElectrumEvent none

/-! ### The last event that carries a field -/

namespace ElectrumEvent

def balances? : ElectrumEvent → Option (ℤ × ℤ × ℤ)
  | walletReady confirmed unconfirmed timestamp => some (confirmed, unconfirmed, timestamp)
  | _ => none

def connected? : ElectrumEvent → Option Bool
  | walletReady .. => some true
  | electrumDisconnected => some false
  | _ => none

def server? : ElectrumEvent → Option String
  | electrumReady serverAddress => some serverAddress
  | _ => none

def receiveAddress? : ElectrumEvent → Option String
  | newWalletReceiveAddress address => some address
  | _ => none

end ElectrumEvent

open ElectrumEvent

/-- What the last event that carries a value of this kind carries. -/
def lastOf {α : Type} (f : ElectrumEvent → Option α) (events : List ElectrumEvent) : Option α :=
  (events.filterMap f).getLast?

/-- In each field the value of the last event that carries the field. -/
def lastValues (events : List ElectrumEvent) : ElectrumState where
  confirmedBalance := (lastOf balances? events).map (·.1)
  unconfirmedBalance := (lastOf balances? events).map (·.2.1)
  blockTimestamp := ((lastOf balances? events).map (·.2.2)).getD 0
  address := lastOf server? events
  isConnected := (lastOf connected? events).getD false
  onchainAddress := lastOf receiveAddress? events

section Last

variable {α : Type} {f : ElectrumEvent → Option α} {events : List ElectrumEvent}
  {event : ElectrumEvent}

@[simp] theorem lastOf_nil : lastOf f [] = none := rfl

@[simp] theorem lastOf_singleton : lastOf f [event] = f event := by
  cases h : f event <;> simp [lastOf, h]

theorem lastOf_append_singleton :
    lastOf f (events ++ [event]) = (f event).or (lastOf f events) := by
  cases h : f event <;> simp [lastOf, h]

theorem lastOf_eq_none_iff : lastOf f events = none ↔ ∀ e ∈ events, f e = none := by
  simp [lastOf]

theorem lastOf_append (before : List ElectrumEvent) {after : List ElectrumEvent}
    (h : lastOf f after ≠ none) : lastOf f (before ++ after) = lastOf f after := by
  unfold lastOf at h ⊢
  rw [List.filterMap_append, List.getLast?_append]
  cases hlast : (after.filterMap f).getLast? with
  | none => exact absurd hlast h
  | some a => rfl

end Last

/-! ### What the handlers keep -/

def isReceiveAddress (event : ElectrumEvent) : Bool := (receiveAddress? event).isSome

/-- The events from the first one on that is not a receive address. -/
def fromFirstOther (events : List ElectrumEvent) : List ElectrumEvent :=
  events.dropWhile isReceiveAddress

theorem electrumStateAfter_append (events : List ElectrumEvent) (event : ElectrumEvent) :
    electrumStateAfter (events ++ [event]) =
      handleElectrumEvent (electrumStateAfter events) event := by
  simp [electrumStateAfter]

theorem electrumStateAfter_eq_none_iff (events : List ElectrumEvent) :
    electrumStateAfter events = none ↔ ∀ e ∈ events, isReceiveAddress e := by
  induction events using List.reverseRecOn with
  | nil => simp [electrumStateAfter]
  | append_singleton events event ih =>
    rw [electrumStateAfter_append]
    cases event with
    | newWalletReceiveAddress address =>
      have hkeep : handleElectrumEvent (electrumStateAfter events)
          (.newWalletReceiveAddress address) = none ↔ electrumStateAfter events = none := by
        cases electrumStateAfter events <;> simp [handleElectrumEvent, handleNewWalletAddress]
      simp [hkeep, ih, isReceiveAddress, receiveAddress?, or_imp, forall_and]
    | walletReady =>
      simp [handleElectrumEvent, handleWalletReadyEvent, isReceiveAddress, receiveAddress?, or_imp,
        forall_and]
    | electrumDisconnected =>
      simp [handleElectrumEvent, handleWalletDisconnectedEvent, isReceiveAddress, receiveAddress?,
        or_imp, forall_and]
    | electrumReady =>
      simp [handleElectrumEvent, handleElectrumReadyEvent, isReceiveAddress, receiveAddress?,
        or_imp, forall_and]

theorem fromFirstOther_append_of_some {events : List ElectrumEvent} {state : ElectrumState}
    (h : electrumStateAfter events = some state) (event : ElectrumEvent) :
    fromFirstOther (events ++ [event]) = fromFirstOther events ++ [event] := by
  have hne : fromFirstOther events ≠ [] := by
    unfold fromFirstOther
    rw [Ne, List.dropWhile_eq_nil_iff, ← electrumStateAfter_eq_none_iff, h]
    simp
  unfold fromFirstOther at hne ⊢
  rw [List.dropWhile_append, if_neg (by simpa using hne)]

theorem fromFirstOther_append_of_none {events : List ElectrumEvent}
    (h : electrumStateAfter events = none) (event : ElectrumEvent) :
    fromFirstOther (events ++ [event]) = if isReceiveAddress event then [] else [event] := by
  rw [electrumStateAfter_eq_none_iff, ← List.dropWhile_eq_nil_iff] at h
  unfold fromFirstOther
  rw [List.dropWhile_append, h]
  cases hevent : isReceiveAddress event <;> simp [hevent]

theorem lastOf_eq_none_of_none {events : List ElectrumEvent}
    (h : electrumStateAfter events = none) : lastOf balances? events = none ∧
      lastOf connected? events = none ∧ lastOf server? events = none := by
  rw [electrumStateAfter_eq_none_iff] at h
  have hnone : ∀ e ∈ events, balances? e = none ∧ connected? e = none ∧ server? e = none := by
    intro e he
    have haddress := h e he
    cases e with
    | newWalletReceiveAddress address => exact ⟨rfl, rfl, rfl⟩
    | _ => cases haddress
  simp only [lastOf_eq_none_iff]
  exact ⟨fun e he => (hnone e he).1, fun e he => (hnone e he).2.1, fun e he => (hnone e he).2.2⟩

/-- **Every field but the receive address has its last value, and the receive address has the last
one that did not come before all other events.** -/
theorem electrumStateAfter_eq (events : List ElectrumEvent) :
    (electrumStateAfter events).getD {} = { lastValues events with
      onchainAddress := lastOf receiveAddress? (fromFirstOther events) } := by
  induction events using List.reverseRecOn with
  | nil => rfl
  | append_singleton events event ih =>
    rw [electrumStateAfter_append]
    cases hstate : electrumStateAfter events with
    | none =>
      obtain ⟨hbalances, hconnected, hserver⟩ := lastOf_eq_none_of_none hstate
      rw [fromFirstOther_append_of_none hstate]
      cases event <;>
        simp [handleElectrumEvent, handleNewWalletAddress, handleWalletReadyEvent,
          handleWalletDisconnectedEvent, handleElectrumReadyEvent, lastValues,
          lastOf_append_singleton, balances?, connected?, server?, receiveAddress?,
          isReceiveAddress, hbalances, hconnected, hserver]
    | some state =>
      rw [hstate, Option.getD_some] at ih
      rw [fromFirstOther_append_of_some hstate, ih]
      cases event <;>
        simp [handleElectrumEvent, handleNewWalletAddress, handleWalletReadyEvent,
          handleWalletDisconnectedEvent, handleElectrumReadyEvent, lastValues,
          lastOf_append_singleton, balances?, connected?, server?, receiveAddress?]

/-! ### When no event is lost -/

/-- The state, or the initial values if there is none, holds the last value of every field. -/
def HoldsLast (events : List ElectrumEvent) : Prop :=
  (electrumStateAfter events).getD {} = lastValues events

theorem holdsLast_iff_onchainAddress (events : List ElectrumEvent) : HoldsLast events ↔
    lastOf receiveAddress? (fromFirstOther events) = lastOf receiveAddress? events := by
  unfold HoldsLast
  rw [electrumStateAfter_eq]
  constructor
  · intro h
    exact congrArg ElectrumState.onchainAddress h
  · intro h
    rw [h]
    rfl

theorem lastOf_receiveAddress_ne_none_iff {events : List ElectrumEvent} :
    lastOf receiveAddress? events ≠ none ↔ ∃ e ∈ events, isReceiveAddress e := by
  rw [Ne, lastOf_eq_none_iff]
  simp [isReceiveAddress, Option.isSome_iff_ne_none]

theorem takeWhile_append_fromFirstOther (events : List ElectrumEvent) :
    events.takeWhile isReceiveAddress ++ fromFirstOther events = events :=
  List.takeWhile_append_dropWhile

/-- The last address is kept exactly if it is not among those that come first. -/
theorem lastOf_fromFirstOther_iff (events : List ElectrumEvent) :
    lastOf receiveAddress? (fromFirstOther events) = lastOf receiveAddress? events ↔
      ((∃ e ∈ events, isReceiveAddress e) → ∃ e ∈ fromFirstOther events, isReceiveAddress e) := by
  rw [← lastOf_receiveAddress_ne_none_iff, ← lastOf_receiveAddress_ne_none_iff]
  constructor
  · intro h
    rw [h]
    exact id
  · intro h
    by_cases hnone : lastOf receiveAddress? events = none
    · rw [hnone, lastOf_eq_none_iff]
      intro e he
      exact lastOf_eq_none_iff.mp hnone e ((List.dropWhile_sublist _).subset he)
    · rw [← lastOf_append (events.takeWhile isReceiveAddress) (h hnone),
        takeWhile_append_fromFirstOther]

/-- An address that does not come first is one behind an event of another kind. -/
theorem exists_mem_fromFirstOther_iff (events : List ElectrumEvent) :
    (∃ e ∈ fromFirstOther events, isReceiveAddress e) ↔ ∃ before e after,
      events = before ++ e :: after ∧ isReceiveAddress e ∧ ∃ d ∈ before, ¬ isReceiveAddress d := by
  constructor
  · rintro ⟨e, he, haddress⟩
    cases hrest : fromFirstOther events with
    | nil => simp [hrest] at he
    | cons d rest =>
      have hd : ¬ isReceiveAddress d := by
        have hfind : events.find? (fun e => !isReceiveAddress e) = some d := by
          rw [List.find?_not_eq_head?_dropWhile]
          show (fromFirstOther events).head? = some d
          rw [hrest]
          rfl
        simpa using List.find?_some hfind
      rw [hrest] at he
      rcases List.mem_cons.mp he with rfl | he
      · exact absurd haddress hd
      · obtain ⟨x, y, rfl⟩ := List.append_of_mem he
        refine ⟨events.takeWhile isReceiveAddress ++ d :: x, e, y, ?_, haddress, d, by simp, hd⟩
        have hsplit := takeWhile_append_fromFirstOther events
        rw [hrest] at hsplit
        rw [List.append_assoc, List.cons_append]
        exact hsplit.symm
  · rintro ⟨before, e, after, rfl, haddress, d, hd, hother⟩
    have hne : ¬ (before.dropWhile isReceiveAddress).isEmpty := by
      rw [List.isEmpty_iff, List.dropWhile_eq_nil_iff]
      exact fun hall => hother (hall d hd)
    refine ⟨e, ?_, haddress⟩
    unfold fromFirstOther
    rw [List.dropWhile_append, if_neg hne]
    simp

/-- **No event is lost exactly if, should there be a receive address at all, one comes behind an
event of another kind.** -/
theorem holdsLast_iff (events : List ElectrumEvent) : HoldsLast events ↔
    ((∃ e ∈ events, isReceiveAddress e) → ∃ before e after, events = before ++ e :: after ∧
      isReceiveAddress e ∧ ∃ d ∈ before, ¬ isReceiveAddress d) := by
  rw [holdsLast_iff_onchainAddress, lastOf_fromFirstOther_iff, exists_mem_fromFirstOther_iff]

/-- An address that comes first is lost. -/
theorem not_holdsLast : ¬ ∀ events, HoldsLast events := by
  intro h
  have hlast := congrArg ElectrumState.onchainAddress
    (h [.newWalletReceiveAddress "2N8h", .walletReady 5 0 1])
  exact absurd hlast (by decide)

end App

end EclairMobile
