import EclairMobile.Payments.Status

/-!
# One payment hash, abstractly

What the sending of one hash amounts to: the status of its row, and how many carriers of the right
to pay there are (threads about to hand a request over, open requests, final events that are not
handled).  The row acts as a lock: a careful writer takes it when it is free, and only the final
event of its request frees it again.  `View.Inv` says so, and `View.Inv.step` that every careful
transition keeps it.
-/

namespace EclairMobile

open NodeSupervisor

/-- The statuses that let a thread go on: no row, or a failed payment. -/
def Idle (st : LnStatus) : Prop := st = none ∨ st = some (some .FAILED)

/-- The statuses of a payment that is being sent. -/
def Busy (st : LnStatus) : Prop := st = some (some .INIT) ∨ st = some (some .PENDING)

theorem Idle.not_busy {st : LnStatus} (h : Idle st) : ¬ Busy st := by
  rintro (rfl | rfl)
  · rcases h with h | h <;> cases h
  · rcases h with h | h <;> cases h

theorem idle_pend_iff {st : LnStatus} : Idle (pend st) ↔ Idle st := by
  unfold pend
  split
  · next h =>
    subst h
    simp [Idle]
  · exact Iff.rfl

theorem Busy.pend {st : LnStatus} (h : Busy st) : pend st = some (some .PENDING) := by
  rcases h with rfl | rfl <;> rfl

/-- What there is of one hash. -/
@[ext]
structure View where
  status : LnStatus
  /-- Threads that have written the row and not handed the request over. -/
  writers : ℕ
  /-- Requests without a final event. -/
  opens : ℕ
  /-- `PaymentFailed` events that are not handled. -/
  failures : ℕ
  /-- `PaymentSent` events that are not handled. -/
  successes : ℕ
  /-- Succeeded requests that count. -/
  paid : ℕ

namespace View

/-- Who may still change the fate of the payment. -/
def carriers (v : View) : ℕ := v.writers + v.opens + v.failures + v.successes

/-- The careful transitions: a row is written when it is idle, and a restart that finds `INIT`
finds nothing of the payment in the node. -/
inductive Step : View → View → Prop
  | stay (v : View) : Step v v
  | pend (v : View) : Step v { v with status := NodeSupervisor.pend v.status }
  | write {v : View} : Idle v.status →
      Step v { v with status := some (some .INIT), writers := v.writers + 1 }
  | hand {v : View} {w : ℕ} : v.writers = w + 1 →
      Step v { v with writers := w, opens := v.opens + 1 }
  | fail {v : View} {o : ℕ} : v.opens = o + 1 →
      Step v { v with opens := o, failures := v.failures + 1 }
  | succeed {v : View} {o paid : ℕ} : v.opens = o + 1 → paid ≤ v.paid + 1 →
      Step v { v with opens := o, successes := v.successes + 1, paid }
  | settle {v : View} {paid : ℕ} : paid ≤ v.paid → Step v { v with paid }
  | failed {v : View} {f : ℕ} {st : LnStatus} : v.failures = f + 1 →
      Step v { v with failures := f, status := st }
  | sent {v : View} {n : ℕ} {st : LnStatus} : v.successes = n + 1 → (v.status ≠ none → ¬ Idle st) →
      Step v { v with successes := n, status := st }
  | restart {v : View} {opens paid : ℕ} : opens ≤ v.opens → paid ≤ v.paid →
      (v.status = some (some .INIT) → opens = 0 ∧ paid = 0) →
      Step v
        { status := if v.status = some (some .INIT) then none else v.status
          writers := 0, opens, failures := 0, successes := 0, paid }

theorem Step.congr {v w v' : View} (h : Step v w) (he : v' = w) : Step v v' := he ▸ h

/-- **The row is a lock.** -/
structure Inv (v : View) : Prop where
  one : v.carriers ≤ 1
  /-- An idle row has no carrier, and its payment has not succeeded. -/
  free : Idle v.status → v.carriers = 0 ∧ v.paid = 0
  /-- The row of a payment that the node has or will have is `INIT` or `PENDING`. -/
  busy : 0 < v.writers + v.opens → Busy v.status
  /-- After a success nothing but its event is left. -/
  done : 0 < v.paid → v.writers = 0 ∧ v.opens = 0 ∧ v.failures = 0

/-- **Every careful transition keeps the lock.** -/
theorem Inv.step {v v' : View} (h : v.Inv) (hs : Step v v') : v'.Inv := by
  obtain ⟨one, free, busy, done⟩ := h
  simp only [carriers] at one free
  cases hs with
  | stay => exact ⟨one, free, busy, done⟩
  | pend =>
    refine ⟨one, fun hi => free (idle_pend_iff.mp hi), fun hb => ?_, done⟩
    exact Or.inr (busy hb).pend
  | write hidle =>
    obtain ⟨hc, hp⟩ := free hidle
    refine ⟨?_, fun hi => ?_, fun _ => Or.inl rfl, fun hpos => ?_⟩
    · simp only [carriers]; omega
    · exact absurd (Or.inl rfl) hi.not_busy
    · simp only at hpos; omega
  | hand hw =>
    have hb : Busy v.status := busy (by omega)
    refine ⟨?_, fun hi => absurd hb hi.not_busy, fun _ => hb, fun hpos => ?_⟩
    · simp only [carriers]; omega
    · have := done hpos
      omega
  | fail ho =>
    have hb : Busy v.status := busy (by omega)
    refine ⟨?_, fun hi => absurd hb hi.not_busy, fun _ => hb, fun hpos => ?_⟩
    · simp only [carriers]; omega
    · have := done hpos
      omega
  | succeed ho hpaid =>
    have hb : Busy v.status := busy (by omega)
    refine ⟨?_, fun hi => absurd hb hi.not_busy, fun _ => hb, fun _ => ?_⟩
    · simp only [carriers]; omega
    · simp only
      omega
  | settle hpaid =>
    refine ⟨one, fun hi => ?_, busy, fun hpos => done (lt_of_lt_of_le hpos hpaid)⟩
    obtain ⟨hc, hp⟩ := free hi
    exact ⟨hc, by simp only; omega⟩
  | failed hf =>
    -- the handled event was the only carrier
    have hpaid : v.paid = 0 := by
      by_contra hne
      have := done (by omega)
      omega
    refine ⟨?_, fun _ => ⟨?_, hpaid⟩, fun hb => ?_, fun hpos => ?_⟩
    · simp only [carriers]; omega
    · simp only [carriers]; omega
    · simp only at hb; omega
    · simp only at hpos; omega
  | sent hn hst =>
    have hsome : v.status ≠ none := fun he => by
      have := (free (Or.inl he)).1
      omega
    refine ⟨?_, fun hi => absurd hi (hst hsome), fun hb => ?_, done⟩
    · simp only [carriers]; omega
    · simp only at hb; omega
  | restart ho hp hinit =>
    by_cases hst : v.status = some (some .INIT)
    · obtain ⟨rfl, rfl⟩ := hinit hst
      refine ⟨?_, fun _ => ⟨?_, rfl⟩, fun hb => ?_, fun hpos => ?_⟩
      · simp [carriers]
      · simp [carriers]
      · simp at hb
      · simp at hpos
    · simp only [if_neg hst]
      refine ⟨?_, fun hi => ?_, fun hb => ?_, fun hpos => ?_⟩
      · simp only [carriers]; omega
      · obtain ⟨hc, hz⟩ := free hi
        simp only [carriers]
        omega
      · simp only at hb
        exact busy (by omega)
      · simp only at hpos
        have hd := done (by omega)
        exact ⟨rfl, by simp only; omega, rfl⟩

end View

end EclairMobile
