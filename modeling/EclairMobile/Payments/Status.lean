import EclairMobile.Payments.Rows

/-!
# The status of a Lightning payment under the messages of the node

`nextStatus` is the life of one payment hash as an automaton: the status that a message leaves,
given the status before, on the absence of a row as well.  `lnStatus_onReceive` says that
`onReceive` refines it for every hash at once, so that results on whole runs never look into a
handler.
-/

namespace EclairMobile

namespace NodeSupervisor

/-- The status column of the Lightning payment of a hash; `none` without a row. -/
abbrev LnStatus := Option (Option PaymentStatus)

/-- `INIT` becomes `PENDING`. -/
def pend (st : LnStatus) : LnStatus :=
  if st = some (some .INIT) then some (some .PENDING) else st

/-- The status of a hash after a message. -/
def nextStatus (message : NodeMessage) (hash : String) (st : LnStatus) : LnStatus :=
  match message with
  | .channelRestored _ _ _ _ c =>
    if hash ∈ c.localCommit.htlcs.filterMap DirectedHtlc.outgoingHash? then pend st else st
  | .channelSignatureSent _ c =>
    match c.remoteNextCommitInfo with
    | none => st
    | some next =>
      if hash ∈ next.htlcs.filterMap DirectedHtlc.incomingHash? then pend st else st
  | .paymentFailed h _ =>
    if h = hash ∧ st ≠ none ∧ st ≠ some (some .PAID) then some (some .FAILED) else st
  | .paymentSent h _ _ _ => if h = hash ∧ st ≠ none then some (some .PAID) else st
  | .paymentReceived h _ => if h = hash then some (some .PAID) else st
  | _ => st

/-! ### The automaton of the status follows that of the row -/

theorem status_pendRow (now : Date) (row : Option Payment) :
    (row.map (pendRow now)).map Payment.status = pend (row.map Payment.status) := by
  cases row with
  | none => rfl
  | some p =>
    by_cases hs : p.status = some .INIT
    · simp [pendRow, pend, hs]
    · simp [pendRow, pend, hs]

theorem status_failRow (now : Date) (row : Option Payment) :
    (row.map (failRow now)).map Payment.status =
      if row.map Payment.status ≠ none ∧ row.map Payment.status ≠ some (some .PAID)
      then some (some .FAILED) else row.map Payment.status := by
  cases row with
  | none => rfl
  | some p =>
    by_cases hs : p.status = some .PAID
    · simp [failRow, hs]
    · simp [failRow, hs]

theorem status_nextRow (m : NodeMessage) (now : Date) (hash : String) (row : Option Payment) :
    (nextRow m now hash row).map Payment.status = nextStatus m hash (row.map Payment.status) := by
  cases m with
  | channelRestored ch id node isFunder c =>
    simp only [nextRow, nextStatus]
    split
    · exact status_pendRow now row
    · rfl
  | channelSignatureSent ch c =>
    simp only [nextRow, nextStatus]
    cases c.remoteNextCommitInfo with
    | none => rfl
    | some next =>
      simp only
      split
      · exact status_pendRow now row
      · rfl
  | paymentFailed h failures =>
    simp only [nextRow, nextStatus]
    by_cases he : h = hash
    · rw [if_pos he, status_failRow]
      simp [he]
    · simp [he]
  | paymentSent h amount fees preimage =>
    simp only [nextRow, nextStatus]
    by_cases he : h = hash
    · cases row <;> simp [he, DBHelper.asPaid]
    · simp [he]
  | paymentReceived h amount =>
    simp only [nextRow, nextStatus]
    by_cases he : h = hash
    · cases row <;> simp [he, DBHelper.asReceived, receivedPayment]
    · simp [he]
  | _ => rfl

/-- **`onReceive` refines the automaton of every payment hash.** -/
theorem lnStatus_onReceive (s : State) (m : NodeMessage) (now : Date) (hash : String) :
    (onReceive s m now).1.dbHelper.lnStatus hash =
      nextStatus m hash (s.dbHelper.lnStatus hash) := by
  rw [DBHelper.lnStatus_eq_lnRow, lnRow_onReceive, status_nextRow, ← DBHelper.lnStatus_eq_lnRow]

/-! ### What the automaton keeps -/

/-- `PAID` is final. -/
@[simp] theorem nextStatus_paid (m : NodeMessage) (hash : String) :
    nextStatus m hash (some (some .PAID)) = some (some .PAID) := by
  cases m with
  | channelRestored => simp [nextStatus, pend]
  | channelSignatureSent ch c =>
    simp only [nextStatus]
    cases c.remoteNextCommitInfo <;> simp [pend]
  | _ => simp [nextStatus]

end NodeSupervisor

end EclairMobile
