import EclairMobile.Lib.Joins
import EclairMobile.Activities.SendPaymentActivity
import EclairMobile.Payments.Status

/-!
# The final status of an outgoing payment

The four statuses form a chain, `INIT < PENDING < FAILED < PAID`, and on a payment that is not
received every message joins its own status: each handler has its own guard, and together they are
the maximum of the chain.  So the status after any messages is the greatest one that they carry,
whatever their order and however often each is delivered.
-/

namespace EclairMobile

open Lib

/-- The place of a status in the life of an outgoing payment. -/
def PaymentStatus.rank : PaymentStatus → ℕ
  | .INIT => 0
  | .PENDING => 1
  | .FAILED => 2
  | .PAID => 3

instance : LinearOrder PaymentStatus :=
  LinearOrder.lift' PaymentStatus.rank fun a b h => by cases a <;> cases b <;> cases h <;> rfl

namespace NodeSupervisor

/-! ### What a message says of a hash -/

section About

variable (hash : String)

/-- The hashes of the HTLCs that the handler of a message looks at. -/
def htlcHashes : NodeMessage → List String
  | .channelRestored _ _ _ _ c => c.localCommit.htlcs.filterMap DirectedHtlc.outgoingHash?
  | .channelSignatureSent _ c =>
    c.remoteNextCommitInfo.elim [] fun next => next.htlcs.filterMap DirectedHtlc.incomingHash?
  | _ => []

/-- The message shows an HTLC of the payment. -/
def hasHtlc (m : NodeMessage) : Bool := hash ∈ htlcHashes m

def isFailed : NodeMessage → Bool
  | .paymentFailed h _ => h = hash
  | _ => false

def isSent : NodeMessage → Bool
  | .paymentSent h _ _ _ => h = hash
  | _ => false

def isReceived : NodeMessage → Bool
  | .paymentReceived h _ => h = hash
  | _ => false

/-- The message is about the payment. -/
def about (m : NodeMessage) : Bool :=
  hasHtlc hash m || isFailed hash m || isSent hash m || isReceived hash m

/-- The status that a message carries for the payment. -/
def carries (m : NodeMessage) : PaymentStatus :=
  if isSent hash m then .PAID
  else if isFailed hash m then .FAILED
  else if hasHtlc hash m then .PENDING
  else .INIT

/-- `PAID` if a `PaymentSent` is among the messages, otherwise `FAILED` if a `PaymentFailed` is,
otherwise `PENDING` if a message with an HTLC is, otherwise `INIT`. -/
def finalStatus (ms : List NodeMessage) : PaymentStatus :=
  if ms.any (isSent hash) then .PAID
  else if ms.any (isFailed hash) then .FAILED
  else if ms.any (hasHtlc hash) then .PENDING
  else .INIT

end About

variable {hash : String} {m : NodeMessage}

/-! ### Every handler is a join -/

theorem sup_init (st : PaymentStatus) : st ⊔ .INIT = st := by cases st <;> rfl

theorem sup_paid (st : PaymentStatus) : st ⊔ .PAID = .PAID := by cases st <;> rfl

theorem sup_failed (st : PaymentStatus) :
    st ⊔ .FAILED = if st = .PAID then st else .FAILED := by cases st <;> rfl

theorem pend_some (st : PaymentStatus) : pend (some (some st)) = some (some (st ⊔ .PENDING)) := by
  cases st <;> rfl

/-- The two handlers of HTLCs do one thing. -/
theorem nextStatus_of_hasHtlc (hh : hasHtlc hash m) (st : LnStatus) :
    nextStatus m hash st = pend st := by
  have hmem : hash ∈ htlcHashes m := of_decide_eq_true hh
  cases m with
  | channelRestored ch id node isFunder c => exact if_pos hmem
  | channelSignatureSent ch c =>
    simp only [nextStatus]
    cases hn : c.remoteNextCommitInfo with
    | none => simp [htlcHashes, hn] at hmem
    | some next => exact if_pos (by simpa [htlcHashes, hn] using hmem)
  | _ => cases hmem

theorem nextRow_of_not_about (h : about hash m = false) (now : Date) (row : Option Payment) :
    nextRow m now hash row = row := by
  simp only [about, Bool.or_eq_false_iff] at h
  obtain ⟨⟨⟨hh, hf⟩, hs⟩, hr⟩ := h
  have hmem : hash ∉ htlcHashes m := of_decide_eq_false hh
  cases m with
  | channelRestored ch id node isFunder c => exact if_neg hmem
  | channelSignatureSent ch c =>
    simp only [nextRow]
    cases hn : c.remoteNextCommitInfo with
    | none => rfl
    | some next => exact if_neg (by simpa [htlcHashes, hn] using hmem)
  | paymentFailed h failures => exact if_neg (of_decide_eq_false hf)
  | paymentSent h amount fees preimage => exact if_neg (of_decide_eq_false hs)
  | paymentReceived h amount => exact if_neg (of_decide_eq_false hr)
  | _ => rfl

/-- **One message joins what it carries.** -/
theorem nextStatus_some (hr : isReceived hash m = false) (st : PaymentStatus) :
    nextStatus m hash (some (some st)) = some (some (st ⊔ carries hash m)) := by
  unfold carries
  split_ifs with hs hf hh
  · cases m with
    | paymentSent h amount fees preimage =>
      have he : h = hash := of_decide_eq_true hs
      simp [nextStatus, he, sup_paid]
    | _ => cases hs
  · cases m with
    | paymentFailed h failures =>
      have he : h = hash := of_decide_eq_true hf
      rw [sup_failed]
      by_cases hp : st = .PAID
      · simp [nextStatus, hp]
      · simp [nextStatus, he, hp]
    | _ => cases hf
  · rw [nextStatus_of_hasHtlc hh, pend_some]
  · -- a message about other payments leaves every row of this one, whatever its status
    have ha : about hash m = false := by simp [about, hs, hf, hh, hr]
    have hrow := status_nextRow m 0 hash
      (some { Payment.new 0 .BTC_LN .SENT hash with status := some st })
    rw [nextRow_of_not_about ha] at hrow
    rw [sup_init]
    exact hrow.symm

/-- **Any messages join what they carry.** -/
theorem lnStatus_afterAll {ms : List (NodeMessage × Date)}
    (hr : ∀ m ∈ ms, isReceived hash m.1 = false) {s : State} {st : PaymentStatus}
    (h : s.dbHelper.lnStatus hash = some (some st)) :
    (afterAll s ms).dbHelper.lnStatus hash =
      some (some (joinAll (carries hash) st (ms.map Prod.fst))) := by
  induction ms generalizing s st with
  | nil => exact h
  | cons m ms ih =>
    refine ih (fun m' hm' => hr m' (List.mem_cons_of_mem m hm')) ?_
    rw [lnStatus_onReceive, h, nextStatus_some (hr m List.mem_cons_self)]

theorem joinAll_carries (hash : String) (ms : List NodeMessage) :
    joinAll (carries hash) .INIT ms = finalStatus hash ms := by
  have hbot : ∀ st : PaymentStatus, .INIT ≤ st := fun st => by cases st <;> decide
  have htop : ∀ st : PaymentStatus, st ≤ .PAID := fun st => by cases st <;> decide
  refine le_antisymm (joinAll_le_iff.mpr ⟨hbot _, fun m hm => ?_⟩) ?_
  · -- no message carries more
    have hnot : ∀ {p : NodeMessage → Bool}, ¬ ms.any p = true → p m = false := by
      intro p hp
      simpa using List.any_eq_false.mp (Bool.eq_false_of_not_eq_true hp) m hm
    unfold finalStatus
    split_ifs with hs hf hh
    · exact htop _
    · simp only [carries, hnot hs, Bool.false_eq_true, if_false]
      split_ifs <;> decide
    · simp only [carries, hnot hs, hnot hf, Bool.false_eq_true, if_false]
      split_ifs <;> decide
    · simp [carries, hnot hs, hnot hf, hnot hh]
  · -- some message carries as much
    have hle : ∀ {m : NodeMessage}, m ∈ ms → carries hash m ≤ joinAll (carries hash) .INIT ms :=
      carries_le_joinAll
    unfold finalStatus
    split_ifs with hs hf hh
    · obtain ⟨m, hm, hs'⟩ := List.any_eq_true.mp hs
      have h := hle hm
      rwa [carries, if_pos hs'] at h
    · obtain ⟨m, hm, hf'⟩ := List.any_eq_true.mp hf
      refine le_trans ?_ (hle hm)
      rw [carries, if_pos hf']
      split_ifs <;> decide
    · obtain ⟨m, hm, hh'⟩ := List.any_eq_true.mp hh
      refine le_trans ?_ (hle hm)
      rw [carries, if_pos hh']
      split_ifs <;> decide
    · exact hbot _

/-! ### Rows depend on their own messages only -/

theorem lnRow_afterAll (hash : String) (s : State) (ms : List (NodeMessage × Date)) :
    (afterAll s ms).dbHelper.lnRow hash =
      (ms.filter fun m => about hash m.1).foldl (fun row m => nextRow m.1 m.2 hash row)
        (s.dbHelper.lnRow hash) := by
  induction ms generalizing s with
  | nil => rfl
  | cons m ms ih =>
    have h : afterAll s (m :: ms) = afterAll (onReceive s m.1 m.2).1 ms := rfl
    rw [h, ih, lnRow_onReceive]
    cases ha : about hash m.1 with
    | false => rw [nextRow_of_not_about ha, List.filter_cons_of_neg (by simp [ha])]
    | true => rw [List.filter_cons_of_pos (by simp [ha]), List.foldl_cons]

/-- **The final status is the greatest one that the messages carry, and the row of every hash
depends on the messages about it and on nothing else.** -/
theorem final_status {s : State} {hash : String}
    (hinit : s.dbHelper.lnStatus hash = some (some .INIT)) {ms : List (NodeMessage × Date)}
    (hr : ∀ m ∈ ms, isReceived hash m.1 = false) :
    (afterAll s ms).dbHelper.lnStatus hash =
        some (some (finalStatus hash (ms.map Prod.fst))) ∧
      ∀ (other : String) (s' : State) (ms' : List (NodeMessage × Date)),
        s'.dbHelper.lnRow other = s.dbHelper.lnRow other →
        (ms'.filter fun m => about other m.1) = (ms.filter fun m => about other m.1) →
        (afterAll s' ms').dbHelper.lnRow other = (afterAll s ms).dbHelper.lnRow other := by
  refine ⟨?_, fun other s' ms' hrow hown => ?_⟩
  · rw [lnStatus_afterAll hr hinit, joinAll_carries]
  · rw [lnRow_afterAll, lnRow_afterAll, hown, hrow]

/-- A failure before the signature of the HTLC, and a success at last. -/
theorem final_status_paid :
    let order : SendPaymentActivity.Order :=
      ⟨5, ⟨"h", "node", .inl "coffee", some 5, none, []⟩, "lnbc"⟩
    let s := State.start (SendPaymentActivity.sendLNPayment .empty order 1).1
    let c : Commitments := ⟨⟨[], 0, 0⟩, some ⟨[.incoming "h"], 0, 0⟩, 0, 0, 0, "", 0, "tx", 0⟩
    (afterAll s [(.paymentFailed "h" [], 2), (.channelSignatureSent "ch" c, 3),
      (.paymentReceived "i" 7, 4), (.paymentSent "h" 5 0 "pre", 5)]).dbHelper.lnStatus "h" =
        some (some .PAID) := by
  intro order s c
  exact (final_status (s := s) rfl (by decide)).1

end NodeSupervisor

end EclairMobile
