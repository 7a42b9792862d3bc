import EclairMobile.Lib.Counting
import EclairMobile.Payments.SendMachine
import EclairMobile.Payments.SendView

/-!
# When a payment is sent at most once

The only guard of `sendLNPayment` is a row that is tested in one step and written in another, and
the start of a process deletes the rows in `INIT`.  `Careful` is the condition under which both are
harmless; then every step of the machine is a careful transition of the view of each hash
(`view_step`), and the lock invariant gives the two results: no request is handed over while an
earlier one counts, and no payment that is en route is forgotten.
-/

namespace EclairMobile

open Lib NodeSupervisor

namespace SendMachine

/-! ### The view of a hash -/

def isFailure (hash : String) : NodeMessage → Bool
  | .paymentFailed h _ => h = hash
  | _ => false

def isSuccess (hash : String) : NodeMessage → Bool
  | .paymentSent h _ _ _ => h = hash
  | _ => false

/-- What there is of a hash; `blocks` selects the succeeded requests that count. -/
def view (blocks : Request → Bool) (s : State) (hash : String) : View where
  status := s.status hash
  writers := s.threads.countP fun t => t.hash = hash ∧ t.pc = .written
  opens := s.requests.countP fun r => r.hash = hash ∧ r.isOpen
  failures := s.mailbox.countP (isFailure hash)
  successes := s.mailbox.countP (isSuccess hash)
  paid := s.requests.countP fun r => r.hash = hash ∧ r.phase = .succeeded ∧ blocks r

/-- The row may be written: the row of its hash is idle, as it was when it was tested, and no other
payment has taken the primary key it carries. -/
def MayWrite (db : DBHelper) (hash : String) (row : Payment) : Prop :=
  Idle (db.lnStatus hash) ∧ db.payments.Fits row

/-- The condition on a step: a row is written only if it still may be, and no kill finds a row in
`INIT` whose hash has a request that blocks. -/
def Careful (blocks : Request → Bool) (s : State) : Action → Prop
  | .write i => ∀ t row, s.threads[i]? = some t → t.pc = .tested row →
      MayWrite s.sup.dbHelper t.hash row
  | .restart => ∀ r ∈ s.requests, s.status r.hash = some (some .INIT) → blocks r = false
  | _ => True

/-- What holds of the machine in every run, careful or not. -/
structure Sound (s : State) : Prop where
  reads : ∀ t ∈ s.threads, ∀ p, t.pc = .read (some p) → p.type = .BTC_LN ∧ p.reference = t.hash
  rows : ∀ t ∈ s.threads, ∀ row, t.pc = .tested row →
    row.type = .BTC_LN ∧ row.reference = t.hash ∧ row.status = some .INIT
  mail : ∀ m ∈ s.mailbox, ∀ h a, m ≠ .paymentReceived h a
  settled : ∀ r ∈ s.requests, 0 < r.htlcs → r.isOpen ∨ r.phase = .succeeded

/-! ### Threads -/

section Threads

variable {s : State} {i : ℕ} {t : SendThread} {pc : Pc}

theorem Sound.setPc (h : Sound s)
    (hread : ∀ p, pc = .read (some p) → p.type = .BTC_LN ∧ p.reference = t.hash)
    (hrow : ∀ row, pc = .tested row →
      row.type = .BTC_LN ∧ row.reference = t.hash ∧ row.status = some .INIT) :
    Sound (s.setPc i t pc) where
  reads := forall_mem_set h.reads hread
  rows := forall_mem_set h.rows hrow
  mail := h.mail
  settled := h.settled

theorem writers_setPc (pc : Pc) (blocks : Request → Bool) (hi : s.threads[i]? = some t)
    (hash : String) :
    (view blocks (s.setPc i t pc) hash).writers +
        (if t.hash = hash ∧ t.pc = .written then 1 else 0) =
      (view blocks s hash).writers + (if t.hash = hash ∧ pc = .written then 1 else 0) := by
  have h := countP_set_add hi { t with pc } fun t => decide (t.hash = hash ∧ t.pc = .written)
  simp only [decide_eq_true_eq] at h
  exact h

theorem view_setPc (blocks : Request → Bool) (hi : s.threads[i]? = some t) (h : t.pc ≠ .written)
    (h' : pc ≠ .written) (hash : String) :
    view blocks (s.setPc i t pc) hash = view blocks s hash := by
  have hw := writers_setPc pc blocks hi hash
  simp only [h, h', and_false, if_false, Nat.add_zero] at hw
  exact View.ext rfl hw rfl rfl rfl rfl

end Threads

/-! ### Messages -/

theorem nextStatus_of_not_final {m : NodeMessage} {hash : String} (hf : isFailure hash m = false)
    (hs : isSuccess hash m = false) (hr : ∀ h a, m ≠ .paymentReceived h a) (st : LnStatus) :
    nextStatus m hash st = st ∨ nextStatus m hash st = pend st := by
  cases m with
  | channelRestored ch id node isFunder c =>
    simp only [nextStatus]
    split
    · exact Or.inr rfl
    · exact Or.inl rfl
  | channelSignatureSent ch c =>
    simp only [nextStatus]
    cases c.remoteNextCommitInfo with
    | none => exact Or.inl rfl
    | some next =>
      simp only
      split
      · exact Or.inr rfl
      · exact Or.inl rfl
  | paymentFailed h failures =>
    have hne : h ≠ hash := by simpa [isFailure] using hf
    simp [nextStatus, hne]
  | paymentSent h amount fees preimage =>
    have hne : h ≠ hash := by simpa [isSuccess] using hs
    simp [nextStatus, hne]
  | paymentReceived h a => exact absurd rfl (hr h a)
  | _ => exact Or.inl rfl

theorem nextStatus_of_success {m : NodeMessage} {hash : String} (hs : isSuccess hash m = true)
    {st : LnStatus} (hst : st ≠ none) : ¬ Idle (nextStatus m hash st) := by
  cases m with
  | paymentSent h amount fees preimage =>
    have he : h = hash := by simpa [isSuccess] using hs
    simp [nextStatus, he, hst, Idle]
  | _ => simp [isSuccess] at hs

/-- Handling the head of the mailbox is a careful transition. -/
theorem view_deliver (blocks : Request → Bool) {s : State} {m : NodeMessage}
    {mailbox : List NodeMessage} (hm : s.mailbox = m :: mailbox)
    (hr : ∀ h a, m ≠ .paymentReceived h a) (now : Date) (hash : String) :
    (view blocks s hash).Step (view blocks ({ s with mailbox }.handle m now) hash) := by
  have hst : ({ s with mailbox }.handle m now).status hash = nextStatus m hash (s.status hash) :=
    lnStatus_onReceive s.sup m now hash
  have hview : view blocks ({ s with mailbox }.handle m now) hash =
      { view blocks s hash with
        status := nextStatus m hash (s.status hash)
        failures := mailbox.countP (isFailure hash)
        successes := mailbox.countP (isSuccess hash) } := by
    rw [← hst]
    rfl
  have hfail : (view blocks s hash).failures =
      mailbox.countP (isFailure hash) + if isFailure hash m then 1 else 0 := by
    simp only [view, hm, List.countP_cons]
  have hsucc : (view blocks s hash).successes =
      mailbox.countP (isSuccess hash) + if isSuccess hash m then 1 else 0 := by
    simp only [view, hm, List.countP_cons]
  rw [hview]
  cases hf : isFailure hash m with
  | true =>
    have hns : isSuccess hash m = false := by cases m <;> simp_all [isFailure, isSuccess]
    rw [hf] at hfail
    rw [hns] at hsucc
    have hsame : mailbox.countP (isSuccess hash) = (view blocks s hash).successes := by
      simpa using hsucc.symm
    rw [hsame]
    exact .failed hfail
  | false =>
    rw [hf] at hfail
    have hsame : mailbox.countP (isFailure hash) = (view blocks s hash).failures := by
      simpa using hfail.symm
    rw [hsame]
    cases hs : isSuccess hash m with
    | true =>
      rw [hs] at hsucc
      exact .sent hsucc fun hne => nextStatus_of_success hs hne
    | false =>
      rw [hs] at hsucc
      have hsame' : mailbox.countP (isSuccess hash) = (view blocks s hash).successes := by
        simpa using hsucc.symm
      rw [hsame']
      rcases nextStatus_of_not_final hf hs hr (s.status hash) with he | he
      · rw [he]
        exact .stay _
      · rw [he]
        exact .pend _

/-! ### Requests -/

section Requests

variable (blocks : Request → Bool) {s : State} {j : ℕ} {r : Request}

theorem opens_set (hj : s.requests[j]? = some r) (r' : Request) (hash : String) :
    (view blocks { s with requests := s.requests.set j r' } hash).opens +
        (if r.hash = hash ∧ r.isOpen then 1 else 0) =
      (view blocks s hash).opens + (if r'.hash = hash ∧ r'.isOpen then 1 else 0) := by
  have h := countP_set_add hj r' fun r => decide (r.hash = hash ∧ r.isOpen)
  simp only [decide_eq_true_eq] at h
  exact h

theorem paid_set (hj : s.requests[j]? = some r) (r' : Request) (hash : String) :
    (view blocks { s with requests := s.requests.set j r' } hash).paid +
        (if r.hash = hash ∧ r.phase = .succeeded ∧ blocks r then 1 else 0) =
      (view blocks s hash).paid +
        (if r'.hash = hash ∧ r'.phase = .succeeded ∧ blocks r' then 1 else 0) := by
  have h := countP_set_add hj r' fun r => decide (r.hash = hash ∧ r.phase = .succeeded ∧ blocks r)
  simp only [decide_eq_true_eq] at h
  exact h

/-- A change of the HTLCs of a request: a succeeded one may stop to count. -/
theorem view_htlcs (hj : s.requests[j]? = some r) {n : ℕ}
    (hblocks : r.phase = .succeeded → blocks { r with htlcs := n } → blocks r) (hash : String) :
    (view blocks s hash).Step
      (view blocks { s with requests := s.requests.set j { r with htlcs := n } } hash) := by
  have ho := opens_set blocks hj { r with htlcs := n } hash
  have hp := paid_set blocks hj { r with htlcs := n } hash
  set s' : State := { s with requests := s.requests.set j { r with htlcs := n } }
  have hopens : (view blocks s' hash).opens = (view blocks s hash).opens := Nat.add_right_cancel ho
  have hle : (view blocks s' hash).paid ≤ (view blocks s hash).paid := by
    by_cases hn : r.hash = hash ∧ r.phase = .succeeded ∧ blocks { r with htlcs := n }
    · have hr : r.hash = hash ∧ r.phase = .succeeded ∧ blocks r :=
        ⟨hn.1, hn.2.1, hblocks hn.2.1 hn.2.2⟩
      rw [if_pos hr, if_pos (show Request.hash { r with htlcs := n } = hash ∧ _ from hn)] at hp
      omega
    · rw [if_neg (show ¬ (Request.hash { r with htlcs := n } = hash ∧ _) from hn)] at hp
      omega
  exact (View.Step.settle hle).congr (View.ext rfl rfl hopens rfl rfl rfl)

/-- The final event of a request, published when its phase is set. -/
theorem view_final (hj : s.requests[j]? = some r) (hopen : r.isOpen) {phase : Phase}
    {m : NodeMessage} (hash : String)
    (hm : (phase = .failed ∧ ∃ failures, m = .paymentFailed r.hash failures) ∨
      (phase = .succeeded ∧ ∃ a f pre, m = .paymentSent r.hash a f pre)) :
    (view blocks s hash).Step (view blocks { s with
      requests := s.requests.set j { r with phase }, mailbox := s.mailbox ++ [m] } hash) := by
  have ho := opens_set blocks hj { r with phase } hash
  have hp := paid_set blocks hj { r with phase } hash
  have hnotopen : Request.isOpen { r with phase } = false := by
    rcases hm with ⟨rfl, -⟩ | ⟨rfl, -⟩ <;> rfl
  have hnotpaid : r.phase ≠ .succeeded := by
    intro h
    simp [Request.isOpen, h] at hopen
  simp only [hnotopen, hnotpaid, hopen, Bool.false_eq_true, and_false, false_and, and_true,
    if_false, Nat.add_zero] at ho hp
  set s' : State := { s with requests := s.requests.set j { r with phase } }
  have hview : view blocks { s with
      requests := s.requests.set j { r with phase }, mailbox := s.mailbox ++ [m] } hash =
      { view blocks s hash with
        opens := (view blocks s' hash).opens
        failures := (view blocks s hash).failures + if isFailure hash m then 1 else 0
        successes := (view blocks s hash).successes + if isSuccess hash m then 1 else 0
        paid := (view blocks s' hash).paid } := by
    refine View.ext rfl rfl rfl ?_ ?_ rfl
    · simp only [view, List.countP_append, List.countP_singleton]
    · simp only [view, List.countP_append, List.countP_singleton]
  rw [hview]
  by_cases he : r.hash = hash
  · simp only [he, if_true] at ho
    rcases hm with ⟨rfl, failures, rfl⟩ | ⟨rfl, a, f, pre, rfl⟩
    · have hpaid : (view blocks s' hash).paid = (view blocks s hash).paid := by simpa using hp
      simp only [isFailure, isSuccess, he, hpaid, decide_true, if_true, Bool.false_eq_true,
        if_false, Nat.add_zero]
      exact .fail ho.symm
    · have hpaid : (view blocks s' hash).paid ≤ (view blocks s hash).paid + 1 := by
        rw [hp]
        split <;> omega
      simp only [isFailure, isSuccess, he, decide_true, if_true, Bool.false_eq_true, if_false,
        Nat.add_zero]
      exact .succeed ho.symm hpaid
  · have hnf : isFailure hash m = false ∧ isSuccess hash m = false := by
      rcases hm with ⟨-, failures, rfl⟩ | ⟨-, a, f, pre, rfl⟩ <;> simp [isFailure, isSuccess, he]
    have hhash : Request.hash { r with phase } ≠ hash := he
    simp only [he, hhash, false_and, if_false, Nat.add_zero] at ho hp
    simp only [hnf.1, hnf.2, ho, hp, Bool.false_eq_true, if_false, Nat.add_zero]
    exact .stay _

theorem view_restart {blocks : Request → Bool} (hb : ∀ r : Request, 0 < r.htlcs → blocks r)
    (hc : Careful blocks s .restart) (hash : String) :
    (view blocks s hash).Step (view blocks s.restart hash) := by
  have hst : s.restart.status hash =
      if s.status hash = some (some .INIT) then none else s.status hash :=
    App.lnStatus_restart s.sup.dbHelper hash
  have hview : view blocks s.restart hash =
      { status := if (view blocks s hash).status = some (some .INIT) then none
          else (view blocks s hash).status
        writers := 0, opens := (view blocks s.restart hash).opens, failures := 0, successes := 0
        paid := (view blocks s.restart hash).paid } :=
    View.ext hst rfl rfl rfl rfl rfl
  have hopen : ∀ r ∈ s.requests, r.interrupt.hash = hash ∧ r.interrupt.isOpen →
      r.hash = hash ∧ r.isOpen ∧ 0 < r.htlcs := by
    intro r _ h
    unfold Request.interrupt at h
    by_cases hr : r.isOpen
    · rw [if_pos hr] at h
      refine ⟨h.1, hr, ?_⟩
      by_contra hz
      rw [if_neg hz] at h
      simp [Request.isOpen] at h
    · rw [if_neg hr] at h
      exact absurd h.2 hr
  have hpaid : ∀ r ∈ s.requests,
      r.interrupt.hash = hash ∧ r.interrupt.phase = .succeeded ∧ blocks r.interrupt →
      r.hash = hash ∧ r.phase = .succeeded ∧ blocks r := by
    intro r _ h
    unfold Request.interrupt at h
    by_cases hr : r.isOpen
    · rw [if_pos hr] at h
      split at h <;> simp at h
    · rw [if_neg hr] at h
      exact h
  rw [hview]
  refine .restart ?_ ?_ fun hinit => ⟨?_, ?_⟩
  · refine countP_map_le s.requests fun r hr h => ?_
    have := hopen r hr (by simpa using h)
    simpa using ⟨this.1, this.2.1⟩
  · refine countP_map_le s.requests fun r hr h => ?_
    simpa using hpaid r hr (by simpa using h)
  · show (s.requests.map Request.interrupt).countP _ = 0
    rw [List.countP_map, List.countP_eq_zero]
    intro r hr h
    obtain ⟨he, -, hpos⟩ := hopen r hr (by simpa using h)
    have hno := hc r hr (he ▸ hinit)
    rw [hb r hpos] at hno
    cases hno
  · show (s.requests.map Request.interrupt).countP _ = 0
    rw [List.countP_map, List.countP_eq_zero]
    intro r hr h
    obtain ⟨he, -, hbl⟩ := hpaid r hr (by simpa using h)
    have hno := hc r hr (he ▸ hinit)
    rw [hbl] at hno
    cases hno

end Requests

/-! ### One step -/

section Steps

variable {s s' : State} {a : Action}

/-- **Every careful step is a careful transition of every hash.** -/
theorem view_step {blocks : Request → Bool} (hb : ∀ r : Request, 0 < r.htlcs → blocks r)
    (hsettle : ∀ r : Request, blocks { r with htlcs := r.htlcs - 1 } → blocks r)
    (hs : Sound s) (hc : Careful blocks s a) (h : Step s a s') (hash : String) :
    (view blocks s hash).Step (view blocks s' hash) := by
  cases h with
  | spawn order =>
    have hw : (view blocks { s with threads := s.threads ++ [⟨order, .started⟩] } hash).writers =
        (view blocks s hash).writers := by simp [view]
    exact (View.Step.stay _).congr (View.ext rfl hw rfl rfl rfl rfl)
  | read hi hpc =>
    exact (View.Step.stay _).congr (view_setPc blocks hi (by simp [hpc]) (by simp) hash)
  | share hi hpc hq =>
    exact (View.Step.stay _).congr (view_setPc blocks hi (by simp [hpc]) (by simp) hash)
  | giveUp hi hpc =>
    exact (View.Step.stay _).congr (view_setPc blocks hi (by simp [hpc]) (by simp) hash)
  | test hi hpc hrow =>
    exact (View.Step.stay _).congr (view_setPc blocks hi (by simp [hpc]) (by simp) hash)
  | @write i t row hi hpc =>
    obtain ⟨hidle, hfit⟩ := hc t row hi hpc
    obtain ⟨ht, hr, hst⟩ := hs.rows t (List.mem_of_getElem? hi) row hpc
    have hstatus := DBHelper.lnStatus_insert hfit hash
    have hw := writers_setPc .written blocks hi hash
    simp only [ht, hr, hst, true_and] at hstatus
    simp only [hpc, reduceCtorEq, and_false, and_true, if_false, Nat.add_zero] at hw
    by_cases he : hash = t.hash
    · subst he
      rw [if_pos rfl] at hstatus hw
      exact (View.Step.write hidle).congr (View.ext hstatus hw rfl rfl rfl rfl)
    · rw [if_neg he] at hstatus
      rw [if_neg (Ne.symm he), Nat.add_zero] at hw
      exact (View.Step.stay _).congr (View.ext hstatus hw rfl rfl rfl rfl)
  | @hand i t routerConf minCltv cap hi hpc =>
    have hw := writers_setPc .finished blocks hi hash
    simp only [hpc, reduceCtorEq, and_false, and_true, if_false, Nat.add_zero] at hw
    set r : Request :=
      ⟨App.sendLNPayment routerConf minCltv t.order.pr t.order.amount cap, .inProgress, 0⟩
    set s' : State := { s.setPc i t .finished with requests := s.requests ++ [r] }
    have hr : r.hash = t.hash ∧ r.isOpen = true ∧ r.phase ≠ .succeeded := ⟨rfl, rfl, nofun⟩
    have ho : (view blocks s' hash).opens =
        (view blocks s hash).opens + if t.hash = hash then 1 else 0 := by
      simp [s', view, hr.1, hr.2.1]
    have hp : (view blocks s' hash).paid = (view blocks s hash).paid := by
      simp [s', view, hr.2.2]
    by_cases he : t.hash = hash
    · rw [if_pos he] at hw ho
      exact (View.Step.hand hw.symm).congr (View.ext rfl rfl ho rfl rfl hp)
    · rw [if_neg he, Nat.add_zero] at hw ho
      exact (View.Step.stay _).congr (View.ext rfl hw ho rfl rfl hp)
  | sign hj hphase =>
    exact view_htlcs blocks hj (fun hsucc => by rw [hphase] at hsucc; cases hsucc) hash
  | settle hj hpos => exact view_htlcs blocks hj (fun _ => hsettle _) hash
  | fail hj hopen hz => exact view_final blocks hj hopen hash (Or.inl ⟨rfl, _, rfl⟩)
  | succeed hj hopen => exact view_final blocks hj hopen hash (Or.inr ⟨rfl, _, _, _, rfl⟩)
  | @publish m hm =>
    have hf : (view blocks { s with mailbox := s.mailbox ++ [m] } hash).failures =
        (view blocks s hash).failures := by
      cases m <;> simp_all [view, isFailure, IsNodeEvent]
    have hsucc : (view blocks { s with mailbox := s.mailbox ++ [m] } hash).successes =
        (view blocks s hash).successes := by
      cases m <;> simp_all [view, isSuccess, IsNodeEvent]
    exact (View.Step.stay _).congr (View.ext rfl rfl rfl hf hsucc rfl)
  | @deliver m mailbox now hm =>
    exact view_deliver blocks hm (hs.mail m (by rw [hm]; exact List.mem_cons_self)) now hash
  | restart => exact view_restart hb hc hash

/-- An order that is read keeps the type and the reference of its row until it is written. -/
theorem rows_of_checkPayment {p : Option Payment} {o : SendPaymentActivity.Order} {now : Date}
    {row : Payment} (h : SendPaymentActivity.checkPayment p o now = .ok row)
    (hp : ∀ q, p = some q → q.type = .BTC_LN ∧ q.reference = o.pr.paymentHash) :
    row.type = .BTC_LN ∧ row.reference = o.pr.paymentHash ∧ row.status = some .INIT := by
  have hst := SendPaymentActivity.status_of_checkPayment h
  rcases SendPaymentActivity.checkPayment_eq_ok_iff.mp h with ⟨-, rfl⟩ | ⟨q, hq, -, rfl⟩
  · exact ⟨rfl, rfl, hst⟩
  · exact ⟨(hp q hq).1, (hp q hq).2, hst⟩

/-- A new list of requests keeps the machine sound, if every HTLC in it belongs to a request that is
open or has succeeded. -/
theorem Sound.setRequests (hs : Sound s) {requests : List Request} {mailbox : List NodeMessage}
    (hm : ∀ m ∈ mailbox, ∀ h a, m ≠ .paymentReceived h a)
    (hr : ∀ r ∈ requests, 0 < r.htlcs → r.isOpen ∨ r.phase = .succeeded) :
    Sound { s with requests, mailbox } where
  reads := hs.reads
  rows := hs.rows
  mail := hm
  settled := hr

theorem Sound.mail_append (hs : Sound s) {m : NodeMessage} (hm : ∀ h a, m ≠ .paymentReceived h a) :
    ∀ m' ∈ s.mailbox ++ [m], ∀ h a, m' ≠ .paymentReceived h a := by
  intro m' hm'
  rcases List.mem_append.mp hm' with h | h
  · exact hs.mail m' h
  · rw [List.mem_singleton.mp h]
    exact hm

theorem Sound.step (hs : Sound s) (h : Step s a s') : Sound s' := by
  cases h with
  | spawn order =>
    refine ⟨fun t ht p hp => ?_, fun t ht row hrow => ?_, hs.mail, hs.settled⟩
    · rcases List.mem_append.mp ht with h | h
      · exact hs.reads t h p hp
      · rw [List.mem_singleton.mp h] at hp
        cases hp
    · rcases List.mem_append.mp ht with h | h
      · exact hs.rows t h row hrow
      · rw [List.mem_singleton.mp h] at hrow
        cases hrow
  | read hi hpc =>
    refine hs.setPc (fun p hp => ?_) (by simp)
    exact DBHelper.key_of_getPayment (Pc.read.inj hp)
  | share hi hpc hq =>
    refine hs.setPc (fun p hp => ?_) (by simp)
    obtain rfl := Option.some.inj (Pc.read.inj hp)
    exact DBHelper.key_of_getPayment hq
  | giveUp hi hpc => exact hs.setPc (by simp) (by simp)
  | test hi hpc hrow =>
    refine hs.setPc (by simp) fun row' he => ?_
    obtain rfl := Pc.tested.inj he
    refine rows_of_checkPayment hrow fun q hq => ?_
    exact hs.reads _ (List.mem_of_getElem? hi) q (by rw [hpc, hq])
  | write hi hpc =>
    exact Sound.setPc ⟨hs.reads, hs.rows, hs.mail, hs.settled⟩ (by simp) (by simp)
  | hand hi hpc =>
    refine (hs.setPc (by simp) (by simp)).setRequests hs.mail fun r hr hpos => ?_
    rcases List.mem_append.mp hr with h | h
    · exact hs.settled r h hpos
    · rw [List.mem_singleton.mp h]
      exact Or.inl rfl
  | sign hj hphase =>
    refine hs.setRequests hs.mail (forall_mem_set hs.settled fun _ => Or.inl ?_)
    simp [Request.isOpen, hphase]
  | @settle j r hj hpos =>
    refine hs.setRequests hs.mail (forall_mem_set hs.settled fun _ => ?_)
    exact hs.settled r (List.mem_of_getElem? hj) hpos
  | fail hj hopen hz =>
    refine hs.setRequests (hs.mail_append (by simp)) (forall_mem_set hs.settled fun hpos => ?_)
    exact absurd hpos (by simp [hz])
  | succeed hj hopen =>
    exact hs.setRequests (hs.mail_append (by simp)) (forall_mem_set hs.settled fun _ => Or.inr rfl)
  | @publish m hm =>
    refine hs.setRequests (hs.mail_append fun h a he => ?_) hs.settled
    rw [he] at hm
    exact hm
  | @deliver m mailbox now hm =>
    refine ⟨hs.reads, hs.rows, fun m' hm' => ?_, hs.settled⟩
    exact hs.mail m' (by rw [hm]; exact List.mem_cons_of_mem _ hm')
  | restart =>
    refine ⟨by simp [State.restart], by simp [State.restart], by simp [State.restart],
      fun r hr hpos => ?_⟩
    obtain ⟨q, hq, rfl⟩ := List.mem_map.mp hr
    unfold Request.interrupt at hpos ⊢
    by_cases hopen : q.isOpen
    · rw [if_pos hopen] at hpos ⊢
      left
      rw [if_pos hpos]
      rfl
    · rw [if_neg hopen] at hpos ⊢
      exact hs.settled q hq hpos

end Steps

/-! ### Runs -/

/-- In every careful run the machine is sound and the row of every hash is a lock. -/
theorem inv_of_reach {blocks : Request → Bool} (hb : ∀ r : Request, 0 < r.htlcs → blocks r)
    (hsettle : ∀ r : Request, blocks { r with htlcs := r.htlcs - 1 } → blocks r) {s : State}
    (h : Reach step (Careful blocks) State.Start s) :
    Sound s ∧ ∀ hash, (view blocks s hash).Inv := by
  refine Reach.invariant (I := fun s => Sound s ∧ ∀ hash, (view blocks s hash).Inv) ?_ ?_ s h
  · rintro s ⟨ht, hr, hm⟩
    refine ⟨⟨?_, ?_, ?_, ?_⟩, fun hash => ⟨?_, fun _ => ⟨?_, ?_⟩, fun hb => ?_, fun hp => ?_⟩⟩
    · simp [ht]
    · simp [ht]
    · simp [hm]
    · simp [hr]
    · simp [view, View.carriers, ht, hr, hm]
    · simp [view, View.carriers, ht, hr, hm]
    · simp [view, hr]
    · simp [view, ht, hr] at hb
    · simp [view, hr] at hp
  · rintro s a s' ⟨hs, hi⟩ hc h
    have hst := Step.of_step h
    exact ⟨hs.step hst, fun hash => (hi hash).step (view_step hb hsettle hs hc hst hash)⟩

section Live

variable (blocks : Request → Bool) {s : State} {hash : String}

theorem writers_pos {t : SendThread} (ht : t ∈ s.threads)
    (hpc : t.pc = .written) : 0 < (view blocks s t.hash).writers :=
  List.countP_pos_iff.mpr ⟨t, ht, by simp [hpc]⟩

theorem opens_pos {r : Request} (hr : r ∈ s.requests) (ho : r.isOpen) :
    0 < (view blocks s r.hash).opens :=
  List.countP_pos_iff.mpr ⟨r, hr, by simp [ho]⟩

theorem paid_pos {r : Request} (hr : r ∈ s.requests) (hp : r.phase = .succeeded)
    (hbl : blocks r) : 0 < (view blocks s r.hash).paid :=
  List.countP_pos_iff.mpr ⟨r, hr, by simp [hp, hbl]⟩

end Live

/-! ### No request while an earlier one counts -/

/-- The node is committed to the payment: a signed HTLC is left, or it has succeeded. -/
def Request.committed (r : Request) : Bool := 0 < r.htlcs || r.phase = .succeeded

/-- Whatever is handed to the payment initiator next, no earlier request for its hash is live. -/
def HandsSafely (s : State) : Prop :=
  ∀ i routerConf minCltv cap s', step s (.hand i routerConf minCltv cap) = some s' →
    ∀ t, s.threads[i]? = some t → ∀ r ∈ s.requests, r.hash = t.hash → ¬ r.Live

/-- **In careful runs a payment is never sent twice.** -/
theorem handsSafely {s : State} (h : Reach step (Careful Request.committed) State.Start s) :
    HandsSafely s := by
  intro i routerConf minCltv cap s' hst t hi r hr he hlive
  have hb : ∀ r : Request, 0 < r.htlcs → r.committed := by
    intro r hpos
    simp [Request.committed, hpos]
  have hsettle : ∀ r : Request,
      Request.committed { r with htlcs := r.htlcs - 1 } → r.committed := by
    intro r hc
    simp only [Request.committed, Bool.or_eq_true, decide_eq_true_eq] at hc ⊢
    rcases hc with hpos | hp
    · exact Or.inl (by omega)
    · exact Or.inr hp
  obtain ⟨hsound, hinv⟩ := inv_of_reach hb hsettle h
  have hpc : t.pc = .written := by
    cases Step.of_step hst with
    | hand hi' hpc =>
      rw [hi] at hi'
      exact Option.some.inj hi' ▸ hpc
  obtain ⟨hone, -, -, hdone⟩ := hinv t.hash
  have hw := writers_pos Request.committed (List.mem_of_getElem? hi) hpc
  have hclosed : ¬ r.isOpen := by
    intro ho
    have hpos := opens_pos Request.committed hr ho
    rw [he] at hpos
    simp only [View.carriers] at hone
    omega
  have hfailed : r.phase ≠ .succeeded := by
    intro hp
    have hpos := paid_pos Request.committed hr hp (by simp [Request.committed, hp])
    rw [he] at hpos
    have := (hdone hpos).1
    omega
  rcases hlive with hp | hpos | hp
  · exact hclosed (by simp [Request.isOpen, hp])
  · rcases hsound.settled r hr hpos with ho | hp
    · exact hclosed ho
    · exact hfailed hp
  · exact hfailed hp

/-- An order to pay one invoice, on the router configuration of a node. -/
def sampleOrder : SendPaymentActivity.Order :=
  ⟨5000, ⟨"hash", "node", .inl "coffee", some 5000, none, []⟩, "lnbc50n1"⟩

def sampleConf : App.RouterConf := ⟨true, 6, 1008, true, 0, 0, 1, 15000000, 6⟩

/-- An empty database, and nothing under way. -/
def emptyStart : State := ⟨.start .empty, [], [], []⟩

theorem start_emptyStart : emptyStart.Start := ⟨rfl, rfl, rfl⟩

/-- One thread that has written its row. -/
def oneWritten : State :=
  let row := SendPaymentActivity.newPayment sampleOrder 1
  { emptyStart with
    sup := .start (DBHelper.empty.insertOrUpdatePayment row)
    threads := [⟨sampleOrder, .written⟩] }

theorem reach_oneWritten {blocks : Request → Bool} :
    Reach step (Careful blocks) State.Start oneWritten := by
  refine .next (a := .write 0) (.next (a := .test 0 1) (.next (a := .read 0)
    (.next (a := .spawn sampleOrder) (.start start_emptyStart) trivial rfl) trivial rfl)
    trivial rfl) ?_ rfl
  intro t row ht hpc
  obtain rfl := Option.some.inj ht
  obtain rfl := Pc.tested.inj hpc
  exact ⟨Or.inl rfl, Table.Fits.of_id_none rfl⟩

/-- The request fails, and the payment is asked for once more. -/
def retries : List Action :=
  [.hand 0 sampleConf 9 true, .fail 0 [], .deliver 2, .spawn sampleOrder, .read 1, .test 1 3,
    .write 1]

def retried : State := (run step oneWritten retries).getD oneWritten

theorem reach_retried {blocks : Request → Bool} :
    Reach step (Careful blocks) State.Start retried := by
  refine .next (a := .write 1) (.next (a := .test 1 3) (.next (a := .read 1)
    (.next (a := .spawn sampleOrder) (.next (a := .deliver 2) (.next (a := .fail 0 [])
    (.next (a := .hand 0 sampleConf 9 true) reach_oneWritten trivial rfl) trivial rfl) trivial rfl)
    trivial rfl) trivial rfl) trivial rfl) ?_ rfl
  intro t row ht hpc
  obtain rfl := Option.some.inj ht
  obtain rfl := Pc.tested.inj hpc
  exact ⟨Or.inr rfl, Table.Fits.of_get? (k := (PaymentType.BTC_LN, "hash")) rfl rfl rfl⟩

/-- The second thread may hand its request over, as the first one has failed. -/
theorem handsSafely_retried : ∃ t r s', retried.threads[1]? = some t ∧ r ∈ retried.requests ∧
    r.hash = t.hash ∧ r.phase = .failed ∧ step retried (.hand 1 sampleConf 9 true) = some s' ∧
    HandsSafely retried :=
  ⟨_, _, _, rfl, List.mem_singleton.mpr rfl, rfl, rfl, rfl, handsSafely reach_retried⟩

/-- Two threads that test the row before one of them writes it both hand a request over. -/
theorem not_handsSafely : ¬ ∀ s, Reach step anyStep State.Start s → HandsSafely s := by
  intro hall
  have hrun : (run step emptyStart [.spawn sampleOrder, .spawn sampleOrder, .read 0, .read 1,
      .test 0 1, .test 1 1, .write 0, .write 1, .hand 0 sampleConf 9 true]).isSome := rfl
  have hreach := reach_of_run start_emptyStart (Option.some_get hrun).symm
  refine hall _ hreach 1 sampleConf 9 true _ rfl ⟨sampleOrder, .written⟩ rfl
    ⟨App.sendLNPayment sampleConf 9 sampleOrder.pr 5000 true, .inProgress, 0⟩ ?_ rfl (Or.inl rfl)
  exact List.mem_singleton.mpr rfl

/-! ### No payment en route is forgotten -/

/-- The hashes of the outgoing HTLCs in the commitments of `ChannelRestored` messages. -/
def restoredHashes (restored : List NodeMessage) : List String :=
  restored.flatMap fun
    | .channelRestored _ _ _ _ c => c.localCommit.htlcs.filterMap DirectedHtlc.outgoingHash?
    | _ => []

/-- A kill and the next start: `checkupInit`, then `ChannelRestored` for every channel. -/
def startup (s : State) (restored : List NodeMessage) (now : Date) : State :=
  restored.foldl (fun s m => s.handle m now) s.restart

/-- The row is `PENDING`, and the final event of its payment will be recorded in it. -/
structure Recorded (s : State) (hash : String) : Prop where
  pending : s.status hash = some (some .PENDING)
  sent : ∀ a f pre now, (s.handle (.paymentSent hash a f pre) now).status hash = some (some .PAID)
  failed : ∀ fs now, (s.handle (.paymentFailed hash fs) now).status hash = some (some .FAILED)

theorem status_handle (s : State) (m : NodeMessage) (now : Date) (hash : String) :
    (s.handle m now).status hash = nextStatus m hash (s.status hash) :=
  lnStatus_onReceive s.sup m now hash

theorem recorded_of_pending {s : State} {hash : String}
    (h : s.status hash = some (some .PENDING)) : Recorded s hash where
  pending := h
  sent a f pre now := by
    rw [status_handle, h]
    simp [nextStatus]
  failed fs now := by
    rw [status_handle, h]
    simp [nextStatus]

/-- If the process is killed now, every payment that has an outgoing HTLC in the restored channels,
and no final event yet, is still there after the next start. -/
def KillForgetsNothing (s : State) : Prop :=
  ∀ restored now, (∀ m ∈ restored, ∃ ch id node f c, m = .channelRestored ch id node f c) →
    ∀ hash ∈ restoredHashes restored,
      (∃ r ∈ s.requests, r.hash = hash ∧ 0 < r.htlcs ∧ r.phase ≠ .succeeded) →
      Recorded (startup s restored now) hash

/-- Restored channels leave a pending payment pending. -/
theorem status_restored {restored : List NodeMessage}
    (hr : ∀ m ∈ restored, ∃ ch id node f c, m = .channelRestored ch id node f c) (now : Date)
    {hash : String} {s : State} (h : s.status hash = some (some .PENDING)) :
    (restored.foldl (fun s m => s.handle m now) s).status hash = some (some .PENDING) := by
  induction restored generalizing s with
  | nil => exact h
  | cons m ms ih =>
    refine ih (fun m' hm' => hr m' (List.mem_cons_of_mem _ hm')) ?_
    obtain ⟨ch, id, node, f, c, rfl⟩ := hr m List.mem_cons_self
    rw [status_handle, h]
    simp [nextStatus, pend]

/-- A request with a signed HTLC, whose signature event has been handled. -/
def oneSigned : State :=
  let c : Commitments := ⟨⟨[], 0, 0⟩, some ⟨[.incoming "hash"], 0, 0⟩, 0, 0, 0, "", 0, "tx", 0⟩
  { oneWritten with
    threads := [⟨sampleOrder, .finished⟩]
    requests := [⟨App.sendLNPayment sampleConf 9 sampleOrder.pr 5000 true, .inProgress, 1⟩]
    mailbox := [] }.handle (.channelSignatureSent "ch" c) 1

theorem reach_oneSigned {blocks : Request → Bool} :
    Reach step (Careful blocks) State.Start oneSigned :=
  let c : Commitments := ⟨⟨[], 0, 0⟩, some ⟨[.incoming "hash"], 0, 0⟩, 0, 0, 0, "", 0, "tx", 0⟩
  .next (a := .deliver 1) (.next (a := .publish (.channelSignatureSent "ch" c))
    (.next (a := .sign 0) (.next (a := .hand 0 sampleConf 9 true) reach_oneWritten trivial rfl)
      trivial rfl) trivial rfl) trivial rfl

end SendMachine

end EclairMobile
