import EclairMobile.Lib.Reach
import EclairMobile.Activities.SendPaymentActivity
import EclairMobile.Payments.Status

/-!
# Sending, step by step

Threads of `sendLNPayment`, the node's requests and their HTLCs, the mailbox of the supervisor and
the database, interleaved in any order, with kills of the process at any point.  The node is what
the app relies on: a request ends with at most one `PaymentFailed` or `PaymentSent`, it fails only
when none of its HTLCs is left, and signed HTLCs survive a kill while all else of the process is
lost.
-/

namespace EclairMobile

open Lib NodeSupervisor

namespace SendMachine

/-- How far a thread of `sendLNPayment` is. -/
inductive Pc
  | started
  | read (p : Option Payment)
  | tested (row : Payment)
  | written
  | finished
  deriving DecidableEq

structure SendThread where
  order : SendPaymentActivity.Order
  pc : Pc
  deriving DecidableEq

/-- The payment hash that the thread pays. -/
def SendThread.hash (t : SendThread) : String := t.order.pr.paymentHash

/-- What the node has made of a request: `interrupted` and `lost` are requests of a killed process,
with and without signed HTLCs. -/
inductive Phase
  | inProgress
  | interrupted
  | failed
  | succeeded
  | lost
  deriving DecidableEq, Repr

structure Request where
  request : App.SendPaymentRequest
  phase : Phase
  /-- The signed HTLCs that are not settled. -/
  htlcs : ℕ
  deriving DecidableEq

namespace Request

def hash (r : Request) : String := r.request.paymentHash

/-- The request has not had its final event. -/
def isOpen (r : Request) : Bool := r.phase = .inProgress || r.phase = .interrupted

/-- The request after a kill. -/
def interrupt (r : Request) : Request :=
  if r.isOpen then { r with phase := if 0 < r.htlcs then .interrupted else .lost } else r

/-- Paying the hash again would risk paying it twice: the request is still in progress in the same
process, has a signed unsettled HTLC, or has succeeded. -/
def Live (r : Request) : Prop := r.phase = .inProgress ∨ 0 < r.htlcs ∨ r.phase = .succeeded

instance : DecidablePred Live := fun _ => inferInstanceAs (Decidable (_ ∨ _))

end Request

structure State where
  sup : NodeSupervisor.State
  threads : List SendThread
  requests : List Request
  mailbox : List NodeMessage

namespace State

/-- The status of the Lightning row of a hash. -/
def status (s : State) (hash : String) : LnStatus := s.sup.dbHelper.lnStatus hash

def setPc (s : State) (i : ℕ) (t : SendThread) (pc : Pc) : State :=
  { s with threads := s.threads.set i { t with pc } }

/-- A process that has just started, on any database. -/
def Start (s : State) : Prop := s.threads = [] ∧ s.requests = [] ∧ s.mailbox = []

/-- The process is killed and the next one runs `checkupInit`. -/
def restart (s : State) : State where
  sup := .start (App.restart s.sup.dbHelper)
  threads := []
  requests := s.requests.map Request.interrupt
  mailbox := []

/-- `NodeSupervisor` handles a message. -/
def handle (s : State) (message : NodeMessage) (now : Date) : State :=
  { s with sup := (onReceive s.sup message now).1 }

end State

/-- An event that does not end a payment. -/
def IsNodeEvent : NodeMessage → Prop
  | .paymentFailed .. | .paymentSent .. | .paymentReceived .. => False
  | _ => True

instance : DecidablePred IsNodeEvent := fun m => by
  cases m <;> first | exact isTrue trivial | exact isFalse id

inductive Action
  /-- The user asks to pay: a new thread. -/
  | spawn (order : SendPaymentActivity.Order)
  | read (i : ℕ)
  /-- The object that a thread has read is the one attached to its row, and somebody else has
  changed it. -/
  | share (i : ℕ)
  | test (i : ℕ) (now : Date)
  | write (i : ℕ)
  | hand (i : ℕ) (routerConf : App.RouterConf) (minCltvExpiryDelta : ℤ) (capLightningFees : Bool)
  /-- The node signs an HTLC of a request in progress. -/
  | sign (j : ℕ)
  /-- An HTLC is fulfilled or failed, and removed from the commitments. -/
  | settle (j : ℕ)
  | fail (j : ℕ) (failures : List PaymentFailure)
  | succeed (j : ℕ) (amountWithFees feesPaid : ℤ) (paymentPreimage : String)
  /-- The node publishes an event that ends no payment, with any HTLCs. -/
  | publish (message : NodeMessage)
  | deliver (now : Date)
  | restart

def step (s : State) : Action → Option State
  | .spawn order => some { s with threads := s.threads ++ [⟨order, .started⟩] }
  | .read i =>
    match s.threads[i]? with
    | some t =>
      if t.pc = .started then
        some (s.setPc i t (.read (s.sup.dbHelper.getPayment t.hash .BTC_LN)))
      else none
    | none => none
  | .share i =>
    match s.threads[i]? with
    | some t =>
      match t.pc, s.sup.dbHelper.getPayment t.hash .BTC_LN with
      | .read (some p), some q => if q.id = p.id then some (s.setPc i t (.read (some q))) else none
      | _, _ => none
    | none => none
  | .test i now =>
    match s.threads[i]? with
    | some t =>
      match t.pc with
      | .read p =>
        match SendPaymentActivity.checkPayment p t.order now with
        | .error _ => some (s.setPc i t .finished)
        | .ok row => some (s.setPc i t (.tested row))
      | _ => none
    | none => none
  | .write i =>
    match s.threads[i]? with
    | some t =>
      match t.pc with
      | .tested row =>
        let sup := { s.sup with dbHelper := s.sup.dbHelper.insertOrUpdatePayment row }
        some ({ s with sup }.setPc i t .written)
      | _ => none
    | none => none
  | .hand i routerConf minCltv capLightningFees =>
    match s.threads[i]? with
    | some t =>
      if t.pc = .written then
        let request :=
          App.sendLNPayment routerConf minCltv t.order.pr t.order.amount capLightningFees
        some { s.setPc i t .finished with requests := s.requests ++ [⟨request, .inProgress, 0⟩] }
      else none
    | none => none
  | .sign j =>
    match s.requests[j]? with
    | some r =>
      if r.phase = .inProgress then
        some { s with requests := s.requests.set j { r with htlcs := r.htlcs + 1 } }
      else none
    | none => none
  | .settle j =>
    match s.requests[j]? with
    | some r =>
      if 0 < r.htlcs then
        some { s with requests := s.requests.set j { r with htlcs := r.htlcs - 1 } }
      else none
    | none => none
  | .fail j failures =>
    match s.requests[j]? with
    | some r =>
      if r.isOpen ∧ r.htlcs = 0 then
        some { s with
          requests := s.requests.set j { r with phase := .failed }
          mailbox := s.mailbox ++ [.paymentFailed r.hash failures] }
      else none
    | none => none
  | .succeed j amount fees preimage =>
    match s.requests[j]? with
    | some r =>
      if r.isOpen then
        some { s with
          requests := s.requests.set j { r with phase := .succeeded }
          mailbox := s.mailbox ++ [.paymentSent r.hash amount fees preimage] }
      else none
    | none => none
  | .publish message =>
    if IsNodeEvent message then some { s with mailbox := s.mailbox ++ [message] } else none
  | .deliver now =>
    match s.mailbox with
    | message :: mailbox => some ({ s with mailbox }.handle message now)
    | [] => none
  | .restart => some s.restart

/-! ### What an action does -/

/-- The possible actions, with what makes each possible and the state it leads to. -/
inductive Step : State → Action → State → Prop
  | spawn (s : State) (order : SendPaymentActivity.Order) :
      Step s (.spawn order) { s with threads := s.threads ++ [⟨order, .started⟩] }
  | read {s : State} {i : ℕ} {t : SendThread} : s.threads[i]? = some t → t.pc = .started →
      Step s (.read i) (s.setPc i t (.read (s.sup.dbHelper.getPayment t.hash .BTC_LN)))
  | share {s : State} {i : ℕ} {t : SendThread} {p q : Payment} : s.threads[i]? = some t →
      t.pc = .read (some p) → s.sup.dbHelper.getPayment t.hash .BTC_LN = some q →
      Step s (.share i) (s.setPc i t (.read (some q)))
  | giveUp {s : State} {i : ℕ} {t : SendThread} {p : Option Payment} {now : Date} :
      s.threads[i]? = some t → t.pc = .read p → Step s (.test i now) (s.setPc i t .finished)
  | test {s : State} {i : ℕ} {t : SendThread} {p : Option Payment} {now : Date} {row : Payment} :
      s.threads[i]? = some t → t.pc = .read p →
      SendPaymentActivity.checkPayment p t.order now = .ok row →
      Step s (.test i now) (s.setPc i t (.tested row))
  | write {s : State} {i : ℕ} {t : SendThread} {row : Payment} : s.threads[i]? = some t →
      t.pc = .tested row →
      Step s (.write i) ({ s with
        sup := { s.sup with dbHelper := s.sup.dbHelper.insertOrUpdatePayment row }
        }.setPc i t .written)
  | hand {s : State} {i : ℕ} {t : SendThread} {routerConf : App.RouterConf} {minCltv : ℤ}
      {cap : Bool} :
      s.threads[i]? = some t → t.pc = .written →
      Step s (.hand i routerConf minCltv cap) { s.setPc i t .finished with
        requests := s.requests ++
          [⟨App.sendLNPayment routerConf minCltv t.order.pr t.order.amount cap, .inProgress, 0⟩] }
  | sign {s : State} {j : ℕ} {r : Request} : s.requests[j]? = some r → r.phase = .inProgress →
      Step s (.sign j) { s with requests := s.requests.set j { r with htlcs := r.htlcs + 1 } }
  | settle {s : State} {j : ℕ} {r : Request} : s.requests[j]? = some r → 0 < r.htlcs →
      Step s (.settle j) { s with requests := s.requests.set j { r with htlcs := r.htlcs - 1 } }
  | fail {s : State} {j : ℕ} {r : Request} {failures : List PaymentFailure} :
      s.requests[j]? = some r → r.isOpen → r.htlcs = 0 →
      Step s (.fail j failures) { s with
        requests := s.requests.set j { r with phase := .failed }
        mailbox := s.mailbox ++ [.paymentFailed r.hash failures] }
  | succeed {s : State} {j : ℕ} {r : Request} {amount fees : ℤ} {preimage : String} :
      s.requests[j]? = some r → r.isOpen →
      Step s (.succeed j amount fees preimage) { s with
        requests := s.requests.set j { r with phase := .succeeded }
        mailbox := s.mailbox ++ [.paymentSent r.hash amount fees preimage] }
  | publish {s : State} {m : NodeMessage} : IsNodeEvent m →
      Step s (.publish m) { s with mailbox := s.mailbox ++ [m] }
  | deliver {s : State} {m : NodeMessage} {mailbox : List NodeMessage} (now : Date) :
      s.mailbox = m :: mailbox → Step s (.deliver now) ({ s with mailbox }.handle m now)
  | restart (s : State) : Step s .restart s.restart

/-- Every result on steps starts from here, and none looks into `step`. -/
theorem Step.of_step {s s' : State} {a : Action} (h : step s a = some s') : Step s a s' := by
  cases a with
  | spawn order => exact Option.some.inj h ▸ .spawn s order
  | read i =>
    simp only [step] at h
    split at h
    · next t hi =>
      split at h
      · next hpc => exact Option.some.inj h ▸ .read hi hpc
      · cases h
    · cases h
  | share i =>
    simp only [step] at h
    split at h
    · next t hi =>
      split at h
      · next p q hpc hq =>
        split at h
        · exact Option.some.inj h ▸ .share hi hpc hq
        · cases h
      · cases h
    · cases h
  | test i now =>
    simp only [step] at h
    split at h
    · next t hi =>
      split at h
      · next p hpc =>
        split at h
        · exact Option.some.inj h ▸ .giveUp hi hpc
        · next row hrow => exact Option.some.inj h ▸ .test hi hpc hrow
      · cases h
    · cases h
  | write i =>
    simp only [step] at h
    split at h
    · next t hi =>
      split at h
      · next row hpc => exact Option.some.inj h ▸ .write hi hpc
      · cases h
    · cases h
  | hand i routerConf minCltv cap =>
    simp only [step] at h
    split at h
    · next t hi =>
      split at h
      · next hpc => exact Option.some.inj h ▸ .hand hi hpc
      · cases h
    · cases h
  | sign j =>
    simp only [step] at h
    split at h
    · next r hj =>
      split at h
      · next hphase => exact Option.some.inj h ▸ .sign hj hphase
      · cases h
    · cases h
  | settle j =>
    simp only [step] at h
    split at h
    · next r hj =>
      split at h
      · next hpos => exact Option.some.inj h ▸ .settle hj hpos
      · cases h
    · cases h
  | fail j failures =>
    simp only [step] at h
    split at h
    · next r hj =>
      split at h
      · next hopen => exact Option.some.inj h ▸ .fail hj hopen.1 hopen.2
      · cases h
    · cases h
  | succeed j amount fees preimage =>
    simp only [step] at h
    split at h
    · next r hj =>
      split at h
      · next hopen => exact Option.some.inj h ▸ .succeed hj hopen
      · cases h
    · cases h
  | publish m =>
    simp only [step] at h
    split at h
    · next hm => exact Option.some.inj h ▸ .publish hm
    · cases h
  | deliver now =>
    simp only [step] at h
    split at h
    · next m mailbox hm => exact Option.some.inj h ▸ .deliver now hm
    · cases h
  | restart => exact Option.some.inj h ▸ .restart s

end SendMachine

end EclairMobile
