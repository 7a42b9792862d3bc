import EclairMobile.Fragments.ReceivePaymentFragment
import EclairMobile.Payments.Rows

/-!
# The stages of a payment request

A generation goes through stages, one generation at a time: `Stage` is this life without the rest of
the screen, and `At` says which works and posts stand for a stage and what holds in it.  Every step
of the screen moves from one stage to another, or stays.  What a request leaves in the database is a
row that no other writer of the process takes apart.
-/

namespace EclairMobile

namespace ReceiveScreen

open Lib NodeSupervisor

variable {lib : ReceiveLibraries}

/-! ### The row of a request -/

/-- A row that holds the request, whatever became of its payment. -/
def Records (lib : ReceiveLibraries) (pr : PaymentRequest) (row : Payment) : Prop :=
  row.direction = .RECEIVED ∧ row.paymentRequest = some (lib.write pr).toLower ∧
    row.amountRequestedMsat = SendPaymentActivity.getLongAmountFromInvoice pr ∧
    row.description = some (SendPaymentActivity.paymentDescription pr) ∧
    row.recipient = some pr.nodeId

/-- The Lightning row of the hash of the request holds it. -/
def Recorded (lib : ReceiveLibraries) (db : DBHelper) (pr : PaymentRequest) : Prop :=
  ∃ row, db.lnRow pr.paymentHash = some row ∧ Records lib pr row

section Rows

variable {pr : PaymentRequest} {row : Payment}

theorem Records.nextRow (h : Records lib pr row) (m : NodeMessage) (now : Date) (hash : String) :
    ∃ row', nextRow m now hash (some row) = some row' ∧ Records lib pr row' := by
  have hpend : Records lib pr (pendRow now row) := by
    unfold pendRow
    split
    · exact h
    · exact h
  have hfail : Records lib pr (failRow now row) := by
    unfold failRow
    split
    · exact h
    · exact h
  unfold NodeSupervisor.nextRow
  cases m with
  | channelRestored ch id node isFunder c =>
    dsimp only
    split
    · exact ⟨_, rfl, hpend⟩
    · exact ⟨_, rfl, h⟩
  | channelSignatureSent ch c =>
    dsimp only
    split
    · exact ⟨_, rfl, h⟩
    · split
      · exact ⟨_, rfl, hpend⟩
      · exact ⟨_, rfl, h⟩
  | paymentFailed hash' failures =>
    dsimp only
    split
    · exact ⟨_, rfl, hfail⟩
    · exact ⟨_, rfl, h⟩
  | paymentSent hash' amount fees preimage =>
    dsimp only
    split
    · exact ⟨_, rfl, h⟩
    · exact ⟨_, rfl, h⟩
  | paymentReceived hash' amount =>
    dsimp only
    split
    · exact ⟨_, rfl, h⟩
    · exact ⟨_, rfl, h⟩
  | _ => exact ⟨_, rfl, h⟩

theorem Recorded.onReceive {n : NodeSupervisor.State} (h : Recorded lib n.dbHelper pr)
    (m : NodeMessage) (now : Date) : Recorded lib (onReceive n m now).1.dbHelper pr := by
  obtain ⟨row, hrow, hrecords⟩ := h
  obtain ⟨row', hrow', hrecords'⟩ := hrecords.nextRow m now pr.paymentHash
  refine ⟨row', ?_, hrecords'⟩
  rw [lnRow_onReceive, hrow, hrow']

theorem Recorded.of_getPayment {db db' : DBHelper} (h : Recorded lib db pr)
    (heq : ∀ hash, db'.getPayment hash .BTC_LN = db.getPayment hash .BTC_LN) :
    Recorded lib db' pr := by
  unfold Recorded DBHelper.lnRow
  rw [heq]
  exact h

/-- Paying changes the row of the hash only, and a row that exists is kept but for its state. -/
theorem Recorded.sendLNPayment {db : DBHelper} (h : Recorded lib db pr)
    (o : SendPaymentActivity.Order) (now : Date) :
    Recorded lib (SendPaymentActivity.sendLNPayment db o now).1 pr := by
  unfold SendPaymentActivity.sendLNPayment
  split
  · exact h
  · next q hq =>
    obtain ⟨row, hrow, hrecords⟩ := h
    rcases SendPaymentActivity.checkPayment_eq_ok_iff.mp hq with ⟨hnone, rfl⟩ | ⟨p, hp, -, rfl⟩
    · -- no row has the hash that is paid, so it is another one
      have hne : pr.paymentHash ≠ o.pr.paymentHash := by
        intro heq
        unfold DBHelper.lnRow at hrow
        rw [heq, hnone] at hrow
        cases hrow
      refine ⟨row, ?_, hrecords⟩
      rw [DBHelper.lnRow_insert (Table.Fits.of_id_none rfl) rfl, ← hrow]
      exact if_neg hne
    · by_cases heq : pr.paymentHash = o.pr.paymentHash
      · refine ⟨(SendPaymentActivity.retriedPayment p o now).withoutId, ?_, ?_⟩
        · rw [DBHelper.lnRow_save (SendPaymentActivity.retriedPayment p o now) hp rfl rfl rfl,
            if_pos heq]
        · unfold DBHelper.lnRow at hrow
          rw [heq, hp] at hrow
          obtain rfl := Option.some.inj hrow
          exact hrecords
      · refine ⟨row, ?_, hrecords⟩
        rw [DBHelper.lnRow_save (SendPaymentActivity.retriedPayment p o now) hp rfl rfl rfl,
          if_neg heq, hrow]

/-- Whatever else writes payments keeps the rows of the requests. -/
theorem Recorded.other {n : NodeSupervisor.State} (h : Recorded lib n.dbHelper pr)
    {action : PaidRuns.Action} (hother : isOther action = true) :
    Recorded lib ((PaidRuns.step n action).getD n).dbHelper pr := by
  cases action with
  | node m now => exact h.onReceive m now
  | send o now => exact h.sendLNPayment o now
  | electrum m now =>
    apply h.of_getPayment
    exact ElectrumSupervisor.getPayment_congr_lightning
      (ElectrumSupervisor.lightning_onReceive m now)
  | cleanUpZeroConfs =>
    exact h.of_getPayment fun hash => DBHelper.getPayment_cleanUpZeroConfs _ hash
  | deleteAllOnchainTxs =>
    exact h.of_getPayment fun hash => DBHelper.getPayment_deleteAllOnchainTxs _ hash
  | generatePaymentRequest | cleanLightningPayments => cases hother

theorem recorded_generatePaymentRequest (db : DBHelper) (pr : PaymentRequest) (now : Date) :
    Recorded lib
      (ReceivePaymentFragment.generatePaymentRequest db pr (lib.write pr) now) pr := by
  refine ⟨(ReceivePaymentFragment.newPayment pr (lib.write pr) now).withoutId, ?_,
    rfl, rfl, rfl, rfl, rfl⟩
  unfold ReceivePaymentFragment.generatePaymentRequest
  rw [DBHelper.lnRow_insert (Table.Fits.of_id_none rfl) rfl]
  exact if_pos rfl

theorem Recorded.generatePaymentRequest {db : DBHelper} (h : Recorded lib db pr)
    {pr' : PaymentRequest} (hne : pr.paymentHash ≠ pr'.paymentHash) (now : Date) :
    Recorded lib
      (ReceivePaymentFragment.generatePaymentRequest db pr' (lib.write pr') now) pr := by
  obtain ⟨row, hrow, hrecords⟩ := h
  refine ⟨row, ?_, hrecords⟩
  unfold ReceivePaymentFragment.generatePaymentRequest
  rw [DBHelper.lnRow_insert (Table.Fits.of_id_none rfl) rfl, ← hrow]
  exact if_neg hne

end Rows

/-! ### Stages -/

/-- The life of a generation.  Its bitmap may be drawn before the runnable of its views has run, but
it is posted behind it. -/
inductive Stage
  | idle
  | failed
  | asked
  | answered (pr : PaymentRequest)
  | inserted (pr : PaymentRequest)
  | drawing (pr : PaymentRequest) (seen : Bool)
  | posted (pr : PaymentRequest) (seen drawn : Bool)

def Work.isLightning : Work → Bool
  | .generate _ | .lightningQr _ => true
  | .onchainQr _ => false

def Post.isLightning : Post → Bool
  | .generated _ | .failed | .lightningQr _ _ => true
  | .onchainQr _ _ => false

namespace Stage

/-- The works of a stage. -/
def works (lib : ReceiveLibraries) : Stage → List Work
  | .idle | .failed | .posted .. => []
  | .asked => [.generate .asked]
  | .answered pr => [.generate (.answered pr)]
  | .inserted pr => [.generate (.inserted pr)]
  | .drawing pr _ => [.lightningQr (lib.write pr)]

/-- The runnable, if it has not run. -/
def toSee (lib : ReceiveLibraries) (pr : PaymentRequest) (seen : Bool) : List Post :=
  if seen then [] else [.generated (lib.write pr)]

/-- The posts of a stage. -/
def posts (lib : ReceiveLibraries) : Stage → List Post
  | .idle | .asked | .answered _ | .inserted _ => []
  | .failed => [.failed]
  | .drawing pr seen => toSee lib pr seen
  | .posted pr seen drawn => toSee lib pr seen ++ [.lightningQr (lib.write pr) drawn]

def busy : Stage → Bool
  | .idle | .failed => false
  | _ => true

end Stage

/-- The request is the last one, and it is the one that was asked for. -/
def Latest (s : ReceiveScreen) (pr : PaymentRequest) : Prop :=
  s.recorded.head? = some pr ∧ pr.description = .inl s.asked.1 ∧ pr.amount = s.asked.2

/-- The fields of the fragment are those of the request. -/
def Published (lib : ReceiveLibraries) (s : ReceiveScreen) (pr : PaymentRequest) : Prop :=
  s.lightningPaymentRequest = some (lib.write pr) ∧ s.lightningPaymentHash = some pr.paymentHash ∧
    s.lightningDescription = SendPaymentActivity.paymentDescription pr ∧
    s.lightningAmount = pr.amount

/-- The views are those of the request, and the warning compares its amount. -/
def Seen (lib : ReceiveLibraries) (s : ReceiveScreen) (pr : PaymentRequest) : Prop :=
  s.lightningPr = .request (lib.write pr) ∧ s.lightningSharePr = some (lib.write pr) ∧
    s.lightningQrListener = some (lib.write pr) ∧ s.lightningAmountView = pr.amount ∧
    (∀ d ∈ s.lightningDescriptionView, d = SendPaymentActivity.paymentDescription pr) ∧
    s.excessiveLightningAmount = pr.amount.any fun amount => amount > s.maxReceivable

/-- No request is displayed. -/
def Unseen (s : ReceiveScreen) : Prop := s.lightningPr = .lightning_wait ∧ s.lightningQr = none

/-- A request that is displayed is seen in all views. -/
def Rests (lib : ReceiveLibraries) (s : ReceiveScreen) : Prop :=
  ∀ t, s.lightningPr = .request t → ∃ pr, s.Latest pr ∧ Published lib s pr ∧ Seen lib s pr ∧
    (s.lightningQr = none ∨ s.lightningQr = some (lib.write pr))

/-- A request that was published and whose bitmap is still to come. -/
def Awaited (lib : ReceiveLibraries) (s : ReceiveScreen) (pr : PaymentRequest) (seen : Bool) :
    Prop :=
  s.Latest pr ∧ Published lib s pr ∧ s.lightningQr = none ∧
    if seen then Seen lib s pr else s.lightningPr = .lightning_wait

/-- What holds in a stage. -/
def Stage.Holds (lib : ReceiveLibraries) (s : ReceiveScreen) : Stage → Prop
  | .idle => Rests lib s
  | .failed => s.Unseen
  | .asked => s.Unseen ∧ s.asked = (s.lightningDescription, s.lightningAmount)
  | .answered pr => s.Unseen ∧ (pr.description = .inl s.asked.1 ∧ pr.amount = s.asked.2) ∧
      ∀ pr' ∈ s.recorded, pr'.paymentHash ≠ pr.paymentHash
  | .inserted pr => s.Unseen ∧ s.Latest pr
  | .drawing pr seen => Awaited lib s pr seen
  | .posted pr seen _ => Awaited lib s pr seen

/-- The queues and the flag of a stage. -/
def Queued (lib : ReceiveLibraries) (s : ReceiveScreen) (stage : Stage) : Prop :=
  s.executor.filter Work.isLightning = stage.works lib ∧
    s.posts.filter Post.isLightning = stage.posts lib ∧ s.isGeneratingLightningPR = stage.busy

/-- The screen is in a stage. -/
def At (lib : ReceiveLibraries) (s : ReceiveScreen) (stage : Stage) : Prop :=
  Queued lib s stage ∧ stage.Holds lib s

section Stages

variable {s : ReceiveScreen} {stage : Stage} {pr : PaymentRequest} {rest : List Work}

/-! ### Starting -/

theorem Queued.eq_idle (h : Queued lib s stage) (hbusy : s.isGeneratingLightningPR = false)
    (hfailed : Post.failed ∉ s.posts) : stage = .idle := by
  obtain ⟨-, hposts, hflag⟩ := h
  cases stage with
  | idle => rfl
  | failed =>
    have hmem : Post.failed ∈ s.posts.filter Post.isLightning := by
      rw [hposts]
      exact List.mem_singleton.mpr rfl
    exact absurd (List.mem_of_mem_filter hmem) hfailed
  | _ =>
    rw [hbusy] at hflag
    cases hflag

theorem Queued.generatePaymentRequest (h : Queued lib s .idle)
    (hprefs : s.prefs.enableLightningInboundPayments = true) :
    At lib s.generatePaymentRequest .asked := by
  obtain ⟨hworks, hposts, hflag⟩ := h
  have hflag : s.isGeneratingLightningPR = false := hflag
  unfold ReceiveScreen.generatePaymentRequest
  rw [if_pos ⟨hprefs, hflag⟩]
  refine ⟨⟨?_, hposts, rfl⟩, ⟨rfl, rfl⟩, rfl⟩
  show (s.executor ++ [Work.generate Pc.asked]).filter Work.isLightning = _
  rw [List.filter_append, hworks]
  rfl

/-- The amount is compared again: what is seen of a published request stays right. -/
theorem Seen.checkLightningAmount (h : Seen lib s pr) (hpublished : Published lib s pr) :
    Seen lib s.checkLightningAmount pr := by
  obtain ⟨htext, hshare, hlistener, hamount, hdescription, -⟩ := h
  refine ⟨htext, hshare, hlistener, hamount, hdescription, ?_⟩
  unfold ReceiveScreen.checkLightningAmount
  dsimp only
  rw [hpublished.2.2.2]

theorem Awaited.checkLightningAmount {seen : Bool} (h : Awaited lib s pr seen) :
    Awaited lib s.checkLightningAmount pr seen := by
  obtain ⟨hlatest, hpublished, hqr, hseen⟩ := h
  refine ⟨hlatest, hpublished, hqr, ?_⟩
  cases seen with
  | false => exact hseen
  | true => exact Seen.checkLightningAmount hseen hpublished

theorem At.checkLightningAmount (h : At lib s stage) : At lib s.checkLightningAmount stage := by
  refine ⟨h.1, ?_⟩
  have hholds := h.2
  cases stage with
  | idle =>
    intro t ht
    obtain ⟨pr, hlatest, hpublished, hseen, hqr⟩ := hholds t ht
    exact ⟨pr, hlatest, hpublished, hseen.checkLightningAmount hpublished, hqr⟩
  | failed | asked | answered | inserted => exact hholds
  | drawing pr seen => exact Awaited.checkLightningAmount hholds
  | posted pr seen drawn => exact Awaited.checkLightningAmount hholds

/-- The pane is refreshed: nothing new is started, or a request that is missing or paid is
replaced. -/
theorem At.refreshLightningPaneState (h : At lib s stage) (hfailed : Post.failed ∉ s.posts) :
    At lib s.refreshLightningPaneState stage ∨ At lib s.refreshLightningPaneState .asked := by
  unfold ReceiveScreen.refreshLightningPaneState
  split
  · dsimp only
    split
    · next hstart =>
      right
      obtain ⟨-, hprefs, hflag, -⟩ := hstart
      obtain rfl := h.1.eq_idle hflag hfailed
      apply Queued.generatePaymentRequest
      · exact h.1
      · exact hprefs
    · left
      apply At.checkLightningAmount
      exact h
  · exact .inl h

/-! ### The steps of a generation -/

/-- The first work of the executor, if it is one of a generation, is the only one of its stage. -/
theorem Queued.works_eq (h : Queued lib s stage) {w : Work} (hw : w.isLightning = true)
    (hexecutor : s.executor = w :: rest) :
    stage.works lib = [w] ∧ rest.filter Work.isLightning = [] := by
  have hworks := h.1
  rw [hexecutor, List.filter_cons_of_pos hw] at hworks
  cases stage with
  | idle | failed | posted => cases hworks
  | asked | answered | inserted | drawing =>
    obtain ⟨rfl, hrest⟩ := List.cons.inj hworks
    exact ⟨rfl, hrest⟩

/-- A generation that throws shows its failure, if there is a screen to show it. -/
theorem At.caught (hunseen : s.Unseen) (hrest : rest.filter Work.isLightning = [])
    (hposts : s.posts.filter Post.isLightning = []) : ∃ stage', At lib (s.caught rest) stage' := by
  unfold ReceiveScreen.caught
  by_cases hattached : s.attached = true
  · refine ⟨.failed, ⟨hrest, ?_, rfl⟩, hunseen⟩
    rw [if_pos hattached, List.filter_append, hposts]
    rfl
  · refine ⟨.idle, ⟨hrest, ?_, rfl⟩, ?_⟩
    · rw [if_neg hattached]
      exact hposts
    · intro t ht
      rw [hunseen.1] at ht
      cases ht

theorem At.ask (h : At lib s stage) (hexecutor : s.executor = .generate .asked :: rest)
    {answer : Option PaymentRequest} (hanswer : ∀ pr ∈ answer, s.Answers pr)
    (hrecorded : ∀ pr ∈ s.recorded, Recorded lib s.node.dbHelper pr) :
    ∃ stage', At lib (s.ask answer) stage' := by
  obtain ⟨hworks, hrest⟩ := h.1.works_eq rfl hexecutor
  cases stage with
  | asked =>
    obtain ⟨⟨-, hposts, hflag⟩, hunseen, hasked⟩ := h
    unfold ReceiveScreen.ask
    rw [hexecutor]
    dsimp only
    cases answer with
    | none => exact At.caught hunseen hrest hposts
    | some pr =>
      dsimp only
      split
      · obtain ⟨hdescription, hamount, hfresh⟩ := hanswer pr rfl
        refine ⟨.answered pr, ⟨?_, hposts, hflag⟩, hunseen, ?_, ?_⟩
        · show List.filter _ (_ :: rest) = _
          rw [List.filter_cons_of_pos rfl, hrest]
          rfl
        · rw [hasked]
          exact ⟨hdescription, hamount⟩
        · -- a request that is recorded has a row
          intro pr' hpr' heq
          obtain ⟨row, hrow, -⟩ := hrecorded pr' hpr'
          rw [DBHelper.lnStatus_eq_lnRow, ← heq, hrow] at hfresh
          cases hfresh
      · exact At.caught hunseen hrest hposts
  | idle | failed | posted | answered | inserted | drawing => cases hworks

theorem At.insert (h : At lib s stage) (hexecutor : s.executor = .generate (.answered pr) :: rest)
    (hattached : s.attached = true) (now : Date) (throws : Bool) :
    ∃ stage', At lib (s.insert lib now throws) stage' := by
  obtain ⟨hworks, hrest⟩ := h.1.works_eq rfl hexecutor
  cases stage with
  | answered pr' =>
    obtain rfl : pr' = pr := Pc.answered.inj (Work.generate.inj (List.cons.inj hworks).1)
    obtain ⟨⟨-, hposts, hflag⟩, hunseen, hmatches, -⟩ := h
    unfold ReceiveScreen.insert
    rw [hexecutor]
    dsimp only
    rw [if_neg (by simp [hattached])]
    split
    · exact At.caught hunseen hrest hposts
    · refine ⟨.inserted _, ⟨?_, hposts, hflag⟩, hunseen, rfl, hmatches⟩
      show List.filter _ (_ :: rest) = _
      rw [List.filter_cons_of_pos rfl, hrest]
      rfl
  | idle | failed | posted | asked | inserted | drawing => cases hworks

theorem At.publish (h : At lib s stage) (hexecutor : s.executor = .generate (.inserted pr) :: rest)
    (hattached : s.attached = true) : At lib (s.publish lib) (.drawing pr false) := by
  obtain ⟨hworks, hrest⟩ := h.1.works_eq rfl hexecutor
  cases stage with
  | inserted pr' =>
    obtain rfl : pr' = pr := Pc.inserted.inj (Work.generate.inj (List.cons.inj hworks).1)
    obtain ⟨⟨-, hposts, hflag⟩, hunseen, hlatest⟩ := h
    unfold ReceiveScreen.publish
    rw [hexecutor]
    refine ⟨⟨?_, ?_, hflag⟩, hlatest, ⟨rfl, rfl, rfl, rfl⟩, hunseen.2, hunseen.1⟩
    · show List.filter _ (rest ++ _) = _
      rw [List.filter_append, hrest]
      rfl
    · show List.filter _ (if s.attached then s.posts ++ _ else s.posts) = _
      rw [if_pos hattached, List.filter_append, hposts]
      rfl
  | idle | failed | posted | asked | answered | drawing => cases hworks

/-- The bitmap of the address waits in the same queues, and belongs to no stage. -/
theorem At.draw (h : At lib s stage) (drawn : Bool) : ∃ stage', At lib (s.draw drawn) stage' := by
  unfold ReceiveScreen.draw
  split
  · next address rest hexecutor =>
    refine ⟨stage, ⟨?_, ?_, h.1.2.2⟩, h.2⟩
    · rw [← h.1.1, hexecutor]
      rfl
    · rw [← h.1.2.1, List.filter_append]
      exact List.append_nil _
  · next paymentRequestStr rest hexecutor =>
    obtain ⟨hworks, hrest⟩ := h.1.works_eq rfl hexecutor
    cases stage with
    | drawing pr seen =>
      obtain rfl : lib.write pr = _ := Work.lightningQr.inj (List.cons.inj hworks).1
      refine ⟨.posted pr seen drawn, ⟨hrest, ?_, h.1.2.2⟩, h.2⟩
      rw [List.filter_append, h.1.2.1]
      rfl
    | idle | failed | posted | asked | answered | inserted => cases hworks
  · exact ⟨stage, h⟩

theorem At.setOnchainAddress (h : At lib s stage) (address : Option String) :
    At lib (s.setOnchainAddress address) stage := by
  refine ⟨⟨?_, h.1.2⟩, h.2⟩
  unfold ReceiveScreen.setOnchainAddress
  rw [← h.1.1]
  dsimp only
  split
  · split
    · rfl
    · rw [List.filter_append]
      exact List.append_nil _
  · rfl

/-! ### The posts -/

/-- The first post, if it is one of a generation, is the first one of its stage. -/
theorem Queued.posts_eq (h : Queued lib s stage) {p : Post} {posts : List Post}
    (hp : p.isLightning = true) (hposts : s.posts = p :: posts) :
    stage.posts lib = p :: posts.filter Post.isLightning := by
  rw [← h.2.1, hposts, List.filter_cons_of_pos hp]

theorem runPost_generated (s : ReceiveScreen) (paymentRequestStr : String) :
    s.runPost (.generated paymentRequestStr) = { s with
      maxReceivable := NodeSupervisor.getMaxReceivable s.node.activeChannelsMap
      excessiveLightningAmount := s.lightningAmount.any fun amount =>
        amount > NodeSupervisor.getMaxReceivable s.node.activeChannelsMap
      lightningDescriptionView :=
        if s.lightningDescription = s.prefs.paymentRequestDefaultDescription then none
        else some s.lightningDescription
      lightningAmountView := s.lightningAmount
      lightningPr := .request paymentRequestStr
      lightningSharePr := paymentRequestStr
      lightningQrListener := paymentRequestStr } := rfl

theorem Awaited.runPost_generated (h : Awaited lib s pr false) :
    Awaited lib (s.runPost (.generated (lib.write pr))) pr true := by
  obtain ⟨hlatest, hpublished, hqr, -⟩ := h
  rw [ReceiveScreen.runPost_generated]
  refine ⟨hlatest, hpublished, hqr, rfl, rfl, rfl, hpublished.2.2.2, ?_, ?_⟩
  · intro d hd
    dsimp only at hd
    split at hd
    · cases hd
    · obtain rfl := Option.some.inj hd
      exact hpublished.2.2.1
  · dsimp only
    rw [hpublished.2.2.2]

theorem runPost_lightningQr (s : ReceiveScreen) (paymentRequestStr : String) (drawn : Bool) :
    s.runPost (.lightningQr paymentRequestStr drawn) = { s with
      isGeneratingLightningPR := false
      lightningQr := if drawn then some paymentRequestStr else s.lightningQr } := by
  cases drawn <;> rfl

theorem Awaited.runPost_lightningQr (h : Awaited lib s pr true) (drawn : Bool) :
    Rests lib (s.runPost (.lightningQr (lib.write pr) drawn)) := by
  obtain ⟨hlatest, hpublished, hqr, hseen⟩ := h
  rw [ReceiveScreen.runPost_lightningQr]
  intro t _
  refine ⟨pr, hlatest, hpublished, hseen, ?_⟩
  dsimp only
  split
  · exact .inr rfl
  · exact .inl hqr

theorem runPost_failed (s : ReceiveScreen) : s.runPost .failed = { s with
      lightningPaymentRequest := none
      lightningPaymentHash := none
      lightningDescription := s.prefs.paymentRequestDefaultDescription
      lightningAmount := none
      lightningDescriptionView := none
      lightningAmountView := none
      lightningPr := .lightning_error
      lightningQr := none } := by
  unfold runPost failPaymentRequestFields resetPaymentRequestFields updateLightningDescriptionView
    updateLightningAmountView
  dsimp only
  rw [if_pos rfl]

theorem At.runPost_onchainQr (h : At lib s stage) (address : String) (drawn : Bool) :
    At lib (s.runPost (.onchainQr address drawn)) stage := by
  cases drawn with
  | false => exact h
  | true => exact h

theorem Queued.of_generated (h : Queued lib s stage) {paymentRequestStr : String}
    {posts : List Post} (hposts : s.posts = .generated paymentRequestStr :: posts) :
    ∃ pr, paymentRequestStr = lib.write pr ∧
      ((stage = .drawing pr false ∧ posts.filter Post.isLightning = []) ∨
        ∃ drawn, stage = .posted pr false drawn ∧
          posts.filter Post.isLightning = [.lightningQr (lib.write pr) drawn]) := by
  have hstage := h.posts_eq rfl hposts
  cases stage with
  | drawing pr seen =>
    cases seen with
    | true => cases hstage
    | false =>
      obtain ⟨htext, hrest⟩ := List.cons.inj hstage
      exact ⟨pr, (Post.generated.inj htext).symm, .inl ⟨rfl, hrest.symm⟩⟩
  | posted pr seen drawn =>
    cases seen with
    | true => cases hstage
    | false =>
      obtain ⟨htext, hrest⟩ := List.cons.inj hstage
      exact ⟨pr, (Post.generated.inj htext).symm, .inr ⟨drawn, rfl, hrest.symm⟩⟩
  | idle | failed | asked | answered | inserted => cases hstage

theorem Queued.of_lightningQr (h : Queued lib s stage) {paymentRequestStr : String} {drawn : Bool}
    {posts : List Post} (hposts : s.posts = .lightningQr paymentRequestStr drawn :: posts) :
    ∃ pr, paymentRequestStr = lib.write pr ∧ stage = .posted pr true drawn ∧
      posts.filter Post.isLightning = [] := by
  have hstage := h.posts_eq rfl hposts
  cases stage with
  | posted pr seen drawn' =>
    cases seen with
    | false => cases hstage
    | true =>
      obtain ⟨htext, hrest⟩ := List.cons.inj hstage
      obtain ⟨rfl, rfl⟩ := Post.lightningQr.inj htext
      exact ⟨pr, rfl, rfl, hrest.symm⟩
  | drawing pr seen => cases seen <;> cases hstage
  | idle | failed | asked | answered | inserted => cases hstage

theorem Queued.of_failed (h : Queued lib s stage) {posts : List Post}
    (hposts : s.posts = .failed :: posts) :
    stage = .failed ∧ posts.filter Post.isLightning = [] := by
  have hstage := h.posts_eq rfl hposts
  cases stage with
  | failed => exact ⟨rfl, (List.cons.inj hstage).2.symm⟩
  | drawing pr seen => cases seen <;> cases hstage
  | posted pr seen drawn => cases seen <;> cases hstage
  | idle | asked | answered | inserted => cases hstage

theorem At.post (h : At lib s stage) : ∃ stage', At lib s.post stage' := by
  unfold ReceiveScreen.post
  split
  · next p posts hposts =>
    cases p with
    | onchainQr address drawn =>
      have h1 : At lib { s with posts } stage := by
        refine ⟨⟨h.1.1, ?_, h.1.2.2⟩, h.2⟩
        rw [← h.1.2.1, hposts]
        rfl
      exact ⟨stage, h1.runPost_onchainQr address drawn⟩
    | failed =>
      obtain ⟨rfl, hrest⟩ := h.1.of_failed hposts
      refine ⟨.idle, ?_⟩
      rw [ReceiveScreen.runPost_failed]
      refine ⟨⟨h.1.1, hrest, h.1.2.2⟩, ?_⟩
      intro t ht
      cases ht
    | generated paymentRequestStr =>
      obtain ⟨pr, rfl, ⟨rfl, hrest⟩ | ⟨drawn, rfl, hrest⟩⟩ := h.1.of_generated hposts
      · have hawaited : Awaited lib { s with posts } pr false := h.2
        refine ⟨.drawing pr true, ?_, hawaited.runPost_generated⟩
        rw [ReceiveScreen.runPost_generated]
        exact ⟨h.1.1, hrest, h.1.2.2⟩
      · have hawaited : Awaited lib { s with posts } pr false := h.2
        refine ⟨.posted pr true drawn, ?_, hawaited.runPost_generated⟩
        rw [ReceiveScreen.runPost_generated]
        exact ⟨h.1.1, hrest, h.1.2.2⟩
    | lightningQr paymentRequestStr drawn =>
      obtain ⟨pr, rfl, rfl, hrest⟩ := h.1.of_lightningQr hposts
      have hawaited : Awaited lib { s with posts } pr true := h.2
      refine ⟨.idle, ?_, hawaited.runPost_lightningQr drawn⟩
      rw [ReceiveScreen.runPost_lightningQr]
      exact ⟨h.1.1, hrest, rfl⟩
  · exact ⟨stage, h⟩

end Stages

end ReceiveScreen

end EclairMobile
