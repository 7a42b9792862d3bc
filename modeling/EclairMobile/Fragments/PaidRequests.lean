import EclairMobile.Fragments.ReceiveRuns

/-!
# A request that was paid

A refresh that finds the request on the screen paid asks for another one.  The node answers with a
hash that has no row, so the paid request does not come back, whatever is done with the screen.
-/

namespace EclairMobile

namespace ReceiveScreen

open Lib

variable {lib : ReceiveLibraries}

/-! ### Paid and gone -/

/-- A request of another hash. -/
def Other (lib : ReceiveLibraries) (hash : String) (t : String) : Prop :=
  ∃ pr, t = lib.write pr ∧ pr.paymentHash ≠ hash

/-- A generation whose request has another hash, or none yet. -/
def Work.Passes (hash : String) : Work → Prop
  | .generate (.answered pr) | .generate (.inserted pr) => pr.paymentHash ≠ hash
  | _ => True

/-- The hash is paid, and no request of it is on the screen or on its way there. -/
structure Gone (lib : ReceiveLibraries) (hash : String) (s : ReceiveScreen) : Prop where
  paid : PaidRuns.Paid hash s.node
  works : ∀ w ∈ s.executor, w.Passes hash
  posts : ∀ t, Post.generated t ∈ s.posts → Other lib hash t
  shown : ∀ t, s.lightningPr = .request t → Other lib hash t
  field : s.lightningPaymentHash ≠ some hash

/-- The request of a hash is paid, and another one can be asked for. -/
def Replaceable (s : ReceiveScreen) (hash : String) : Prop :=
  s.isGeneratingLightningPR = false ∧ s.prefs.enableLightningInboundPayments = true ∧
    s.node.activeChannelsMap.entries.isEmpty = false ∧ s.lightningPaymentHash = some hash ∧
    PaidRuns.Paid hash s.node

instance (s : ReceiveScreen) (hash : String) : Decidable (s.Replaceable hash) :=
  inferInstanceAs (Decidable (_ ∧ _ ∧ _ ∧ _ ∧ _))

/-- The events that refresh the Lightning pane: it is in front, or it is picked. -/
def Refreshes (s : ReceiveScreen) : Event → Prop
  | .resume _ _ | .notifyChannelsUpdate => s.paymentType = 1
  | .pickLightning => True
  | _ => False

section Gone

variable {s s' : ReceiveScreen} {hash : String}

theorem Gone.generatePaymentRequest (h : Gone lib hash s) :
    Gone lib hash s.generatePaymentRequest := by
  unfold ReceiveScreen.generatePaymentRequest
  split
  · refine ⟨h.paid, ?_, h.posts, fun t ht => ?_, h.field⟩
    · intro w hw
      rcases List.mem_append.mp hw with hold | hnew
      · exact h.works w hold
      · rw [List.mem_singleton.mp hnew]
        trivial
    · cases ht
  · exact h

theorem Gone.refreshLightningPaneState (h : Gone lib hash s) :
    Gone lib hash s.refreshLightningPaneState := by
  unfold ReceiveScreen.refreshLightningPaneState
  split
  · dsimp only
    split
    · apply Gone.generatePaymentRequest
      refine ⟨h.paid, h.works, h.posts, h.shown, fun heq => ?_⟩
      cases heq
    · exact ⟨h.paid, h.works, h.posts, h.shown, h.field⟩
  · exact h

theorem Gone.setOnchainAddress (h : Gone lib hash s) (address : Option String) :
    Gone lib hash (s.setOnchainAddress address) := by
  refine ⟨h.paid, ?_, h.posts, h.shown, h.field⟩
  unfold ReceiveScreen.setOnchainAddress
  dsimp only
  split
  · split
    · exact h.works
    · intro w hw
      rcases List.mem_append.mp hw with hold | hnew
      · exact h.works w hold
      · rw [List.mem_singleton.mp hnew]
        trivial
  · exact h.works

theorem Gone.caught (h : Gone lib hash s) {rest : List Work}
    (hrest : ∀ w ∈ rest, w.Passes hash) : Gone lib hash (s.caught rest) := by
  refine ⟨h.paid, hrest, fun t ht => ?_, h.shown, h.field⟩
  unfold ReceiveScreen.caught at ht
  dsimp only at ht
  split at ht
  · rcases List.mem_append.mp ht with hold | hnew
    · exact h.posts t hold
    · cases List.mem_singleton.mp hnew
  · exact h.posts t ht

/-- The node answers with a hash that has no row, so not with the paid one. -/
theorem Gone.ask (h : Gone lib hash s) {answer : Option PaymentRequest}
    (hanswer : ∀ pr ∈ answer, s.Answers pr) : Gone lib hash (s.ask answer) := by
  unfold ReceiveScreen.ask
  split
  · next rest hexecutor =>
    have hworks := h.works
    rw [hexecutor] at hworks
    obtain ⟨-, hrest⟩ := List.forall_mem_cons.mp hworks
    split
    · next pr =>
      split
      · refine ⟨h.paid, List.forall_mem_cons.mpr ⟨?_, hrest⟩, h.posts, h.shown, h.field⟩
        intro heq
        have hfresh := (hanswer pr rfl).2.2
        have hpaid := h.paid
        unfold PaidRuns.Paid at hpaid
        rw [heq, hpaid] at hfresh
        cases hfresh
      · exact h.caught hrest
    · exact h.caught hrest
  · exact h

theorem Gone.insert (h : Gone lib hash s) (now : Date) (throws : Bool) :
    Gone lib hash (s.insert lib now throws) := by
  unfold ReceiveScreen.insert
  split
  · next pr rest hexecutor =>
    have hworks := h.works
    rw [hexecutor] at hworks
    obtain ⟨hne, hrest⟩ := List.forall_mem_cons.mp hworks
    split
    · exact ⟨h.paid, List.forall_mem_cons.mpr ⟨hne, hrest⟩, h.posts, h.shown, h.field⟩
    · split
      · exact h.caught hrest
      · refine ⟨?_, List.forall_mem_cons.mpr ⟨hne, hrest⟩, h.posts, h.shown, h.field⟩
        show DBHelper.lnStatus _ hash = _
        rw [ReceivePaymentFragment.lnStatus_generatePaymentRequest, if_neg (Ne.symm hne)]
        exact h.paid
  · exact h

theorem Gone.publish (h : Gone lib hash s) : Gone lib hash (s.publish lib) := by
  unfold ReceiveScreen.publish
  split
  · next pr rest hexecutor =>
    have hworks := h.works
    rw [hexecutor] at hworks
    obtain ⟨hne, hrest⟩ := List.forall_mem_cons.mp hworks
    refine ⟨h.paid, ?_, fun t ht => ?_, h.shown, fun heq => hne (Option.some.inj heq)⟩
    · intro w hw
      rcases List.mem_append.mp hw with hold | hnew
      · exact hrest w hold
      · rw [List.mem_singleton.mp hnew]
        trivial
    · dsimp only at ht
      split at ht
      · rcases List.mem_append.mp ht with hold | hnew
        · exact h.posts t hold
        · exact ⟨pr, Post.generated.inj (List.mem_singleton.mp hnew), hne⟩
      · exact h.posts t ht
  · exact h

/-- The executor is done with a bitmap, which is posted. -/
theorem Gone.drawn (h : Gone lib hash s) {w : Work} {rest : List Work}
    (hexecutor : s.executor = w :: rest) {p : Post} (hp : ∀ t, p ≠ .generated t) :
    Gone lib hash { s with executor := rest, posts := s.posts ++ [p] } := by
  have hworks := h.works
  rw [hexecutor] at hworks
  refine ⟨h.paid, (List.forall_mem_cons.mp hworks).2, fun t ht => ?_, h.shown, h.field⟩
  rcases List.mem_append.mp ht with hold | hnew
  · exact h.posts t hold
  · exact absurd (List.mem_singleton.mp hnew).symm (hp t)

theorem Gone.draw (h : Gone lib hash s) (drawn : Bool) : Gone lib hash (s.draw drawn) := by
  unfold ReceiveScreen.draw
  split
  · next address rest hexecutor => exact h.drawn hexecutor nofun
  · next paymentRequestStr rest hexecutor => exact h.drawn hexecutor nofun
  · exact h

theorem Gone.post (h : Gone lib hash s) : Gone lib hash s.post := by
  unfold ReceiveScreen.post
  split
  · next p posts hposts =>
    have hrest : ∀ t, Post.generated t ∈ posts → Other lib hash t := by
      intro t ht
      apply h.posts
      rw [hposts]
      exact List.mem_cons_of_mem _ ht
    cases p with
    | generated paymentRequestStr =>
      have hfirst : Other lib hash paymentRequestStr := by
        apply h.posts
        rw [hposts]
        exact List.mem_cons_self
      rw [runPost_generated]
      refine ⟨h.paid, h.works, hrest, fun t ht => ?_, h.field⟩
      obtain rfl := PrText.request.inj ht
      exact hfirst
    | failed =>
      rw [runPost_failed]
      refine ⟨h.paid, h.works, hrest, fun t ht => ?_, fun heq => ?_⟩
      · cases ht
      · cases heq
    | onchainQr address drawn =>
      cases drawn with
      | false => exact ⟨h.paid, h.works, hrest, h.shown, h.field⟩
      | true => exact ⟨h.paid, h.works, hrest, h.shown, h.field⟩
    | lightningQr paymentRequestStr drawn =>
      rw [runPost_lightningQr]
      exact ⟨h.paid, h.works, hrest, h.shown, h.field⟩
  · exact h

theorem Gone.onConfirm (h : Gone lib hash s) (description : String) (amount : Option ℤ) :
    Gone lib hash (s.onConfirm description amount) := by
  unfold ReceiveScreen.onConfirm
  apply Gone.generatePaymentRequest
  exact ⟨h.paid, h.works, h.posts, h.shown, h.field⟩

theorem Gone.confirm (h : Gone lib hash s) : Gone lib hash (s.confirm lib) := by
  unfold ReceiveScreen.confirm
  split
  · next dialog hdialog =>
    have h1 : Gone lib hash { s with mPRParamsDialog := some (dialog.confirm lib).1 } :=
      ⟨h.paid, h.works, h.posts, h.shown, h.field⟩
    dsimp only
    split
    · exact h1.onConfirm _ _
    · exact h1
  · exact h

theorem Gone.onResume (h : Gone lib hash s) (sticky : Option String)
    (electrumState : Option App.ElectrumState) :
    Gone lib hash (s.onResume sticky electrumState) := by
  have h1 : Gone lib hash { s with attached := true, resumed := true } :=
    ⟨h.paid, h.works, h.posts, h.shown, h.field⟩
  apply onResume_of_refreshed (P := Gone lib hash) fun _ address h => h.setOnchainAddress address
  apply Gone.refreshLightningPaneState
  cases sticky with
  | none => exact h1
  | some address => exact h1.setOnchainAddress address

theorem Gone.other (h : Gone lib hash s) (action : PaidRuns.Action) :
    Gone lib hash { s with node := (PaidRuns.step s.node action).getD s.node } := by
  refine ⟨?_, h.works, h.posts, h.shown, h.field⟩
  cases hstep : PaidRuns.step s.node action with
  | none => exact h.paid
  | some node => exact h.paid.step hstep

theorem Gone.next {e : Event} (h : Gone lib hash s) (hs : step lib s e = some s') :
    Gone lib hash s' := by
  unfold ReceiveScreen.step at hs
  split at hs
  · next hen =>
    obtain rfl := Option.some.inj hs
    cases e with
    | resume sticky electrumState => exact h.onResume sticky electrumState
    | handleNewWalletAddress address => exact h.setOnchainAddress address
    | pickLightning =>
      apply Gone.refreshLightningPaneState
      exact ⟨h.paid, h.works, h.posts, h.shown, h.field⟩
    | notifyChannelsUpdate => exact h.refreshLightningPaneState
    | editPr =>
      show Gone lib hash (s.editPr lib)
      unfold ReceiveScreen.editPr
      split
      · exact ⟨h.paid, h.works, h.posts, h.shown, h.field⟩
      · exact h
    | confirm => exact h.confirm
    | other action => exact h.other action
    | ask answer =>
      apply h.ask
      intro pr hpr
      have hall := hen.2
      rw [Option.mem_def.mp hpr] at hall
      exact of_decide_eq_true hall
    | insert now throws => exact h.insert now throws
    | publish => exact h.publish
    | draw drawn => exact h.draw drawn
    | post => exact h.post
    | pause | detach | pickOnchain | typeDescription | typeAmount | cancel | setPrefs =>
      exact ⟨h.paid, h.works, h.posts, h.shown, h.field⟩
  · cases hs

theorem At.gone_refreshLightningPaneState {stage : Stage} (h : At lib s stage)
    (hreplaceable : s.Replaceable hash) (htype : s.paymentType = 1)
    (hattached : s.attached = true) : Gone lib hash s.refreshLightningPaneState := by
  obtain ⟨hidle, hprefs, hchannels, hhash, hpaid⟩ := hreplaceable
  obtain ⟨⟨hworks, hposts, hflag⟩, -⟩ := h
  rw [hidle] at hflag
  have hnoWork : ∀ w ∈ s.executor, w.Passes hash := by
    intro w hw
    cases w with
    | generate pc =>
      have hmem : _ ∈ s.executor.filter Work.isLightning := List.mem_filter.mpr ⟨hw, rfl⟩
      rw [hworks] at hmem
      cases stage with
      | idle | failed => cases hmem
      | _ => cases hflag
    | onchainQr | lightningQr => trivial
  have hnoPost : ∀ t, Post.generated t ∉ s.posts := by
    intro t ht
    have hmem : _ ∈ s.posts.filter Post.isLightning := List.mem_filter.mpr ⟨ht, rfl⟩
    rw [hposts] at hmem
    cases stage with
    | idle => cases hmem
    | failed => cases List.mem_singleton.mp hmem
    | _ => cases hflag
  have hcurrent : s.isCurrentPaymentRequestPaid = true := by
    obtain ⟨p, hp, hstatus⟩ := DBHelper.lnStatus_eq_some_iff.mp hpaid
    unfold isCurrentPaymentRequestPaid
    rw [hhash]
    simp [hp, hstatus]
  unfold ReceiveScreen.refreshLightningPaneState
  rw [if_pos ⟨htype, hattached⟩]
  dsimp only
  rw [if_pos ⟨hchannels, hprefs, hidle, .inr hcurrent⟩]
  unfold ReceiveScreen.generatePaymentRequest
  rw [if_pos ⟨hprefs, hidle⟩]
  refine ⟨hpaid, ?_, fun t ht => absurd ht (hnoPost t), fun t ht => ?_, fun heq => ?_⟩
  · intro w hw
    rcases List.mem_append.mp hw with hold | hnew
    · exact hnoWork w hold
    · rw [List.mem_singleton.mp hnew]
      trivial
  · cases ht
  · cases heq

/-- A screen that comes to the front registers for new addresses before it refreshes. -/
theorem At.gone_onResume {stage : Stage} (h : At lib s stage) (hreplaceable : s.Replaceable hash)
    (htype : s.paymentType = 1) (sticky : Option String)
    (electrumState : Option App.ElectrumState) :
    Gone lib hash (s.onResume sticky electrumState) := by
  have h1 : At lib { s with attached := true, resumed := true } stage := h
  apply onResume_of_refreshed (P := Gone lib hash) fun _ address h => h.setOnchainAddress address
  cases sticky with
  | none => exact h1.gone_refreshLightningPaneState hreplaceable htype rfl
  | some address =>
    exact (h1.setOnchainAddress address).gone_refreshLightningPaneState hreplaceable htype rfl

/-- Whichever event refreshes the pane, a request that is paid is taken away. -/
theorem Sound.gone_of_step {e : Event} (h : Sound lib s) (hreplaceable : s.Replaceable hash)
    (hrefreshes : s.Refreshes e) (hs : ReceiveScreen.step lib s e = some s') :
    Gone lib hash s' := by
  obtain ⟨stage, hat⟩ := h.1.stage
  unfold ReceiveScreen.step at hs
  split at hs
  · next hen =>
    obtain rfl := Option.some.inj hs
    cases e with
    | resume sticky electrumState =>
      exact hat.gone_onResume hreplaceable hrefreshes sticky electrumState
    | notifyChannelsUpdate =>
      exact hat.gone_refreshLightningPaneState hreplaceable hrefreshes hen
    | pickLightning =>
      have hpicked : At lib { s with paymentType := 1 } stage := hat
      have hresumed : s.resumed = true := (Bool.and_eq_true_iff.mp hen).1
      exact hpicked.gone_refreshLightningPaneState hreplaceable rfl
        (h.1.attached_of_resumed hresumed)
    | _ => exact hrefreshes.elim
  · cases hs

end Gone

namespace KnownRun

/-- The edited request is paid while the screen is away. -/
def pays : List Event :=
  opens ++ generates first ++ edits ++ generates second ++
    [.pause, .other (.node (.paymentReceived "22" 5000) 6)]

/-- The screen comes back, with an address that was announced meanwhile. -/
def returns : Event := .resume (some "bc1q") none

def third : PaymentRequest := ⟨"33", "02ab", .inl "", none, none, []⟩

theorem run_pays : (run (step known) start pays).map (fun s =>
    (decide (s.paymentType = 1), decide (s.Replaceable "22"), (step known s returns).map fun s₁ =>
      (run (step known) s₁ (.draw true :: .post :: generates third)).map (·.lightningPr))) =
    some (true, true, some (some (.request "lnbc33"))) := by
  decide +kernel

end KnownRun

end ReceiveScreen

end EclairMobile
