import EclairMobile.Fragments.ReceiveStages
import EclairMobile.Lib.Reach

/-!
# Requests on the screen and in the database

In every run in which nothing starts behind a failure that is still posted, no edit is confirmed and
no pager takes the fragment away while a generation is under way: what the screen offers is in the
database, and the request that is displayed is the one that was asked for, in all its views.
-/

namespace EclairMobile

namespace ReceiveScreen

open Lib NodeSupervisor

variable {lib : ReceiveLibraries}

/-! ### The invariant -/

/-- The requests that can be taken from the screen: by eye, by a scan, with the share button, or by
a touch of the bitmap. -/
def offered (s : ReceiveScreen) : List String :=
  (match s.lightningPr with
    | .request paymentRequestStr => [paymentRequestStr]
    | .lightning_wait | .lightning_error => []) ++
    s.lightningQr.toList ++ s.lightningSharePr.toList ++ s.lightningQrListener.toList

/-- The fields that generations leave alone, but for the request that is inserted. -/
def frame (s : ReceiveScreen) :=
  (s.attached, s.resumed, s.prefs, s.paymentType, s.node, s.recorded)

/-- The invariant of the requests. -/
structure Core (lib : ReceiveLibraries) (s : ReceiveScreen) : Prop where
  attached_of_resumed : s.resumed = true → s.attached = true
  attached_of_busy : s.isGeneratingLightningPR = true → s.attached = true
  recorded : ∀ pr ∈ s.recorded, Recorded lib s.node.dbHelper pr
  offered : ∀ t ∈ s.offered, ∃ pr ∈ s.recorded, t = lib.write pr
  stage : ∃ stage, At lib s stage

/-- An edit is under way only where requests can be generated. -/
def Edits (s : ReceiveScreen) : Prop :=
  s.showsDialog = true → s.resumed = true ∧ s.paymentType = 1 ∧
    s.prefs.enableLightningInboundPayments = true

/-- The pane of a screen in front follows the preference. -/
def Follows (s : ReceiveScreen) : Prop :=
  s.resumed = true → s.paymentType = 1 →
    s.isLightningInboundEnabled = s.prefs.enableLightningInboundPayments

/-- The invariant. -/
def Sound (lib : ReceiveLibraries) (s : ReceiveScreen) : Prop := Core lib s ∧ s.Edits ∧ s.Follows

section Invariant

variable {s s' : ReceiveScreen}

theorem offered_generatePaymentRequest (s : ReceiveScreen) :
    ∀ t ∈ s.generatePaymentRequest.offered, t ∈ s.offered := by
  unfold ReceiveScreen.generatePaymentRequest
  split
  · intro t ht
    unfold offered loadingPaymentRequestFields at ht
    unfold offered
    simp only [List.nil_append, Option.toList_none, List.append_assoc, List.mem_append] at ht ⊢
    exact .inr (.inr ht)
  · exact fun t ht => ht

theorem offered_resetPaymentRequestFields (s : ReceiveScreen) :
    ∀ t ∈ s.resetPaymentRequestFields.offered, t ∈ s.offered := by
  intro t ht
  unfold offered resetPaymentRequestFields updateLightningDescriptionView
    updateLightningAmountView at ht
  unfold offered
  simp only [Option.toList_none, List.append_nil, List.append_assoc, List.mem_append] at ht ⊢
  rcases ht with ht | ht
  · exact .inl ht
  · exact .inr (.inr ht)

theorem frame_generatePaymentRequest (s : ReceiveScreen) :
    s.generatePaymentRequest.frame = s.frame := by
  unfold ReceiveScreen.generatePaymentRequest
  split
  · rfl
  · rfl

theorem frame_refreshLightningPaneState (s : ReceiveScreen) :
    s.refreshLightningPaneState.frame = s.frame := by
  unfold ReceiveScreen.refreshLightningPaneState
  split
  · dsimp only
    split
    · rw [frame_generatePaymentRequest]
      rfl
    · rfl
  · rfl

theorem offered_refreshLightningPaneState (s : ReceiveScreen) :
    ∀ t ∈ s.refreshLightningPaneState.offered, t ∈ s.offered := by
  unfold ReceiveScreen.refreshLightningPaneState
  split
  · dsimp only
    split
    · intro t ht
      have hreset := offered_generatePaymentRequest _ t ht
      have hchecked := offered_resetPaymentRequestFields _ t hreset
      exact hchecked
    · exact fun t ht => ht
  · exact fun t ht => ht

theorem busy_refreshLightningPaneState (s : ReceiveScreen) :
    s.refreshLightningPaneState.isGeneratingLightningPR = true →
      s.isGeneratingLightningPR = true ∨ s.attached = true := by
  unfold ReceiveScreen.refreshLightningPaneState
  split
  · next hpane => exact fun _ => .inr hpane.2
  · exact fun hbusy => .inl hbusy

/-- Where the frame stays and nothing new is offered, only the stage has to be followed. -/
theorem Core.of_frame (h : Core lib s) (hframe : s'.frame = s.frame)
    (hbusy : s'.isGeneratingLightningPR = true → s.attached = true)
    (hoffered : ∀ t ∈ s'.offered, t ∈ s.offered) (hstage : ∃ stage, At lib s' stage) :
    Core lib s' := by
  simp only [frame, Prod.mk.injEq] at hframe
  obtain ⟨hattached, hresumed, -, -, hnode, hrecorded⟩ := hframe
  refine ⟨?_, ?_, ?_, ?_, hstage⟩
  · rw [hattached, hresumed]
    exact h.attached_of_resumed
  · rw [hattached]
    exact hbusy
  · rw [hnode, hrecorded]
    exact h.recorded
  · intro t ht
    rw [hrecorded]
    exact h.offered t (hoffered t ht)

theorem Edits.of_frame (h : s.Edits) (hframe : s'.frame = s.frame)
    (hshows : s'.showsDialog = true → s.showsDialog = true) : s'.Edits := by
  simp only [frame, Prod.mk.injEq] at hframe
  obtain ⟨-, hresumed, hprefs, htype, -⟩ := hframe
  unfold Edits
  rw [hresumed, hprefs, htype]
  exact fun hs => h (hshows hs)

theorem Follows.of_frame (h : s.Follows) (hframe : s'.frame = s.frame)
    (henabled : s'.isLightningInboundEnabled = s.isLightningInboundEnabled) : s'.Follows := by
  simp only [frame, Prod.mk.injEq] at hframe
  obtain ⟨-, hresumed, hprefs, htype, -⟩ := hframe
  unfold Follows
  rw [hresumed, hprefs, htype, henabled]
  exact h

theorem Core.refreshLightningPaneState (h : Core lib s) (hfailed : Post.failed ∉ s.posts) :
    Core lib s.refreshLightningPaneState := by
  apply h.of_frame (frame_refreshLightningPaneState s)
  · intro hbusy
    rcases busy_refreshLightningPaneState s hbusy with hbusy | hattached
    · exact h.attached_of_busy hbusy
    · exact hattached
  · exact offered_refreshLightningPaneState s
  · obtain ⟨stage, hat⟩ := h.stage
    rcases hat.refreshLightningPaneState hfailed with hat | hat
    · exact ⟨stage, hat⟩
    · exact ⟨.asked, hat⟩

theorem follows_refreshLightningPaneState (h : s.resumed = true → s.attached = true) :
    s.refreshLightningPaneState.Follows := by
  have hframe := frame_refreshLightningPaneState s
  simp only [frame, Prod.mk.injEq] at hframe
  obtain ⟨-, hresumed, hprefs, htype, -⟩ := hframe
  intro hres hone
  rw [hresumed] at hres
  rw [htype] at hone
  rw [hprefs]
  unfold ReceiveScreen.refreshLightningPaneState
  rw [if_pos ⟨hone, h hres⟩]
  dsimp only
  split
  · unfold ReceiveScreen.generatePaymentRequest
    split
    · rfl
    · rfl
  · rfl

/-! ### One step -/

/-- What a run is asked: nothing starts behind a failure that is posted, no edit is confirmed and
the fragment stays while a generation is under way. -/
def Careful (s : ReceiveScreen) : Event → Prop
  | .resume _ _ | .pickLightning | .notifyChannelsUpdate => Post.failed ∉ s.posts
  | .confirm => Post.failed ∉ s.posts ∧ s.isGeneratingLightningPR = false
  | .detach => s.isGeneratingLightningPR = false
  | _ => True

instance (s : ReceiveScreen) : DecidablePred (Careful s)
  | .resume _ _ | .pickLightning | .notifyChannelsUpdate => inferInstanceAs (Decidable (¬ _))
  | .confirm => inferInstanceAs (Decidable (_ ∧ _))
  | .detach => inferInstanceAs (Decidable (_ = _))
  | .pause | .handleNewWalletAddress _ | .pickOnchain | .editPr | .typeDescription _
  | .typeAmount _ | .cancel | .setPrefs _ | .other _ | .ask _ | .insert _ _ | .publish | .draw _
  | .post => inferInstanceAs (Decidable True)

theorem Core.setOnchainAddress (h : Core lib s) (address : Option String) :
    Core lib (s.setOnchainAddress address) := by
  obtain ⟨stage, hat⟩ := h.stage
  exact ⟨h.attached_of_resumed, h.attached_of_busy, h.recorded, h.offered,
    stage, hat.setOnchainAddress address⟩

theorem Core.onConfirm (h : Core lib s) (hattached : s.attached = true)
    (hprefs : s.prefs.enableLightningInboundPayments = true) (hfailed : Post.failed ∉ s.posts)
    (hidle : s.isGeneratingLightningPR = false) (description : String) (amount : Option ℤ) :
    Core lib (s.onConfirm description amount) := by
  obtain ⟨stage, hat⟩ := h.stage
  obtain rfl := hat.1.eq_idle hidle hfailed
  unfold ReceiveScreen.onConfirm
  apply h.of_frame
  · rw [frame_generatePaymentRequest]
    rfl
  · exact fun _ => hattached
  · intro t ht
    have hold := offered_generatePaymentRequest _ t ht
    exact hold
  · refine ⟨.asked, ?_⟩
    apply Queued.generatePaymentRequest
    · exact hat.1
    · exact hprefs

theorem dialog_generatePaymentRequest (s : ReceiveScreen) :
    s.generatePaymentRequest.mPRParamsDialog = s.mPRParamsDialog := by
  unfold ReceiveScreen.generatePaymentRequest
  split
  · rfl
  · rfl

theorem dialog_onConfirm (s : ReceiveScreen) (description : String) (amount : Option ℤ) :
    (s.onConfirm description amount).mPRParamsDialog =
      s.mPRParamsDialog.map fun dialog => { dialog with showing := false } := by
  unfold ReceiveScreen.onConfirm
  rw [dialog_generatePaymentRequest]

theorem dialog_refreshLightningPaneState (s : ReceiveScreen) :
    s.refreshLightningPaneState.mPRParamsDialog = s.mPRParamsDialog := by
  unfold ReceiveScreen.refreshLightningPaneState
  split
  · dsimp only
    split
    · rw [dialog_generatePaymentRequest]
      rfl
    · rfl
  · rfl

theorem Edits.of_dismissed {dialog : Option PaymentRequestParametersDialog}
    (h : s.mPRParamsDialog = dialog.map fun dialog => { dialog with showing := false }) :
    s.Edits := by
  intro hshows
  unfold showsDialog at hshows
  rw [h] at hshows
  cases dialog with
  | none => cases hshows
  | some dialog => cases hshows

theorem Sound.onDialog (h : Sound lib s)
    {f : PaymentRequestParametersDialog → PaymentRequestParametersDialog}
    (hf : ∀ dialog, (f dialog).showing = true → dialog.showing = true) :
    Sound lib (s.onDialog f) := by
  obtain ⟨hcore, hedits, hfollows⟩ := h
  obtain ⟨stage, hat⟩ := hcore.stage
  refine ⟨⟨hcore.attached_of_resumed, hcore.attached_of_busy, hcore.recorded, hcore.offered,
    stage, hat⟩, ?_, hfollows⟩
  intro hshows
  apply hedits
  unfold showsDialog ReceiveScreen.onDialog at hshows
  unfold showsDialog
  dsimp only at hshows
  rw [Option.any_map, Option.any_eq_true] at hshows
  obtain ⟨dialog, hdialog, hshowing⟩ := hshows
  rw [hdialog]
  exact hf dialog hshowing

theorem showing_setAmount (lib : ReceiveLibraries) (dialog : PaymentRequestParametersDialog)
    (amount : String) : (dialog.setAmount lib amount).showing = dialog.showing := by
  unfold PaymentRequestParametersDialog.setAmount PaymentRequestParametersDialog.extractAmount
  dsimp only
  split
  · rfl
  · split
    · rfl
    · split
      · rfl
      · rfl

/-- A step of the executor that inserts nothing, or a post, keeps the frame, the preference that is
shown and the dialog. -/
def Passes (s s' : ReceiveScreen) : Prop :=
  s'.frame = s.frame ∧ s'.isLightningInboundEnabled = s.isLightningInboundEnabled ∧
    s'.mPRParamsDialog = s.mPRParamsDialog ∧
    (s'.isGeneratingLightningPR = true → s.isGeneratingLightningPR = true)

theorem passes_ask (s : ReceiveScreen) (answer : Option PaymentRequest) :
    Passes s (s.ask answer) ∧ (s.ask answer).offered = s.offered := by
  unfold ReceiveScreen.ask
  split
  · split
    · split
      · exact ⟨⟨rfl, rfl, rfl, id⟩, rfl⟩
      · exact ⟨⟨rfl, rfl, rfl, fun h => by cases h⟩, rfl⟩
    · exact ⟨⟨rfl, rfl, rfl, fun h => by cases h⟩, rfl⟩
  · exact ⟨⟨rfl, rfl, rfl, id⟩, rfl⟩

theorem passes_publish (lib : ReceiveLibraries) (s : ReceiveScreen) :
    Passes s (s.publish lib) ∧ (s.publish lib).offered = s.offered := by
  unfold ReceiveScreen.publish
  split
  · exact ⟨⟨rfl, rfl, rfl, id⟩, rfl⟩
  · exact ⟨⟨rfl, rfl, rfl, id⟩, rfl⟩

theorem passes_draw (s : ReceiveScreen) (drawn : Bool) :
    Passes s (s.draw drawn) ∧ (s.draw drawn).offered = s.offered := by
  unfold ReceiveScreen.draw
  split
  · exact ⟨⟨rfl, rfl, rfl, id⟩, rfl⟩
  · exact ⟨⟨rfl, rfl, rfl, id⟩, rfl⟩
  · exact ⟨⟨rfl, rfl, rfl, id⟩, rfl⟩

theorem passes_post (s : ReceiveScreen) : Passes s s.post := by
  unfold ReceiveScreen.post
  split
  · next p posts _ =>
    cases p with
    | generated paymentRequestStr =>
      rw [ReceiveScreen.runPost_generated]
      exact ⟨rfl, rfl, rfl, id⟩
    | failed =>
      rw [ReceiveScreen.runPost_failed]
      exact ⟨rfl, rfl, rfl, id⟩
    | onchainQr address drawn =>
      cases drawn with
      | false => exact ⟨rfl, rfl, rfl, id⟩
      | true => exact ⟨rfl, rfl, rfl, id⟩
    | lightningQr paymentRequestStr drawn =>
      rw [ReceiveScreen.runPost_lightningQr]
      exact ⟨rfl, rfl, rfl, fun h => by cases h⟩
  · exact ⟨rfl, rfl, rfl, id⟩

theorem Sound.of_passes (h : Sound lib s) (hpasses : Passes s s')
    (hoffered : ∀ t ∈ s'.offered, t ∈ s.offered ∨ ∃ pr ∈ s.recorded, t = lib.write pr)
    (hstage : ∃ stage, At lib s' stage) : Sound lib s' := by
  obtain ⟨hcore, hedits, hfollows⟩ := h
  obtain ⟨hframe, henabled, hdialog, hbusy⟩ := hpasses
  refine ⟨?_, hedits.of_frame hframe ?_, hfollows.of_frame hframe henabled⟩
  · simp only [frame, Prod.mk.injEq] at hframe
    obtain ⟨hattached, hresumed, -, -, hnode, hrecorded⟩ := hframe
    refine ⟨?_, ?_, ?_, ?_, hstage⟩
    · rw [hattached, hresumed]
      exact hcore.attached_of_resumed
    · rw [hattached]
      exact fun hb => hcore.attached_of_busy (hbusy hb)
    · rw [hnode, hrecorded]
      exact hcore.recorded
    · intro t ht
      rw [hrecorded]
      rcases hoffered t ht with hold | hnew
      · exact hcore.offered t hold
      · exact hnew
  · unfold showsDialog
    rw [hdialog]
    exact id

theorem mem_recorded_of_latest {pr : PaymentRequest} (h : s.Latest pr) : pr ∈ s.recorded :=
  List.mem_of_mem_head? h.1

/-- What a post adds to the requests that are offered is the last request. -/
theorem At.offered_post {stage : Stage} (h : At lib s stage) :
    ∀ t ∈ s.post.offered, t ∈ s.offered ∨ ∃ pr ∈ s.recorded, t = lib.write pr := by
  unfold ReceiveScreen.post
  split
  · next p posts hposts =>
    cases p with
    | onchainQr address drawn =>
      cases drawn with
      | false => exact fun t ht => .inl ht
      | true => exact fun t ht => .inl ht
    | failed =>
      intro t ht
      rw [ReceiveScreen.runPost_failed] at ht
      left
      unfold offered at ht ⊢
      simp only [List.nil_append, Option.toList_none, List.append_assoc, List.mem_append] at ht ⊢
      exact .inr (.inr ht)
    | generated paymentRequestStr =>
      obtain ⟨pr, rfl, hstage⟩ := h.1.of_generated hposts
      have hlatest : s.Latest pr := by
        rcases hstage with ⟨rfl, -⟩ | ⟨drawn, rfl, -⟩
        · exact h.2.1
        · exact h.2.1
      intro t ht
      rw [ReceiveScreen.runPost_generated] at ht
      unfold offered at ht ⊢
      simp only [List.append_assoc, List.mem_append, List.mem_singleton, Option.mem_toList,
        Option.some.injEq] at ht ⊢
      rcases ht with ht | ht | ht | ht
      · exact .inr ⟨pr, mem_recorded_of_latest hlatest, ht⟩
      · exact .inl (.inr (.inl ht))
      · exact .inr ⟨pr, mem_recorded_of_latest hlatest, ht.symm⟩
      · exact .inr ⟨pr, mem_recorded_of_latest hlatest, ht.symm⟩
    | lightningQr paymentRequestStr drawn =>
      obtain ⟨pr, rfl, rfl, -⟩ := h.1.of_lightningQr hposts
      intro t ht
      rw [ReceiveScreen.runPost_lightningQr] at ht
      unfold offered at ht ⊢
      simp only [List.append_assoc, List.mem_append, Option.mem_toList] at ht ⊢
      rcases ht with ht | ht | ht | ht
      · exact .inl (.inl ht)
      · split at ht
        · exact .inr ⟨pr, mem_recorded_of_latest h.2.1, (Option.some.inj ht).symm⟩
        · exact .inl (.inr (.inl ht))
      · exact .inl (.inr (.inr (.inl ht)))
      · exact .inl (.inr (.inr (.inr ht)))
  · exact fun t ht => .inl ht

theorem At.busy_of_generate {stage : Stage} (h : At lib s stage) {pc : Pc} {rest : List Work}
    (hexecutor : s.executor = .generate pc :: rest) : s.isGeneratingLightningPR = true := by
  have hworks := (h.1.works_eq rfl hexecutor).1
  rw [h.1.2.2]
  cases stage with
  | idle | failed => cases hworks
  | _ => rfl

theorem insert_answered {pr : PaymentRequest} {rest : List Work} {now : Date} {throws : Bool}
    (hexecutor : s.executor = .generate (.answered pr) :: rest) (hattached : s.attached = true) :
    s.insert lib now throws = if throws then s.caught rest else { s with
      node.dbHelper := ReceivePaymentFragment.generatePaymentRequest s.node.dbHelper pr
        (lib.write pr) now
      executor := .generate (.inserted pr) :: rest
      recorded := pr :: s.recorded } := by
  unfold ReceiveScreen.insert
  rw [hexecutor]
  dsimp only
  rw [if_neg (by simp [hattached])]

theorem Sound.caught (h : Sound lib s) {rest : List Work}
    (hstage : ∃ stage, At lib (s.caught rest) stage) : Sound lib (s.caught rest) := by
  apply h.of_passes _ _ hstage
  · exact ⟨rfl, rfl, rfl, fun hbusy => by cases hbusy⟩
  · exact fun t ht => .inl ht

/-- The insertion: the row of the request is new, so the other requests keep theirs. -/
theorem Sound.insert (h : Sound lib s) {pr : PaymentRequest} {rest : List Work}
    (hexecutor : s.executor = .generate (.answered pr) :: rest) (now : Date) (throws : Bool) :
    Sound lib (s.insert lib now throws) := by
  obtain ⟨stage, hat⟩ := h.1.stage
  have hattached := h.1.attached_of_busy (hat.busy_of_generate hexecutor)
  have hstage := hat.insert hexecutor hattached now throws
  obtain ⟨hworks, -⟩ := hat.1.works_eq rfl hexecutor
  cases stage with
  | answered pr' =>
    obtain rfl : pr' = pr := Pc.answered.inj (Work.generate.inj (List.cons.inj hworks).1)
    rw [insert_answered hexecutor hattached] at hstage ⊢
    cases throws with
    | true =>
      rw [if_pos rfl] at hstage ⊢
      exact h.caught hstage
    | false =>
      rw [if_neg Bool.false_ne_true] at hstage ⊢
      refine ⟨⟨h.1.attached_of_resumed, h.1.attached_of_busy, ?_, ?_, hstage⟩, h.2.1, h.2.2⟩
      · intro pr hpr
        rcases List.mem_cons.mp hpr with rfl | hold
        · exact recorded_generatePaymentRequest s.node.dbHelper pr now
        · exact (h.1.recorded pr hold).generatePaymentRequest (hat.2.2.2 pr hold) now
      · intro t ht
        obtain ⟨pr, hpr, rfl⟩ := h.1.offered t ht
        exact ⟨pr, List.mem_cons_of_mem _ hpr, rfl⟩
  | idle | failed | posted | asked | inserted | drawing => cases hworks

theorem Sound.ask (h : Sound lib s) {rest : List Work}
    (hexecutor : s.executor = .generate .asked :: rest) {answer : Option PaymentRequest}
    (hanswer : ∀ pr ∈ answer, s.Answers pr) : Sound lib (s.ask answer) := by
  obtain ⟨hpasses, hoffered⟩ := passes_ask s answer
  obtain ⟨stage, hat⟩ := h.1.stage
  apply h.of_passes hpasses _ (hat.ask hexecutor hanswer h.1.recorded)
  rw [hoffered]
  exact fun t ht => .inl ht

theorem Sound.publish (h : Sound lib s) {pr : PaymentRequest} {rest : List Work}
    (hexecutor : s.executor = .generate (.inserted pr) :: rest) : Sound lib (s.publish lib) := by
  obtain ⟨hpasses, hoffered⟩ := passes_publish lib s
  obtain ⟨stage, hat⟩ := h.1.stage
  have hattached := h.1.attached_of_busy (hat.busy_of_generate hexecutor)
  apply h.of_passes hpasses _ ⟨_, hat.publish hexecutor hattached⟩
  rw [hoffered]
  exact fun t ht => .inl ht

theorem Sound.draw (h : Sound lib s) (drawn : Bool) : Sound lib (s.draw drawn) := by
  obtain ⟨hpasses, hoffered⟩ := passes_draw s drawn
  obtain ⟨stage, hat⟩ := h.1.stage
  apply h.of_passes hpasses _ (hat.draw drawn)
  rw [hoffered]
  exact fun t ht => .inl ht

theorem Sound.post (h : Sound lib s) : Sound lib s.post := by
  obtain ⟨stage, hat⟩ := h.1.stage
  exact h.of_passes (passes_post s) hat.offered_post hat.post

/-- After a refresh the pane follows the preference, whatever it showed before. -/
theorem Core.sound_refreshLightningPaneState (h : Core lib s) (hedits : s.Edits)
    (hfailed : Post.failed ∉ s.posts) : Sound lib s.refreshLightningPaneState := by
  refine ⟨h.refreshLightningPaneState hfailed, ?_,
    follows_refreshLightningPaneState h.attached_of_resumed⟩
  apply hedits.of_frame (frame_refreshLightningPaneState s)
  unfold showsDialog
  rw [dialog_refreshLightningPaneState]
  exact id

theorem Sound.setOnchainAddress (h : Sound lib s) (address : Option String) :
    Sound lib (s.setOnchainAddress address) :=
  ⟨h.1.setOnchainAddress address, h.2.1, h.2.2⟩

theorem Edits.of_hidden (h : s.showsDialog = false) : s.Edits := by
  intro hshows
  rw [h] at hshows
  cases hshows

/-- A screen that comes to the front has no dialog. -/
theorem Edits.hidden (h : s.Edits) (hresumed : s.resumed = false) : s.showsDialog = false := by
  by_contra hshows
  rw [Bool.not_eq_false] at hshows
  rw [(h hshows).1] at hresumed
  cases hresumed

/-- The screen that comes to the front, with an address that was announced meanwhile. -/
def returned (s : ReceiveScreen) (sticky : Option String) : ReceiveScreen :=
  sticky.elim { s with attached := true, resumed := true } fun address =>
    ReceiveScreen.setOnchainAddress { s with attached := true, resumed := true } address

/-- Behind the refresh of `onResume` an address may be set. -/
theorem onResume_of_refreshed {P : ReceiveScreen → Prop}
    (hset : ∀ s address, P s → P (ReceiveScreen.setOnchainAddress s address))
    {sticky : Option String} (h : P (s.returned sticky).refreshLightningPaneState)
    (electrumState : Option App.ElectrumState) : P (s.onResume sticky electrumState) := by
  unfold ReceiveScreen.onResume
  dsimp only
  split
  · split
    · exact hset _ _ h
    · exact h
  · exact h

theorem Sound.onResume (h : Sound lib s) (hresumed : s.resumed = false)
    (hfailed : Post.failed ∉ s.posts) (sticky : Option String)
    (electrumState : Option App.ElectrumState) : Sound lib (s.onResume sticky electrumState) := by
  obtain ⟨hcore, hedits, -⟩ := h
  obtain ⟨stage, hat⟩ := hcore.stage
  have h1 : Core lib { s with attached := true, resumed := true } :=
    ⟨fun _ => rfl, fun _ => rfl, hcore.recorded, hcore.offered, stage, hat⟩
  have hedits1 : Edits { s with attached := true, resumed := true } :=
    Edits.of_hidden (hedits.hidden hresumed)
  apply onResume_of_refreshed (P := Sound lib) fun _ address h => h.setOnchainAddress address
  cases sticky with
  | none => exact h1.sound_refreshLightningPaneState hedits1 hfailed
  | some address =>
    exact (h1.setOnchainAddress address).sound_refreshLightningPaneState hedits1 hfailed

theorem Sound.onPause (h : Sound lib s) : Sound lib s.onPause := by
  obtain ⟨stage, hat⟩ := h.1.stage
  refine ⟨⟨fun hres => ?_, h.1.attached_of_busy, h.1.recorded, h.1.offered, stage, hat⟩,
    Edits.of_dismissed rfl, fun hres => ?_⟩
  · cases hres
  · cases hres

theorem Sound.detach (h : Sound lib s) (hidle : s.isGeneratingLightningPR = false) :
    Sound lib { s.onPause with attached := false } := by
  obtain ⟨stage, hat⟩ := h.1.stage
  refine ⟨⟨fun hres => ?_, fun hbusy => ?_, h.1.recorded, h.1.offered, stage, hat⟩,
    Edits.of_dismissed rfl, fun hres => ?_⟩
  · cases hres
  · have hbusy : s.isGeneratingLightningPR = true := hbusy
    rw [hidle] at hbusy
    cases hbusy
  · cases hres

theorem Sound.pickOnchain (h : Sound lib s) (htouch : s.touchable = true) :
    Sound lib { s with paymentType := 0 } := by
  obtain ⟨stage, hat⟩ := h.1.stage
  have hhidden : s.showsDialog = false := by simpa using (Bool.and_eq_true_iff.mp htouch).2
  refine ⟨⟨h.1.attached_of_resumed, h.1.attached_of_busy, h.1.recorded, h.1.offered, stage, hat⟩,
    Edits.of_hidden hhidden, fun _ hone => ?_⟩
  cases hone

theorem Sound.pickLightning (h : Sound lib s) (htouch : s.touchable = true)
    (hfailed : Post.failed ∉ s.posts) :
    Sound lib (refreshLightningPaneState { s with paymentType := 1 }) := by
  obtain ⟨stage, hat⟩ := h.1.stage
  have hhidden : s.showsDialog = false := by simpa using (Bool.and_eq_true_iff.mp htouch).2
  have h1 : Core lib { s with paymentType := 1 } :=
    ⟨h.1.attached_of_resumed, h.1.attached_of_busy, h.1.recorded, h.1.offered, stage, hat⟩
  exact h1.sound_refreshLightningPaneState (Edits.of_hidden hhidden) hfailed

/-- The edit button is seen only where requests can be generated. -/
theorem Sound.editPr (h : Sound lib s) (htouch : s.touchable = true)
    (hview : s.lightningView = true) : Sound lib (s.editPr lib) := by
  obtain ⟨stage, hat⟩ := h.1.stage
  have hresumed := (Bool.and_eq_true_iff.mp htouch).1
  unfold lightningView at hview
  simp only [Bool.and_eq_true, decide_eq_true_eq] at hview
  obtain ⟨⟨htype, henabled⟩, -⟩ := hview
  unfold ReceiveScreen.editPr
  split
  · refine ⟨⟨h.1.attached_of_resumed, h.1.attached_of_busy, h.1.recorded, h.1.offered, stage,
      hat⟩, fun _ => ⟨hresumed, htype, ?_⟩, h.2.2⟩
    rw [← henabled]
    exact (h.2.2 hresumed htype).symm
  · exact h

theorem Sound.confirm (h : Sound lib s) (hshows : s.showsDialog = true)
    (hfailed : Post.failed ∉ s.posts) (hidle : s.isGeneratingLightningPR = false) :
    Sound lib (s.confirm lib) := by
  unfold ReceiveScreen.confirm
  split
  · next dialog hdialog =>
    obtain ⟨hresumed, htype, hprefs⟩ := h.2.1 hshows
    have h1 : Sound lib { s with mPRParamsDialog := some (dialog.confirm lib).1 } := by
      obtain ⟨stage, hat⟩ := h.1.stage
      exact ⟨⟨h.1.attached_of_resumed, h.1.attached_of_busy, h.1.recorded, h.1.offered, stage,
        hat⟩, fun _ => ⟨hresumed, htype, hprefs⟩, h.2.2⟩
    dsimp only
    split
    · next amount _ =>
      refine ⟨h1.1.onConfirm (h.1.attached_of_resumed hresumed) hprefs hfailed hidle _ _, ?_, ?_⟩
      · exact Edits.of_dismissed (dialog_onConfirm _ _ _)
      · apply h1.2.2.of_frame
        · exact frame_generatePaymentRequest _
        · unfold ReceiveScreen.onConfirm ReceiveScreen.generatePaymentRequest
          split
          · rfl
          · rfl
    · exact h1
  · exact h

theorem Sound.setPrefs (h : Sound lib s) (hresumed : s.resumed = false) (prefs : ReceivePrefs) :
    Sound lib { s with prefs } := by
  obtain ⟨stage, hat⟩ := h.1.stage
  refine ⟨⟨h.1.attached_of_resumed, h.1.attached_of_busy, h.1.recorded, h.1.offered, stage, hat⟩,
    Edits.of_hidden (h.2.1.hidden hresumed), fun hres => ?_⟩
  rw [show s.resumed = true from hres] at hresumed
  cases hresumed

theorem Sound.other (h : Sound lib s) {action : PaidRuns.Action} (hother : isOther action = true) :
    Sound lib { s with node := (PaidRuns.step s.node action).getD s.node } := by
  obtain ⟨stage, hat⟩ := h.1.stage
  exact ⟨⟨h.1.attached_of_resumed, h.1.attached_of_busy,
    fun pr hpr => (h.1.recorded pr hpr).other hother, h.1.offered, stage, hat⟩, h.2.1, h.2.2⟩

theorem answered_of_enabled {now : Date} {throws : Bool} (hen : s.Enabled (.insert now throws)) :
    ∃ pr rest, s.executor = .generate (.answered pr) :: rest := by
  unfold Enabled at hen
  cases hexecutor : s.executor with
  | nil =>
    rw [hexecutor] at hen
    cases hen
  | cons w rest =>
    rw [hexecutor] at hen
    cases w with
    | generate pc =>
      cases pc with
      | answered pr => exact ⟨pr, rest, rfl⟩
      | asked | inserted => cases hen
    | onchainQr | lightningQr => cases hen

theorem inserted_of_enabled (hen : s.Enabled .publish) :
    ∃ pr rest, s.executor = .generate (.inserted pr) :: rest := by
  unfold Enabled at hen
  cases hexecutor : s.executor with
  | nil =>
    rw [hexecutor] at hen
    cases hen
  | cons w rest =>
    rw [hexecutor] at hen
    cases w with
    | generate pc =>
      cases pc with
      | inserted pr => exact ⟨pr, rest, rfl⟩
      | asked | answered => cases hen
    | onchainQr | lightningQr => cases hen

/-- **One event keeps the invariant.** -/
theorem Sound.step {e : Event} (h : Sound lib s) (hok : s.Careful e)
    (hs : step lib s e = some s') : Sound lib s' := by
  unfold ReceiveScreen.step at hs
  split at hs
  · next hen =>
    obtain rfl := Option.some.inj hs
    cases e with
    | resume sticky electrumState => exact h.onResume hen hok sticky electrumState
    | pause => exact h.onPause
    | detach => exact h.detach hok
    | handleNewWalletAddress address => exact h.setOnchainAddress address
    | pickOnchain => exact h.pickOnchain hen
    | pickLightning => exact h.pickLightning hen hok
    | notifyChannelsUpdate => exact h.1.sound_refreshLightningPaneState h.2.1 hok
    | editPr => exact h.editPr hen.1 hen.2
    | typeDescription description => exact h.onDialog fun dialog => id
    | typeAmount amount =>
      apply h.onDialog
      intro dialog
      rw [showing_setAmount]
      exact id
    | confirm => exact h.confirm hen hok.1 hok.2
    | cancel =>
      apply h.onDialog
      intro dialog hshowing
      cases hshowing
    | setPrefs prefs => exact h.setPrefs hen prefs
    | other action => exact h.other hen
    | ask answer =>
      obtain ⟨rest, hexecutor⟩ := List.head?_eq_some_iff.mp hen.1
      apply h.ask hexecutor
      intro pr hpr
      have hall := hen.2
      rw [Option.mem_def.mp hpr] at hall
      exact of_decide_eq_true hall
    | insert now throws =>
      obtain ⟨pr, rest, hexecutor⟩ := answered_of_enabled hen
      exact h.insert hexecutor now throws
    | publish =>
      obtain ⟨pr, rest, hexecutor⟩ := inserted_of_enabled hen
      exact h.publish hexecutor
    | draw drawn => exact h.draw drawn
    | post => exact h.post
  · cases hs

end Invariant

/-! ### Every run -/

/-- A new fragment, with any database and any preferences. -/
def Starts (s : ReceiveScreen) : Prop := ∃ node prefs, s = { node, prefs }

theorem Starts.sound {s : ReceiveScreen} (h : s.Starts) : Sound lib s := by
  obtain ⟨node, prefs, rfl⟩ := h
  refine ⟨⟨fun hres => ?_, fun hbusy => ?_, fun pr hpr => ?_, fun t ht => ?_,
    .idle, ⟨rfl, rfl, rfl⟩, fun t ht => ?_⟩, Edits.of_hidden rfl, fun hres => ?_⟩
  · cases hres
  · cases hbusy
  · cases hpr
  · cases ht
  · cases ht
  · cases hres

theorem sound_of_reach {s : ReceiveScreen} (h : Reach (step lib) Careful Starts s) :
    Sound lib s := by
  refine Reach.invariant (I := Sound lib) ?_ ?_ s h
  · exact fun s hs => hs.sound
  · exact fun s e s' hsound hok hs => hsound.step hok hs

theorem At.eq_idle_of_request {s : ReceiveScreen} {stage : Stage} (h : At lib s stage)
    (hidle : s.isGeneratingLightningPR = false) {t : String} (ht : s.lightningPr = .request t) :
    stage = .idle := by
  obtain ⟨⟨-, -, hflag⟩, hholds⟩ := h
  cases stage with
  | idle => rfl
  | failed =>
    have hwait : s.lightningPr = .lightning_wait := hholds.1
    rw [hwait] at ht
    cases ht
  | _ =>
    rw [hidle] at hflag
    cases hflag

/-- **What the screen offers is in the database, and what it displays is what was asked for.**  At
every moment, the requests that can be taken from the screen are rows of the database; and when
nothing is generated, the request that is displayed is the last one, with the description and the
amount it was asked with, in all views, in the share button and in the bitmap. -/
theorem request_of_reach {s : ReceiveScreen} (h : Reach (step lib) Careful Starts s) :
    (∀ t ∈ s.offered, ∃ pr ∈ s.recorded, t = lib.write pr) ∧
    (∀ pr ∈ s.recorded, Recorded lib s.node.dbHelper pr) ∧
    (s.isGeneratingLightningPR = false → ∀ t, s.lightningPr = .request t →
      ∃ pr, t = lib.write pr ∧ s.Latest pr ∧ Published lib s pr ∧ Seen lib s pr ∧
        (s.lightningQr = none ∨ s.lightningQr = some (lib.write pr))) := by
  have hsound := sound_of_reach h
  refine ⟨hsound.1.offered, hsound.1.recorded, fun hidle t ht => ?_⟩
  obtain ⟨stage, hat⟩ := hsound.1.stage
  obtain rfl := hat.eq_idle_of_request hidle ht
  obtain ⟨pr, hlatest, hpublished, hseen, hqr⟩ := hat.2 t ht
  have htext : PrText.request t = .request (lib.write pr) := by rw [← ht, hseen.1]
  exact ⟨pr, PrText.request.inj htext, hlatest, hpublished, hseen, hqr⟩

namespace KnownRun

def known : ReceiveLibraries where
  convertStringAmountToMsat text := if text = "5" then some 5000 else none
  rawAmountInUnit := toString
  write pr := "lnbc" ++ pr.paymentHash

def node : NodeSupervisor.State := ⟨.empty, AList.singleton "channel" (.new 1)⟩

def first : PaymentRequest := ⟨"11", "02ab", .inl "", none, none, []⟩
def second : PaymentRequest := ⟨"22", "02ab", .inl "coffee", some 5000, none, []⟩

/-- A generation without a fault. -/
def generates (pr : PaymentRequest) : List Event :=
  [.ask (some pr), .insert 5 false, .publish, .post, .draw true, .post]

def opens : List Event := [.resume none none, .pickLightning]

def edits : List Event := [.editPr, .typeDescription "coffee", .typeAmount "5", .confirm]

def start : ReceiveScreen := { node, prefs := { enableLightningInboundPayments := true } }

/-- The request, whether one is under way, and what the views say of its amount. -/
def seen (s : ReceiveScreen) : PrText × Bool × Option ℤ :=
  (s.lightningPr, s.isGeneratingLightningPR, s.lightningAmountView)

theorem run_edits : (run (step known) start (opens ++ generates first ++ edits ++ generates second)
    ).map seen = some (.request "lnbc22", false, some 5000) := by
  decide +kernel

theorem request_of_reach_edited : ∃ s : ReceiveScreen, s.lightningPr = .request "lnbc22" ∧
    ∃ pr, "lnbc22" = known.write pr ∧ s.Latest pr ∧ Published known s pr ∧ Seen known s pr ∧
      (s.lightningQr = none ∨ s.lightningQr = some (known.write pr)) := by
  obtain ⟨s, hs, hseen⟩ := Option.map_eq_some_iff.mp run_edits
  obtain ⟨htext, hidle⟩ := Prod.mk.inj hseen
  have hmeets : Meets (step known) Careful start
      (opens ++ generates first ++ edits ++ generates second) := by
    decide +kernel
  have hreach : Reach (step known) Careful Starts s := reach_of_meets ⟨_, _, rfl⟩ hmeets hs
  exact ⟨s, htext, (request_of_reach hreach).2.2 (Prod.mk.inj hidle).1 "lnbc22" htext⟩

end KnownRun

end ReceiveScreen

end EclairMobile
