import EclairMobile.App
import EclairMobile.Channels.Attached
import EclairMobile.Lib.Reach

/-!
# What is learnt once of a channel

The creation date, the closing error and the refund block of a channel are told once, and after a
restart only the row of the channel still has them.  `ChannelRestored` copies the last two into the
new object, but not the creation date, which is that of the new object: the next save puts it into
the row.  `Tracked` follows the row of a channel, under the id it has at each moment, and
`Tracked.step` says what a message does to the three columns.
-/

namespace EclairMobile

open Lib

namespace LearntOnce

open NodeSupervisor

/-! ### The runs of the app -/

inductive Action
  /-- The supervisor handles a message. -/
  | receive (m : NodeMessage) (now : Date)
  /-- The objects loaded by greenDAO are forgotten, as on-chain payments are deleted. -/
  | clear
  /-- The process is killed, and the next one starts. -/
  | restart

def step (s : State) : Action → Option State
  | .receive m now => some (onReceive s m now).1
  | .clear => some { s with dbHelper := s.dbHelper.deleteAllOnchainTxs }
  | .restart => some (.start (App.restart s.dbHelper))

/-- The first process of the app, on any database. -/
def Started (s : State) : Prop := ∃ db, s = .start (App.restart db)

/-- The ids that the node gives are unused, except by a channel that is restored; a channel that
gets another id after it was stored has a positive capacity. -/
def UnusedIds (s : State) : NodeMessage → Prop
  | .channelCreated ch id _ _ =>
    s.channelId? ch = some (some id) ∨ s.dbHelper.channelRow (some id) = none
  | .channelIdAssigned ch id => ∀ c, s.channel? ch = some c → c.channelId = some id ∨
    s.dbHelper.channelRow (some id) = none ∧
      (s.dbHelper.channelRow c.channelId = none ∨ 0 < c.capacityMsat)
  | _ => True

/-- What the node promises. -/
def Promised (s : State) : Action → Prop
  | .receive m _ => Announces s m ∧ UnusedIds s m
  | _ => True

/-- A new record for a channel that has a row already has the creation date of the row. -/
def Careful (s : State) (a : Action) : Prop :=
  Promised s a ∧ match a with
    | .receive (.channelRestored ch id _ _ _) now => s.channel? ch = none →
      ∀ row, s.dbHelper.channelRow (some id) = some row → row.created = now
    | _ => True

/-! ### The channel that is watched -/

/-- The id of a channel after a message. -/
def follow (s : State) (id : String) : NodeMessage → String
  | .channelIdAssigned ch x => if s.channelId? ch = some (some id) then x else id
  | _ => id

/-- The message reports a closing error of the channel. -/
def reportsError (s : State) (id : String) : NodeMessage → Bool
  | .channelErrorOccurred ch error isFatal =>
    subject? (.channelErrorOccurred ch error isFatal) = some ch && s.channelId? ch = some (some id)
  | _ => false

/-- The message reports a refund block of the channel. -/
def reportsRefund (s : State) (id : String) : NodeMessage → Bool
  | .localCommitConfirmed ch _ => s.channelId? ch = some (some id)
  | _ => false

/-- A channel under watch, with what the node has reported of it since. -/
structure Watch where
  state : State
  id : String
  errorReported : Bool
  refundReported : Bool

def Watch.step (w : Watch) (a : Action) : Option Watch :=
  (LearntOnce.step w.state a).map fun s' =>
    match a with
    | .receive m _ =>
      ⟨s', follow w.state w.id m, w.errorReported || reportsError w.state w.id m,
        w.refundReported || reportsRefund w.state w.id m⟩
    | _ => { w with state := s' }

/-- What the row and the record of a channel may say. -/
structure Allowed where
  created : Date → Prop
  error : Option String → Prop
  refund : ℤ → Prop

structure Allowed.Of (P : Allowed) (c : LocalChannel) : Prop where
  created : P.created c.created
  error : P.error c.closingErrorMessage
  refund : P.refund c.refundAtBlock

/-- The channel has a row, and its row and its record say what they may say. -/
structure Tracked (s : State) (id : String) (P : Allowed) : Prop where
  row : ∃ row, s.dbHelper.channelRow (some id) = some row ∧ P.Of row
  record : ∀ r c, s.channel? r = some c → c.channelId = some id → P.Of c

/-! ### One message -/

theorem follow_assigned {s : State} {ch : ActorRef} {id : String}
    (h : s.channelId? ch = some (some id)) (x : String) :
    follow s id (.channelIdAssigned ch x) = x := if_pos h

theorem channelId_updated_follow {s : State} {m : NodeMessage} {ch : ActorRef} {c : LocalChannel}
    {id : String} (hsub : subject? m = some ch) (hc : s.channel? ch = some c)
    (hid : c.channelId = some id) : (updated c m).channelId = some (follow s id m) := by
  have hcarry : s.channelId? ch = some (some id) := channelId?_eq_some_iff.mpr ⟨c, hc, hid⟩
  rcases (leaves_updated c m).channelId with he | ⟨ref, x, rfl⟩
  · cases m with
    | channelIdAssigned ref x =>
      cases hsub
      rw [follow_assigned hcarry]
      rfl
    | _ => exact he.trans hid
  · cases hsub
    rw [follow_assigned hcarry]
    rfl

section Step

variable {s s' : State} {m : NodeMessage} {now : Date} {id : String} {P P' : Allowed}

/-- What may be said after a message: what may be said before it, anything if it is reported, and
the time of a restoration that makes a new record. -/
structure Passes (s : State) (m : NodeMessage) (now : Date) (id : String) (P P' : Allowed) :
    Prop where
  created : ∀ d, P.created d → P'.created d
  error : ∀ e, P.error e → P'.error e
  refund : ∀ b, P.refund b → P'.refund b
  errorReported : reportsError s id m = true → ∀ e, P'.error e
  refundReported : reportsRefund s id m = true → ∀ b, P'.refund b
  restored : ∀ ch node isFunder k, m = .channelRestored ch id node isFunder k →
    s.channel? ch = none → ∀ row, s.dbHelper.channelRow (some id) = some row →
    P.created row.created → P'.created now

theorem Passes.of (hp : Passes s m now id P P') {c : LocalChannel} (h : P.Of c) : P'.Of c :=
  ⟨hp.created _ h.created, hp.error _ h.error, hp.refund _ h.refund⟩

theorem Passes.updated (hp : Passes s m now id P P') {ch : ActorRef} {c : LocalChannel}
    (hsub : subject? m = some ch) (hc : s.channel? ch = some c) (hid : c.channelId = some id)
    (h : P.Of c) : P'.Of (updated c m) := by
  have hcarry : s.channelId? ch = some (some id) := channelId?_eq_some_iff.mpr ⟨c, hc, hid⟩
  refine ⟨?_, ?_, ?_⟩
  · rw [(leaves_updated c m).created]
    exact hp.created _ h.created
  · rcases (leaves_updated c m).closingErrorMessage with he | ⟨ref, error, isFatal, rfl⟩
    · rw [he]
      exact hp.error _ h.error
    · cases Option.some.inj ((about?_of_subject? hsub).symm.trans rfl : some ch = some ref)
      exact hp.errorReported (by simp [reportsError, hsub, hcarry]) _
  · rcases (leaves_updated c m).refundAtBlock with he | ⟨ref, block, rfl⟩
    · rw [he]
      exact hp.refund _ h.refund
    · cases hsub
      exact hp.refundReported (by simp [reportsRefund, hcarry]) _

/-- Saving changes neither of the three columns. -/
theorem Allowed.Of.savedRecord (h : P.Of c) (s : State) (now : Date) :
    P.Of (s.savedRecord c now) := by
  refine ⟨?_, ?_, ?_⟩
  · rw [savedRecord_created]
    exact h.created
  · rw [savedRecord_closingErrorMessage]
    exact h.error
  · rw [savedRecord_refundAtBlock]
    exact h.refund

theorem follow_eq (h : ∀ ch, about? m = some ch → s.channelId? ch ≠ some (some id)) :
    follow s id m = id := by
  cases m with
  | channelIdAssigned ch x => exact if_neg (h ch rfl)
  | _ => rfl

theorem Tracked.other (h : Tracked s id P) (hatt : Attached s) (hp : Passes s m now id P P')
    (hstep : ChannelStep s now m s')
    (hb : ∀ ch, about? m = some ch → s.channelId? ch ≠ some (some id))
    (ha : ∀ ch, about? m = some ch → s'.channelId? ch ≠ some (some id)) :
    Tracked s' (follow s id m) P' := by
  rw [follow_eq hb]
  obtain ⟨row, hrow, hof⟩ := h.row
  refine ⟨⟨row, ?_, hp.of hof⟩, ?_⟩
  · rw [hatt.channelRow_step hstep fun ch hch => ⟨hb ch hch, ha ch hch⟩, hrow]
  · intro r c hc hid
    have hne : about? m ≠ some r := fun hr =>
      ha r hr (channelId?_eq_some_iff.mpr ⟨c, hc, hid⟩)
    rw [hatt.channel?_step hstep hne] at hc
    exact hp.of (h.record r c hc hid)

theorem Tracked.put (h : Tracked s id P) (hp : Passes s m now id P P') (ch : ActorRef)
    {c : LocalChannel} (hc : c.channelId = some id → P'.Of c) : Tracked (s.put ch c) id P' := by
  obtain ⟨row, hrow, hof⟩ := h.row
  refine ⟨⟨row, hrow, hp.of hof⟩, ?_⟩
  intro r d hd hid
  rw [channel?_put] at hd
  split at hd
  · cases hd
    exact hc hid
  · exact hp.of (h.record r d hd hid)

/-- The object from which a restored channel takes its error and its refund block. -/
theorem Tracked.found (h : Tracked s id P) (hatt : Attached s) {ch : ActorRef}
    {node : String} {isFunder : Bool} {k : Commitments}
    (hfresh : ∀ r, s.channelId? r = some (some id) → r = ch)
    (hres : s.channel? ch ≠ none → P.Of (restored s ch id node isFunder k now)) :
    ∃ owner d, s.dbHelper.getLocalChannel (liveWith s ch (restored s ch id node isFunder k now))
      (some id) = some (owner, d) ∧ P.Of d := by
  obtain ⟨row, hrow, hof⟩ := h.row
  rcases getLocalChannel_cases s.dbHelper (liveWith s ch (restored s ch id node isFunder k now))
    (some id) with ⟨hnone, -⟩ | ⟨row', i, hrow', hi, ⟨-, hget⟩ | ⟨r, d, hs, hd, hget⟩⟩
  · rw [hrow] at hnone
    cases hnone
  · cases hrow.symm.trans hrow'
    exact ⟨none, row, hget, hof⟩
  · refine ⟨some r, d, hget, ?_⟩
    unfold liveWith at hd
    split at hd
    · next he =>
      cases hd
      exact hres he.1
    · next he =>
      -- the object belongs to the record that carries the id, which is that of the actor
      have hdi := hatt.scopeOf i r d hs hd
      obtain ⟨row'', hrow'', hi''⟩ := hatt.rowOf r d i hd hdi
      obtain ⟨hkey, -⟩ := channelRow_unique hrow'' hrow' hi'' hi
      have hr : r = ch := hfresh r (channelId?_eq_some_iff.mpr ⟨d, hd, hkey⟩)
      subst hr
      have hlookup : s.activeChannelsMap.lookup r ≠ none := by
        rw [show s.activeChannelsMap.lookup r = some d from hd]
        exact Option.some_ne_none d
      exact absurd ⟨hlookup, rfl⟩ he

theorem Tracked.restored (h : Tracked s id P) (hatt : Attached s) {ch : ActorRef} {node : String}
    {isFunder : Bool} {k : Commitments}
    (hm : Announces s (.channelRestored ch id node isFunder k))
    (hp : Passes s (.channelRestored ch id node isFunder k) now id P P')
    (hstep : ChannelStep s now (.channelRestored ch id node isFunder k) s') :
    Tracked s' id P' := by
  have hfresh : ∀ r, s.channelId? r = some (some id) → r = ch := hm.fresh ch id rfl
  have hnew := hm.new ch id rfl trivial
  have hres : s.channel? ch ≠ none →
      P.Of (NodeSupervisor.restored s ch id node isFunder k now) := by
    intro hne
    rcases hnew with hold | ⟨hnone, -⟩
    · obtain ⟨c, hc, hid⟩ := channelId?_eq_some_iff.mp hold
      have hof := h.record ch c hc hid
      have hget : s.getOrCreateChannel ch now = c := by
        unfold State.getOrCreateChannel
        rw [hc]
        rfl
      unfold NodeSupervisor.restored announced
      rw [hget]
      exact ⟨hof.created, hof.error, hof.refund⟩
    · exact absurd hnone hne
  obtain ⟨owner, d, hfound, hd⟩ := h.found hatt hfresh hres
  cases hstep with
  | ignored hnot => exact absurd trivial hnot
  | restoredNew _ _ _ _ _ hget =>
    rw [hfound] at hget
    cases hget
  | restoredOld _ _ _ _ _ owner' d' hget =>
    rw [hfound] at hget
    cases hget
    refine h.put hp ch fun _ => ⟨?_, hp.error _ hd.error, hp.refund _ hd.refund⟩
    cases hch : s.channel? ch with
    | some c => exact hp.created _ (hres (by rw [hch]; exact Option.some_ne_none c)).created
    | none =>
      obtain ⟨row, hrow, hof⟩ := h.row
      have hget : s.getOrCreateChannel ch now = LocalChannel.new now := by
        unfold State.getOrCreateChannel
        rw [hch]
        rfl
      have hcreated := hp.restored ch node isFunder k rfl hch row hrow hof.created
      unfold withOnceSent NodeSupervisor.restored announced
      rw [hget]
      exact hcreated
  | changed hsub => cases hsub
  | saved hsub => cases hsub

/-- A message gives the id of the channel to its actor: the channel is restored. -/
theorem Tracked.given (h : Tracked s id P) (hatt : Attached s) (hm : Announces s m)
    (hu : UnusedIds s m) (hp : Passes s m now id P P') (hstep : ChannelStep s now m s')
    {ch : ActorRef} (hg : gives? m = some (ch, id)) (hb : s.channelId? ch ≠ some (some id))
    (ha : s'.channelId? ch = some (some id)) : Tracked s' (follow s id m) P' := by
  obtain ⟨row, hrow, -⟩ := h.row
  cases m with
  | channelCreated ch' id' node isFunder =>
    cases hg
    rcases hu with hold | hnone
    · exact absurd hold hb
    · rw [hrow] at hnone
      cases hnone
  | channelRestored ch' id' node isFunder k =>
    cases hg
    exact h.restored hatt hm hp hstep
  | channelIdAssigned ch' id' =>
    cases hg
    have hknown : ∃ c, s.channel? ch = some c := by
      cases hc : s.channel? ch with
      | some c => exact ⟨c, rfl⟩
      | none =>
        cases hstep with
        | ignored =>
          obtain ⟨c, hc', -⟩ := channelId?_eq_some_iff.mp ha
          rw [hc] at hc'
          cases hc'
        | changed hsub hc' =>
          cases hsub
          rw [hc] at hc'
          cases hc'
        | saved hsub hc' =>
          cases hsub
          rw [hc] at hc'
          cases hc'
    obtain ⟨c, hc⟩ := hknown
    rcases hu c hc with hold | ⟨hnone, -⟩
    · exact absurd (channelId?_eq_some_iff.mpr ⟨c, hc, hold⟩) hb
    · rw [hrow] at hnone
      cases hnone
  | _ => cases hg

theorem Tracked.save (h : Tracked s id P) (hp : Passes s m now id P P') {ch : ActorRef}
    {c : LocalChannel} {id' : String} (hd : Distinct (s.save ch c now))
    (hkey : c.channelId = some id') (hpos : 0 < c.capacityMsat ∨ id' = id) (hof : P'.Of c) :
    Tracked (s.save ch c now) id' P' := by
  have hrecord : ∀ r d, (s.save ch c now).channel? r = some d → d.channelId = some id' →
      P'.Of d := by
    intro r d hr hid
    have hcarry : (s.save ch c now).channelId? ch = some (some id') := by
      refine channelId?_eq_some_iff.mpr ⟨s.savedRecord c now, ?_, ?_⟩
      · rw [channel?_save, if_pos rfl]
      · rw [savedRecord_channelId, hkey]
    have hrc : r = ch := hd r ch _ (channelId?_eq_some_iff.mpr ⟨d, hr, hid⟩) hcarry
    rw [channel?_save, if_pos hrc] at hr
    rw [← Option.some.inj hr]
    exact hof.savedRecord s now
  refine ⟨?_, hrecord⟩
  by_cases hc : 0 < c.capacityMsat
  · obtain ⟨i, -, -, -, hrow, -⟩ := save_of_pos hc s ch now
    rw [← hkey]
    exact ⟨_, (hrow _).trans (if_pos rfl), hof.created, hof.error, hof.refund⟩
  · -- nothing is written, and the channel keeps its id
    obtain ⟨row, hrow, hrowOf⟩ := h.row
    rcases hpos with hpos | rfl
    · exact absurd hpos hc
    · rw [save_of_not_pos hc]
      exact ⟨row, hrow, hp.of hrowOf⟩

theorem Tracked.terminated (h : Tracked s id P) (hatt : Attached s) {ch : ActorRef}
    {c : LocalChannel} (hp : Passes s m now id P P') (hc : s.channel? ch = some c)
    (hid : c.channelId = some id) :
    Tracked ((s.channelTerminated c.channelId now).remove ch) id P' := by
  obtain ⟨row, hrow, hof⟩ := h.row
  have hother : ∀ {s' : State}, (∀ r, r ≠ ch → s'.channel? r = s.channel? r) → ∀ r d,
      (s'.remove ch).channel? r = some d → d.channelId = some id → P'.Of d := by
    intro s' hsame r d hd hdid
    rw [channel?_remove] at hd
    split at hd
    · cases hd
    · next hne =>
      rw [hsame r hne] at hd
      exact hp.of (h.record r d hd hdid)
  rcases hatt.terminated_cases hc now with ⟨hnone, -⟩ | ⟨row', hrow', ⟨he, -⟩ | ⟨hrid, he⟩⟩
  · rw [hid, hrow] at hnone
    cases hnone
  · rw [hid] at hrow'
    cases hrow.symm.trans hrow'
    rw [he]
    refine ⟨?_, hother fun r _ => rfl⟩
    rw [State.remove_dbHelper]
    rcases rowTerminated_cases s hrow now with ⟨-, he'⟩ | ⟨-, hself, -, -⟩
    · rw [he']
      exact ⟨row, hrow, hp.of hof⟩
    · have hof' := hp.of hof
      exact ⟨_, hself, hof'.created, hof'.error, hof'.refund⟩
  · rw [he]
    refine ⟨?_, hother fun r hne => (channel?_save ..).trans (if_neg hne)⟩
    rw [State.remove_dbHelper]
    by_cases hpos : 0 < c.capacityMsat
    · obtain ⟨i, -, -, -, hrows, -⟩ :=
        save_of_pos (c := { c with isActive := false }) hpos s ch now
      have hof' := hp.of (h.record ch c hc hid)
      rw [← hid]
      exact ⟨_, (hrows _).trans (if_pos rfl), hof'.created, hof'.error, hof'.refund⟩
    · rw [save_of_not_pos (c := { c with isActive := false }) hpos]
      exact ⟨row, hrow, hp.of hof⟩

theorem Tracked.own (h : Tracked s id P) (hatt : Attached s) (hm : Announces s m)
    (hu : UnusedIds s m) (hp : Passes s m now id P P') (hstep : ChannelStep s now m s')
    {ch : ActorRef} (habout : about? m = some ch) (hb : s.channelId? ch = some (some id)) :
    Tracked s' (follow s id m) P' := by
  obtain ⟨c, hc, hid⟩ := channelId?_eq_some_iff.mp hb
  have hof := h.record ch c hc hid
  obtain ⟨row, hrow, hrowOf⟩ := h.row
  -- an announcement is repeated under the id that the record has
  have same : ∀ {x}, gives? m = some (ch, x) → IsAnnouncement m → x = id := by
    intro x hg hann
    rcases hm.new ch x hg hann with hold | ⟨hnone, -⟩
    · rw [hb] at hold
      cases hold
      rfl
    · rw [hc] at hnone
      cases hnone
  have hget : s.getOrCreateChannel ch now = c := by
    unfold State.getOrCreateChannel
    rw [hc]
    rfl
  cases hstep with
  | ignored hnot hsub =>
    have hfollow : follow s id m = id := by
      cases m with
      | channelIdAssigned ref x =>
        cases habout
        rw [hsub ch rfl] at hc
        cases hc
      | _ => rfl
    rw [hfollow]
    exact ⟨⟨row, hrow, hp.of hrowOf⟩, fun r d hd hdid => hp.of (h.record r d hd hdid)⟩
  | created ref x node isFunder =>
    cases habout
    refine h.put hp ch fun _ => hp.of ?_
    unfold announced
    rw [hget]
    exact ⟨hof.created, hof.error, hof.refund⟩
  | restoredNew ref x node isFunder k hfound =>
    cases habout
    cases same rfl trivial
    exact h.restored hatt hm hp (.restoredNew ch id node isFunder k hfound)
  | restoredOld ref x node isFunder k owner d hfound =>
    cases habout
    cases same rfl trivial
    exact h.restored hatt hm hp (.restoredOld ch id node isFunder k owner d hfound)
  | @changed m ref c' hsub hc' hsaves =>
    cases Option.some.inj (habout.symm.trans (about?_of_subject? hsub))
    cases hc.symm.trans hc'
    have hfollow : follow s id m = id := by
      cases m with
      | channelIdAssigned => cases hsaves
      | _ => rfl
    rw [hfollow]
    exact h.put hp ch fun _ => hp.updated hsub hc hid hof
  | @saved m ref c' hsub hc' hsaves =>
    cases Option.some.inj (habout.symm.trans (about?_of_subject? hsub))
    cases hc.symm.trans hc'
    have hd : Distinct (s.save ch (updated c m) now) :=
      hatt.distinct.step hm.fresh (.saved hsub hc hsaves)
    refine h.save hp hd (channelId_updated_follow hsub hc hid) ?_ (hp.updated hsub hc hid hof)
    cases m with
    | channelIdAssigned ref x =>
      cases hsub
      rw [follow_assigned hb]
      rcases hu c hc with hold | ⟨-, hnone | hpos⟩
      · rw [hid] at hold
        cases hold
        exact Or.inr rfl
      · rw [hid, hrow] at hnone
        cases hnone
      · exact Or.inl hpos
    | _ => exact Or.inr rfl
  | @terminated ref c' hc' =>
    cases habout
    cases hc.symm.trans hc'
    exact h.terminated hatt hp hc hid
  | @unknown ref hnone =>
    cases habout
    rw [hc] at hnone
    cases hnone

/-- **One message: the channel keeps a row, which says what was said before or what is
reported.** -/
theorem Tracked.step (h : Tracked s id P) (hatt : Attached s) (hm : Announces s m)
    (hu : UnusedIds s m) (hp : Passes s m now id P P') (hstep : ChannelStep s now m s') :
    Tracked s' (follow s id m) P' := by
  by_cases hb : ∃ ch, about? m = some ch ∧ s.channelId? ch = some (some id)
  · obtain ⟨ch, habout, hb⟩ := hb
    exact h.own hatt hm hu hp hstep habout hb
  · have hb' : ∀ ch, about? m = some ch → s.channelId? ch ≠ some (some id) :=
      fun ch habout he => hb ⟨ch, habout, he⟩
    by_cases ha : ∃ ch, about? m = some ch ∧ s'.channelId? ch = some (some id)
    · obtain ⟨ch, habout, ha⟩ := ha
      rcases hstep.channelId? ha with ⟨hold, -⟩ | ⟨x, hg, hx⟩
      · exact absurd hold (hb' ch habout)
      · cases hx
        exact h.given hatt hm hu hp hstep hg (hb' ch habout) ha
    · exact h.other hatt hp hstep hb' fun ch habout he => ha ⟨ch, habout, he⟩

end Step

/-! ### Any run -/

theorem attached_step {s s' : State} {a : Action} (h : Attached s) (hok : Promised s a)
    (hstep : step s a = some s') : Attached s' := by
  cases a with
  | receive m now =>
    cases hstep
    have h' : Attached s.channels := ⟨h.distinct, h.rowOf, h.scopeOf⟩
    have hm : Announces s.channels m := ⟨hok.1.fresh, hok.1.new, hok.1.positive⟩
    have hs' := h'.step hm (step_onReceive s now m)
    exact ⟨hs'.distinct, hs'.rowOf, hs'.scopeOf⟩
  | clear =>
    cases hstep
    refine ⟨h.distinct, h.rowOf, fun i r c hs _ => ?_⟩
    cases hs
  | restart =>
    cases hstep
    exact .start _

theorem attached_reach {s : State} (h : Reach step Promised Started s) : Attached s := by
  refine h.invariant ?_ (fun s a s' hs hok hstep => attached_step hs hok hstep) s
  rintro s ⟨db, rfl⟩
  exact .start _

/-- The row of the id was just stored, or the process has not heard of a channel yet. -/
inductive JustStored : State → String → Prop
  | saved {s : State} {m : NodeMessage} {now : Date} {ch : ActorRef} {c : LocalChannel}
      {id : String} : Reach step Promised Started s → Promised s (.receive m now) →
      subject? m = some ch → saves m = true →
      (onReceive s m now).1.channel? ch = some c → c.channelId = some id → 0 < c.capacityMsat →
      JustStored (onReceive s m now).1 id
  | started {s : State} (id : String) : Reach step Promised Started s →
      (∀ r, s.channel? r = none) → JustStored s id

/-- What the row of the channel still says. -/
structure KeptOnceSent (row : LocalChannel) (w : Watch) (row' : LocalChannel) : Prop where
  stored : w.state.dbHelper.channelRow (some w.id) = some row'
  error : w.errorReported = true ∨ row'.closingErrorMessage = row.closingErrorMessage
  refund : w.refundReported = true ∨ row'.refundAtBlock = row.refundAtBlock

def Kept (row : LocalChannel) (w : Watch) : Prop :=
  ∃ row', KeptOnceSent row w row' ∧ row'.created = row.created

/-- What may be said of a channel under watch. -/
def Watch.allowed (C : Date → Prop) (row : LocalChannel) (w : Watch) : Allowed where
  created := C
  error e := w.errorReported = true ∨ e = row.closingErrorMessage
  refund b := w.refundReported = true ∨ b = row.refundAtBlock

structure Inv (C : Date → Prop) (row : LocalChannel) (w : Watch) : Prop where
  attached : Attached w.state
  tracked : Tracked w.state w.id (w.allowed C row)

/-- A record and its row are written together. -/
theorem row_of_saved {s s' : State} {m : NodeMessage} {now : Date} {ch : ActorRef}
    {c : LocalChannel} (hstep : ChannelStep s now m s') (hsub : subject? m = some ch)
    (hsaves : saves m = true) (hc : s'.channel? ch = some c) (hpos : 0 < c.capacityMsat) :
    s'.dbHelper.channelRow c.channelId = some c.persisted := by
  cases hstep with
  | ignored _ hnone =>
    rw [hnone ch hsub] at hc
    cases hc
  | created => cases hsub
  | restoredNew => cases hsub
  | restoredOld => cases hsub
  | changed _ _ hnot =>
    rw [hsaves] at hnot
    cases hnot
  | @saved m ref c₀ hsub' hc₀ _ =>
    cases Option.some.inj (hsub'.symm.trans hsub)
    rw [channel?_save, if_pos rfl] at hc
    cases hc
    rw [savedRecord_capacityMsat] at hpos
    obtain ⟨i, -, hrow, -⟩ := savedRecord_of_pos hpos s ch now
    rw [savedRecord_channelId]
    exact hrow
  | terminated => cases hsub
  | unknown => cases hsub

theorem inv_justStored {s : State} {id : String} {row : LocalChannel} {C : Date → Prop}
    (h : JustStored s id) (hrow : s.dbHelper.channelRow (some id) = some row) (hC : C row.created) :
    Inv C row ⟨s, id, false, false⟩ := by
  have hof : (Watch.allowed C row ⟨s, id, false, false⟩).Of row := ⟨hC, Or.inr rfl, Or.inr rfl⟩
  cases h with
  | @saved s m now ch c id hs hok hsub hsaves hc hid hpos =>
    have hatt := attached_step (attached_reach hs) hok rfl
    refine ⟨hatt, ⟨row, hrow, hof⟩, ?_⟩
    intro r d hd hdid
    have hrc : r = ch := hatt.distinct r ch _ (channelId?_eq_some_iff.mpr ⟨d, hd, hdid⟩)
      (channelId?_eq_some_iff.mpr ⟨c, hc, hid⟩)
    subst hrc
    cases hc.symm.trans hd
    have hsame := row_of_saved (step_onReceive s now m) hsub hsaves hc hpos
    rw [hid] at hsame
    cases hsame.symm.trans hrow
    exact ⟨hC, Or.inr rfl, Or.inr rfl⟩
  | started _ hs hnone =>
    refine ⟨attached_reach hs, ⟨row, hrow, hof⟩, fun r c hc => ?_⟩
    rw [hnone r] at hc
    cases hc

/-- **One step of a channel under watch.** -/
theorem inv_step {C : Date → Prop} {row : LocalChannel} {w w' : Watch} {a : Action}
    (h : Inv C row w) (hok : Promised w.state a)
    (hres : ∀ ch node isFunder k now, a = .receive (.channelRestored ch w.id node isFunder k) now →
      w.state.channel? ch = none →
      ∀ row', w.state.dbHelper.channelRow (some w.id) = some row' → C row'.created → C now)
    (hstep : w.step a = some w') : Inv C row w' := by
  obtain ⟨s', hs', rfl⟩ := Option.map_eq_some_iff.mp hstep
  have hatt := attached_step h.attached hok hs'
  obtain ⟨row₀, hrow₀, hof₀⟩ := h.tracked.row
  cases a with
  | receive m now =>
    cases hs'
    refine ⟨hatt, ?_⟩
    have hp : Passes w.state.channels m now w.id (w.allowed C row)
        (Watch.allowed C row ⟨(onReceive w.state m now).1, follow w.state w.id m,
          w.errorReported || reportsError w.state w.id m,
          w.refundReported || reportsRefund w.state w.id m⟩) := by
      refine ⟨fun _ hd => hd, ?_, ?_, ?_, ?_, ?_⟩
      · rintro e (he | he)
        · exact Or.inl (by simp [he])
        · exact Or.inr he
      · rintro b (hb | hb)
        · exact Or.inl (by simp [hb])
        · exact Or.inr hb
      · intro he e
        refine Or.inl ?_
        rw [Bool.or_eq_true]
        exact Or.inr he
      · intro he e
        refine Or.inl ?_
        rw [Bool.or_eq_true]
        exact Or.inr he
      · rintro ch node isFunder k rfl hnone row' hrow' hC
        exact hres ch node isFunder k now rfl hnone row' hrow' hC
    have ht : Tracked w.state.channels w.id (w.allowed C row) :=
      ⟨h.tracked.row, h.tracked.record⟩
    have ha : Attached w.state.channels :=
      ⟨h.attached.distinct, h.attached.rowOf, h.attached.scopeOf⟩
    have hm : Announces w.state.channels m := ⟨hok.1.fresh, hok.1.new, hok.1.positive⟩
    have hu : UnusedIds w.state.channels m := by
      cases m <;> exact hok.2
    have ht' := ht.step ha hm hu hp (step_onReceive w.state now m)
    exact ⟨ht'.row, ht'.record⟩
  | clear =>
    cases hs'
    exact ⟨hatt, h.tracked.row, h.tracked.record⟩
  | restart =>
    cases hs'
    refine ⟨hatt, ⟨row₀, hrow₀, hof₀⟩, fun r c hc => ?_⟩
    rw [channel?_start] at hc
    cases hc

theorem kept_of_inv {C : Date → Prop} {row : LocalChannel} {w : Watch} (h : Inv C row w) :
    ∃ row', KeptOnceSent row w row' ∧ C row'.created := by
  obtain ⟨row', hrow', hof⟩ := h.tracked.row
  exact ⟨row', ⟨hrow', hof.error, hof.refund⟩, hof.created⟩

section Runs

variable {s : State} {id : String} {row : LocalChannel} {w : Watch}

/-- **If no channel with a row is restored into a new record of another date, what is learnt once is
kept** until the node reports another value. -/
theorem learntOnce_kept (hs : JustStored s id)
    (hrow : s.dbHelper.channelRow (some id) = some row)
    (h : Reach Watch.step (fun w a => Careful w.state a) (· = ⟨s, id, false, false⟩) w) :
    Kept row w := by
  have hinv : Inv (fun d => d = row.created) row w := by
    refine h.invariant ?_ ?_ w
    · rintro _ rfl
      exact inv_justStored hs hrow rfl
    · intro w a w' hw hok hstep
      refine inv_step hw hok.1 ?_ hstep
      rintro ch node isFunder k now rfl hnone row' hrow' hcreated
      exact (hok.2 hnone row' hrow').symm.trans hcreated
  exact kept_of_inv hinv

end Runs

/-- `ChannelRestored` of one and the same channel. -/
def restoredAs (ch : ActorRef) : NodeMessage :=
  .channelRestored ch "id" "node" true ⟨⟨[], 600, 1000⟩, none, 0, 0, 0, "", 0, "", 0⟩

/-- A state change that reports its commitments, after which the channel is saved. -/
def stateChanged (ch : ActorRef) : NodeMessage :=
  .channelStateChanged ch "OFFLINE" "NORMAL"
    (.hasCommitments ⟨⟨[], 600, 1000⟩, none, 0, 0, 0, "", 0, "", 0⟩)

theorem promised_restored {s : State} (hnone : ∀ r, s.channel? r = none)
    (hscope : ∀ i, s.dbHelper.identityScope i = none) (ch : ActorRef) (now : Date) :
    Promised s (.receive (restoredAs ch) now) := by
  refine ⟨⟨?_, ?_, ?_⟩, trivial⟩
  · intro ref id _ r hr
    obtain ⟨c, hc, -⟩ := channelId?_eq_some_iff.mp hr
    rw [hnone r] at hc
    cases hc
  · intro ref id _ _
    refine Or.inr ⟨hnone ref, fun i hi => ?_⟩
    rw [hscope i] at hi
    cases hi
  · intro ref id c _ hnot _ _
    exact absurd trivial hnot

theorem promised_of_gives?_eq_none {s : State} {m : NodeMessage} {now : Date}
    (h : gives? m = none) : Promised s (.receive m now) := by
  have hnone : ∀ x, gives? m ≠ some x := by
    intro x hx
    rw [h] at hx
    cases hx
  refine ⟨⟨fun _ _ hg => absurd hg (hnone _), fun _ _ hg => absurd hg (hnone _),
    fun _ _ _ hg => absurd hg (hnone _)⟩, ?_⟩
  cases m with
  | channelCreated | channelIdAssigned => cases h
  | _ => trivial

theorem promised_stateChanged (s : State) (ch : ActorRef) (now : Date) :
    Promised s (.receive (stateChanged ch) now) := promised_of_gives?_eq_none rfl

/-- The state of an app that stores a channel for the first time, at the time 1. -/
def stored : State :=
  (onReceive (onReceive (.start (App.restart .empty)) (restoredAs "a") 1).1 (stateChanged "a") 2).1

theorem justStored_stored : JustStored stored "id" := by
  have h0 : Reach step Promised Started (.start (App.restart .empty)) := .start ⟨.empty, rfl⟩
  have h1 := h0.next (promised_restored (fun r => channel?_start _ r) (fun _ => rfl) "a" 1) rfl
  exact .saved (c := _) h1 (promised_stateChanged _ "a" 2) rfl rfl rfl rfl (by decide)

/-- The channel reports a closing error, and then its refund block. -/
def learnt : State :=
  (onReceive (onReceive stored (.channelErrorOccurred "a" (.localError (some (some "closed"))) true)
    3).1 (.localCommitConfirmed "a" 700) 4).1

theorem justStored_learnt : JustStored learnt "id" := by
  have h0 : Reach step Promised Started (.start (App.restart .empty)) := .start ⟨.empty, rfl⟩
  have h1 := h0.next (promised_restored (fun r => channel?_start _ r) (fun _ => rfl) "a" 1) rfl
  have h2 := h1.next (promised_stateChanged _ "a" 2) rfl
  have h3 := h2.next (a := Action.receive (.channelErrorOccurred "a"
    (.localError (some (some "closed"))) true) 3) (promised_of_gives?_eq_none rfl) rfl
  exact .saved (c := _) h3 (promised_of_gives?_eq_none rfl) rfl rfl rfl rfl (by decide)

/-- After a restart the channel is restored at its creation date, and saved again. -/
def restarts : List Action :=
  [.restart, .receive (restoredAs "b") 1, .receive (stateChanged "b") 6]

/-- The row that is written after the restart says what the old one said. -/
theorem learntOnce_kept_restarted : ∃ row w, learnt.dbHelper.channelRow (some "id") = some row ∧
    run Watch.step ⟨learnt, "id", false, false⟩ restarts = some w ∧
    w.errorReported = false ∧ w.refundReported = false ∧ row.created = 1 ∧
    row.closingErrorMessage = some "closed" ∧ row.refundAtBlock = 700 ∧ Kept row w := by
  have h0 : Reach Watch.step (fun w a => Careful w.state a) (· = ⟨learnt, "id", false, false⟩)
      ⟨learnt, "id", false, false⟩ := .start rfl
  have h1 := h0.next (a := Action.restart) ⟨trivial, trivial⟩ rfl
  have h2 := h1.next (a := Action.receive (restoredAs "b") 1)
    ⟨promised_restored (fun r => channel?_start _ r) (fun _ => rfl) "b" 1, fun _ row hrow => by
      cases hrow
      rfl⟩ rfl
  have h3 := h2.next (a := Action.receive (stateChanged "b") 6)
    ⟨promised_stateChanged _ "b" 6, trivial⟩ rfl
  exact ⟨_, _, rfl, rfl, rfl, rfl, rfl, rfl, rfl, learntOnce_kept justStored_learnt rfl h3⟩

/-- A channel that is restored after a restart gets a new creation date. -/
theorem not_learntOnce_kept : ¬ ∀ s id row w, JustStored s id →
    s.dbHelper.channelRow (some id) = some row →
    Reach Watch.step (fun w a => Promised w.state a) (· = ⟨s, id, false, false⟩) w →
    Kept row w := by
  intro h
  have h0 : Reach Watch.step (fun w a => Promised w.state a) (· = ⟨stored, "id", false, false⟩)
      ⟨stored, "id", false, false⟩ := .start rfl
  have h1 := h0.next (a := Action.restart) trivial rfl
  have h2 := h1.next (promised_restored (fun r => channel?_start _ r) (fun _ => rfl) "b" 5) rfl
  have h3 := h2.next (promised_stateChanged _ "b" 6) rfl
  obtain ⟨row', hkept, hcreated⟩ := h stored "id" _ _ justStored_stored rfl h3
  cases hkept.stored.symm.trans rfl
  exact absurd hcreated (by decide)

end LearntOnce

end EclairMobile
