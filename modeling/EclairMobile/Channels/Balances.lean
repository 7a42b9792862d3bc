import EclairMobile.Channels.ChannelStore

/-!
# The figures of a channel

Balance, capacity, sendable balance and the number of HTLCs in flight are refreshed by three
handlers.  Two of them set all four; `ChannelRestored` sets the last two only.  `Told` keeps what
the node has told of a channel since it was announced, and `figures_afterAll` says which message
each figure comes from, after any messages in any order.
-/

namespace EclairMobile

structure Figures where
  balanceMsat : ℤ
  capacityMsat : ℤ
  sendableBalanceMsat : ℤ
  htlcsInFlightCount : ℕ
  deriving DecidableEq, Repr

def LocalChannel.figures (c : LocalChannel) : Figures :=
  ⟨c.balanceMsat, c.capacityMsat, c.sendableBalanceMsat, c.htlcsInFlightCount⟩

/-- The figures that the commitments of a channel show. -/
def Commitments.figures (k : Commitments) : Figures :=
  ⟨k.localCommit.toLocal, k.localCommit.totalFunds, k.availableBalanceForSend,
    k.localCommit.htlcs.length⟩

/-- The figures of the last commitments known, all zero if there are none. -/
def Figures.of (k : Option Commitments) : Figures := k.elim ⟨0, 0, 0, 0⟩ Commitments.figures

namespace NodeSupervisor

/-! ### What the node has told -/

/-- What the node has told of a channel since it was announced. -/
structure Told where
  /-- The commitments of the last message that carries them. -/
  latest : Option Commitments
  /-- Those of the last `ChannelSignatureReceived` or `ChannelStateChanged`. -/
  refreshed : Option Commitments
  deriving DecidableEq

namespace Told

def hear (t : Told) : NodeMessage → Told
  | .channelSignatureReceived _ k => ⟨some k, some k⟩
  | .channelStateChanged _ _ _ data => data.commitments?.elim t fun k => ⟨some k, some k⟩
  | _ => t

/-- The figures of the record: two from one message, two from another. -/
def figures (t : Told) : Figures where
  balanceMsat := (Figures.of t.refreshed).balanceMsat
  capacityMsat := (Figures.of t.refreshed).capacityMsat
  sendableBalanceMsat := (Figures.of t.latest).sendableBalanceMsat
  htlcsInFlightCount := (Figures.of t.latest).htlcsInFlightCount

/-- Whatever was told last brought no other balance and capacity than those already there. -/
def Consistent (t : Told) : Prop :=
  (Figures.of t.latest).balanceMsat = (Figures.of t.refreshed).balanceMsat ∧
    (Figures.of t.latest).capacityMsat = (Figures.of t.refreshed).capacityMsat

instance (t : Told) : Decidable t.Consistent := inferInstanceAs (Decidable (_ ∧ _))

theorem figures_eq_iff (t : Told) : t.figures = Figures.of t.latest ↔ t.Consistent := by
  unfold figures Consistent
  constructor
  · intro h
    rw [← h]
    exact ⟨rfl, rfl⟩
  · rintro ⟨hb, hc⟩
    rw [← hb, ← hc]

end Told

/-- What has been told of a channel after one more message. -/
def tell (ref : ActorRef) (m : NodeMessage) (t : Option Told) : Option Told :=
  match m with
  | .channelCreated ch _ _ _ => if ch = ref then some (t.getD ⟨none, none⟩) else t
  | .channelRestored ch _ _ _ k =>
    if ch = ref then some { t.getD ⟨none, none⟩ with latest := some k } else t
  | .terminated ch => if ch = ref then none else t
  | m => if subject? m = some ref then t.map (·.hear m) else t

/-- What has been told of a channel by messages, since it was last announced. -/
def toldBy (ref : ActorRef) (ms : List (NodeMessage × Date)) : Option Told :=
  ms.foldl (fun t m => tell ref m.1 t) none

/-! ### One message -/

/-- The record shows what was told, and there is one exactly if there is something told. -/
def Shows (c : Option LocalChannel) (t : Option Told) : Prop :=
  c.map LocalChannel.figures = t.map Told.figures

theorem Shows.none_left {t : Option Told} (h : Shows none t) : t = none :=
  Option.map_eq_none_iff.mp h.symm

theorem Shows.some_left {c : LocalChannel} {t : Option Told} (h : Shows (some c) t) :
    ∃ t', t = some t' ∧ c.figures = t'.figures := by
  obtain ⟨t', rfl, ht⟩ := Option.map_eq_some_iff.mp (Eq.symm h)
  exact ⟨t', rfl, ht.symm⟩

theorem Shows.mk {c : LocalChannel} {t : Told} (h : c.figures = t.figures) :
    Shows (some c) (some t) := congrArg some h

theorem figures_updated {c : LocalChannel} {t : Told} (h : c.figures = t.figures)
    (m : NodeMessage) : (updated c m).figures = (t.hear m).figures := by
  cases m with
  | channelStateChanged ch previous current data =>
    cases data with
    | closing d k => rfl
    | hasCommitments k => rfl
    | other => exact h
  | channelSignatureReceived ch k => rfl
  | localChannelUpdate ch update => cases update <;> exact h
  | _ => exact h

theorem figures_savedRecord (s : State) (c : LocalChannel) (now : Date) :
    (s.savedRecord c now).figures = c.figures := by simp [LocalChannel.figures]

theorem figures_getOrCreate {s : State} {ref : ActorRef} {t : Option Told}
    (h : Shows (s.channel? ref) t) (now : Date) :
    (s.getOrCreateChannel ref now).figures = (t.getD ⟨none, none⟩).figures := by
  unfold State.getOrCreateChannel
  cases hc : s.channel? ref with
  | none =>
    rw [hc] at h
    rw [h.none_left]
    rfl
  | some c =>
    rw [hc] at h
    obtain ⟨t', rfl, ht⟩ := h.some_left
    exact ht

/-- A channel that is restored keeps the balance and the capacity of its record. -/
theorem figures_restored {s : State} {ref : ActorRef} {t : Option Told}
    (h : Shows (s.channel? ref) t) (id node : String) (isFunder : Bool) (k : Commitments)
    (now : Date) : (restored s ref id node isFunder k now).figures =
      ({ t.getD ⟨none, none⟩ with latest := some k } : Told).figures := by
  have hf := figures_getOrCreate h now
  unfold Told.figures at hf ⊢
  simp only [LocalChannel.figures, Figures.mk.injEq] at hf ⊢
  exact ⟨hf.1, hf.2.1, rfl, rfl⟩

theorem tell_of_not_announcement {ref : ActorRef} {m : NodeMessage} (hm : ¬ IsAnnouncement m)
    (t : Option Told) : tell ref m t = if subject? m = some ref then t.map (·.hear m) else t := by
  cases m <;> first | rfl | exact absurd trivial hm

theorem not_isAnnouncement_of_subject? {m : NodeMessage} {ch : ActorRef}
    (h : subject? m = some ch) : ¬ IsAnnouncement m := by
  cases m <;> first | exact id | cases h

theorem Shows.put {s : State} {ref ch : ActorRef} {c : LocalChannel} {t : Option Told} {t' : Told}
    (h : Shows (s.channel? ref) t) (hc : ch = ref → c.figures = t'.figures) :
    Shows ((s.put ch c).channel? ref) (if ch = ref then some t' else t) := by
  rw [channel?_put]
  by_cases he : ch = ref
  · rw [if_pos he, if_pos he.symm]
    exact .mk (hc he)
  · rw [if_neg he, if_neg (Ne.symm he)]
    exact h

/-- **One message: every record shows what was told of its channel.** -/
theorem Shows.step {s s' : State} {now : Date} {m : NodeMessage} {told : ActorRef → Option Told}
    (hs : ∀ ref, Shows (s.channel? ref) (told ref)) (h : ChannelStep s now m s') (ref : ActorRef) :
    Shows (s'.channel? ref) (tell ref m (told ref)) := by
  have href := hs ref
  cases h with
  | ignored hm hsub =>
    rw [tell_of_not_announcement hm]
    split
    · next he =>
      rw [hsub ref he] at href ⊢
      rw [href.none_left]
      rfl
    · exact href
  | created ch id node isFunder =>
    refine href.put fun he => ?_
    subst he
    exact figures_getOrCreate href now
  | restoredNew ch id node isFunder k _ =>
    refine href.put fun he => ?_
    subst he
    exact figures_restored href id node isFunder k now
  | restoredOld ch id node isFunder k owner d _ =>
    refine href.put fun he => ?_
    subst he
    exact figures_restored href id node isFunder k now
  | @changed m ch c hsub hc _ =>
    rw [tell_of_not_announcement (not_isAnnouncement_of_subject? hsub), hsub, channel?_put]
    by_cases he : ref = ch
    · subst he
      rw [hc] at href
      obtain ⟨t, ht, hf⟩ := href.some_left
      simp only [if_true, ht]
      exact .mk (figures_updated hf m)
    · simpa [he, Ne.symm he] using href
  | @saved m ch c hsub hc _ =>
    rw [tell_of_not_announcement (not_isAnnouncement_of_subject? hsub), hsub, channel?_save]
    by_cases he : ref = ch
    · subst he
      rw [hc] at href
      obtain ⟨t, ht, hf⟩ := href.some_left
      simp only [if_true, ht]
      exact .mk ((figures_savedRecord s _ now).trans (figures_updated hf m))
    · simpa [he, Ne.symm he] using href
  | @terminated ch c hc =>
    rw [channel?_remove]
    by_cases he : ref = ch
    · subst he
      simp only [tell, if_true]
      rfl
    · rw [if_neg he]
      simp only [tell, if_neg (Ne.symm he)]
      rcases channel?_channelTerminated s now c.channelId ref with hr | ⟨d, hd, -, hr⟩
      · rwa [hr]
      · rw [hd] at href
        obtain ⟨t, ht, hf⟩ := href.some_left
        rw [hr, ht]
        exact .mk ((figures_savedRecord s _ now).trans hf)
  | @unknown ch hc =>
    rw [channel?_remove]
    by_cases he : ref = ch
    · subst he
      simp only [tell, if_true]
      rfl
    · simpa [tell, he, Ne.symm he] using href

/-! ### Any messages -/

/-- **After any messages every record shows what was told of its channel.** -/
theorem shows_afterAll (db : DBHelper) (ms : List (NodeMessage × Date)) (ref : ActorRef) :
    Shows ((afterAll (.start db) ms).channel? ref) (toldBy ref ms) := by
  have key : ∀ (ms : List (NodeMessage × Date)) (s : State) (told : ActorRef → Option Told),
      (∀ ref, Shows (s.channel? ref) (told ref)) →
      ∀ ref, Shows ((afterAll s ms).channel? ref)
        (ms.foldl (fun t m => tell ref m.1 t) (told ref)) := by
    intro ms
    induction ms with
    | nil => exact fun s told hs => hs
    | cons m ms ih =>
      intro s told hs ref
      refine ih (onReceive s m.1 m.2).1 (fun ref => tell ref m.1 (told ref)) (fun ref => ?_) ref
      exact Shows.step (s := s.channels) hs (step_onReceive s m.2 m.1) ref
  exact key ms (.start db) (fun _ => none) (fun _ => rfl) ref

/-- All figures of every active channel come from the commitments of the last message that carries
them, and the balance of the wallet is the sum of the local balances in these commitments over the
channels whose funds are accounted for. -/
def FiguresOfLatest (s : State) (ms : List (NodeMessage × Date)) : Prop :=
  (∀ ref c, s.channel? ref = some c →
    c.figures = Figures.of ((toldBy ref ms).bind Told.latest)) ∧
  getChannelsBalance s.activeChannelsMap =
    (s.activeChannelsMap.entries.map fun e =>
      if e.2.fundsAreAccountedFor then
        (Figures.of ((toldBy e.1 ms).bind Told.latest)).balanceMsat
      else 0).sum

/-- **The figures are those of the last commitments exactly if no `ChannelRestored` that came last
brought another balance or capacity than the record had.** -/
theorem figuresOfLatest_iff (db : DBHelper) (ms : List (NodeMessage × Date)) :
    FiguresOfLatest (afterAll (.start db) ms) ms ↔
      ∀ ref t, toldBy ref ms = some t → t.Consistent := by
  have hshows := shows_afterAll db ms
  constructor
  · rintro ⟨hall, -⟩ ref t ht
    have href := hshows ref
    rw [ht] at href
    obtain ⟨c, hc, hf⟩ := Option.map_eq_some_iff.mp href
    have hlatest := hall ref c hc
    rw [ht] at hlatest
    exact t.figures_eq_iff.mp (hf.symm.trans hlatest)
  · intro hcons
    have hall : ∀ ref c, (afterAll (.start db) ms).channel? ref = some c →
        c.figures = Figures.of ((toldBy ref ms).bind Told.latest) := by
      intro ref c hc
      have href := hshows ref
      rw [hc] at href
      obtain ⟨t, ht, hf⟩ := href.some_left
      rw [ht]
      exact hf.trans (t.figures_eq_iff.mpr (hcons ref t ht))
    refine ⟨hall, ?_⟩
    unfold getChannelsBalance
    congr 1
    refine List.map_congr_left fun e he => ?_
    rw [← hall e.1 e.2 (AList.mem_lookup_iff.mpr he)]
    rfl

/-- Commitments with these balances, and with the HTLCs given. -/
def sampleCommitments (toLocal totalFunds : ℤ) (htlcs : List DirectedHtlc) : Commitments :=
  ⟨⟨htlcs, toLocal, totalFunds⟩, none, 0, 0, 144, "02", 144, "tx", toLocal⟩

/-- A channel that has just been restored shows no balance and no capacity. -/
theorem not_figuresOfLatest : ¬ ∀ (db : DBHelper) (ms : List (NodeMessage × Date)),
    FiguresOfLatest (afterAll (.start db) ms) ms := by
  intro h
  have hcons := (figuresOfLatest_iff .empty
    [(.channelRestored "ch" "id" "node" true (sampleCommitments 600 1000 []), 1)]).mp
      (h .empty _) "ch" ⟨some (sampleCommitments 600 1000 []), none⟩ rfl
  exact absurd hcons (by decide)

end NodeSupervisor

end EclairMobile
