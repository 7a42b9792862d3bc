import EclairMobile.App
import EclairMobile.Channels.Attached

/-!
# The end of a channel

In one process, if every actor announces itself first, different actors get different ids and no
channel reports a capacity of zero after a positive one, the map and the table stay in step: a
channel with a reported capacity has one active row under its last id until `Terminated` is handled,
and from then on this row is inactive, keeps the last balance, and nothing brings the channel back
(`kept_after`).  `Record` says what holds of one record, and `Inv` of all of them.
-/

namespace EclairMobile

open Lib

namespace NodeSupervisor

/-- Messages in the order in which they are handled, each with its time. -/
abbrev Messages := List (NodeMessage × Date)

/-! ### What the messages say -/

/-- The actor that a message announces. -/
def announces? : NodeMessage → Option ActorRef
  | .channelCreated ch _ _ _ => some ch
  | .channelRestored ch _ _ _ _ => some ch
  | _ => none

/-- The commitments of a message from which the supervisor takes the capacity. -/
def reports? : NodeMessage → Option (ActorRef × Commitments)
  | .channelSignatureReceived ch k => some (ch, k)
  | .channelStateChanged ch _ _ data => data.commitments?.map fun k => (ch, k)
  | _ => none

/-- The message is a `ChannelStateChanged` that reports a positive capacity of the channel. -/
def StateWithCapacity (ref : ActorRef) (m : NodeMessage) : Prop :=
  ∃ previous current data k, m = .channelStateChanged ref previous current data ∧
    data.commitments? = some k ∧ 0 < k.localCommit.totalFunds

section Histories

variable (ref : ActorRef) (ms : Messages)

def Announced : Prop := ∃ m ∈ ms, announces? m.1 = some ref

def Ended : Prop := ∃ m ∈ ms, m.1 = .terminated ref

/-- The channel is announced and has reported a positive capacity. -/
def Reported : Prop := Announced ref ms ∧ ∃ m ∈ ms, StateWithCapacity ref m.1

/-- The channel id that a message leaves to an actor. -/
def nextId (id : Option String) (m : NodeMessage) : Option String :=
  match gives? m with
  | some (ch, x) => if ch = ref then some x else id
  | none => id

/-- The last channel id that was given to an actor. -/
def lastId : Option String := ms.foldl (fun id m => nextId ref id m.1) none

end Histories

/-- An actor announces itself once, before its other messages. -/
def AnnouncedFirst (ms : Messages) : Prop :=
  ms.Pairwise fun m m' => ∀ ref, announces? m'.1 = some ref → about? m.1 ≠ some ref

/-- Different actors get different channel ids. -/
def IdsDiffer (ms : Messages) : Prop :=
  ∀ m ∈ ms, ∀ m' ∈ ms, ∀ ref ref' id, gives? m.1 = some (ref, id) →
    gives? m'.1 = some (ref', id) → ref = ref'

/-- No channel reports a capacity of zero after a positive one. -/
def CapacityStays (ms : Messages) : Prop :=
  ms.Pairwise fun m m' => ∀ ref k k', reports? m.1 = some (ref, k) →
    reports? m'.1 = some (ref, k') → 0 < k.localCommit.totalFunds → 0 < k'.localCommit.totalFunds

/-! ### What is to hold -/

/-- The table has exactly one row of the id, this one. -/
def OneRow (db : DBHelper) (id : Option String) (row : LocalChannel) : Prop :=
  db.localChannels.rows.filter (fun q => q.channelId = id) = [row]

/-- Until its end a channel is in the map and has one active row. -/
def ActiveUntilEnd (s : State) (ms : Messages) : Prop :=
  ∀ ref, Reported ref ms → ¬ Ended ref ms →
    s.channelId? ref = some (lastId ref ms) ∧
      ∃ row, OneRow s.dbHelper (lastId ref ms) row ∧ row.isActive = true

/-- A channel that has ended is not in the map, and has one inactive row with the last balance that
was known of it. -/
def InactiveAfterEnd (db : DBHelper) (ms : Messages) : Prop :=
  ∀ pre now post ref, ms = pre ++ (.terminated ref, now) :: post →
    Reported ref pre → ¬ Ended ref pre →
    let s := afterAll (.start db) ms
    s.channel? ref = none ∧ (∀ r, s.channelId? r ≠ some (lastId ref pre)) ∧
      ∃ c row, (afterAll (.start db) pre).channel? ref = some c ∧
        OneRow s.dbHelper (lastId ref pre) row ∧ row.isActive = false ∧
        row.balanceMsat = c.balanceMsat

/-- Both, after the messages of one process. -/
def Kept (db : DBHelper) (ms : Messages) : Prop :=
  ActiveUntilEnd (afterAll (.start (App.restart db)) ms) ms ∧ InactiveAfterEnd (App.restart db) ms

/-! ### Histories that grow -/

section Append

variable {ref : ActorRef} {ms : Messages} {m : NodeMessage × Date}

theorem announced_append : Announced ref (ms ++ [m]) ↔
    Announced ref ms ∨ announces? m.1 = some ref := by
  unfold Announced
  simp only [List.mem_append, List.mem_singleton, or_and_right, exists_or, exists_eq_left]

theorem ended_append : Ended ref (ms ++ [m]) ↔ Ended ref ms ∨ m.1 = .terminated ref := by
  unfold Ended
  simp only [List.mem_append, List.mem_singleton, or_and_right, exists_or, exists_eq_left]

theorem lastId_append : lastId ref (ms ++ [m]) = nextId ref (lastId ref ms) m.1 := by
  unfold lastId
  rw [List.foldl_append]
  rfl

theorem about?_of_announces? {m : NodeMessage} (h : announces? m = some ref) :
    about? m = some ref := by
  cases m with
  | channelCreated => exact h
  | channelRestored => exact h
  | _ => cases h

theorem about?_of_stateWithCapacity {m : NodeMessage} (h : StateWithCapacity ref m) :
    about? m = some ref := by
  obtain ⟨_, _, _, _, rfl, -, -⟩ := h
  rfl

theorem nextId_of_about?_ne {m : NodeMessage} (h : about? m ≠ some ref) (id : Option String) :
    nextId ref id m = id := by
  unfold nextId
  split
  · next ch x hg =>
    rw [if_neg]
    rintro rfl
    exact h (about?_of_gives? hg)
  · rfl

/-- The last id of an actor was given to it. -/
theorem given_of_lastId {x : String} (h : lastId ref ms = some x) :
    ∃ m ∈ ms, gives? m.1 = some (ref, x) := by
  induction ms using List.reverseRecOn with
  | nil => cases h
  | append_singleton ms m ih =>
    rw [lastId_append] at h
    unfold nextId at h
    split at h
    · next ch y hg =>
      split at h
      · next he =>
        cases h
        exact ⟨m, by simp, he ▸ hg⟩
      · obtain ⟨m', hm', hg'⟩ := ih h
        exact ⟨m', by simp [hm'], hg'⟩
    · obtain ⟨m', hm', hg'⟩ := ih h
      exact ⟨m', by simp [hm'], hg'⟩

end Append

theorem oneRow_of_channelRow {db : DBHelper} {id : Option String} {row : LocalChannel}
    (h : db.channelRow id = some row) : OneRow db id row := by
  have hmem : row ∈ db.localChannels.rows.filter fun q => q.channelId = id :=
    List.mem_filter.mpr ⟨Table.mem_of_get? h, by simpa using channelId_of_channelRow h⟩
  have hle := db.localChannels.length_filter_key_le id
  have heq : (db.localChannels.rows.filter fun q => q.channelId = id).length = 1 :=
    le_antisymm hle (List.length_pos_of_mem hmem)
  obtain ⟨q, hq⟩ := List.length_eq_one_iff.mp heq
  rw [hq] at hmem
  rw [List.mem_singleton.mp hmem]
  exact hq

/-! ### The record of a channel -/

theorem reports?_of_stateWithCapacity {ref : ActorRef} {m : NodeMessage}
    (h : StateWithCapacity ref m) :
    ∃ k, reports? m = some (ref, k) ∧ 0 < k.localCommit.totalFunds := by
  obtain ⟨previous, current, data, k, rfl, hk, hpos⟩ := h
  refine ⟨k, ?_, hpos⟩
  simp only [reports?, hk, Option.map_some]

/-- The capacity of a record changes with the commitments that are reported, and only with them. -/
theorem capacity_updated (c : LocalChannel) (m : NodeMessage) :
    (reports? m = none ∧ (updated c m).capacityMsat = c.capacityMsat) ∨
      ∃ ref k, reports? m = some (ref, k) ∧ subject? m = some ref ∧
        (updated c m).capacityMsat = k.localCommit.totalFunds := by
  cases m with
  | channelSignatureReceived ch k => exact Or.inr ⟨ch, k, rfl, rfl, rfl⟩
  | channelStateChanged ch previous current data =>
    cases data with
    | closing d k => exact Or.inr ⟨ch, k, rfl, rfl, rfl⟩
    | hasCommitments k => exact Or.inr ⟨ch, k, rfl, rfl, rfl⟩
    | other => exact Or.inl ⟨rfl, rfl⟩
  | localChannelUpdate ch update => cases update <;> exact Or.inl ⟨rfl, rfl⟩
  | _ => exact Or.inl ⟨rfl, rfl⟩

/-- What holds of the record `c` of an actor after the messages `ms`. -/
structure Record (ms : Messages) (s : State) (ref : ActorRef) (c : LocalChannel) : Prop where
  announced : Announced ref ms
  notEnded : ¬ Ended ref ms
  id : c.channelId = lastId ref ms
  hasId : ∃ x, lastId ref ms = some x
  active : c.isActive = true
  reported : 0 < c.capacityMsat →
    ∃ m ∈ ms, ∃ k, reports? m.1 = some (ref, k) ∧ 0 < k.localCommit.totalFunds
  positive : c.id ≠ none → 0 < c.capacityMsat
  saved : Reported ref ms → c.id ≠ none
  rowActive : c.id ≠ none → ∃ row, s.dbHelper.channelRow c.channelId = some row ∧
    row.isActive = true
  owned : ∀ i, c.id = some i → s.dbHelper.identityScope i = some ref

/-- What holds after the messages `ms`. -/
structure Inv (ms : Messages) (s : State) : Prop where
  attached : Attached s
  scope : ∀ i ref, s.dbHelper.identityScope i = some ref → Announced ref ms
  known : ∀ ref, Announced ref ms → ¬ Ended ref ms → ∃ c, s.channel? ref = some c
  record : ∀ ref c, s.channel? ref = some c → Record ms s ref c

theorem inv_start (db : DBHelper) (h : ∀ i, db.identityScope i = none) : Inv [] (.start db) where
  attached := .start db
  scope i ref hs := by
    rw [show (State.start db).dbHelper.identityScope i = none from h i] at hs
    cases hs
  known ref h := by
    obtain ⟨m, hm, -⟩ := h
    cases hm
  record ref c hc := by
    rw [channel?_start] at hc
    cases hc

section Step

variable {ms : Messages} {s s' : State} {m : NodeMessage} {now : Date}

/-- Histories that the process may have. -/
structure Proper (ms : Messages) : Prop where
  announcedFirst : AnnouncedFirst ms
  idsDiffer : IdsDiffer ms
  capacityStays : CapacityStays ms

theorem Proper.init {a : NodeMessage × Date} (h : Proper (ms ++ [a])) : Proper ms where
  announcedFirst := (List.pairwise_append.mp h.announcedFirst).1
  idsDiffer _ hm _ hm' := h.idsDiffer _ (List.mem_append_left _ hm) _ (List.mem_append_left _ hm')
  capacityStays := (List.pairwise_append.mp h.capacityStays).1

theorem Proper.not_announced (h : Proper (ms ++ [(m, now)])) {ref : ActorRef}
    (hm : announces? m = some ref) {a : NodeMessage × Date} (ha : a ∈ ms) : about? a.1 ≠ some ref :=
  (List.pairwise_append.mp h.announcedFirst).2.2 a ha (m, now) (List.mem_singleton.mpr rfl) ref hm

theorem Inv.announces (h : Inv ms s) (hp : Proper (ms ++ [(m, now)])) : Announces s m := by
  have isAnnouncement : ∀ {ref id}, gives? m = some (ref, id) → IsAnnouncement m →
      announces? m = some ref := by
    intro ref id hg hann
    cases m with
    | channelCreated =>
      cases hg
      rfl
    | channelRestored =>
      cases hg
      rfl
    | terminated => cases hg
    | _ => exact False.elim hann
  refine ⟨?_, ?_, ?_⟩
  · intro ref id hg r hr
    obtain ⟨c, hc, hid⟩ := channelId?_eq_some_iff.mp hr
    have hrec := h.record r c hc
    obtain ⟨a, ha, hga⟩ := given_of_lastId (hrec.id ▸ hid)
    exact hp.idsDiffer a (List.mem_append_left _ ha) (m, now) (by simp) r ref id hga hg
  · intro ref id hg hann
    have hnew := isAnnouncement hg hann
    right
    constructor
    · cases hc : s.channel? ref with
      | none => rfl
      | some c =>
        obtain ⟨a, ha, haa⟩ := (h.record ref c hc).announced
        exact absurd (about?_of_announces? haa) (hp.not_announced hnew ha)
    · intro i hs
      obtain ⟨a, ha, haa⟩ := h.scope i ref hs
      exact absurd (about?_of_announces? haa) (hp.not_announced hnew ha)
  · intro ref id c _ _ hc _
    by_cases hid : c.id = none
    · exact Or.inl hid
    · exact Or.inr ((h.record ref c hc).positive hid)

theorem Record.keep {ref : ActorRef} {c : LocalChannel} (h : Record ms s ref c)
    (hnext : nextId ref (lastId ref ms) m = lastId ref ms) (hend : m ≠ .terminated ref)
    (hcap : ¬ StateWithCapacity ref m)
    (hrow : s'.dbHelper.channelRow c.channelId = s.dbHelper.channelRow c.channelId)
    (hscope : ∀ i, c.id = some i →
      s'.dbHelper.identityScope i = s.dbHelper.identityScope i) :
    Record (ms ++ [(m, now)]) s' ref c := by
  have hlast : lastId ref (ms ++ [(m, now)]) = lastId ref ms := lastId_append.trans hnext
  refine ⟨announced_append.mpr (Or.inl h.announced), ?_, hlast ▸ h.id, hlast ▸ h.hasId, h.active,
    ?_, h.positive, ?_, ?_, ?_⟩
  · rw [ended_append]
    rintro (he | he)
    · exact h.notEnded he
    · exact hend he
  · intro hpos
    obtain ⟨a, ha, k, hk⟩ := h.reported hpos
    exact ⟨a, List.mem_append_left _ ha, k, hk⟩
  · rintro ⟨-, a, ha, hrep⟩
    rcases List.mem_append.mp ha with ha | ha
    · exact h.saved ⟨h.announced, a, ha, hrep⟩
    · rw [List.mem_singleton.mp ha] at hrep
      exact absurd hrep hcap
  · rw [hrow]
    exact h.rowActive
  · intro i hi
    rw [hscope i hi]
    exact h.owned i hi

theorem Record.other {ref : ActorRef} {c : LocalChannel} (h : Record ms s ref c)
    (hatt : Attached s) (hd : Distinct s') (hstep : ChannelStep s now m s')
    (hc : s.channel? ref = some c) (hm : about? m ≠ some ref) :
    Record (ms ++ [(m, now)]) s' ref c := by
  have hc' : s'.channel? ref = some c := by rw [hatt.channel?_step hstep hm, hc]
  have hrow : s'.dbHelper.channelRow c.channelId = s.dbHelper.channelRow c.channelId := by
    refine hatt.channelRow_step hstep fun ch hch => ⟨fun he => ?_, fun he => ?_⟩
    · have hrc := hatt.distinct ref ch _ (channelId?_eq_some_iff.mpr ⟨c, hc, rfl⟩) he
      exact hm (hrc ▸ hch)
    · have hrc := hd ref ch _ (channelId?_eq_some_iff.mpr ⟨c, hc', rfl⟩) he
      exact hm (hrc ▸ hch)
  refine h.keep (nextId_of_about?_ne hm _) ?_ ?_ hrow
    fun i hi => hatt.identityScope_step hstep hm hc hi
  · rintro rfl
    exact hm rfl
  · exact fun hcap => hm (about?_of_stateWithCapacity hcap)

/-- A record of the actor of a message that the supervisor does not follow up. -/
theorem Record.ignored {ref : ActorRef} {c : LocalChannel} (h : Record ms s ref c)
    (hm : ¬ IsAnnouncement m) (hsub : subject? m ≠ some ref) :
    Record (ms ++ [(m, now)]) s ref c := by
  refine h.keep ?_ ?_ ?_ rfl fun _ _ => rfl
  · unfold nextId
    split
    · next ch x hg =>
      rw [if_neg]
      rintro rfl
      cases m with
      | channelIdAssigned ch id =>
        cases hg
        exact hsub rfl
      | channelCreated => exact hm trivial
      | channelRestored => exact hm trivial
      | _ => cases hg
    · rfl
  · rintro rfl
    exact hm trivial
  · rintro ⟨_, _, _, _, rfl, -, -⟩
    exact hsub rfl

theorem Record.new {ref : ActorRef} {c : LocalChannel} (hann : announces? m = some ref)
    (hp : Proper (ms ++ [(m, now)])) {x : String} (hg : gives? m = some (ref, x))
    (hkey : c.channelId = some x) (hid : c.id = none) (hactive : c.isActive = true)
    (hcap : c.capacityMsat = 0) : Record (ms ++ [(m, now)]) s' ref c := by
  have hlast : lastId ref (ms ++ [(m, now)]) = some x := by
    rw [lastId_append]
    unfold nextId
    rw [hg]
    exact if_pos rfl
  have hnocap : ∀ a ∈ ms ++ [(m, now)], ¬ StateWithCapacity ref a.1 := by
    intro a ha hrep
    rcases List.mem_append.mp ha with ha | ha
    · exact hp.not_announced hann ha (about?_of_stateWithCapacity hrep)
    · rw [List.mem_singleton.mp ha] at hrep
      obtain ⟨_, _, _, _, rfl, -, -⟩ := hrep
      cases hann
  refine ⟨announced_append.mpr (Or.inr hann), ?_, hkey.trans hlast.symm, ⟨x, hlast⟩, hactive, ?_,
    ?_, ?_, ?_, ?_⟩
  · rw [ended_append]
    rintro (⟨a, ha, he⟩ | rfl)
    · refine hp.not_announced hann ha ?_
      rw [he]
      rfl
    · cases hann
  · intro hpos
    rw [hcap] at hpos
    exact absurd hpos (lt_irrefl 0)
  · exact fun h => absurd hid h
  · rintro ⟨-, a, ha, hrep⟩
    exact absurd hrep (hnocap a ha)
  · exact fun h => absurd hid h
  · intro i hi
    rw [hid] at hi
    cases hi

section Subject

variable {ref : ActorRef} {c : LocalChannel}

theorem channelId_updated_eq (hsub : subject? m = some ref) (c : LocalChannel) :
    (updated c m).channelId = nextId ref c.channelId m := by
  by_cases hg : ∃ x, gives? m = some (ref, x)
  · obtain ⟨x, hx⟩ := hg
    obtain ⟨-, rfl⟩ := subject?_of_gives? hsub hx
    unfold nextId
    rw [hx]
    exact (if_pos rfl).symm
  · have hnone : gives? m = none := by
      cases hm : gives? m with
      | none => rfl
      | some given =>
        obtain ⟨rfl, -⟩ := subject?_of_gives? hsub (r := given.1) (x := given.2) hm
        exact absurd ⟨given.2, hm⟩ hg
    unfold nextId
    rw [hnone]
    rcases (leaves_updated c m).channelId with hid | ⟨_, _, rfl⟩
    · exact hid
    · cases hnone

theorem not_ended_of_subject? (hsub : subject? m = some ref) (h : ¬ Ended ref ms) :
    ¬ Ended ref (ms ++ [(m, now)]) := by
  rw [ended_append]
  rintro (he | rfl)
  · exact h he
  · cases hsub

theorem Record.positive_updated (h : Record ms s ref c) (hp : Proper (ms ++ [(m, now)]))
    (hsub : subject? m = some ref) (hid : c.id ≠ none) : 0 < (updated c m).capacityMsat := by
  have hpos := h.positive hid
  rcases capacity_updated c m with ⟨-, he⟩ | ⟨ref', k', hk', hsub', he⟩
  · rw [he]
    exact hpos
  · cases Option.some.inj (hsub'.symm.trans hsub)
    rw [he]
    obtain ⟨a, ha, k, hk, hkpos⟩ := h.reported hpos
    exact (List.pairwise_append.mp hp.capacityStays).2.2 a ha (m, now) (List.mem_singleton.mpr rfl)
      ref k k' hk hk' hkpos

theorem Record.reported_updated (h : Record ms s ref c) (hsub : subject? m = some ref)
    (hpos : 0 < (updated c m).capacityMsat) :
    ∃ a ∈ ms ++ [(m, now)], ∃ k, reports? a.1 = some (ref, k) ∧ 0 < k.localCommit.totalFunds := by
  rcases capacity_updated c m with ⟨-, he⟩ | ⟨ref', k, hk, hsub', he⟩
  · obtain ⟨a, ha, k, hk⟩ := h.reported (he ▸ hpos)
    exact ⟨a, List.mem_append_left _ ha, k, hk⟩
  · cases Option.some.inj (hsub'.symm.trans hsub)
    exact ⟨(m, now), by simp, k, hk, he ▸ hpos⟩

theorem positive_of_stateWithCapacity (h : StateWithCapacity ref m) (c : LocalChannel) :
    0 < (updated c m).capacityMsat := by
  obtain ⟨k, hk, hpos⟩ := reports?_of_stateWithCapacity h
  rcases capacity_updated c m with ⟨hnone, -⟩ | ⟨ref', k', hk', -, he⟩
  · rw [hk] at hnone
    cases hnone
  · rw [hk] at hk'
    cases hk'
    rw [he]
    exact hpos

theorem reported_append (h : Reported ref (ms ++ [(m, now)])) (hann : Announced ref ms) :
    Reported ref ms ∨ StateWithCapacity ref m := by
  obtain ⟨-, a, ha, hcap⟩ := h
  rcases List.mem_append.mp ha with ha | ha
  · exact Or.inl ⟨hann, a, ha, hcap⟩
  · rw [List.mem_singleton.mp ha] at hcap
    exact Or.inr hcap

theorem saves_of_stateWithCapacity (h : StateWithCapacity ref m) : saves m = true := by
  obtain ⟨_, _, _, _, rfl, -, -⟩ := h
  rfl

theorem Record.changed (h : Record ms s ref c) (hp : Proper (ms ++ [(m, now)]))
    (hsub : subject? m = some ref) (hsaves : saves m = false) :
    Record (ms ++ [(m, now)]) (s.put ref (updated c m)) ref (updated c m) := by
  have hkey : (updated c m).channelId = c.channelId := by
    rcases (leaves_updated c m).channelId with hid | ⟨_, _, rfl⟩
    · exact hid
    · cases hsaves
  have hlast : lastId ref (ms ++ [(m, now)]) = lastId ref ms := by
    rw [lastId_append, ← h.id, ← channelId_updated_eq hsub c, hkey]
  refine ⟨announced_append.mpr (Or.inl h.announced), not_ended_of_subject? hsub h.notEnded, ?_,
    hlast ▸ h.hasId, (leaves_updated c m).isActive.trans h.active, h.reported_updated hsub, ?_, ?_,
    ?_, ?_⟩
  · rw [hlast, hkey, h.id]
  · rw [id_updated]
    exact h.positive_updated hp hsub
  · intro hrep
    rw [id_updated]
    rcases reported_append hrep h.announced with hold | hcap
    · exact h.saved hold
    · rw [saves_of_stateWithCapacity hcap] at hsaves
      cases hsaves
  · rw [id_updated, hkey]
    exact h.rowActive
  · rw [id_updated]
    exact h.owned

theorem Record.save (h : Record ms s ref c) (hp : Proper (ms ++ [(m, now)]))
    (hsub : subject? m = some ref) :
    Record (ms ++ [(m, now)]) (s.save ref (updated c m) now) ref
      (s.savedRecord (updated c m) now) := by
  have hlast : lastId ref (ms ++ [(m, now)]) = (updated c m).channelId := by
    rw [lastId_append, ← h.id, ← channelId_updated_eq hsub c]
  have hhasId : ∃ x, lastId ref (ms ++ [(m, now)]) = some x := by
    obtain ⟨x, hx⟩ := h.hasId
    rw [lastId_append, hx]
    unfold nextId
    split
    · split
      · exact ⟨_, rfl⟩
      · exact ⟨x, rfl⟩
    · exact ⟨x, rfl⟩
  have hactive : (updated c m).isActive = true := (leaves_updated c m).isActive.trans h.active
  refine ⟨announced_append.mpr (Or.inl h.announced), not_ended_of_subject? hsub h.notEnded, ?_,
    hhasId, ?_, ?_, ?_, ?_, ?_, ?_⟩
  · rw [savedRecord_channelId, hlast]
  · rw [savedRecord_isActive, hactive]
  · rw [savedRecord_capacityMsat]
    exact h.reported_updated hsub
  · intro hid
    rw [savedRecord_capacityMsat]
    by_contra hpos
    rw [savedRecord_of_not_pos hpos, id_updated] at hid
    exact hpos (h.positive_updated hp hsub hid)
  · intro hrep
    have hpos : 0 < (updated c m).capacityMsat := by
      rcases reported_append hrep h.announced with hold | hcap
      · exact h.positive_updated hp hsub (h.saved hold)
      · exact positive_of_stateWithCapacity hcap c
    obtain ⟨i, hi, -⟩ := savedRecord_of_pos hpos s ref now
    rw [hi]
    exact Option.some_ne_none i
  · intro hid
    have hpos : 0 < (updated c m).capacityMsat := by
      by_contra hpos
      rw [savedRecord_of_not_pos hpos, id_updated] at hid
      exact hpos (h.positive_updated hp hsub hid)
    obtain ⟨i, -, hrow, -⟩ := savedRecord_of_pos hpos s ref now
    rw [savedRecord_channelId]
    exact ⟨_, hrow, (savedRecord_isActive ..).trans hactive⟩
  · intro j hj
    have hpos : 0 < (updated c m).capacityMsat := by
      by_contra hpos
      rw [savedRecord_of_not_pos hpos, id_updated] at hj
      exact hpos (h.positive_updated hp hsub (by rw [hj]; exact Option.some_ne_none j))
    obtain ⟨i, hi, -, hscope⟩ := savedRecord_of_pos hpos s ref now
    rw [hi] at hj
    cases hj
    exact hscope

end Subject

/-- A record stays in the map until its actor has terminated. -/
theorem channel?_of_ne_terminated (hstep : ChannelStep s now m s') {ref : ActorRef}
    {c : LocalChannel} (hc : s.channel? ref = some c) (hm : m ≠ .terminated ref) :
    ∃ c', s'.channel? ref = some c' := by
  have put : ∀ {s : State} (ch : ActorRef) (d : LocalChannel), s.channel? ref = some c →
      ∃ c', (s.put ch d).channel? ref = some c' := by
    intro s ch d hc
    rw [channel?_put]
    split
    · exact ⟨d, rfl⟩
    · exact ⟨c, hc⟩
  cases hstep with
  | ignored => exact ⟨c, hc⟩
  | created ch => exact put ch _ hc
  | restoredNew ch => exact put ch _ hc
  | restoredOld ch => exact put ch _ hc
  | @changed m ch => exact put ch _ hc
  | @saved m ch => exact put ch _ hc
  | @terminated ch d =>
    rw [channel?_remove, if_neg fun he => hm (congrArg _ he.symm)]
    rcases channel?_channelTerminated s now d.channelId ref with hr | ⟨e, -, -, hr⟩
    · exact ⟨c, hr.trans hc⟩
    · exact ⟨_, hr⟩
  | @unknown ch =>
    rw [channel?_remove, if_neg fun he => hm (congrArg _ he.symm)]
    exact ⟨c, hc⟩

theorem announces?_eq_none (hm : ¬ IsAnnouncement m) : announces? m = none := by
  cases m <;> first | rfl | exact False.elim (hm trivial)

theorem announces?_of_subject? {ch : ActorRef} (hsub : subject? m = some ch) :
    announces? m = none := by
  cases m <;> first | rfl | cases hsub

theorem new_of_announces? (hstep : ChannelStep s now m s') {ref : ActorRef}
    (hann : announces? m = some ref) (hnone : s.channel? ref = none) :
    ∃ c x, s'.channel? ref = some c ∧ gives? m = some (ref, x) ∧ c.channelId = some x ∧
      c.id = none ∧ c.isActive = true ∧ c.capacityMsat = 0 := by
  have hnew : s.getOrCreateChannel ref now = LocalChannel.new now := by
    unfold State.getOrCreateChannel
    rw [hnone]
    rfl
  cases hstep with
  | ignored hnot =>
    rw [announces?_eq_none hnot] at hann
    cases hann
  | created ch id node isFunder =>
    cases hann
    refine ⟨_, id, (channel?_put ..).trans (if_pos rfl), rfl, rfl, ?_⟩
    unfold announced
    rw [hnew]
    exact ⟨rfl, rfl, rfl⟩
  | restoredNew ch id node isFunder k _ =>
    cases hann
    refine ⟨_, id, (channel?_put ..).trans (if_pos rfl), rfl, rfl, ?_⟩
    unfold restored announced
    rw [hnew]
    exact ⟨rfl, rfl, rfl⟩
  | restoredOld ch id node isFunder k owner d _ =>
    cases hann
    refine ⟨_, id, (channel?_put ..).trans (if_pos rfl), rfl, rfl, ?_⟩
    unfold withOnceSent restored announced
    rw [hnew]
    exact ⟨rfl, rfl, rfl⟩
  | changed hsub =>
    rw [announces?_of_subject? hsub] at hann
    cases hann
  | saved hsub =>
    rw [announces?_of_subject? hsub] at hann
    cases hann
  | terminated => cases hann
  | unknown => cases hann

/-- **One message keeps the map and the table in step.** -/
theorem Inv.step (h : Inv ms s) (hp : Proper (ms ++ [(m, now)])) (hstep : ChannelStep s now m s') :
    Inv (ms ++ [(m, now)]) s' := by
  have hatt := h.attached.step (h.announces hp) hstep
  have unknown : ∀ {ref}, announces? m = some ref → s.channel? ref = none := by
    intro ref hann
    cases hc : s.channel? ref with
    | none => rfl
    | some c =>
      obtain ⟨a, ha, haa⟩ := (h.record ref c hc).announced
      exact absurd (about?_of_announces? haa) (hp.not_announced hann ha)
  refine ⟨hatt, ?_, ?_, ?_⟩
  · intro i ref hs
    rcases h.attached.scope_step hstep hs with hold | ⟨c, hc⟩
    · exact announced_append.mpr (Or.inl (h.scope i ref hold))
    · exact announced_append.mpr (Or.inl (h.record ref c hc).announced)
  · intro ref hann hend
    rw [ended_append, not_or] at hend
    rcases announced_append.mp hann with hann | hann
    · obtain ⟨c, hc⟩ := h.known ref hann hend.1
      exact channel?_of_ne_terminated hstep hc hend.2
    · obtain ⟨c, -, hc, -⟩ := new_of_announces? hstep hann (unknown hann)
      exact ⟨c, hc⟩
  · intro ref c' hc'
    by_cases hm : about? m = some ref
    · by_cases hann : announces? m = some ref
      · obtain ⟨c, x, hc, hg, hkey, hid, hactive, hcap⟩ :=
          new_of_announces? hstep hann (unknown hann)
        cases hc.symm.trans hc'
        exact .new hann hp hg hkey hid hactive hcap
      · cases hstep with
        | ignored hnot hsub =>
          refine (h.record ref c' hc').ignored hnot fun hs => ?_
          rw [hsub ref hs] at hc'
          cases hc'
        | created => exact absurd hm hann
        | restoredNew => exact absurd hm hann
        | restoredOld => exact absurd hm hann
        | @changed m ch c hsub hc hsaves =>
          cases Option.some.inj (hm.symm.trans (about?_of_subject? hsub))
          rw [channel?_put, if_pos rfl] at hc'
          cases hc'
          exact (h.record ref c hc).changed hp hsub hsaves
        | @saved m ch c hsub hc _ =>
          cases Option.some.inj (hm.symm.trans (about?_of_subject? hsub))
          rw [channel?_save, if_pos rfl] at hc'
          cases hc'
          exact (h.record ref c hc).save hp hsub
        | @terminated ch c hc =>
          cases hm
          rw [channel?_remove, if_pos rfl] at hc'
          cases hc'
        | @unknown ch hc =>
          cases hm
          rw [channel?_remove, if_pos rfl] at hc'
          cases hc'
    · rw [h.attached.channel?_step hstep hm] at hc'
      exact (h.record ref c' hc').other h.attached hatt.distinct hstep hc' hm

end Step

/-! ### A channel that has ended -/

section Gone

variable {ms : Messages} {s s' : State} {m : NodeMessage} {now : Date} {ref : ActorRef}
  {id : Option String} {balance : ℤ}

/-- A channel that has ended under an id, with an inactive row of its last balance. -/
structure Gone (ms : Messages) (s : State) (ref : ActorRef) (id : Option String) (balance : ℤ) :
    Prop where
  ended : Ended ref ms
  given : ∃ x, id = some x ∧ ∃ m ∈ ms, gives? m.1 = some (ref, x)
  row : ∃ row, s.dbHelper.channelRow id = some row ∧ row.isActive = false ∧
    row.balanceMsat = balance

/-- No record carries the id of a channel that has ended. -/
theorem Inv.not_carried (h : Inv ms s) (hp : Proper ms) (hend : Ended ref ms)
    (hgiven : ∃ x, id = some x ∧ ∃ m ∈ ms, gives? m.1 = some (ref, x)) (r : ActorRef) :
    s.channelId? r ≠ some id := by
  intro hr
  obtain ⟨x, rfl, m, hm, hg⟩ := hgiven
  obtain ⟨c, hc, hid⟩ := channelId?_eq_some_iff.mp hr
  have hrec := h.record r c hc
  obtain ⟨m', hm', hg'⟩ := given_of_lastId (hrec.id.symm.trans hid)
  have hrr : r = ref := hp.idsDiffer m' hm' m hm r ref x hg' hg
  subst hrr
  exact hrec.notEnded hend

/-- **A channel that has ended stays so.** -/
theorem Gone.step (hg : Gone ms s ref id balance) (h : Inv ms s) (hp : Proper (ms ++ [(m, now)]))
    (hstep : ChannelStep s now m s') : Gone (ms ++ [(m, now)]) s' ref id balance := by
  have hend : Ended ref (ms ++ [(m, now)]) := ended_append.mpr (Or.inl hg.ended)
  have hgiven : ∃ x, id = some x ∧ ∃ a ∈ ms ++ [(m, now)], gives? a.1 = some (ref, x) := by
    obtain ⟨x, hx, a, ha, hga⟩ := hg.given
    exact ⟨x, hx, a, List.mem_append_left _ ha, hga⟩
  refine ⟨hend, hgiven, ?_⟩
  have hrow : s'.dbHelper.channelRow id = s.dbHelper.channelRow id :=
    h.attached.channelRow_step hstep fun ch _ =>
      ⟨h.not_carried hp.init hg.ended hg.given ch, (h.step hp hstep).not_carried hp hend hgiven ch⟩
  rw [hrow]
  exact hg.row

/-- The end of a channel that has a row. -/
theorem gone_of_terminated (h : Inv ms s) (hrep : Reported ref ms) {c : LocalChannel}
    (hc : s.channel? ref = some c) (hstep : ChannelStep s now (.terminated ref) s') :
    Gone (ms ++ [(.terminated ref, now)]) s' ref (lastId ref ms) c.balanceMsat := by
  have hrec := h.record ref c hc
  have hid := hrec.saved hrep
  obtain ⟨x, hx⟩ := hrec.hasId
  obtain ⟨a, ha, hga⟩ := given_of_lastId hx
  refine ⟨ended_append.mpr (Or.inr rfl), ⟨x, hx, a, List.mem_append_left _ ha, hga⟩, ?_⟩
  rw [← hrec.id]
  obtain ⟨i, hi⟩ := Option.ne_none_iff_exists'.mp hid
  cases hstep with
  | ignored hnot => exact absurd trivial hnot
  | changed hsub => cases hsub
  | saved hsub => cases hsub
  | @terminated ch c' hc' =>
    cases hc.symm.trans hc'
    obtain ⟨row₀, hrow₀, hi₀⟩ := h.attached.rowOf ref c i hc hi
    rcases h.attached.terminated_cases hc now with ⟨hnone, -⟩ | ⟨row, hrow, ⟨-, hfree⟩ | ⟨-, he⟩⟩
    · rw [hnone] at hrow₀
      cases hrow₀
    · -- the record is attached to its row
      cases hrow₀.symm.trans hrow
      exact absurd (hrec.owned i hi) (hfree i hi₀)
    · rw [he]
      obtain ⟨j, -, hrow', -⟩ := savedRecord_of_pos (c := { c with isActive := false })
        (hrec.positive hid) s ref now
      refine ⟨_, hrow', ?_, ?_⟩
      · exact savedRecord_isActive s { c with isActive := false } now
      · exact savedRecord_balanceMsat s { c with isActive := false } now
  | @unknown ch hnone =>
    rw [hc] at hnone
    cases hnone

end Gone

/-! ### Any messages -/

theorem afterAll_append (s : State) (ms : Messages) (m : NodeMessage × Date) :
    afterAll s (ms ++ [m]) = (onReceive (afterAll s ms) m.1 m.2).1 := by
  unfold afterAll
  rw [List.foldl_append]
  rfl

theorem inv_afterAll {db : DBHelper} (hdb : ∀ i, db.identityScope i = none) (ms : Messages)
    (hp : Proper ms) : Inv ms (afterAll (.start db) ms).channels := by
  induction ms using List.reverseRecOn with
  | nil => exact inv_start ⟨.empty, db.localChannels, db.identityScope⟩ hdb
  | append_singleton ms m ih =>
    rw [afterAll_append]
    exact (ih hp.init).step hp (step_onReceive (afterAll (.start db) ms) m.2 m.1)

theorem activeUntilEnd {ms : Messages} {s : State} (h : Inv ms s) : ActiveUntilEnd s ms := by
  intro ref hrep hend
  obtain ⟨c, hc⟩ := h.known ref hrep.1 hend
  have hrec := h.record ref c hc
  obtain ⟨row, hrow, hactive⟩ := hrec.rowActive (hrec.saved hrep)
  rw [hrec.id] at hrow
  exact ⟨channelId?_eq_some_iff.mpr ⟨c, hc, hrec.id⟩, row, oneRow_of_channelRow hrow, hactive⟩

theorem gone_afterAll {db : DBHelper} (hdb : ∀ i, db.identityScope i = none) {pre : Messages}
    {ref : ActorRef} {now : Date} (hrep : Reported ref pre) {c : LocalChannel}
    (hc : (afterAll (.start db) pre).channel? ref = some c) (post : Messages)
    (hp : Proper (pre ++ (.terminated ref, now) :: post)) :
    Gone (pre ++ (.terminated ref, now) :: post)
      (afterAll (.start db) (pre ++ (.terminated ref, now) :: post)).channels ref
      (lastId ref pre) c.balanceMsat := by
  induction post using List.reverseRecOn with
  | nil =>
    have h := inv_afterAll hdb pre hp.init
    rw [afterAll_append]
    exact gone_of_terminated h hrep hc (step_onReceive _ now _)
  | append_singleton post m ih =>
    rw [← List.cons_append, ← List.append_assoc] at hp ⊢
    rw [afterAll_append]
    exact (ih hp.init).step (inv_afterAll hdb _ hp.init) hp (step_onReceive _ m.2 m.1)

/-- **In one process, if every actor announces itself first, ids belong to one actor and capacities
stay positive, a channel is active in the map and the table until it ends, and inactive for good
afterwards.** -/
theorem kept_after (db : DBHelper) (ms : Messages) (hfirst : AnnouncedFirst ms)
    (hids : IdsDiffer ms) (hcap : CapacityStays ms) : Kept db ms := by
  have hdb : ∀ i, (App.restart db).identityScope i = none := fun _ => rfl
  have hp : Proper ms := ⟨hfirst, hids, hcap⟩
  have h := inv_afterAll hdb ms hp
  have hactive := activeUntilEnd h
  refine ⟨hactive, ?_⟩
  rintro pre now post ref rfl hrep hend
  have hpre : Proper pre := by
    refine ⟨(List.pairwise_append.mp hfirst).1, ?_, (List.pairwise_append.mp hcap).1⟩
    exact fun a ha b hb => hids a (List.mem_append_left _ ha) b (List.mem_append_left _ hb)
  obtain ⟨c, hc⟩ := (inv_afterAll hdb pre hpre).known ref hrep.1 hend
  have hg := gone_afterAll hdb hrep hc post hp
  obtain ⟨row, hrow, hinactive, hbalance⟩ := hg.row
  have hout := h.not_carried hp hg.ended hg.given
  refine ⟨?_, hout, c, row, hc, oneRow_of_channelRow hrow, hinactive, hbalance⟩
  cases hs : (afterAll (.start (App.restart db)) (pre ++ (.terminated ref, now) :: post)).channel?
      ref with
  | none => rfl
  | some d => exact absurd hg.ended (h.record ref d hs).notEnded

/-- A state change of a channel that reports this capacity. -/
def stateWith (ref : ActorRef) (totalFunds : ℤ) : NodeMessage :=
  .channelStateChanged ref "OFFLINE" "NORMAL"
    (.hasCommitments ⟨⟨[], 600, totalFunds⟩, none, 0, 0, 0, "", 0, "", 0⟩)

def restoredAs (ref : ActorRef) (id : String) : NodeMessage :=
  .channelRestored ref id "node" true ⟨⟨[], 600, 1000⟩, none, 0, 0, 0, "", 0, "", 0⟩

theorem reported_sample (ref : ActorRef) (id : String) :
    Reported ref [(restoredAs ref id, 1), (stateWith ref 1000, 2)] :=
  ⟨⟨(restoredAs ref id, 1), by simp, rfl⟩, (stateWith ref 1000, 2), by simp, _, _, _, _, rfl, rfl,
    by decide⟩

/-- A channel that is restored, reports its capacity and ends. -/
theorem kept_after_end :
    Kept .empty [(restoredAs "a" "id", 1), (stateWith "a" 1000, 2), (.terminated "a", 3)] := by
  refine kept_after .empty _ ?_ ?_ ?_
  · simp [AnnouncedFirst, restoredAs, stateWith, announces?]
  · simp [IdsDiffer, restoredAs, stateWith, gives?]
  · simp [CapacityStays, restoredAs, stateWith, reports?]

/-- The channel comes back if another actor gets its id, and its row stays active if it has reported
a capacity of zero before its end. -/
theorem not_kept :
    (¬ ∀ db ms, AnnouncedFirst ms → CapacityStays ms → Kept db ms) ∧
      ¬ ∀ db ms, AnnouncedFirst ms → IdsDiffer ms → Kept db ms := by
  constructor
  · intro h
    have hk := h .empty [(restoredAs "a" "id", 1), (stateWith "a" 1000, 2), (.terminated "a", 3),
      (restoredAs "b" "id", 4)]
      (by simp [AnnouncedFirst, restoredAs, stateWith, announces?, about?])
      (by simp [CapacityStays, restoredAs, stateWith, reports?])
    have hend : ¬ Ended "a" [(restoredAs "a" "id", 1), (stateWith "a" 1000, 2)] := by
      simp [Ended, restoredAs, stateWith]
    exact (hk.2 _ 3 _ "a" rfl (reported_sample "a" "id") hend).2.1 "b" rfl
  · intro h
    have hk := h .empty [(restoredAs "a" "id", 1), (stateWith "a" 1000, 2), (stateWith "a" 0, 3),
      (.terminated "a", 4)]
      (by simp [AnnouncedFirst, restoredAs, stateWith, announces?])
      (by simp [IdsDiffer, restoredAs, stateWith, gives?])
    have hend : ¬ Ended "a" [(restoredAs "a" "id", 1), (stateWith "a" 1000, 2),
        (stateWith "a" 0, 3)] := by
      simp [Ended, restoredAs, stateWith]
    have hrep : Reported "a" [(restoredAs "a" "id", 1), (stateWith "a" 1000, 2),
        (stateWith "a" 0, 3)] := by
      obtain ⟨⟨m, hm, hann⟩, m', hm', hcap⟩ := reported_sample "a" "id"
      exact ⟨⟨m, List.mem_append_left [_] hm, hann⟩, m', List.mem_append_left [_] hm', hcap⟩
    obtain ⟨-, -, c, row, -, hone, hinactive, -⟩ :=
      hk.2 [_, _, _] 4 [] "a" rfl hrep hend
    have hrow : [true] = [row.isActive] := congrArg (List.map LocalChannel.isActive) hone
    rw [hinactive] at hrow
    cases hrow

end NodeSupervisor

end EclairMobile
