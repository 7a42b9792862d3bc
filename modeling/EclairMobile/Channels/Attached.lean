import EclairMobile.Channels.ChannelStore

/-!
# Which channel an id names

Three messages give a channel id to an actor.  As long as an id is given to one actor only, no two
records of the map carry the same id (`Distinct.step`); if in addition an actor announces itself as
long as it is unknown, every record with a primary key has the row of this key under its own id
(`Attached.step`).  The results on rows rest on this.
-/

namespace EclairMobile

open Lib

/-! ### The rows of the channel table -/

namespace DBHelper

/-- The row of a channel id. -/
def channelRow (db : DBHelper) (channelId : Option String) : Option LocalChannel :=
  db.localChannels.get? channelId

theorem saveLocalChannel_of_pos {c : LocalChannel} (hc : 0 < c.capacityMsat) (db : DBHelper)
    (owner : Option ActorRef) (now : Date) : ∃ i,
      (db.saveLocalChannel owner c now).2 = { c with id := some i, updated := some now } ∧
      (∀ j, c.id = some j → i = j) ∧
      (c.id = none → ∀ q ∈ db.localChannels.rows, q.id ≠ some i) ∧
      (∀ k, (db.saveLocalChannel owner c now).1.channelRow k =
        if k = c.channelId then
          some ({ c with id := some i, updated := some now } : LocalChannel).persisted
        else (db.channelRow k).filter fun q => q.id ≠ some i) ∧
      ∀ j, (db.saveLocalChannel owner c now).1.identityScope j =
        if j = i then owner else db.identityScope j := by
  refine ⟨c.id.getD db.localChannels.nextId, ?_, ?_, ?_, ?_, ?_⟩
  · unfold saveLocalChannel
    rw [if_pos hc]
    rfl
  · intro j hj
    rw [hj]
    rfl
  · intro hid q hq
    rw [hid]
    exact db.localChannels.id_ne_nextId hq
  · intro k
    unfold saveLocalChannel channelRow
    rw [if_pos hc]
    exact Table.get?_insertOrReplace _ _ k
  · intro j
    unfold saveLocalChannel
    rw [if_pos hc]
    by_cases hj : j = c.id.getD db.localChannels.nextId
    · subst hj
      rw [if_pos rfl]
      exact if_pos rfl
    · rw [if_neg hj]
      exact if_neg fun h => hj (Option.some.inj h).symm

end DBHelper

namespace NodeSupervisor

/-! ### The ids of the records -/

/-- The channel id that a message gives to an actor. -/
def gives? : NodeMessage → Option (ActorRef × String)
  | .channelCreated ch id _ _ => some (ch, id)
  | .channelRestored ch id _ _ _ => some (ch, id)
  | .channelIdAssigned ch id => some (ch, id)
  | _ => none

/-- The channel actor that a message is about. -/
def about? : NodeMessage → Option ActorRef
  | .channelCreated ch _ _ _ => some ch
  | .channelRestored ch _ _ _ _ => some ch
  | .channelIdAssigned ch _ => some ch
  | .shortChannelIdAssigned ch _ => some ch
  | .channelSignatureSent ch _ => some ch
  | .channelSignatureReceived ch _ => some ch
  | .terminated ch => some ch
  | .channelErrorOccurred ch _ _ => some ch
  | .localCommitConfirmed ch _ => some ch
  | .channelStateChanged ch _ _ _ => some ch
  | .localChannelUpdate ch _ => some ch
  | _ => none

theorem about?_of_subject? {m : NodeMessage} {ch : ActorRef} (h : subject? m = some ch) :
    about? m = some ch := by
  cases m with
  | channelErrorOccurred ch' error isFatal =>
    cases isFatal with
    | false =>
      cases error with
      | localError t => cases t <;> cases h
      | remoteError => cases h
    | true =>
      cases error with
      | localError t =>
        cases t with
        | none => cases h
        | some message => exact h
      | remoteError => exact h
  | localChannelUpdate ch' update =>
    cases update with
    | none => cases h
    | some u => exact h
  | channelIdAssigned => exact h
  | shortChannelIdAssigned => exact h
  | channelSignatureReceived => exact h
  | localCommitConfirmed => exact h
  | channelStateChanged => exact h
  | _ => cases h

theorem about?_of_gives? {m : NodeMessage} {ch : ActorRef} {id : String}
    (h : gives? m = some (ch, id)) : about? m = some ch := by
  cases m with
  | channelCreated =>
    cases h
    rfl
  | channelRestored =>
    cases h
    rfl
  | channelIdAssigned =>
    cases h
    rfl
  | _ => cases h

/-- The channel id of the record of an actor. -/
def State.channelId? (s : State) (ref : ActorRef) : Option (Option String) :=
  (s.channel? ref).map LocalChannel.channelId

theorem channelId?_eq_some_iff {s : State} {ref : ActorRef} {id : Option String} :
    s.channelId? ref = some id ↔ ∃ c, s.channel? ref = some c ∧ c.channelId = id :=
  Option.map_eq_some_iff

/-- No two records carry the same channel id. -/
def Distinct (s : State) : Prop :=
  ∀ r r' id, s.channelId? r = some id → s.channelId? r' = some id → r = r'

/-- The id that a message gives to an actor is carried by no other record. -/
def GivesFresh (s : State) (m : NodeMessage) : Prop :=
  ∀ ref id, gives? m = some (ref, id) → ∀ r, s.channelId? r = some (some id) → r = ref

theorem subject?_of_gives? {m : NodeMessage} {ch r : ActorRef} {x : String}
    (hsub : subject? m = some ch) (hg : gives? m = some (r, x)) :
    r = ch ∧ m = .channelIdAssigned ch x := by
  cases m with
  | channelIdAssigned ch' id =>
    cases hsub
    cases hg
    exact ⟨rfl, rfl⟩
  | channelCreated => cases hsub
  | channelRestored => cases hsub
  | _ => cases hg

/-- A record after a message has the id that the message gives, or its old one. -/
theorem ChannelStep.channelId? {s s' : State} {now : Date} {m : NodeMessage}
    (h : ChannelStep s now m s') {r : ActorRef} {id : Option String}
    (hr : s'.channelId? r = some id) :
    s.channelId? r = some id ∧ (∀ x, gives? m ≠ some (r, x)) ∨
      ∃ x, gives? m = some (r, x) ∧ id = some x := by
  rw [channelId?_eq_some_iff] at hr
  obtain ⟨c', hc', rfl⟩ := hr
  have old : s.channel? r = some c' → (∀ x, gives? m ≠ some (r, x)) →
      s.channelId? r = some c'.channelId ∧ (∀ x, gives? m ≠ some (r, x)) ∨
        ∃ x, gives? m = some (r, x) ∧ c'.channelId = some x := fun h hg =>
    Or.inl ⟨channelId?_eq_some_iff.mpr ⟨c', h, rfl⟩, hg⟩
  have changed : ∀ {m : NodeMessage} {c : LocalChannel}, subject? m = some r →
      s.channel? r = some c → c'.channelId = (updated c m).channelId →
      s.channelId? r = some c'.channelId ∧ (∀ x, gives? m ≠ some (r, x)) ∨
        ∃ x, gives? m = some (r, x) ∧ c'.channelId = some x := by
    intro m c hsub hc he
    by_cases hg : ∃ x, gives? m = some (r, x)
    · obtain ⟨x, hx⟩ := hg
      obtain ⟨-, rfl⟩ := subject?_of_gives? hsub hx
      exact Or.inr ⟨x, rfl, he⟩
    · refine Or.inl ⟨channelId?_eq_some_iff.mpr ⟨c, hc, ?_⟩, fun x hx => hg ⟨x, hx⟩⟩
      rcases (leaves_updated c m).channelId with hid | ⟨ref, x, rfl⟩
      · exact (he.trans hid).symm
      · cases hsub
        exact absurd ⟨x, rfl⟩ hg
  cases h with
  | ignored hm hsub =>
    refine old hc' fun x hx => ?_
    cases m with
    | channelIdAssigned ch id =>
      cases hx
      rw [hsub r rfl] at hc'
      cases hc'
    | channelCreated => exact hm trivial
    | channelRestored => exact hm trivial
    | _ => cases hx
  | created ch id node isFunder =>
    rw [channel?_put] at hc'
    split at hc'
    · next he =>
      cases hc'
      exact Or.inr ⟨id, by rw [he]; rfl, rfl⟩
    · next he =>
      refine old hc' fun x hx => ?_
      cases hx
      exact he rfl
  | restoredNew ch id node isFunder k _ =>
    rw [channel?_put] at hc'
    split at hc'
    · next he =>
      cases hc'
      exact Or.inr ⟨id, by rw [he]; rfl, rfl⟩
    · next he =>
      refine old hc' fun x hx => ?_
      cases hx
      exact he rfl
  | restoredOld ch id node isFunder k owner d _ =>
    rw [channel?_put] at hc'
    split at hc'
    · next he =>
      cases hc'
      exact Or.inr ⟨id, by rw [he]; rfl, rfl⟩
    · next he =>
      refine old hc' fun x hx => ?_
      cases hx
      exact he rfl
  | @changed m ch c hsub hc _ =>
    rw [channel?_put] at hc'
    split at hc'
    · next he =>
      subst he
      exact changed hsub hc (by rw [← Option.some.inj hc'])
    · next he => exact old hc' fun x hx => he (subject?_of_gives? hsub hx).1
  | @saved m ch c hsub hc _ =>
    rw [channel?_save] at hc'
    split at hc'
    · next he =>
      subst he
      exact changed hsub hc (by rw [← Option.some.inj hc', savedRecord_channelId])
    · next he => exact old hc' fun x hx => he (subject?_of_gives? hsub hx).1
  | @terminated ch c _ =>
    rw [channel?_remove] at hc'
    split at hc'
    · cases hc'
    · rcases channel?_channelTerminated s now c.channelId r with hr | ⟨d, hd, -, hr⟩
      · exact old (hr ▸ hc') nofun
      · refine Or.inl ⟨?_, nofun⟩
        rw [hr] at hc'
        refine channelId?_eq_some_iff.mpr ⟨d, hd, ?_⟩
        rw [← Option.some.inj hc', savedRecord_channelId]
  | @unknown ch _ =>
    rw [channel?_remove] at hc'
    split at hc'
    · cases hc'
    · exact old hc' nofun

theorem Distinct.of_ids {s s' : State} (h : Distinct s)
    (hids : ∀ r id, s'.channelId? r = some id → s.channelId? r = some id) : Distinct s' :=
  fun r r' id hr hr' => h r r' id (hids r id hr) (hids r' id hr')

/-- **As long as an id is given to one actor only, the records carry different ids.** -/
theorem Distinct.step {s s' : State} {now : Date} {m : NodeMessage} (h : Distinct s)
    (hm : GivesFresh s m) (hstep : ChannelStep s now m s') : Distinct s' := by
  intro r r' id hr hr'
  rcases hstep.channelId? hr with ⟨hold, -⟩ | ⟨x, hx, rfl⟩
  · rcases hstep.channelId? hr' with ⟨hold', -⟩ | ⟨x, hx, rfl⟩
    · exact h r r' id hold hold'
    · exact hm r' x hx r hold
  · rcases hstep.channelId? hr' with ⟨hold', -⟩ | ⟨x', hx', -⟩
    · exact (hm r x hx r' hold').symm
    · rw [hx] at hx'
      cases hx'
      rfl

/-! ### Records with a row -/

/-- Every record with a primary key has the row of this key under its own id, and the objects that
are attached to rows are the records with these keys. -/
structure Attached (s : State) : Prop where
  distinct : Distinct s
  rowOf : ∀ r c i, s.channel? r = some c → c.id = some i →
    ∃ row, s.dbHelper.channelRow c.channelId = some row ∧ row.id = some i
  scopeOf : ∀ i r c, s.dbHelper.identityScope i = some r → s.channel? r = some c → c.id = some i

/-- What the node promises at a message: an actor announces itself while it is unknown, or once
more under the id it has; an id is given to one actor; a channel that gets another id after it was
saved has a positive capacity. -/
structure Announces (s : State) (m : NodeMessage) : Prop where
  fresh : GivesFresh s m
  new : ∀ ref id, gives? m = some (ref, id) → IsAnnouncement m →
    s.channelId? ref = some (some id) ∨
      s.channel? ref = none ∧ ∀ i, s.dbHelper.identityScope i ≠ some ref
  positive : ∀ ref id c, gives? m = some (ref, id) → ¬ IsAnnouncement m →
    s.channel? ref = some c → c.channelId ≠ some id →
    c.id = none ∨ 0 < c.capacityMsat

theorem channelRow_unique {db : DBHelper} {k k' : Option String} {q q' : LocalChannel} {i : ℕ}
    (h : db.channelRow k = some q) (h' : db.channelRow k' = some q') (hi : q.id = some i)
    (hi' : q'.id = some i) : k = k' ∧ q = q' := by
  have he : q = q' := db.localChannels.id_inj (Table.mem_of_get? h) (Table.mem_of_get? h')
    (hi.trans hi'.symm)
  refine ⟨?_, he⟩
  rw [← Table.key_of_get? h, ← Table.key_of_get? h', he]

theorem channelId_of_channelRow {db : DBHelper} {k : Option String} {q : LocalChannel}
    (h : db.channelRow k = some q) : q.channelId = k := Table.key_of_get? h

theorem id_of_channelRow {db : DBHelper} {k : Option String} {q : LocalChannel}
    (h : db.channelRow k = some q) : ∃ i, q.id = some i :=
  Option.isSome_iff_exists.mp (db.localChannels.hasId q (Table.mem_of_get? h))

/-- What a look-up finds: no row, a row, or the object attached to a row. -/
theorem getLocalChannel_cases (db : DBHelper) (live : ActorRef → Option LocalChannel)
    (k : Option String) :
    (db.channelRow k = none ∧ db.getLocalChannel live k = none) ∨
    ∃ row i, db.channelRow k = some row ∧ row.id = some i ∧
      ((∀ r, db.identityScope i = some r → live r = none) ∧
          db.getLocalChannel live k = some (none, row) ∨
        ∃ r c, db.identityScope i = some r ∧ live r = some c ∧
          db.getLocalChannel live k = some (some r, c)) := by
  have hfind : (db.localChannels.rows.find? fun c => c.channelId = k) = db.channelRow k := rfl
  unfold DBHelper.getLocalChannel
  rw [hfind]
  cases hrow : db.channelRow k with
  | none => exact Or.inl ⟨rfl, rfl⟩
  | some row =>
    obtain ⟨i, hi⟩ := id_of_channelRow hrow
    refine Or.inr ⟨row, i, rfl, hi, ?_⟩
    simp only [Option.map_some, hi, Option.bind_some]
    cases hs : db.identityScope i with
    | none => exact Or.inl ⟨fun _ h => (by cases h), rfl⟩
    | some r =>
      cases hl : live r with
      | none => exact Or.inl ⟨fun r' hr => by cases hr; exact hl, by simp [hl]⟩
      | some c => exact Or.inr ⟨r, c, rfl, hl, by simp [hl]⟩

section Attached

variable {s : State} {ch : ActorRef} {c : LocalChannel} {now : Date}

theorem channel?_start (db : DBHelper) (r : ActorRef) : (State.start db).channel? r = none :=
  AList.lookup_empty r

theorem Attached.start (db : DBHelper) : Attached (.start db) := by
  refine ⟨?_, ?_, ?_⟩
  · intro r r' id hr _
    rw [channelId?_eq_some_iff] at hr
    obtain ⟨c, hc, -⟩ := hr
    rw [channel?_start] at hc
    cases hc
  · intro r c i hc _
    rw [channel?_start] at hc
    cases hc
  · intro i r c _ hc
    rw [channel?_start] at hc
    cases hc

theorem Attached.remove (h : Attached s) (ch : ActorRef) : Attached (s.remove ch) := by
  have old : ∀ {r c}, (s.remove ch).channel? r = some c → s.channel? r = some c := by
    intro r c hc
    rw [channel?_remove] at hc
    split at hc
    · cases hc
    · exact hc
  refine ⟨?_, fun r c i hc => h.rowOf r c i (old hc),
    fun i r c hs hc => h.scopeOf i r c hs (old hc)⟩
  refine h.distinct.of_ids fun r id hr => ?_
  obtain ⟨c, hc, hid⟩ := channelId?_eq_some_iff.mp hr
  exact channelId?_eq_some_iff.mpr ⟨c, old hc, hid⟩

theorem Attached.put (h : Attached s) (hd : Distinct (s.put ch c))
    (hc : (∃ c₀, s.channel? ch = some c₀ ∧ c.id = c₀.id ∧ c.channelId = c₀.channelId) ∨
      c.id = none ∧ ∀ i, s.dbHelper.identityScope i ≠ some ch) : Attached (s.put ch c) := by
  refine ⟨hd, ?_, ?_⟩
  · intro r d i hr hi
    rw [channel?_put] at hr
    split at hr
    · cases hr
      rcases hc with ⟨c₀, hc₀, hid, hkey⟩ | ⟨hnone, -⟩
      · rw [hkey]
        exact h.rowOf ch c₀ i hc₀ (hid ▸ hi)
      · rw [hnone] at hi
        cases hi
    · exact h.rowOf r d i hr hi
  · intro i r d hs hr
    rw [channel?_put] at hr
    split at hr
    · next he =>
      cases hr
      subst he
      rcases hc with ⟨c₀, hc₀, hid, -⟩ | ⟨-, hnew⟩
      · rw [hid]
        exact h.scopeOf i r c₀ hs hc₀
      · exact absurd hs (hnew i)
    · exact h.scopeOf i r d hs hr

theorem save_of_not_pos (hpos : ¬ 0 < c.capacityMsat) (s : State) (ch : ActorRef) (now : Date) :
    s.save ch c now = s.put ch c := by
  unfold State.save DBHelper.saveLocalChannel
  rw [if_neg hpos]

theorem save_dbHelper (s : State) (ch : ActorRef) (c : LocalChannel) (now : Date) :
    (s.save ch c now).dbHelper = (s.dbHelper.saveLocalChannel (some ch) c now).1 := rfl

theorem save_of_pos (hpos : 0 < c.capacityMsat) (s : State) (ch : ActorRef) (now : Date) : ∃ i,
    (∀ j, c.id = some j → i = j) ∧
    (c.id = none → ∀ k q, s.dbHelper.channelRow k = some q → q.id ≠ some i) ∧
    (∀ r, (s.save ch c now).channel? r =
      if r = ch then some { c with id := some i, updated := some now } else s.channel? r) ∧
    (∀ k, (s.save ch c now).dbHelper.channelRow k =
      if k = c.channelId then
        some ({ c with id := some i, updated := some now } : LocalChannel).persisted
      else (s.dbHelper.channelRow k).filter fun q => q.id ≠ some i) ∧
    ∀ j, (s.save ch c now).dbHelper.identityScope j =
      if j = i then some ch else s.dbHelper.identityScope j := by
  obtain ⟨i, hsaved, hiold, hinew, hrow, hscope⟩ :=
    DBHelper.saveLocalChannel_of_pos hpos s.dbHelper (some ch) now
  refine ⟨i, hiold, ?_, ?_, ?_, ?_⟩
  · intro hid k q hq
    exact hinew hid q (Table.mem_of_get? hq)
  · intro r
    rw [channel?_save, ← saveLocalChannel_snd s c now (some ch), hsaved]
  · intro k
    rw [save_dbHelper]
    exact hrow k
  · intro j
    rw [save_dbHelper]
    exact hscope j

theorem savedRecord_of_not_pos (hpos : ¬ 0 < c.capacityMsat) (s : State) (now : Date) :
    s.savedRecord c now = c := if_neg hpos

theorem savedRecord_of_pos (hpos : 0 < c.capacityMsat) (s : State)
    (ref : ActorRef) (now : Date) : ∃ i, (s.savedRecord c now).id = some i ∧
      (s.save ref c now).dbHelper.channelRow c.channelId =
        some (s.savedRecord c now).persisted ∧
      (s.save ref c now).dbHelper.identityScope i = some ref := by
  obtain ⟨i, -, -, hrec, hrow, hscope⟩ := save_of_pos hpos s ref now
  have hsaved := hrec ref
  rw [channel?_save, if_pos rfl, if_pos rfl] at hsaved
  rw [Option.some.inj hsaved]
  exact ⟨i, rfl, (hrow _).trans (if_pos rfl), (hscope i).trans (if_pos rfl)⟩

/-- The key under which a record is saved is that of no other record. -/
theorem Attached.id_ne (h : Attached s) {c₀ : LocalChannel} (hc₀ : s.channel? ch = some c₀)
    (hid : c.id = c₀.id) {i : ℕ} (hiold : ∀ j, c.id = some j → i = j)
    (hinew : c.id = none → ∀ k q, s.dbHelper.channelRow k = some q → q.id ≠ some i)
    {r : ActorRef} {d : LocalChannel} (hr : r ≠ ch) (hd : s.channel? r = some d) :
    d.id ≠ some i := by
  intro hi
  obtain ⟨row, hrow, hi'⟩ := h.rowOf r d i hd hi
  cases hcid : c.id with
  | none => exact hinew hcid d.channelId row hrow hi'
  | some k =>
    cases hiold k hcid
    obtain ⟨row₀, hrow₀, hi₀⟩ := h.rowOf ch c₀ i hc₀ (hid ▸ hcid)
    obtain ⟨he, -⟩ := channelRow_unique hrow hrow₀ hi' hi₀
    exact hr (h.distinct r ch _ (channelId?_eq_some_iff.mpr ⟨d, hd, he⟩)
      (channelId?_eq_some_iff.mpr ⟨c₀, hc₀, rfl⟩))

theorem Attached.save_of_pos (h : Attached s) (hd : Distinct (s.save ch c now)) {c₀ : LocalChannel}
    (hc₀ : s.channel? ch = some c₀) (hid : c.id = c₀.id) (hpos : 0 < c.capacityMsat) :
    Attached (s.save ch c now) := by
  obtain ⟨i, hiold, hinew, hrec, hrow, hscope⟩ :=
    NodeSupervisor.save_of_pos hpos s ch now
  refine ⟨hd, ?_, ?_⟩
  · intro r d j hr hj
    rw [hrow]
    have hr' := hr
    rw [hrec] at hr
    split at hr
    · cases hr
      cases hj
      exact ⟨_, if_pos rfl, rfl⟩
    · next hne =>
      have hkeys : d.channelId ≠ c.channelId := by
        intro he
        refine hne (hd r ch c.channelId (channelId?_eq_some_iff.mpr ⟨d, hr', he⟩) ?_)
        exact channelId?_eq_some_iff.mpr ⟨_, (hrec ch).trans (if_pos rfl), rfl⟩
      obtain ⟨row, hold, hj'⟩ := h.rowOf r d j hr hj
      have hji : row.id ≠ some i := by
        rw [hj', ← hj]
        exact h.id_ne hc₀ hid hiold hinew hne hr
      refine ⟨row, ?_, hj'⟩
      rw [if_neg hkeys, hold, Option.filter_some, if_pos (by simpa using hji)]
  · intro j r d hs hr
    rw [hscope] at hs
    rw [hrec] at hr
    split at hs
    · next he =>
      cases hs
      rw [if_pos rfl] at hr
      cases hr
      exact congrArg some he.symm
    · next hne =>
      split at hr
      · next he =>
        subst he
        have hj := h.scopeOf j r c₀ hs hc₀
        exact absurd (hiold j (hid.trans hj)).symm hne
      · exact h.scopeOf j r d hs hr

/-- A record is saved: under its own id, or under an id that no other record carries. -/
theorem Attached.save (h : Attached s) (hd : Distinct (s.save ch c now)) {c₀ : LocalChannel}
    (hc₀ : s.channel? ch = some c₀) (hid : c.id = c₀.id)
    (hkey : c.channelId = c₀.channelId ∨ c.id = none ∨ 0 < c.capacityMsat) :
    Attached (s.save ch c now) := by
  by_cases hpos : 0 < c.capacityMsat
  · exact h.save_of_pos hd hc₀ hid hpos
  · rw [save_of_not_pos hpos] at hd ⊢
    rcases hkey with hkey | hnone | hpos'
    · exact h.put hd (Or.inl ⟨c₀, hc₀, hid, hkey⟩)
    · refine h.put hd (Or.inr ⟨hnone, fun i hs => ?_⟩)
      have hi := h.scopeOf i ch c₀ hs hc₀
      rw [← hid, hnone] at hi
      cases hi
    · exact absurd hpos' hpos

/-- A row that is loaded and saved as ended, without an object of a channel actor. -/
def State.rowTerminated (s : State) (row : LocalChannel) (now : Date) : State :=
  { s with dbHelper := (s.dbHelper.saveLocalChannel none { row with isActive := false } now).1 }

/-- The end of a channel: without a row nothing is written; otherwise the row is written, through
the record if it is attached to the row. -/
theorem Attached.terminated_cases (h : Attached s) (hc : s.channel? ch = some c) (now : Date) :
    s.dbHelper.channelRow c.channelId = none ∧ s.channelTerminated c.channelId now = s ∨
    (∃ row, s.dbHelper.channelRow c.channelId = some row ∧
      (s.channelTerminated c.channelId now = s.rowTerminated row now ∧
          (∀ i, row.id = some i → s.dbHelper.identityScope i ≠ some ch) ∨
        c.id = row.id ∧
          s.channelTerminated c.channelId now = s.save ch { c with isActive := false } now)) := by
  unfold State.channelTerminated
  rcases getLocalChannel_cases s.dbHelper s.channel? c.channelId with
    ⟨hrow, hget⟩ | ⟨row, i, hrow, hi, ⟨hdead, hget⟩ | ⟨o, d, hs, hd, hget⟩⟩
  · rw [hget]
    exact Or.inl ⟨hrow, rfl⟩
  · refine Or.inr ⟨row, hrow, Or.inl ⟨by rw [hget]; rfl, ?_⟩⟩
    intro j hj hs
    cases hi.symm.trans hj
    rw [hdead ch hs] at hc
    cases hc
  · have hdi := h.scopeOf i o d hs hd
    obtain ⟨row', hrow', hi'⟩ := h.rowOf o d i hd hdi
    obtain ⟨hkey, -⟩ := channelRow_unique hrow hrow' hi hi'
    have ho : o = ch := h.distinct o ch _ (channelId?_eq_some_iff.mpr ⟨d, hd, hkey.symm⟩)
      (channelId?_eq_some_iff.mpr ⟨c, hc, rfl⟩)
    subst ho
    cases hc.symm.trans hd
    rw [hget]
    exact Or.inr ⟨row, hrow, Or.inr ⟨hdi.trans hi.symm, rfl⟩⟩

@[simp] theorem channel?_rowTerminated (s : State) (row : LocalChannel) (now : Date)
    (r : ActorRef) : (s.rowTerminated row now).channel? r = s.channel? r := rfl

theorem rowTerminated_cases (s : State) {k₀ : Option String} {row : LocalChannel}
    (hrow : s.dbHelper.channelRow k₀ = some row) (now : Date) :
    ¬ 0 < row.capacityMsat ∧ s.rowTerminated row now = s ∨
    0 < row.capacityMsat ∧
      (s.rowTerminated row now).dbHelper.channelRow k₀ =
        some ({ row with isActive := false, updated := some now } : LocalChannel).persisted ∧
      (∀ k, k ≠ k₀ →
        (s.rowTerminated row now).dbHelper.channelRow k = s.dbHelper.channelRow k) ∧
      ∀ j, (s.rowTerminated row now).dbHelper.identityScope j =
        if row.id = some j then none else s.dbHelper.identityScope j := by
  have hkey := channelId_of_channelRow hrow
  obtain ⟨i₀, hi₀⟩ := id_of_channelRow hrow
  by_cases hpos : 0 < row.capacityMsat
  · obtain ⟨i, -, hiold, -, hrows, hscope⟩ := DBHelper.saveLocalChannel_of_pos
      (c := { row with isActive := false }) hpos s.dbHelper none now
    have hi : i = i₀ := hiold i₀ hi₀
    subst hi
    refine Or.inr ⟨hpos, ?_, ?_, ?_⟩
    · have h := hrows k₀
      rw [if_pos hkey.symm] at h
      rw [← hi₀] at h
      exact h
    · intro k hk
      have h := hrows k
      rw [if_neg fun he => hk (he.trans hkey)] at h
      refine h.trans ?_
      cases hq : s.dbHelper.channelRow k with
      | none => rfl
      | some q =>
        rw [Option.filter_some, if_pos]
        simpa using fun hqi => hk (channelRow_unique hq hrow hqi hi₀).1
    · intro j
      refine (hscope j).trans ?_
      rw [hi₀]
      by_cases hj : j = i
      · rw [if_pos hj, if_pos (congrArg some hj.symm)]
      · rw [if_neg hj, if_neg fun he => hj (Option.some.inj he).symm]
  · refine Or.inl ⟨hpos, ?_⟩
    unfold State.rowTerminated DBHelper.saveLocalChannel
    rw [if_neg hpos]

theorem Attached.rowTerminated (h : Attached s) (hc : s.channel? ch = some c)
    {row : LocalChannel} (hrow : s.dbHelper.channelRow c.channelId = some row) (now : Date) :
    Attached ((s.rowTerminated row now).remove ch) := by
  rcases rowTerminated_cases s hrow now with ⟨-, he⟩ | ⟨-, -, hrows, hscope⟩
  · rw [he]
    exact h.remove ch
  · have hd : Distinct ((s.rowTerminated row now).remove ch) := (h.remove ch).distinct
    refine ⟨hd, ?_, ?_⟩
    · intro r d j hr hj
      rw [channel?_remove] at hr
      split at hr
      · cases hr
      · next hne =>
        have hkey : d.channelId ≠ c.channelId := fun he =>
          hne (h.distinct r ch _ (channelId?_eq_some_iff.mpr ⟨d, hr, he⟩)
            (channelId?_eq_some_iff.mpr ⟨c, hc, rfl⟩))
        rw [State.remove_dbHelper, hrows _ hkey]
        exact h.rowOf r d j hr hj
    · intro j r d hs hr
      rw [channel?_remove] at hr
      rw [State.remove_dbHelper, hscope] at hs
      split at hr
      · cases hr
      · split at hs
        · cases hs
        · exact h.scopeOf j r d hs hr

/-- **One message: every record with a primary key has its row.** -/
theorem Attached.step {s s' : State} {now : Date} {m : NodeMessage} (h : Attached s)
    (hm : Announces s m) (hstep : ChannelStep s now m s') : Attached s' := by
  have hd : Distinct s' := h.distinct.step hm.fresh hstep
  -- an actor that announces itself is unknown, or its record keeps its keys
  have announced : ∀ {ch : ActorRef} {id : String} {c : LocalChannel}, gives? m = some (ch, id) →
      IsAnnouncement m → c.id = (s.getOrCreateChannel ch now).id → c.channelId = some id →
      (∃ c₀, s.channel? ch = some c₀ ∧ c.id = c₀.id ∧ c.channelId = c₀.channelId) ∨
        c.id = none ∧ ∀ i, s.dbHelper.identityScope i ≠ some ch := by
    intro ch id c hg hann hid hkey
    unfold State.getOrCreateChannel at hid
    rcases hm.new ch id hg hann with hold | ⟨hnone, hscope⟩
    · obtain ⟨c₀, hc₀, hid₀⟩ := channelId?_eq_some_iff.mp hold
      rw [hc₀] at hid
      exact Or.inl ⟨c₀, hc₀, hid, hkey.trans hid₀.symm⟩
    · rw [hnone] at hid
      exact Or.inr ⟨hid, hscope⟩
  cases hstep with
  | ignored => exact h
  | created ch id node isFunder => exact h.put hd (announced rfl trivial rfl rfl)
  | restoredNew ch id node isFunder k _ => exact h.put hd (announced rfl trivial rfl rfl)
  | restoredOld ch id node isFunder k owner d _ => exact h.put hd (announced rfl trivial rfl rfl)
  | @changed m ch c hsub hc hsaves =>
    refine h.put hd (Or.inl ⟨c, hc, id_updated c m, ?_⟩)
    rcases (leaves_updated c m).channelId with hkey | ⟨ref, id, rfl⟩
    · exact hkey
    · cases hsaves
  | @saved m ch c hsub hc _ =>
    refine h.save hd hc (id_updated c m) ?_
    rcases (leaves_updated c m).channelId with hkey | ⟨ref, id, rfl⟩
    · exact Or.inl hkey
    · cases hsub
      by_cases he : c.channelId = some id
      · exact Or.inl he.symm
      · exact Or.inr (hm.positive ch id c rfl nofun hc he)
  | @terminated ch c hc =>
    rcases h.terminated_cases hc now with ⟨-, he⟩ | ⟨row, hrow, ⟨he, -⟩ | ⟨-, he⟩⟩
    · rw [he]
      exact h.remove ch
    · rw [he]
      exact h.rowTerminated hc hrow now
    · rw [he]
      refine Attached.remove
        (h.save (c := { c with isActive := false }) ?_ hc rfl (Or.inl rfl)) ch
      refine h.distinct.of_ids fun r id hr => ?_
      obtain ⟨d, hd', rfl⟩ := channelId?_eq_some_iff.mp hr
      rw [channel?_save] at hd'
      split at hd'
      · next hrc =>
        subst hrc
        rw [← Option.some.inj hd', savedRecord_channelId]
        exact channelId?_eq_some_iff.mpr ⟨c, hc, rfl⟩
      · exact channelId?_eq_some_iff.mpr ⟨d, hd', rfl⟩
  | @unknown ch _ => exact h.remove ch

/-! ### What a message leaves alone -/

theorem Attached.channel?_step {s s' : State} {now : Date} {m : NodeMessage} (h : Attached s)
    (hstep : ChannelStep s now m s') {r : ActorRef} (hr : about? m ≠ some r) :
    s'.channel? r = s.channel? r := by
  cases hstep with
  | ignored => rfl
  | created ch id node isFunder =>
    rw [channel?_put, if_neg]
    rintro rfl
    exact hr rfl
  | restoredNew ch id node isFunder k _ =>
    rw [channel?_put, if_neg]
    rintro rfl
    exact hr rfl
  | restoredOld ch id node isFunder k owner d _ =>
    rw [channel?_put, if_neg]
    rintro rfl
    exact hr rfl
  | @changed m ch c hsub hc _ =>
    rw [channel?_put, if_neg]
    rintro rfl
    exact hr (about?_of_subject? hsub)
  | @saved m ch c hsub hc _ =>
    rw [channel?_save, if_neg]
    rintro rfl
    exact hr (about?_of_subject? hsub)
  | @terminated ch c hc =>
    have hne : r ≠ ch := by
      rintro rfl
      exact hr rfl
    rw [channel?_remove, if_neg hne]
    rcases h.terminated_cases hc now with ⟨-, he⟩ | ⟨row, hrow, ⟨he, -⟩ | ⟨-, he⟩⟩
    · rw [he]
    · rw [he, channel?_rowTerminated]
    · rw [he, channel?_save, if_neg hne]
  | @unknown ch _ =>
    rw [channel?_remove, if_neg]
    rintro rfl
    exact hr rfl

/-- A save leaves the rows under other ids than those of its record. -/
theorem Attached.channelRow_save (h : Attached s) {c₀ : LocalChannel}
    (hc₀ : s.channel? ch = some c₀) (hid : c.id = c₀.id) {k : Option String}
    (hk₀ : c₀.channelId ≠ k) (hk : c.channelId ≠ k) :
    (s.save ch c now).dbHelper.channelRow k = s.dbHelper.channelRow k := by
  by_cases hpos : 0 < c.capacityMsat
  · obtain ⟨i, hiold, hinew, -, hrow, -⟩ := NodeSupervisor.save_of_pos hpos s ch now
    rw [hrow, if_neg (Ne.symm hk)]
    cases hq : s.dbHelper.channelRow k with
    | none => rfl
    | some q =>
      rw [Option.filter_some, if_pos]
      suffices hqi : q.id ≠ some i by simpa using hqi
      cases hcid : c.id with
      | none => exact hinew hcid k q hq
      | some j =>
        have hij : i = j := hiold j hcid
        subst hij
        obtain ⟨row₀, hrow₀, hi₀⟩ := h.rowOf ch c₀ i hc₀ (hid ▸ hcid)
        exact fun hqi => hk₀ (channelRow_unique hrow₀ hq hi₀ hqi).1
  · rw [save_of_not_pos hpos]
    rfl

/-- **A message changes no other row than those of the ids of its actor, before and after it.** -/
theorem Attached.channelRow_step {s s' : State} {now : Date} {m : NodeMessage} (h : Attached s)
    (hstep : ChannelStep s now m s') {k : Option String}
    (hk : ∀ ch, about? m = some ch → s.channelId? ch ≠ some k ∧ s'.channelId? ch ≠ some k) :
    s'.dbHelper.channelRow k = s.dbHelper.channelRow k := by
  cases hstep with
  | ignored => rfl
  | created => rfl
  | restoredNew => rfl
  | restoredOld => rfl
  | changed => rfl
  | @saved m ch c hsub hc _ =>
    obtain ⟨hk₀, hk₁⟩ := hk ch (about?_of_subject? hsub)
    refine h.channelRow_save hc (id_updated c m) ?_ ?_
    · exact fun he => hk₀ (channelId?_eq_some_iff.mpr ⟨c, hc, he⟩)
    · refine fun he => hk₁ (channelId?_eq_some_iff.mpr ⟨s.savedRecord (updated c m) now, ?_, ?_⟩)
      · rw [channel?_save, if_pos rfl]
      · rw [savedRecord_channelId, he]
  | @terminated ch c hc =>
    have hne : c.channelId ≠ k := fun he =>
      (hk ch rfl).1 (channelId?_eq_some_iff.mpr ⟨c, hc, he⟩)
    rw [State.remove_dbHelper]
    rcases h.terminated_cases hc now with ⟨-, he⟩ | ⟨row, hrow, ⟨he, -⟩ | ⟨-, he⟩⟩
    · rw [he]
    · rw [he]
      rcases rowTerminated_cases s hrow now with ⟨-, he'⟩ | ⟨-, -, hrows, -⟩
      · rw [he']
      · exact hrows k (Ne.symm hne)
    · rw [he]
      exact h.channelRow_save (c := { c with isActive := false }) hc rfl hne hne
  | unknown => rfl

/-- A message takes no attached object from a record of another actor. -/
theorem Attached.identityScope_step {s s' : State} {now : Date} {m : NodeMessage}
    (h : Attached s) (hstep : ChannelStep s now m s') {r : ActorRef} {d : LocalChannel} {i : ℕ}
    (hr : about? m ≠ some r) (hd : s.channel? r = some d) (hi : d.id = some i) :
    s'.dbHelper.identityScope i = s.dbHelper.identityScope i := by
  have saved : ∀ {ch : ActorRef} {c₀ c : LocalChannel}, about? m = some ch →
      s.channel? ch = some c₀ → c.id = c₀.id →
      (s.save ch c now).dbHelper.identityScope i = s.dbHelper.identityScope i := by
    intro ch c₀ c habout hc₀ hid
    by_cases hpos : 0 < c.capacityMsat
    · obtain ⟨j, hjold, hjnew, -, -, hscope⟩ := NodeSupervisor.save_of_pos hpos s ch now
      have hne : r ≠ ch := by
        rintro rfl
        exact hr habout
      rw [hscope, if_neg]
      rintro rfl
      exact h.id_ne hc₀ hid hjold hjnew hne hd hi
    · rw [save_of_not_pos hpos]
      rfl
  cases hstep with
  | ignored => rfl
  | created => rfl
  | restoredNew => rfl
  | restoredOld => rfl
  | changed => rfl
  | @saved m ch c hsub hc _ => exact saved (about?_of_subject? hsub) hc (id_updated c m)
  | @terminated ch c hc =>
    rw [State.remove_dbHelper]
    rcases h.terminated_cases hc now with ⟨-, he⟩ | ⟨row, hrow, ⟨he, -⟩ | ⟨-, he⟩⟩
    · rw [he]
    · rw [he]
      rcases rowTerminated_cases s hrow now with ⟨-, he'⟩ | ⟨-, -, -, hscope⟩
      · rw [he']
      · rw [hscope, if_neg]
        intro hi'
        obtain ⟨row', hrow', hi''⟩ := h.rowOf r d i hd hi
        obtain ⟨hkey, -⟩ := channelRow_unique hrow' hrow hi'' hi'
        refine hr (congrArg some ?_)
        exact h.distinct ch r _ (channelId?_eq_some_iff.mpr ⟨c, hc, rfl⟩)
          (channelId?_eq_some_iff.mpr ⟨d, hd, hkey⟩)
    · rw [he]
      exact saved rfl hc rfl
  | unknown => rfl

/-- Only an actor that the supervisor knows gets attached to a row. -/
theorem Attached.scope_step {s s' : State} {now : Date} {m : NodeMessage} (h : Attached s)
    (hstep : ChannelStep s now m s') {r : ActorRef} {i : ℕ}
    (hs : s'.dbHelper.identityScope i = some r) :
    s.dbHelper.identityScope i = some r ∨ ∃ c, s.channel? r = some c := by
  have saved : ∀ {ch : ActorRef} {c₀ c : LocalChannel}, s.channel? ch = some c₀ →
      (s.save ch c now).dbHelper.identityScope i = some r →
      s.dbHelper.identityScope i = some r ∨ ∃ c, s.channel? r = some c := by
    intro ch c₀ c hc₀ hs
    by_cases hpos : 0 < c.capacityMsat
    · obtain ⟨j, -, -, -, -, hscope⟩ := NodeSupervisor.save_of_pos hpos s ch now
      rw [hscope] at hs
      split at hs
      · cases hs
        exact Or.inr ⟨c₀, hc₀⟩
      · exact Or.inl hs
    · rw [save_of_not_pos hpos] at hs
      exact Or.inl hs
  cases hstep with
  | ignored => exact Or.inl hs
  | created => exact Or.inl hs
  | restoredNew => exact Or.inl hs
  | restoredOld => exact Or.inl hs
  | changed => exact Or.inl hs
  | saved _ hc _ => exact saved hc hs
  | @terminated ch c hc =>
    rw [State.remove_dbHelper] at hs
    rcases h.terminated_cases hc now with ⟨-, he⟩ | ⟨row, hrow, ⟨he, -⟩ | ⟨-, he⟩⟩
    · rw [he] at hs
      exact Or.inl hs
    · rw [he] at hs
      rcases rowTerminated_cases s hrow now with ⟨-, he'⟩ | ⟨-, -, -, hscope⟩
      · rw [he'] at hs
        exact Or.inl hs
      · rw [hscope] at hs
        split at hs
        · cases hs
        · exact Or.inl hs
    · rw [he] at hs
      exact saved hc hs
  | unknown => exact Or.inl hs

end Attached

end NodeSupervisor

end EclairMobile
