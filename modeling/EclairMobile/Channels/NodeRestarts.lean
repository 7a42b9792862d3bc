import Mathlib.Algebra.BigOperators.Group.Finset.Basic
import EclairMobile.App
import EclairMobile.Channels.Attached
import EclairMobile.Lib.Reach

/-!
# Node restarts in one process

The map of active channels is static.  When the node is shut down because its network database is
incompatible and `StartupTask` runs again, the map keeps the entries of the actors that died with
the actor system, unless their `Terminated` was still handled.  The next node announces the same
channels under new actors.  As long as no announced id is carried by such an entry, all entries
carry different ids and the sums over the map count every channel once.
-/

namespace EclairMobile

open Lib

namespace NodeSupervisor

/-! ### Sums over the map -/

/-- An entry of the map. -/
abbrev Entry := Sigma fun _ : ActorRef => LocalChannel

/-- The channel ids of the entries. -/
def channelIds (map : ChannelsMap) : List (Option String) :=
  map.entries.map fun e => e.2.channelId

/-- No two entries carry the same id, and both sums are sums over the different ids. -/
def CountsOnce (map : ChannelsMap) : Prop :=
  (channelIds map).Nodup ∧
  (getChannelsBalance map = ∑ id ∈ (channelIds map).toFinset, (getChannelFromId map id).elim 0
    fun e => if e.2.fundsAreAccountedFor then e.2.balanceMsat else 0) ∧
  getMaxReceivable map = ∑ id ∈ (channelIds map).toFinset, (getChannelFromId map id).elim 0
    fun e => if e.2.fundsAreUsable then e.2.getReceivableMsat else 0

section Sums

variable {map : ChannelsMap}

theorem getChannelFromId_of_mem (h : (channelIds map).Nodup) {e : Entry}
    (he : e ∈ map.entries) : getChannelFromId map e.2.channelId = some e := by
  unfold getChannelFromId
  cases hf : map.entries.find? fun e' => e'.2.channelId = e.2.channelId with
  | none =>
    have := List.find?_eq_none.mp hf e he
    simp at this
  | some e' =>
    have he' := List.mem_of_find?_eq_some hf
    have hid : e'.2.channelId = e.2.channelId := by simpa using List.find?_some hf
    rw [List.inj_on_of_nodup_map h he' he hid]

theorem sum_entries_eq (h : (channelIds map).Nodup) (f : Entry → ℤ) :
    (map.entries.map f).sum =
      ∑ id ∈ (channelIds map).toFinset, (getChannelFromId map id).elim 0 f := by
  rw [List.sum_toFinset _ h]
  unfold channelIds
  rw [List.map_map]
  congr 1
  refine List.map_congr_left fun e he => ?_
  simp only [Function.comp]
  rw [getChannelFromId_of_mem h he]
  rfl

theorem nodup_channelIds {s : State} (h : Distinct s) : (channelIds s.activeChannelsMap).Nodup := by
  refine List.Nodup.map_on ?_ s.activeChannelsMap.nodupKeys.nodup
  rintro ⟨r, c⟩ hc ⟨r', c'⟩ hc' he
  have hr : s.channel? r = some c := AList.mem_lookup_iff.mpr hc
  have hr' : s.channel? r' = some c' := AList.mem_lookup_iff.mpr hc'
  have hrr : r = r' := h r r' c.channelId (channelId?_eq_some_iff.mpr ⟨c, hr, rfl⟩)
    (channelId?_eq_some_iff.mpr ⟨c', hr', he.symm⟩)
  subst hrr
  rw [hr] at hr'
  cases hr'
  rfl

theorem distinct_of_nodup {s : State} (h : (channelIds s.activeChannelsMap).Nodup) :
    Distinct s := by
  intro r r' id hr hr'
  obtain ⟨c, hc, hid⟩ := channelId?_eq_some_iff.mp hr
  obtain ⟨c', hc', hid'⟩ := channelId?_eq_some_iff.mp hr'
  have he := List.inj_on_of_nodup_map h (AList.mem_lookup_iff.mp hc) (AList.mem_lookup_iff.mp hc')
    (hid.trans hid'.symm)
  exact congrArg Sigma.fst he

theorem countsOnce_iff {s : State} : CountsOnce s.activeChannelsMap ↔ Distinct s := by
  refine ⟨fun h => distinct_of_nodup h.1, fun h => ?_⟩
  have hnd := nodup_channelIds h
  exact ⟨hnd, sum_entries_eq hnd _, sum_entries_eq hnd _⟩

end Sums

end NodeSupervisor

namespace NodeRestarts

open NodeSupervisor

/-! ### The runs of a process -/

/-- A process: the supervisor, whose map survives the node, and the channel actors of the node that
is running, with the ids of their channels. -/
structure Process where
  supervisor : State
  actors : ActorRef → Option String

inductive Action
  /-- The supervisor handles a message. -/
  | receive (m : NodeMessage) (now : Date)
  /-- `shutdown` of the actor system, and the `checkupInit` of the next `StartupTask`. -/
  | restartNode

/-- The actors of the node after a message. -/
def hear (actors : ActorRef → Option String) (m : NodeMessage) (ref : ActorRef) : Option String :=
  match gives? m, m with
  | some (ch, id), _ => if ref = ch then some id else actors ref
  | none, .terminated ch => if ref = ch then none else actors ref
  | none, _ => actors ref

def step (p : Process) : Action → Option Process
  | .receive m now => some ⟨(onReceive p.supervisor m now).1, hear p.actors m⟩
  | .restartNode =>
    let db := p.supervisor.dbHelper
    some ⟨{ p.supervisor with
      dbHelper := App.checkupInit (some db) db.payments db.localChannels }, fun _ => none⟩

/-- A process that has just started, on any database. -/
def Started (p : Process) : Prop := ∃ db, p = ⟨.start db, fun _ => none⟩

/-- What the node promises: it gives an id to one of its actors only. -/
def Promised (p : Process) : Action → Prop
  | .receive m _ => ∀ ref id, gives? m = some (ref, id) → ∀ r, p.actors r = some id → r = ref
  | .restartNode => True

/-- No id is given that an actor of an earlier node has left in the map. -/
def Careful (p : Process) (a : Action) : Prop :=
  Promised p a ∧ match a with
    | .receive m _ => ∀ ref id, gives? m = some (ref, id) → ∀ r, p.actors r = none →
      p.supervisor.channelId? r = some (some id) → r = ref
    | .restartNode => True

/-- The entries carry different ids, and those of the running actors carry the ids of these. -/
structure Inv (p : Process) : Prop where
  distinct : Distinct p.supervisor
  agrees : ∀ r id x, p.supervisor.channelId? r = some id → p.actors r = some x → id = some x

theorem inv_started {p : Process} (h : Started p) : Inv p := by
  obtain ⟨db, rfl⟩ := h
  refine ⟨(Attached.start db).distinct, fun r id x hr _ => ?_⟩
  obtain ⟨c, hc, -⟩ := channelId?_eq_some_iff.mp hr
  rw [channel?_start] at hc
  cases hc

theorem hear_of_not_given {actors : ActorRef → Option String} {m : NodeMessage} {r : ActorRef}
    {x : String} (hg : ∀ x, gives? m ≠ some (r, x)) (h : hear actors m r = some x) :
    actors r = some x := by
  unfold hear at h
  split at h
  · next ch id hm =>
    split at h
    · next he => exact absurd (he ▸ hm) (hg id)
    · exact h
  · split at h
    · cases h
    · exact h
  · exact h

/-- A message of the running node keeps the entries apart. -/
theorem inv_receive {p : Process} {m : NodeMessage} {now : Date} (h : Inv p)
    (hok : Careful p (.receive m now)) :
    Inv ⟨(onReceive p.supervisor m now).1, hear p.actors m⟩ := by
  have hstep := step_onReceive p.supervisor now m
  have hfresh : GivesFresh p.supervisor.channels m := by
    intro ref id hg r hr
    cases hlive : p.actors r with
    | none => exact hok.2 ref id hg r hlive hr
    | some x =>
      cases h.agrees r (some id) x hr hlive
      exact hok.1 ref id hg r hlive
  have hd : Distinct (onReceive p.supervisor m now).1.channels :=
    Distinct.step (s := p.supervisor.channels) h.distinct hfresh hstep
  refine ⟨hd, ?_⟩
  intro r id x hr hlive
  rcases hstep.channelId? hr with ⟨hold, hg⟩ | ⟨y, hy, rfl⟩
  · exact h.agrees r id x hold (hear_of_not_given hg hlive)
  · simp only [hear, hy, if_true] at hlive
    exact hlive

theorem inv_step (p : Process) (a : Action) (p' : Process) (h : Inv p) (hok : Careful p a)
    (hstep : step p a = some p') : Inv p' := by
  cases a with
  | receive m now =>
    cases hstep
    exact inv_receive h hok
  | restartNode =>
    cases hstep
    exact ⟨h.distinct, nofun⟩

/-- **In a run that gives no id which an earlier node left in the map, every channel is counted
once.** -/
theorem counted_once {p : Process} (h : Reach step Careful Started p) :
    CountsOnce p.supervisor.activeChannelsMap :=
  countsOnce_iff.mpr (h.invariant (fun _ => inv_started) inv_step p).distinct

/-- `ChannelRestored` of one and the same channel, from an actor of the node. -/
def restore (ref : ActorRef) : NodeMessage :=
  .channelRestored ref "id" "node" true ⟨⟨[], 600, 1000⟩, none, 0, 0, 0, "", 0, "", 0⟩

theorem promised_restore {p : Process} (ref : ActorRef) (now : Date)
    (h : ∀ r, p.actors r = some "id" → r = ref) : Promised p (.receive (restore ref) now) := by
  intro ref' id hg r hr
  cases hg
  exact h r hr

theorem careful_restore {p : Process} (ref : ActorRef) (now : Date)
    (h : ∀ r, p.actors r = some "id" → r = ref)
    (hleft : ∀ r, p.supervisor.channelId? r = some (some "id") → r = ref) :
    Careful p (.receive (restore ref) now) := by
  refine ⟨promised_restore ref now h, ?_⟩
  intro ref' id hg r _ hr
  cases hg
  exact hleft r hr

/-- The channel was ended before the node is shut down, and the next node restores it. -/
theorem counted_once_ended : ∃ p : Process,
    p.supervisor.channelId? "b" = some (some "id") ∧ CountsOnce p.supervisor.activeChannelsMap := by
  have h0 : Reach step Careful Started ⟨.start .empty, fun _ => none⟩ := .start ⟨.empty, rfl⟩
  have h1 := h0.next (careful_restore "a" 1 nofun nofun) rfl
  have h2 := h1.next (a := Action.receive (.terminated "a") 2) ⟨nofun, nofun⟩ rfl
  have h3 := h2.next (a := Action.restartNode) ⟨trivial, trivial⟩ rfl
  have h4 := h3.next (careful_restore "b" 3 nofun nofun) rfl
  exact ⟨_, rfl, counted_once h4⟩

/-- A channel that is not ended before the node is shut down is counted twice afterwards. -/
theorem not_counted_once :
    ¬ ∀ p, Reach step Promised Started p → CountsOnce p.supervisor.activeChannelsMap := by
  intro h
  have h0 : Reach step Promised Started ⟨.start .empty, fun _ => none⟩ := .start ⟨.empty, rfl⟩
  have h1 := h0.next (promised_restore "a" 1 nofun) rfl
  have h2 := h1.next (a := Action.restartNode) trivial rfl
  have h3 := h2.next (promised_restore "b" 2 nofun) rfl
  exact absurd (countsOnce_iff.mp (h _ h3) "a" "b" (some "id") rfl rfl) (by decide)

end NodeRestarts

end EclairMobile
