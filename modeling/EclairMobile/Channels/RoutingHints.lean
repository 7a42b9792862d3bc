import EclairMobile.Lib.Except
import EclairMobile.Lib.Greedy
import EclairMobile.Actors.NodeSupervisor

/-!
# The routing hints of an invoice

`getRoutes` takes the first channel of each peer that has a short id and has received an update, for
at most five peers.  It never asks whether the channel can be used: the hint of a peer is of a
usable channel only if its first channel is one.
-/

namespace EclairMobile

namespace NodeSupervisor

open Lib

/-! ### The loop picks channels -/

/-- What the loop asks of a channel. -/
def Hintable (c : LocalChannel) : Bool := hasShortChannelId c && c.receivedChannelUpdate

section Loop

variable {m : Type → Type} [Monad m] [LawfulMonad m] {α : Type} (hop : LocalChannel → m α)

theorem foldlM_routeStep (channels : List LocalChannel) (routes : List α)
    (peersInRoute : List (Option String)) :
    (do
      let (routes, _) ← channels.foldlM (routeStep hop) (routes, peersInRoute)
      pure routes) = (do
      let rs ← (pickFrom Hintable LocalChannel.peerNodeId (5 - routes.length) peersInRoute
        channels).mapM hop
      pure (routes ++ rs)) := by
  induction channels generalizing routes peersInRoute with
  | nil => simp [pickFrom]
  | cons c l ih =>
    have hcond : (hasShortChannelId c ∧ c.peerNodeId ∉ peersInRoute ∧ routes.length < 5 ∧
        c.receivedChannelUpdate) ↔
        (Hintable c ∧ c.peerNodeId ∉ peersInRoute ∧ 0 < 5 - routes.length) := by
      have hlt : 0 < 5 - routes.length ↔ routes.length < 5 := by omega
      simp only [Hintable, Bool.and_eq_true, hlt]
      tauto
    rw [List.foldlM_cons]
    by_cases hc : Hintable c ∧ c.peerNodeId ∉ peersInRoute ∧ 0 < 5 - routes.length
    · have hlen : ∀ r : α, 5 - (routes ++ [r]).length = 5 - routes.length - 1 := by
        intro r
        rw [List.length_append, List.length_singleton]
        omega
      rw [pickFrom_cons_of_pos hc]
      simp only [routeStep, if_pos (hcond.mpr hc), bind_assoc, pure_bind, List.mapM_cons, ih, hlen,
        List.append_assoc, List.singleton_append]
    · rw [pickFrom_cons_of_neg hc]
      simp only [routeStep, if_neg (hcond.not.mpr hc), pure_bind, ih]

/-- The hints are made of the channels that are picked, in this order. -/
theorem routesOf_eq (channels : List LocalChannel) : routesOf hop channels =
    (pick Hintable LocalChannel.peerNodeId 5 channels).mapM hop := by
  unfold routesOf pick
  simpa using foldlM_routeStep hop channels [] []

end Loop

/-! ### What is promised of the hints -/

/-- The channels of the map, in iteration order. -/
def channelsOf (map : ChannelsMap) : List LocalChannel := map.entries.map Sigma.snd

/-- The channels whose hints are returned: what the loop returns if the hint of a channel is the
channel itself. -/
def hintedChannels (map : ChannelsMap) : List LocalChannel :=
  Id.run (routesOf pure (channelsOf map))

/-- The route has one hop, with the ids, fees and expiry of the channel. -/
def IsHintOf (ids : IdParsers) (c : LocalChannel) (route : List ExtraHop) : Prop :=
  ∃ hop, route = [hop] ∧ (∃ peer, c.peerNodeId = some peer ∧ ids.publicKey peer = .ok hop.nodeId) ∧
    (∃ id, c.shortChannelId = some id ∧ ids.shortChannelId id = .ok hop.shortChannelId) ∧
    c.feeBaseMsat = some hop.feeBase ∧
    c.feeProportionalMillionths = some hop.feeProportionalMillionths ∧
    c.cltvExpiryDelta = some hop.cltvExpiryDelta

/-- Each hint is of a channel of the map that can be used to receive, at most one for each peer and
five in all; with fewer than five, every peer with such a channel has one. -/
structure HintsRight (ids : IdParsers) (map : ChannelsMap) (routes : List (List ExtraHop)) :
    Prop where
  ofChannels : List.Forall₂ (IsHintOf ids) (hintedChannels map) routes
  inMap : ∀ c ∈ hintedChannels map, c ∈ channelsOf map
  hintable : ∀ c ∈ hintedChannels map, hasShortChannelId c ∧ c.receivedChannelUpdate
  usable : ∀ c ∈ hintedChannels map, c.fundsAreUsable
  onePerPeer : ((hintedChannels map).map LocalChannel.peerNodeId).Nodup
  atMostFive : routes.length ≤ 5
  complete : routes.length < 5 → ∀ c ∈ channelsOf map, hasShortChannelId c →
    c.receivedChannelUpdate → c.fundsAreUsable →
      c.peerNodeId ∈ (hintedChannels map).map LocalChannel.peerNodeId

/-- The channel is the first of its peer that the loop takes: among the channels with a short id and
an update, none before it has its peer, and they have fewer than five peers. -/
def FirstOfPeer (map : ChannelsMap) (c : LocalChannel) : Prop :=
  FirstWithKey Hintable LocalChannel.peerNodeId 5 [] (channelsOf map) c

section

variable {ids : IdParsers} {map : ChannelsMap} {routes : List (List ExtraHop)}

theorem hintedChannels_eq (map : ChannelsMap) :
    hintedChannels map = pick Hintable LocalChannel.peerNodeId 5 (channelsOf map) := by
  unfold hintedChannels
  rw [routesOf_eq]
  show (List.mapM (fun c => pure (id c)) _ : Id (List LocalChannel)).run = _
  rw [List.mapM_pure, List.map_id]
  rfl

theorem mem_hintedChannels_iff {c : LocalChannel} :
    c ∈ hintedChannels map ↔ FirstOfPeer map c := by
  rw [hintedChannels_eq]
  exact mem_pickFrom_iff

theorem deref_ok_iff {α : Type} {field : Option α} {a : α} :
    deref field = .ok a ↔ field = some a := by
  cases field <;> simp [deref]

theorem isHintOf_of_getExtraHops {c : LocalChannel} {route : List ExtraHop}
    (h : getExtraHops ids c = .ok route) : IsHintOf ids c route := by
  simp only [getExtraHops, bind_eq_ok_iff, deref_ok_iff] at h
  obtain ⟨peer, hpeer, nodeId, hnode, id, hid, shortChannelId, hshort, feeBase, hbase, fee, hfee,
    expiry, hexpiry, hroute⟩ := h
  obtain rfl := Except.ok.inj hroute
  exact ⟨_, rfl, ⟨peer, hpeer, hnode⟩, ⟨id, hid, hshort⟩, hbase, hfee, hexpiry⟩

/-- **The hints are right exactly if the first channel of each peer can be used.** -/
theorem hintsRight_iff (h : getRoutes ids map = .ok routes) :
    HintsRight ids map routes ↔ ∀ c, FirstOfPeer map c → c.fundsAreUsable := by
  constructor
  · intro hright c hc
    exact hright.usable c (mem_hintedChannels_iff.mpr hc)
  · intro husable
    have hmade : List.Forall₂ (fun c route => getExtraHops ids c = .ok route)
        (hintedChannels map) routes := by
      rw [getRoutes, routesOf_eq] at h
      rw [hintedChannels_eq]
      exact forall₂_of_mapM_ok h
    have hlen := hmade.length_eq
    refine ⟨hmade.imp fun _ _ => isHintOf_of_getExtraHops, ?_, ?_, ?_, ?_, ?_, ?_⟩
    · intro c hc
      rw [hintedChannels_eq] at hc
      exact pickFrom_sublist.subset hc
    · intro c hc
      rw [hintedChannels_eq] at hc
      simpa [Hintable] using (of_mem_pickFrom hc).1
    · intro c hc
      exact husable c (mem_hintedChannels_iff.mp hc)
    · rw [hintedChannels_eq]
      exact nodup_keys_pickFrom
    · rw [← hlen, hintedChannels_eq]
      exact length_pickFrom_le
    · intro hlt c hc hid hupdate _
      rw [← hlen, hintedChannels_eq] at hlt
      rw [hintedChannels_eq]
      refine (key_mem_of_length_lt hlt hc ?_).resolve_left List.not_mem_nil
      simp [Hintable, hid, hupdate]

end

/-- A channel with a peer, in the given state, that has received an update. -/
def hintChannel (shortChannelId state : String) : LocalChannel :=
  { LocalChannel.new 0 with
    peerNodeId := some "02aa"
    shortChannelId := some shortChannelId
    state := state
    feeBaseMsat := some 1000
    feeProportionalMillionths := some 100
    cltvExpiryDelta := some 144 }

/-- Two channels with one peer, the first one in the given state and the other one normal. -/
def onePeerMap (firstState : String) : ChannelsMap where
  entries :=
    [⟨"first", hintChannel "1x1x0" firstState⟩, ⟨"second", hintChannel "2x1x0" "NORMAL"⟩]
  nodupKeys := by simp [List.NodupKeys, List.keys]

/-- All texts of the two channels are ids. -/
def textIds : IdParsers := ⟨.ok, .ok⟩

/-- A syncing channel can be used, so its hint is right. -/
theorem hintsRight_syncing : HintsRight textIds (onePeerMap "SYNCING")
    [[⟨"02aa", "1x1x0", 1000, 100, 144⟩]] := by
  refine (hintsRight_iff rfl).mpr fun c hc => ?_
  have hmem : c ∈ hintedChannels (onePeerMap "SYNCING") := mem_hintedChannels_iff.mpr hc
  have hall : ∀ c ∈ hintedChannels (onePeerMap "SYNCING"), c.fundsAreUsable := by decide
  exact hall c hmem

/-- The hint of the peer is of the closing channel. -/
theorem not_hintsRight : ¬ ∀ ids map routes, getRoutes ids map = .ok routes →
    HintsRight ids map routes := by
  intro h
  have hright := h textIds (onePeerMap "CLOSING") [[⟨"02aa", "1x1x0", 1000, 100, 144⟩]] rfl
  have husable := hright.usable (hintChannel "1x1x0" "CLOSING") (by decide)
  exact absurd husable (by decide)

end NodeSupervisor

end EclairMobile
