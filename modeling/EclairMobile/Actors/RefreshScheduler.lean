import EclairMobile.Lib.Reach
import Mathlib.Data.List.Basic

/-!
# RefreshScheduler

An actor that answers a burst of `REFRESH` messages with one update of the screen: the first of them
schedules a `WAKE_UP` and puts the actor to sleep, and those that come before it are dropped.  The
context of an actor keeps a stack of behaviors.  Messages go through the mailbox, those of the
scheduler too, and are taken from it one at a time.
-/

namespace EclairMobile

open Lib

/-! ### The stack of behaviors -/

namespace ActorContext

variable {β : Type}

/-- `become(behavior)`, which discards the current behavior. -/
def become (behavior : β) (behaviorStack : List β) : List β := behavior :: behaviorStack.tail

/-- `unbecome()`, which goes back to `receive` when no other behavior is left. -/
def unbecome (receive : β) (behaviorStack : List β) : List β :=
  if behaviorStack.tail = [] then [receive] else behaviorStack.tail

end ActorContext

namespace RefreshScheduler

inductive Behavior
  | onReceive
  | sleep
  deriving DecidableEq, Repr

inductive Message
  | REFRESH
  | WAKE_UP
  deriving DecidableEq, Repr

/-- What the subclasses post. -/
inductive RefreshEvent
  | PaymentEvent
  | ChannelUpdateEvent
  | BalanceUpdateEvent
  deriving DecidableEq, Repr

/-- The actor with its mailbox and its timers. -/
structure Scheduler where
  behaviorStack : List Behavior := [.onReceive]
  mailbox : List Message := []
  /-- The calls of `scheduleOnce` whose second is not over. -/
  timers : ℕ := 0
  /-- History: what `handleRefresh` has posted. -/
  posted : List RefreshEvent := []
  /-- History: the `REFRESH` messages that found the actor awake. -/
  foundAwake : ℕ := 0
  deriving DecidableEq, Repr

end RefreshScheduler

/-! ### The subclasses -/

def PaymentsRefreshScheduler.event : RefreshScheduler.RefreshEvent := .PaymentEvent
def ChannelsRefreshScheduler.event : RefreshScheduler.RefreshEvent := .ChannelUpdateEvent
def BalanceRefreshScheduler.event : RefreshScheduler.RefreshEvent := .BalanceUpdateEvent

namespace RefreshScheduler

open ActorContext

namespace Scheduler

/-! ### Messages -/

section

variable (event : RefreshEvent)

/-- `handleRefresh` of a subclass, given by the event that it posts. -/
def handleRefresh (s : Scheduler) : Scheduler := { s with posted := s.posted ++ [event] }

def onReceive (s : Scheduler) (message : Message) : Scheduler :=
  if message = .REFRESH then
    { s with
      timers := s.timers + 1
      behaviorStack := become .sleep s.behaviorStack
      foundAwake := s.foundAwake + 1 }
  else s

def sleep (s : Scheduler) (message : Message) : Scheduler :=
  if message = .WAKE_UP then
    let s := s.handleRefresh event
    { s with behaviorStack := unbecome .onReceive s.behaviorStack }
  else s

/-- A message is handed to the current behavior. -/
def receive (s : Scheduler) (message : Message) : Scheduler :=
  match s.behaviorStack.head? with
  | some .onReceive => s.onReceive message
  | some .sleep => s.sleep event message
  | none => s

end

/-- What can happen: a `REFRESH` is sent to the actor, a timer sends its `WAKE_UP`, and the actor
takes a message from its mailbox. -/
inductive Action
  | refresh
  | timer
  | next
  deriving DecidableEq, Repr

def step (event : RefreshEvent) (s : Scheduler) : Action → Option Scheduler
  | .refresh => some { s with mailbox := s.mailbox ++ [.REFRESH] }
  | .timer =>
    if 0 < s.timers then
      some { s with timers := s.timers - 1, mailbox := s.mailbox ++ [.WAKE_UP] }
    else none
  | .next =>
    match s.mailbox with
    | [] => none
    | message :: mailbox => some ({ s with mailbox := mailbox }.receive event message)

/-! ### Sleeping and waking up -/

def Asleep (s : Scheduler) : Prop := s.behaviorStack.head? = some Behavior.sleep

instance (s : Scheduler) : Decidable s.Asleep :=
  inferInstanceAs (Decidable (s.behaviorStack.head? = some .sleep))

/-- The `WAKE_UP` messages that are scheduled and not yet delivered to the behavior. -/
def outstanding (s : Scheduler) : ℕ := s.timers + s.mailbox.count .WAKE_UP

/-- The actor is awake with nothing scheduled, or asleep with one `WAKE_UP` to come. -/
inductive Sound (s : Scheduler) : Prop
  | awake : s.behaviorStack = [.onReceive] → s.outstanding = 0 → s.foundAwake = s.posted.length →
      Sound s
  | asleep : s.behaviorStack = [.sleep] → s.outstanding = 1 →
      s.foundAwake = s.posted.length + 1 → Sound s

section

variable {event : RefreshEvent} {s s' : Scheduler}

theorem step_timer_iff : s.step event .timer = some s' ↔ 0 < s.timers ∧
    s' = { s with timers := s.timers - 1, mailbox := s.mailbox ++ [.WAKE_UP] } := by
  unfold step
  split_ifs with h
  · rw [Option.some_inj, eq_comm]
    simp [h]
  · simp [h]

theorem step_next_iff : s.step event .next = some s' ↔
    ∃ message mailbox, s.mailbox = message :: mailbox ∧
      s' = { s with mailbox := mailbox }.receive event message := by
  unfold step
  cases h : s.mailbox with
  | nil => simp
  | cons message mailbox =>
    rw [Option.some_inj, eq_comm]
    simp

/-! What each behavior does with each message. -/

theorem receive_REFRESH_awake (h : s.behaviorStack = [.onReceive]) :
    s.receive event .REFRESH =
      { s with
        timers := s.timers + 1, behaviorStack := [.sleep], foundAwake := s.foundAwake + 1 } := by
  simp [receive, onReceive, become, h]

theorem receive_REFRESH_asleep (h : s.Asleep) : s.receive event .REFRESH = s := by
  unfold Asleep at h
  simp [receive, sleep, h]

theorem receive_WAKE_UP_asleep (h : s.behaviorStack = [.sleep]) :
    s.receive event .WAKE_UP =
      { s with posted := s.posted ++ [event], behaviorStack := [.onReceive] } := by
  simp [receive, sleep, handleRefresh, unbecome, h]

/-- A stray `WAKE_UP` finds no timer behind it, and has no effect. -/
theorem receive_WAKE_UP_awake (h : ¬s.Asleep) : s.receive event .WAKE_UP = s := by
  unfold receive
  cases hb : s.behaviorStack.head? with
  | none => rfl
  | some behavior =>
    cases behavior with
    | onReceive => rfl
    | sleep => exact absurd hb h

/-! ### The invariant -/

theorem Sound.refresh (h : s.Sound) : Sound { s with mailbox := s.mailbox ++ [.REFRESH] } := by
  have hcount : outstanding { s with mailbox := s.mailbox ++ [.REFRESH] } = s.outstanding := by
    simp [outstanding]
  cases h with
  | awake hb ho hf => exact .awake hb (hcount.trans ho) hf
  | asleep hb ho hf => exact .asleep hb (hcount.trans ho) hf

theorem Sound.timer (h : s.Sound) (ht : 0 < s.timers) :
    Sound { s with timers := s.timers - 1, mailbox := s.mailbox ++ [.WAKE_UP] } := by
  have hcount : outstanding { s with timers := s.timers - 1, mailbox := s.mailbox ++ [.WAKE_UP] } =
      s.outstanding := by
    simp [outstanding]
    omega
  cases h with
  | awake hb ho hf => exact .awake hb (hcount.trans ho) hf
  | asleep hb ho hf => exact .asleep hb (hcount.trans ho) hf

theorem Sound.next (h : s.Sound) {message : Message} {mailbox : List Message}
    (hm : s.mailbox = message :: mailbox) :
    Sound ({ s with mailbox := mailbox }.receive event message) := by
  have hcount : s.outstanding =
      s.timers + (mailbox.count .WAKE_UP + if message = .WAKE_UP then 1 else 0) := by
    unfold outstanding
    rw [hm, List.count_cons]
    simp
  cases h with
  | awake hb ho hf =>
    cases message with
    | REFRESH =>
      rw [receive_REFRESH_awake (s := { s with mailbox := mailbox }) hb]
      refine .asleep rfl ?_ (congrArg (· + 1) hf)
      simp at hcount
      simp [outstanding]
      omega
    | WAKE_UP =>
      -- nothing is scheduled while the actor is awake
      simp at hcount
      omega
  | asleep hb ho hf =>
    cases message with
    | REFRESH =>
      have hasleep : Asleep { s with mailbox := mailbox } := by
        simp [Asleep, hb]
      rw [receive_REFRESH_asleep hasleep]
      refine .asleep hb ?_ hf
      simp at hcount
      simp [outstanding]
      omega
    | WAKE_UP =>
      rw [receive_WAKE_UP_asleep (s := { s with mailbox := mailbox }) hb]
      refine .awake rfl ?_ ?_
      · simp at hcount
        simp [outstanding]
        omega
      · simp [hf]

theorem Sound.step (h : s.Sound) {a : Action} (hstep : s.step event a = some s') : s'.Sound := by
  cases a with
  | refresh =>
    obtain rfl := Option.some.inj hstep
    exact h.refresh
  | timer =>
    obtain ⟨ht, rfl⟩ := step_timer_iff.mp hstep
    exact h.timer ht
  | next =>
    obtain ⟨message, mailbox, hm, rfl⟩ := step_next_iff.mp hstep
    exact h.next hm

theorem Sound.of_reach (h : Reach (Scheduler.step event) anyStep (· = {}) s) : s.Sound :=
  Reach.invariant (by rintro s rfl; exact .awake rfl rfl rfl) (fun _ _ _ hs _ => hs.step) s h

theorem Sound.asleep_iff (h : s.Sound) : s.Asleep ↔ s.outstanding = 1 := by
  unfold Asleep
  cases h with
  | awake hb ho _ => simp [hb, ho]
  | asleep hb ho _ => simp [hb, ho]

theorem Sound.posted_le (h : s.Sound) : s.posted.length ≤ s.foundAwake := by
  cases h with
  | awake _ _ hf => exact Nat.le_of_eq hf.symm
  | asleep _ _ hf => omega

/-! ### Until the `WAKE_UP` is delivered -/

/-- The action delivers no `WAKE_UP`. -/
def Quiet (s : Scheduler) (a : Action) : Prop := a = .next → s.mailbox.head? ≠ some .WAKE_UP

theorem step_quiet {events : List RefreshEvent} (hs : s.behaviorStack = [.sleep])
    (hp : s.posted = events) {a : Action} (hq : Quiet s a) (hstep : s.step event a = some s') :
    s'.behaviorStack = [.sleep] ∧ s'.posted = events := by
  cases a with
  | refresh =>
    obtain rfl := Option.some.inj hstep
    exact ⟨hs, hp⟩
  | timer =>
    obtain ⟨-, rfl⟩ := step_timer_iff.mp hstep
    exact ⟨hs, hp⟩
  | next =>
    obtain ⟨message, mailbox, hm, rfl⟩ := step_next_iff.mp hstep
    cases message with
    | REFRESH =>
      have hasleep : Asleep { s with mailbox := mailbox } := by
        simp [Asleep, hs]
      rw [receive_REFRESH_asleep hasleep]
      exact ⟨hs, hp⟩
    | WAKE_UP => exact absurd (by rw [hm]; rfl) (hq rfl)

theorem run_quiet {as : List Action} (hs : s.behaviorStack = [.sleep])
    (hq : Meets (Scheduler.step event) Quiet s as)
    (hrun : run (Scheduler.step event) s as = some s') :
    s'.behaviorStack = [.sleep] ∧ s'.posted = s.posted := by
  have hreach : Reach (Scheduler.step event) Quiet (· = s) s' := reach_of_meets rfl hq hrun
  refine Reach.invariant (I := fun u => u.behaviorStack = [.sleep] ∧ u.posted = s.posted)
    ?_ (fun _ _ _ h hok hstep => step_quiet h.1 h.2 hok hstep) s' hreach
  rintro u rfl
  exact ⟨hs, rfl⟩

/-- A sleeping actor comes to the `WAKE_UP` in its mailbox, and the `REFRESH` messages before it are
dropped. -/
theorem exists_run_of_mem {mailbox : List Message} (hs : s.behaviorStack = [.sleep])
    (hm : s.mailbox = mailbox) (hmem : Message.WAKE_UP ∈ mailbox) :
    ∃ as s', run (Scheduler.step event) s as = some s' ∧ s'.posted = s.posted ++ [event] := by
  induction mailbox generalizing s with
  | nil => simp at hmem
  | cons message mailbox ih =>
    have hnext : s.step event .next = some ({ s with mailbox := mailbox }.receive event message) :=
      step_next_iff.mpr ⟨message, mailbox, hm, rfl⟩
    cases message with
    | WAKE_UP =>
      rw [receive_WAKE_UP_asleep (s := { s with mailbox := mailbox }) hs] at hnext
      refine ⟨[.next], { s with
        mailbox := mailbox, posted := s.posted ++ [event], behaviorStack := [.onReceive] }, ?_, rfl⟩
      rw [run_cons, hnext]
      rfl
    | REFRESH =>
      have hasleep : Asleep { s with mailbox := mailbox } := by
        simp [Asleep, hs]
      rw [receive_REFRESH_asleep hasleep] at hnext
      obtain ⟨as, s', hrun, hposted⟩ :=
        ih (s := { s with mailbox := mailbox }) hs rfl (by simpa using hmem)
      refine ⟨.next :: as, s', ?_, hposted⟩
      rw [run_cons, hnext]
      exact hrun

/-- **No update is lost**: the one `WAKE_UP` that is to come can be delivered, and then the event is
posted. -/
theorem Sound.exists_run_posted (h : s.Sound) (hasleep : s.Asleep) :
    ∃ as s', run (Scheduler.step event) s as = some s' ∧ s'.posted = s.posted ++ [event] := by
  cases h with
  | awake hb _ _ => simp [Asleep, hb] at hasleep
  | asleep hs ho _ =>
    by_cases ht : 0 < s.timers
    · obtain ⟨as, s', hrun, hposted⟩ := exists_run_of_mem
        (s := { s with timers := s.timers - 1, mailbox := s.mailbox ++ [.WAKE_UP] }) hs rfl
        (by simp)
      refine ⟨.timer :: as, s', ?_, hposted⟩
      rw [run_cons, step_timer_iff.mpr ⟨ht, rfl⟩]
      exact hrun
    · have hcount : 0 < s.mailbox.count .WAKE_UP := by
        unfold outstanding at ho
        omega
      exact exists_run_of_mem hs rfl (List.count_pos_iff.mp hcount)

end

/-! ### What is asked of the scheduler -/

/-- In a state `s`: it sleeps exactly while one `WAKE_UP` is to come, which can be delivered and
posts the event, a stray one has no effect, and no event is posted without a `REFRESH` that found it
awake.  If it takes a `REFRESH` from the mailbox, awake or asleep, then nothing is posted before the
next `WAKE_UP` is delivered, and the event is posted when it is. -/
structure Coalesces (event : RefreshEvent) (s : Scheduler) : Prop where
  one_to_come : s.Asleep ↔ s.outstanding = 1
  woken : s.Asleep → ∃ as s₁, run (Scheduler.step event) s as = some s₁ ∧
    s₁.posted = s.posted ++ [event]
  stray : ¬s.Asleep → s.receive event .WAKE_UP = s
  found_awake : s.posted.length ≤ s.foundAwake
  followed : ∀ s₁, s.mailbox.head? = some .REFRESH → s.step event .next = some s₁ →
    s₁.Asleep ∧ ∀ as s₂ s₃, Meets (Scheduler.step event) Quiet s₁ as →
      run (Scheduler.step event) s₁ as = some s₂ → ¬Quiet s₂ .next →
        s₂.step event .next = some s₃ →
          s₂.posted = s.posted ∧ s₃.posted = s.posted ++ [event]

section

variable {event : RefreshEvent} {s s' : Scheduler}

theorem Sound.next_REFRESH (h : s.Sound) (hm : s.mailbox.head? = some .REFRESH)
    (hstep : s.step event .next = some s') :
    s'.behaviorStack = [.sleep] ∧ s'.posted = s.posted := by
  obtain ⟨message, mailbox, hmailbox, rfl⟩ := step_next_iff.mp hstep
  rw [hmailbox, List.head?_cons] at hm
  obtain rfl := Option.some.inj hm
  cases h with
  | awake hb _ _ =>
    rw [receive_REFRESH_awake (s := { s with mailbox := mailbox }) hb]
    exact ⟨rfl, rfl⟩
  | asleep hb _ _ =>
    have hasleep : Asleep { s with mailbox := mailbox } := by
      simp [Asleep, hb]
    rw [receive_REFRESH_asleep hasleep]
    exact ⟨hb, rfl⟩

theorem next_WAKE_UP (hs : s.behaviorStack = [.sleep]) (hq : ¬Quiet s .next)
    (hstep : s.step event .next = some s') : s'.posted = s.posted ++ [event] := by
  obtain ⟨message, mailbox, hm, rfl⟩ := step_next_iff.mp hstep
  simp only [Quiet, hm, List.head?_cons, forall_const, ne_eq, not_not, Option.some_inj] at hq
  subst hq
  rw [receive_WAKE_UP_asleep (s := { s with mailbox := mailbox }) hs]

/-- **Every `REFRESH` is followed by an update of the screen, in every run of the actor.** -/
theorem coalesces_of_reach (h : Reach (Scheduler.step event) anyStep (· = {}) s) :
    Coalesces event s := by
  have hsound := Sound.of_reach h
  refine ⟨hsound.asleep_iff, hsound.exists_run_posted, receive_WAKE_UP_awake, hsound.posted_le,
    ?_⟩
  intro s₁ hm hstep
  obtain ⟨hs₁, hp₁⟩ := hsound.next_REFRESH hm hstep
  refine ⟨by simp [Asleep, hs₁], ?_⟩
  intro as s₂ s₃ hq hrun hwake hnext
  obtain ⟨hs₂, hp₂⟩ := run_quiet hs₁ hq hrun
  refine ⟨hp₂.trans hp₁, ?_⟩
  rw [next_WAKE_UP hs₂ hwake hnext, hp₂, hp₁]

end

/-- Two messages of a burst, of which the second is in the mailbox when the actor has gone to
sleep. -/
theorem coalesces_of_reach_burst : ∃ s, s.Asleep ∧ s.mailbox = [.REFRESH] ∧
    Coalesces PaymentsRefreshScheduler.event s := by
  have hrun : (run (Scheduler.step PaymentsRefreshScheduler.event) {}
      [.refresh, .refresh, .next]).map (fun s => (s.behaviorStack.head?, s.mailbox)) =
        some (some .sleep, [.REFRESH]) := by
    decide
  obtain ⟨s, hs, he⟩ := Option.map_eq_some_iff.mp hrun
  obtain ⟨hasleep, hmailbox⟩ := Prod.mk.inj he
  exact ⟨s, hasleep, hmailbox, coalesces_of_reach (reach_of_run rfl hs)⟩

end Scheduler

end RefreshScheduler

end EclairMobile
