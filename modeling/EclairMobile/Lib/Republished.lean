import EclairMobile.Lib.Reach
import Mathlib.Data.List.Basic
import Mathlib.Data.Nat.Notation

/-!
# A copy that is kept up to date

A value changes, and every change sends a notice.  A notice enqueues the one task that publishes the
value, in place of the one before; a task that was running when it was replaced goes on, and may
publish what it has read.  When everything is at rest the published copy is the current value, if
the replaced tasks publish only while a newer one is still to come.
-/

namespace EclairMobile.Lib

/-- Where the task stands, with the value that it has read. -/
inductive Job (α : Type*)
  | idle
  | enqueued
  | running (read : α)

structure Republished (α : Type*) where
  value : α
  notices : ℕ := 0
  task : Job α := .idle
  /-- What the replaced tasks have read that still run. -/
  replaced : List α := []
  /-- The copy, or `none` where nothing is known of it. -/
  published : Option α := none

namespace Republished

variable {α : Type*}

inductive Action (α : Type*)
  | change (value : α)
  | notice
  | start
  /-- The task ends, and has published the value as a whole, or may have not. -/
  | finish (whole : Bool)
  | finishReplaced (i : ℕ) (whole : Bool)
  /-- Notices and replaced tasks are lost, and the task starts over. -/
  | interrupt

def publish (read : α) (whole : Bool) (s : Republished α) : Republished α :=
  { s with published := if whole then some read else none }

def step (s : Republished α) : Action α → Option (Republished α)
  | .change value => some { s with value := value, notices := s.notices + 1 }
  | .notice =>
    if 0 < s.notices then
      let replaced :=
        match s.task with
        | .running read => read :: s.replaced
        | .idle | .enqueued => s.replaced
      some { s with notices := s.notices - 1, task := .enqueued, replaced := replaced }
    else none
  | .start =>
    match s.task with
    | .enqueued => some { s with task := .running s.value }
    | .idle | .running _ => none
  | .finish whole =>
    match s.task with
    | .running read => some (publish read whole { s with task := .idle })
    | .idle | .enqueued => none
  | .finishReplaced i whole =>
    s.replaced[i]?.map fun read => publish read whole { s with replaced := s.replaced.eraseIdx i }
  | .interrupt =>
    let task :=
      match s.task with
      | .running _ => .enqueued
      | .idle => .idle
      | .enqueued => .enqueued
    some { s with notices := 0, task := task, replaced := [] }

/-- Nothing is to come any more that publishes. -/
def AtRest (s : Republished α) : Prop := s.notices = 0 ∧ s.task = .idle

/-- A replaced task publishes only while a newer one is to come, and no notice is lost. -/
def Careful (s : Republished α) : Action α → Prop
  | .finishReplaced _ _ => ¬s.AtRest
  | .interrupt => s.notices = 0
  | _ => True

/-- **What the task has read is the value, unless a notice is to come.** -/
structure Fresh (s : Republished α) : Prop where
  running : s.notices = 0 → ∀ read, s.task = .running read → read = s.value
  published : s.AtRest → ∀ copy, s.published = some copy → copy = s.value

theorem Fresh.step {s s' : Republished α} {a : Action α} (h : s.Fresh) (hok : s.Careful a)
    (hs : step s a = some s') : s'.Fresh := by
  cases a with
  | change value =>
    obtain rfl := Option.some.inj hs
    constructor
    · intro hzero
      exact absurd hzero (Nat.succ_ne_zero _)
    · rintro ⟨hzero, -⟩
      exact absurd hzero (Nat.succ_ne_zero _)
  | notice =>
    simp only [Republished.step] at hs
    split at hs
    · obtain rfl := Option.some.inj hs
      constructor
      · intro _ read htask
        cases htask
      · rintro ⟨-, htask⟩
        cases htask
    · cases hs
  | start =>
    cases htask : s.task with
    | enqueued =>
      simp only [Republished.step, htask] at hs
      obtain rfl := Option.some.inj hs
      constructor
      · intro _ read hread
        exact (Job.running.inj hread).symm
      · rintro ⟨-, hidle⟩
        cases hidle
    | idle => simp [Republished.step, htask] at hs
    | running read => simp [Republished.step, htask] at hs
  | finish whole =>
    cases htask : s.task with
    | running read =>
      simp only [Republished.step, htask] at hs
      obtain rfl := Option.some.inj hs
      constructor
      · intro _ read' hread
        cases hread
      · rintro ⟨hzero, -⟩ copy hcopy
        have hsame : read = s.value := h.running hzero read htask
        change (if whole then some read else none) = some copy at hcopy
        cases whole with
        | true => exact (Option.some.inj hcopy).symm.trans hsame
        | false => cases hcopy
    | idle => simp [Republished.step, htask] at hs
    | enqueued => simp [Republished.step, htask] at hs
  | finishReplaced i whole =>
    obtain ⟨read, -, rfl⟩ := Option.map_eq_some_iff.mp hs
    exact ⟨h.running, fun hrest => absurd hrest hok⟩
  | interrupt =>
    obtain rfl := Option.some.inj hs
    have hzero : s.notices = 0 := hok
    constructor
    · intro _ read hread
      cases htask : s.task with
      | running read' => simp [htask] at hread
      | idle => simp [htask] at hread
      | enqueued => simp [htask] at hread
    · rintro ⟨-, hidle⟩ copy hcopy
      apply h.published _ copy hcopy
      refine ⟨hzero, ?_⟩
      cases htask : s.task with
      | running read' => simp [htask] at hidle
      | idle => rfl
      | enqueued => simp [htask] at hidle

/-- **At rest the copy is the value.** -/
theorem published_of_reach {init : Republished α → Prop} (h0 : ∀ s, init s → s.Fresh)
    {s : Republished α} (h : Reach step Careful init s) (hrest : s.AtRest) {copy : α}
    (hcopy : s.published = some copy) : copy = s.value :=
  (Reach.invariant (I := Fresh) h0 (fun _ _ _ hs hok hstep => hs.step hok hstep) s h).published
    hrest copy hcopy

end Republished

end EclairMobile.Lib
