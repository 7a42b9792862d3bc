import Mathlib.Data.Int.Notation
import Mathlib.Data.List.Basic
import Mathlib.Data.List.Induction

/-!
# CheckElectrumWorker

The background worker that checks the channels against an electrum server, and its reminder: an
offline run tells the user that no check was possible for a while, unless the last check is fresh.
Freshness is read from preferences that every run writes back, so the reminder is a property of a
whole history of boots and runs (`reminder_iff`).
-/

namespace EclairMobile

namespace CheckElectrumWorker

/-- `System.currentTimeMillis()`. -/
structure Instant where
  millis : ℤ
  pos : 0 < millis
  deriving DecidableEq

def DAY_IN_MILLIS : ℤ := 24 * 60 * 60 * 1000
def MAX_FRESH_WINDOW : ℤ := DAY_IN_MILLIS * 3
def MAX_FRESH_WINDOW_IF_OK : ℤ := DAY_IN_MILLIS * 5

inductive WatchResult
  | Ok
  | NotOk
  | Unknown
  deriving DecidableEq, Repr

def WatchResult.toString : WatchResult → String
  | .Ok => "Ok"
  | .NotOk => "NotOk"
  | .Unknown => "Unknown"

/-- The preferences that the worker and the startup screen write. -/
structure Prefs where
  lastSuccessfulBootDate : ℤ := 0
  lastOutcomeTimestamp : ℤ := 0
  lastOutcomeResult : Option String := none
  lastAttemptTimestamp : ℤ := 0
  deriving DecidableEq

/-- `showNotification(context, isAlert)`. -/
structure Notification where
  isAlert : Bool
  deriving DecidableEq, Repr

/-- The notification that no check was possible for a while. -/
def reminder : Notification := ⟨false⟩

inductive WorkResult
  | success
  | failure
  deriving DecidableEq, Repr

/-- What a run finds: the files of the wallet, the app, the network and the server, and the times at
which it reads the clock. -/
structure Run where
  dbFileExists : Bool
  appKitRunning : Bool
  setupThrows : Bool
  noLocalChannels : Bool
  isConnected : Bool
  /-- The result of `setup.check()`, or none if it throws or times out. -/
  check : Option WatchResult
  currentTime : Instant
  saveTime : Instant
  attemptTime : Instant

def timestampAttempt (prefs : Prefs) (r : Run) : Prefs :=
  { prefs with lastAttemptTimestamp := r.attemptTime.millis }

def saveLastCheckResult (prefs : Prefs) (r : Run) (result : WatchResult) : Prefs :=
  { prefs with lastOutcomeTimestamp := r.saveTime.millis, lastOutcomeResult := result.toString }

def equalsIgnoreCase (s t : String) : Bool := s.toList.map Char.toLower == t.toList.map Char.toLower

def isLastCheckFresh (prefs : Prefs) (currentTime : ℤ) : Bool :=
  let delaySinceCheck := currentTime - prefs.lastOutcomeTimestamp
  if prefs.lastSuccessfulBootDate = 0 then false
  else if currentTime - prefs.lastSuccessfulBootDate < MAX_FRESH_WINDOW_IF_OK then true
  else if prefs.lastOutcomeTimestamp = 0 then false
  else if delaySinceCheck < MAX_FRESH_WINDOW then true
  else
    delaySinceCheck < MAX_FRESH_WINDOW_IF_OK &&
      prefs.lastOutcomeResult.any (equalsIgnoreCase WatchResult.Ok.toString)

/-- The result of the check, if it does not throw, and the notifications shown on the way. -/
def startElectrumCheck (prefs : Prefs) (r : Run) : Option WatchResult × List Notification :=
  if r.setupThrows then (none, [])
  else if r.noLocalChannels then (some .Ok, [])
  else if !r.isConnected then
    (some .Unknown, if isLastCheckFresh prefs r.currentTime.millis then [] else [reminder])
  else (r.check, [])

def doWork (prefs : Prefs) (r : Run) : Prefs × List Notification × WorkResult :=
  if !r.dbFileExists then (prefs, [], .success)
  else if r.appKitRunning then (timestampAttempt prefs r, [], .failure)
  else
    match startElectrumCheck prefs r with
    | (none, shown) => (timestampAttempt prefs r, shown, .failure)
    | (some result, shown) =>
      let shown := if result = .NotOk then shown ++ [⟨true⟩] else shown
      (timestampAttempt (saveLastCheckResult prefs r result) r, shown, .success)

/-! ### Histories -/

/-- `finishAndGoToHome` of the startup screen, or a run of the worker. -/
inductive Event
  | boot (date : Instant)
  | run (r : Run)

def next (prefs : Prefs) : Event → Prefs
  | .boot date => { prefs with lastSuccessfulBootDate := date.millis }
  | .run r => (doWork prefs r).1

/-- The preferences after a history, oldest event first. -/
def prefsAfter (history : List Event) : Prefs := history.foldl next {}

namespace Run

/-- The run gets as far as the channels of the wallet. -/
def Starts (r : Run) : Prop := r.dbFileExists ∧ ¬ r.appKitRunning ∧ ¬ r.setupThrows

/-- A run of a wallet with at least one local channel, without network. -/
def Offline (r : Run) : Prop := r.dbFileExists ∧ ¬ r.noLocalChannels ∧ ¬ r.isConnected

/-- A run of a wallet without channels. -/
def NoChannels (r : Run) : Prop := r.dbFileExists ∧ r.noLocalChannels

/-- The channels are not checked: there is no network, or the check ends without a verdict. -/
def Inconclusive (r : Run) : Prop :=
  ¬ r.noLocalChannels ∧ (¬ r.isConnected ∨ r.check = some .Unknown)

/-- The run completes a check against a server. -/
def Completed (r : Run) : Prop :=
  r.Starts ∧ ¬ r.noLocalChannels ∧ r.isConnected ∧ (r.check = some .Ok ∨ r.check = some .NotOk)

/-- What the run saves as the outcome of a check. -/
def outcome (r : Run) : Option WatchResult :=
  if r.dbFileExists ∧ ¬ r.appKitRunning then (startElectrumCheck {} r).1 else none

instance : DecidablePred Starts := fun _ => inferInstanceAs (Decidable (_ ∧ _))
instance : DecidablePred Offline := fun _ => inferInstanceAs (Decidable (_ ∧ _))
instance : DecidablePred NoChannels := fun _ => inferInstanceAs (Decidable (_ ∧ _))
instance : DecidablePred Inconclusive := fun _ => inferInstanceAs (Decidable (_ ∧ _))
instance : DecidablePred Completed := fun _ => inferInstanceAs (Decidable (_ ∧ _))

end Run

/-- The run of an event that saves an outcome. -/
def Event.storing : Event → Option Run
  | .boot _ => none
  | .run r => if r.outcome.isSome then some r else none

def Event.bootDate : Event → Option Instant
  | .boot date => some date
  | .run _ => none

/-- The last run that saved an outcome. -/
def lastStoring (history : List Event) : Option Run := (history.filterMap Event.storing).getLast?

/-! ### What a history leaves in the preferences -/

/-- The result of a check does not depend on the preferences, the reminder does. -/
theorem startElectrumCheck_fst (prefs : Prefs) (r : Run) :
    (startElectrumCheck prefs r).1 = (startElectrumCheck {} r).1 := by
  unfold startElectrumCheck
  split_ifs <;> rfl

theorem lastSuccessfulBootDate_doWork (prefs : Prefs) (r : Run) :
    (doWork prefs r).1.lastSuccessfulBootDate = prefs.lastSuccessfulBootDate := by
  unfold doWork
  split_ifs
  · rfl
  · rfl
  · rcases startElectrumCheck prefs r with ⟨_ | result, shown⟩ <;> rfl

/-- A run overwrites the saved outcome if it has one, whatever kind of run it was. -/
theorem outcome_doWork (prefs : Prefs) (r : Run) :
    ((doWork prefs r).1.lastOutcomeTimestamp, (doWork prefs r).1.lastOutcomeResult) =
      match r.outcome with
      | none => (prefs.lastOutcomeTimestamp, prefs.lastOutcomeResult)
      | some result => (r.saveTime.millis, some result.toString) := by
  unfold doWork Run.outcome
  by_cases hdb : r.dbFileExists
  · by_cases happ : r.appKitRunning
    · simp [hdb, happ, timestampAttempt]
    · simp only [hdb, happ, Bool.not_true, Bool.false_eq_true, if_false, not_false_eq_true,
        and_self, if_true, ← startElectrumCheck_fst prefs r]
      rcases startElectrumCheck prefs r with ⟨_ | result, shown⟩ <;> rfl
  · simp [hdb]

theorem prefsAfter_concat (history : List Event) (e : Event) :
    prefsAfter (history ++ [e]) = next (prefsAfter history) e := by simp [prefsAfter]

theorem next_run (prefs : Prefs) (r : Run) : next prefs (.run r) = (doWork prefs r).1 := rfl

theorem lastSuccessfulBootDate_prefsAfter (history : List Event) :
    (prefsAfter history).lastSuccessfulBootDate =
      ((history.filterMap Event.bootDate).getLast?.map Instant.millis).getD 0 := by
  induction history using List.reverseRecOn with
  | nil => rfl
  | append_singleton es e ih =>
    rw [prefsAfter_concat, List.filterMap_append]
    cases e with
    | boot date => simp [next, Event.bootDate]
    | run r =>
      rw [next_run, lastSuccessfulBootDate_doWork, ih]
      simp [Event.bootDate]

/-- The saved outcome is that of the last run that saved one. -/
theorem outcome_prefsAfter (history : List Event) :
    ((prefsAfter history).lastOutcomeTimestamp, (prefsAfter history).lastOutcomeResult) =
      match lastStoring history with
      | none => (0, none)
      | some r => (r.saveTime.millis, r.outcome.map WatchResult.toString) := by
  induction history using List.reverseRecOn with
  | nil => rfl
  | append_singleton es e ih =>
    rw [prefsAfter_concat, lastStoring, List.filterMap_append]
    cases e with
    | boot date =>
      simp only [Event.storing, List.filterMap_cons, List.filterMap_nil, List.append_nil]
      exact ih
    | run r =>
      rw [next_run, outcome_doWork]
      cases ho : r.outcome with
      | none =>
        simp only [Event.storing, ho, Option.isSome_none, List.filterMap_cons, List.filterMap_nil,
          List.append_nil, Bool.false_eq_true, if_false]
        exact ih
      | some result => simp [Event.storing, ho]

theorem mem_of_lastStoring {history : List Event} {r : Run} (h : lastStoring history = some r) :
    .run r ∈ history ∧ r.outcome.isSome := by
  obtain ⟨e, he, hst⟩ := List.mem_filterMap.mp (List.mem_of_getLast? h)
  cases e with
  | boot date => cases hst
  | run q =>
    simp only [Event.storing] at hst
    split at hst
    · next hsome =>
      obtain rfl := Option.some.inj hst
      exact ⟨he, hsome⟩
    · cases hst

/-! ### The reminder -/

/-- An offline run shows the reminder exactly when it comes to the question and the last check does
not look fresh. -/
theorem reminder_mem_doWork {r : Run} (hr : r.Offline) (prefs : Prefs) :
    reminder ∈ (doWork prefs r).2.1 ↔ ¬ r.appKitRunning ∧ ¬ r.setupThrows ∧
      isLastCheckFresh prefs r.currentTime.millis = false := by
  obtain ⟨hdb, hch, hconn⟩ := hr
  unfold doWork
  rw [if_neg (by simpa using hdb)]
  by_cases happ : r.appKitRunning = true
  · rw [if_pos happ]
    exact iff_of_false List.not_mem_nil fun h => h.1 happ
  · rw [if_neg happ]
    unfold startElectrumCheck
    by_cases hset : r.setupThrows = true
    · rw [if_pos hset]
      exact iff_of_false List.not_mem_nil fun h => h.2.1 hset
    · rw [if_neg hset, if_neg hch, if_pos (by simpa using hconn)]
      cases isLastCheckFresh prefs r.currentTime.millis with
      | true => simp
      | false => simp [happ, hset]

theorem outcome_isSome_cases {r : Run} (h : r.outcome.isSome) :
    (r.Inconclusive ∧ r.outcome = some .Unknown) ∨ (r.NoChannels ∧ r.outcome = some .Ok) ∨
      r.Completed := by
  unfold Run.outcome startElectrumCheck at *
  by_cases hdb : r.dbFileExists = true ∧ ¬ r.appKitRunning = true
  · rw [if_pos hdb] at h ⊢
    by_cases hset : r.setupThrows = true
    · simp [hset] at h
    · by_cases hch : r.noLocalChannels = true
      · exact Or.inr (Or.inl ⟨⟨hdb.1, hch⟩, by simp [hset, hch]⟩)
      · by_cases hconn : r.isConnected = true
        · simp only [hset, hch, hconn, Bool.false_eq_true, if_false, Bool.not_true] at h ⊢
          have hstarts : r.Starts := ⟨hdb.1, hdb.2, hset⟩
          cases hcheck : r.check with
          | none =>
            rw [hcheck] at h
            cases h
          | some result =>
            cases result with
            | Unknown => exact Or.inl ⟨⟨hch, Or.inr hcheck⟩, rfl⟩
            | Ok => exact Or.inr (Or.inr ⟨hstarts, hch, hconn, Or.inl hcheck⟩)
            | NotOk => exact Or.inr (Or.inr ⟨hstarts, hch, hconn, Or.inr hcheck⟩)
        · exact Or.inl ⟨⟨hch, Or.inl hconn⟩, by simp [hset, hch, hconn]⟩
  · rw [if_neg hdb] at h
    cases h

theorem Run.Completed.not_inconclusive {r : Run} (h : r.Completed) : ¬ r.Inconclusive := by
  obtain ⟨-, -, hconn, hcheck⟩ := h
  rintro ⟨-, hoff | hunknown⟩
  · exact hoff hconn
  · rw [hunknown] at hcheck
    rcases hcheck with h | h <;> cases h

/-- The wallet was booted once, and for five days before `now` there was neither a boot nor a run
that completed a check. -/
structure Quiet (history : List Event) (now : Instant) : Prop where
  booted : ∃ date, .boot date ∈ history
  noBoot : ∀ date, .boot date ∈ history → DAY_IN_MILLIS * 5 ≤ now.millis - date.millis
  noCheck : ∀ q, .run q ∈ history → q.Completed →
    DAY_IN_MILLIS * 5 ≤ now.millis - q.saveTime.millis

/-- The last run that saved an outcome did not do so recently without having checked anything. -/
def NotRefreshed (history : List Event) (now : Instant) : Prop :=
  ∀ q, lastStoring history = some q →
    (q.Inconclusive → DAY_IN_MILLIS * 3 ≤ now.millis - q.saveTime.millis) ∧
      (q.NoChannels → DAY_IN_MILLIS * 5 ≤ now.millis - q.saveTime.millis)

theorem boot_prefsAfter {history : List Event} {now : Instant} (h : Quiet history now) :
    (prefsAfter history).lastSuccessfulBootDate ≠ 0 ∧
      ¬ now.millis - (prefsAfter history).lastSuccessfulBootDate < MAX_FRESH_WINDOW_IF_OK := by
  rw [lastSuccessfulBootDate_prefsAfter]
  cases hl : (history.filterMap Event.bootDate).getLast? with
  | none =>
    obtain ⟨date, hdate⟩ := h.booted
    have hmem : date ∈ history.filterMap Event.bootDate := List.mem_filterMap.mpr ⟨_, hdate, rfl⟩
    rw [List.getLast?_eq_none_iff.mp hl] at hmem
    cases hmem
  | some date =>
    obtain ⟨e, he, hb⟩ := List.mem_filterMap.mp (List.mem_of_getLast? hl)
    cases e with
    | run q => cases hb
    | boot d =>
      obtain rfl := Option.some.inj hb
      have hold := h.noBoot d he
      have hpos := d.pos
      simp only [Option.map_some, Option.getD_some]
      refine ⟨by omega, ?_⟩
      rw [MAX_FRESH_WINDOW_IF_OK]
      omega

/-- **When the reminder is shown**: at an offline run of a quiet wallet, exactly if the app is not
running, the setup does not fail, and no run that did not check anything has refreshed the saved
outcome. -/
theorem reminder_iff {history : List Event} {r : Run} (hr : r.Offline)
    (hq : Quiet history r.currentTime) :
    reminder ∈ (doWork (prefsAfter history) r).2.1 ↔
      ¬ r.appKitRunning ∧ ¬ r.setupThrows ∧ NotRefreshed history r.currentTime := by
  obtain ⟨hboot, hold⟩ := boot_prefsAfter hq
  have hout := outcome_prefsAfter history
  rw [reminder_mem_doWork hr]
  refine and_congr_right fun _ => and_congr_right fun _ => ?_
  simp only [isLastCheckFresh, if_neg hboot, if_neg hold]
  cases hl : lastStoring history with
  | none =>
    rw [hl] at hout
    have hts : (prefsAfter history).lastOutcomeTimestamp = 0 := congrArg Prod.fst hout
    simp [hts, NotRefreshed, hl]
  | some q =>
    rw [hl] at hout
    have hts : (prefsAfter history).lastOutcomeTimestamp = q.saveTime.millis :=
      congrArg Prod.fst hout
    have hres : (prefsAfter history).lastOutcomeResult = q.outcome.map WatchResult.toString :=
      congrArg Prod.snd hout
    obtain ⟨hmem, hsome⟩ := mem_of_lastStoring hl
    have hpos := q.saveTime.pos
    have hne : q.saveTime.millis ≠ 0 := by omega
    have hrefreshed : NotRefreshed history r.currentTime ↔
        (q.Inconclusive → DAY_IN_MILLIS * 3 ≤ r.currentTime.millis - q.saveTime.millis) ∧
          (q.NoChannels → DAY_IN_MILLIS * 5 ≤ r.currentTime.millis - q.saveTime.millis) := by
      simp [NotRefreshed, hl]
    rw [hrefreshed, hts, hres, if_neg hne]
    unfold MAX_FRESH_WINDOW MAX_FRESH_WINDOW_IF_OK DAY_IN_MILLIS
    rcases outcome_isSome_cases hsome with ⟨hinc, ho⟩ | ⟨hno, ho⟩ | hdone
    · -- nothing was checked: fresh for three days
      have hnot : ¬ q.NoChannels := fun h => hinc.1 h.2
      have hstr :
          equalsIgnoreCase WatchResult.Ok.toString WatchResult.Unknown.toString = false := by
        decide
      simp only [ho, Option.map_some, Option.any_some, hstr, Bool.and_false, hinc, hnot,
        true_implies, false_implies, and_true]
      split
      · next h => simp; omega
      · next h => simp; omega
    · -- a run without channels: fresh for five days
      have hnot : ¬ q.Inconclusive := fun h => h.1 hno.2
      have hstr : equalsIgnoreCase WatchResult.Ok.toString WatchResult.Ok.toString = true := by
        decide
      simp only [ho, Option.map_some, Option.any_some, hstr, Bool.and_true, hno, hnot,
        true_implies, false_implies, true_and]
      split
      · next h => simp; omega
      · next h => simp
    · -- a completed check is old
      have hninc : ¬ q.Inconclusive := hdone.not_inconclusive
      have hnno : ¬ q.NoChannels := fun h => hdone.2.1 h.2
      have hage := hq.noCheck q hmem hdone
      unfold DAY_IN_MILLIS at hage
      simp only [hninc, hnno, false_implies, and_self, iff_true]
      rw [if_neg (by omega), decide_eq_false (by omega)]
      rfl

/-- An offline run of a wallet with channels, at one time. -/
def offlineRun (time : Instant) : Run :=
  { dbFileExists := true, appKitRunning := false, setupThrows := false, noLocalChannels := false
    isConnected := false, check := none, currentTime := time, saveTime := time,
    attemptTime := time }

/-- A boot, a check that ends well a day later, and an offline run after seven days. -/
def checkedOnce : List Event :=
  [.boot ⟨1, by decide⟩,
    .run { offlineRun ⟨86400001, by decide⟩ with isConnected := true, check := some .Ok },
    .run (offlineRun ⟨604800001, by decide⟩)]

theorem quiet_checkedOnce : Quiet checkedOnce ⟨950400001, by decide⟩ := by
  refine ⟨⟨_, List.mem_cons_self⟩, fun date h => ?_, fun q h hdone => ?_⟩
  · rcases List.mem_cons.mp h with h | h
    · obtain rfl := Event.boot.inj h
      decide
    · rcases List.mem_cons.mp h with h | h
      · cases h
      · cases List.mem_singleton.mp h
  · rcases List.mem_cons.mp h with h | h
    · cases h
    · rcases List.mem_cons.mp h with h | h
      · obtain rfl := Event.run.inj h
        decide
      · obtain rfl := Event.run.inj (List.mem_singleton.mp h)
        exact absurd hdone (by decide)

/-- Four days after the last of these runs, and ten days after the check, the user is told again. -/
theorem reminder_after_runs : reminder ∈
    (doWork (prefsAfter checkedOnce) (offlineRun ⟨950400001, by decide⟩)).2.1 := by
  refine (reminder_iff (by decide) quiet_checkedOnce).mpr ⟨by decide, by decide, fun q hq => ?_⟩
  obtain rfl : offlineRun ⟨604800001, by decide⟩ = q := Option.some.inj hq
  exact ⟨fun _ => by decide, fun h => absurd h (by decide)⟩

/-- Two offline runs, six and seven days after the only boot: the first one silences the second. -/
theorem not_reminder : ¬ ∀ (history : List Event) (r : Run), r.Offline →
    Quiet history r.currentTime → reminder ∈ (doWork (prefsAfter history) r).2.1 := by
  intro hall
  have hquiet : Quiet [.boot ⟨1, by decide⟩, .run (offlineRun ⟨518400001, by decide⟩)]
      ⟨604800001, by decide⟩ := by
    refine ⟨⟨_, List.mem_cons_self⟩, fun date h => ?_, fun q h hdone => ?_⟩
    · rcases List.mem_cons.mp h with h | h
      · obtain rfl := Event.boot.inj h
        decide
      · cases List.mem_singleton.mp h
    · rcases List.mem_cons.mp h with h | h
      · cases h
      · obtain rfl := Event.run.inj (List.mem_singleton.mp h)
        exact absurd hdone (by decide)
  have hshown := hall _ (offlineRun ⟨604800001, by decide⟩) (by decide) hquiet
  exact absurd hshown (by decide)

end CheckElectrumWorker

end EclairMobile
