import Mathlib.Logic.Relation

/-!
# Reachable states of a guarded step function

`step s a = some s'` says that the action `a` is possible in `s` and leads to `s'`.  `Reach` is the
set of states reached from an initial one by actions that all meet a side condition `ok`, and
`Reach.invariant` is the induction rule of every safety result: what holds at the start and survives
each step holds everywhere.
-/

namespace EclairMobile.Lib

variable {S A : Type*}

/-- The states reached from an initial state by steps that all meet `ok`. -/
inductive Reach (step : S → A → Option S) (ok : S → A → Prop) (init : S → Prop) : S → Prop
  | start {s : S} : init s → Reach step ok init s
  | next {s s' : S} {a : A} : Reach step ok init s → ok s a → step s a = some s' →
      Reach step ok init s'

/-- The side condition met by every step. -/
def anyStep : S → A → Prop := fun _ _ => True

section

variable {step : S → A → Option S} {ok ok' : S → A → Prop} {init init' : S → Prop}

/-- **The invariant rule.** -/
theorem Reach.invariant {I : S → Prop} (h0 : ∀ s, init s → I s)
    (hstep : ∀ s a s', I s → ok s a → step s a = some s' → I s') :
    ∀ s, Reach step ok init s → I s := by
  intro s h
  induction h with
  | start hs => exact h0 _ hs
  | next _ hok hs ih => exact hstep _ _ _ ih hok hs

/-- **Simulation.**  Where every step is matched by one of another step function, a reachable state
is related to a state that the other one reaches. -/
theorem Reach.simulates {T B : Type*} {step' : T → B → Option T} {okT : T → B → Prop}
    {initT : T → Prop} {R : S → T → Prop} (h0 : ∀ s, init s → ∃ t, initT t ∧ R s t)
    (hstep : ∀ s a s' t, R s t → ok s a → step s a = some s' →
      ∃ b t', okT t b ∧ step' t b = some t' ∧ R s' t') :
    ∀ s, Reach step ok init s → ∃ t, Reach step' okT initT t ∧ R s t := by
  intro s h
  induction h with
  | start hs =>
    obtain ⟨t, ht, hR⟩ := h0 _ hs
    exact ⟨t, .start ht, hR⟩
  | next _ hok hs ih =>
    obtain ⟨t, ht, hR⟩ := ih
    obtain ⟨b, t', hokT, hs', hR'⟩ := hstep _ _ _ t hR hok hs
    exact ⟨t', .next ht hokT hs', hR'⟩

end

/-! ### Runs given by a list of actions -/

/-- The state after a list of actions, if every one of them is possible. -/
def run (step : S → A → Option S) : S → List A → Option S
  | s, [] => some s
  | s, a :: as => (step s a).bind fun s' => run step s' as

@[simp] theorem run_cons (step : S → A → Option S) (s : S) (a : A) (as : List A) :
    run step s (a :: as) = (step s a).bind fun s' => run step s' as := rfl

/-- The side condition, along a list of actions. -/
def Meets (step : S → A → Option S) (ok : S → A → Prop) : S → List A → Prop
  | _, [] => True
  | s, a :: as => ok s a ∧ ∀ s' ∈ step s a, Meets step ok s' as

theorem Meets.congr {step : S → A → Option S} {ok ok' : S → A → Prop}
    (h : ∀ s a, ok s a ↔ ok' s a) (s : S) (as : List A) :
    Meets step ok s as ↔ Meets step ok' s as := by
  induction as generalizing s with
  | nil => exact Iff.rfl
  | cons a as ih => simp only [Meets, h, ih]

def Meets.decidable (step : S → A → Option S) (ok : S → A → Prop)
    [∀ s a, Decidable (ok s a)] : ∀ as s, Decidable (Meets step ok s as)
  | [], _ => .isTrue trivial
  | a :: as, s =>
    have := Meets.decidable step ok as
    inferInstanceAs (Decidable (ok s a ∧ ∀ s' ∈ step s a, Meets step ok s' as))

instance (step : S → A → Option S) (ok : S → A → Prop) [∀ s a, Decidable (ok s a)] (s : S)
    (as : List A) : Decidable (Meets step ok s as) := Meets.decidable step ok as s

/-- A run from a reachable state whose actions meet the side condition ends in a reachable state. -/
theorem Reach.run {step : S → A → Option S} {ok : S → A → Prop} {init : S → Prop} {s s' : S}
    {as : List A} (h : Reach step ok init s) (hok : Meets step ok s as)
    (hrun : run step s as = some s') : Reach step ok init s' := by
  induction as generalizing s with
  | nil =>
    cases hrun
    exact h
  | cons a as ih =>
    rw [run_cons, Option.bind_eq_some_iff] at hrun
    obtain ⟨s₁, h1, h2⟩ := hrun
    exact ih (.next h hok.1 h1) (hok.2 s₁ h1) h2

theorem reach_of_meets {step : S → A → Option S} {ok : S → A → Prop} {init : S → Prop} {s s' : S}
    {as : List A} (h0 : init s) (hok : Meets step ok s as) (h : run step s as = some s') :
    Reach step ok init s' := (Reach.start h0).run hok h

theorem reach_of_run {step : S → A → Option S} {init : S → Prop} {s s' : S} {as : List A}
    (h0 : init s) (h : run step s as = some s') : Reach step anyStep init s' := by
  have hok : ∀ (as : List A) (s : S), Meets step anyStep s as := by
    intro as
    induction as with
    | nil => exact fun _ => trivial
    | cons a as ih => exact fun _ => ⟨trivial, fun s' _ => ih s'⟩
  exact reach_of_meets h0 (hok as s) h

end EclairMobile.Lib
