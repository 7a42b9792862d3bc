import Mathlib.Tactic.TypeStar

/-!
# Programs over a state that may throw

What such a program did to the state before it throws stays done.  `exec` runs a program, and one
lemma for each construct says how, so that a proof follows the program step by step.
-/

namespace EclairMobile.Lib

variable {S E α β : Type}

/-- A program over a state of type `S` that may throw an `E`. -/
abbrev Fallible (S E α : Type) := ExceptT E (StateM S) α

namespace Fallible

/-- The outcome and the state after it. -/
def exec (x : Fallible S E α) (s : S) : Except E α × S := x.run.run s

/-- Throws the fault if there is one. -/
def orThrow : Option E → Fallible S E Unit
  | none => pure ()
  | some e => throw e

/-- A computation that does not touch the state. -/
def ofExcept : Except E α → Fallible S E α
  | .ok a => pure a
  | .error e => throw e

/-- A step that throws before it has an effect, or has it. -/
def step (fault : Option E) (f : S → S) : Fallible S E Unit := do
  orThrow fault
  modify f

/-- A program over a part of the state. -/
def zoom {T : Type} (view : S → T) (update : T → S → S) (x : Fallible T E α) : Fallible S E α :=
  ExceptT.mk fun s =>
    let (r, t) := exec x (view s)
    (r, update t s)

@[simp] theorem exec_zoom {T : Type} (view : S → T) (update : T → S → S) (x : Fallible T E α)
    (s : S) : exec (zoom view update x) s =
      ((exec x (view s)).1, update (exec x (view s)).2 s) := rfl

@[simp] theorem exec_get (s : S) : exec (get : Fallible S E S) s = (.ok s, s) := rfl

theorem exec_bind (x : Fallible S E α) (f : α → Fallible S E β) (s : S) :
    exec (x >>= f) s = match exec x s with
      | (.ok a, s') => exec (f a) s'
      | (.error e, s') => (.error e, s') := by
  show (ExceptT.bindCont f (exec x s).1).run (exec x s).2 = _
  rcases exec x s with ⟨_ | a, s'⟩
  · rfl
  · rfl

theorem exec_bind_ok {x : Fallible S E α} {a : α} {s s' : S} (h : exec x s = (.ok a, s'))
    (f : α → Fallible S E β) : exec (x >>= f) s = exec (f a) s' := by rw [exec_bind, h]

theorem exec_bind_error {x : Fallible S E α} {e : E} {s s' : S} (h : exec x s = (.error e, s'))
    (f : α → Fallible S E β) : exec (x >>= f) s = (.error e, s') := by rw [exec_bind, h]

/-- A program that returned did so in every one of its steps. -/
theorem exec_bind_eq_ok {x : Fallible S E α} {f : α → Fallible S E β} {s s' : S} {b : β}
    (h : exec (x >>= f) s = (.ok b, s')) :
    ∃ a s₁, exec x s = (.ok a, s₁) ∧ exec (f a) s₁ = (.ok b, s') := by
  rw [exec_bind] at h
  rcases hx : exec x s with ⟨e | a, s₁⟩
  · rw [hx] at h
    cases h
  · rw [hx] at h
    exact ⟨a, s₁, rfl, h⟩

theorem exec_tryCatch (x : Fallible S E α) (handler : E → Fallible S E α) (s : S) :
    exec (tryCatch x handler) s = match exec x s with
      | (.ok a, s') => (.ok a, s')
      | (.error e, s') => exec (handler e) s' := by
  show ((match (exec x s).1 with
    | .ok a => pure (.ok a)
    | .error e => (handler e).run : StateM S (Except E α)).run (exec x s).2) = _
  rcases exec x s with ⟨_ | a, s'⟩
  · rfl
  · rfl

@[simp] theorem exec_orThrow_none (s : S) : exec (orThrow (none : Option E)) s = (.ok (), s) := rfl

@[simp] theorem exec_ofExcept (x : Except E α) (s : S) : exec (ofExcept x) s = (x, s) := by
  cases x <;> rfl

/-! ### Steps that returned -/

theorem orThrow_eq_ok {fault : Option E} {s s' : S} {u : Unit}
    (h : exec (orThrow fault) s = (.ok u, s')) : fault = none ∧ s' = s := by
  cases fault with
  | none => exact ⟨rfl, (congrArg Prod.snd h).symm⟩
  | some e => cases congrArg Prod.fst h

theorem ofExcept_eq_ok {x : Except E α} {a : α} {s s' : S}
    (h : exec (ofExcept x) s = (.ok a, s')) : x = .ok a ∧ s' = s := by
  rw [exec_ofExcept] at h
  exact ⟨congrArg Prod.fst h, (congrArg Prod.snd h).symm⟩

theorem step_eq_ok {fault : Option E} {f : S → S} {s s' : S} {u : Unit}
    (h : exec (step fault f) s = (.ok u, s')) : fault = none ∧ s' = f s := by
  cases fault with
  | none => exact ⟨rfl, (congrArg Prod.snd h).symm⟩
  | some e => cases congrArg Prod.fst h

/-! ### What a program leaves as it is -/

/-- The property survives the program, whether it returns or throws. -/
def Keeps (P : S → Prop) (x : Fallible S E α) : Prop := ∀ s, P s → P (exec x s).2

/-- The property survives the program if it throws. -/
def KeepsOnError (P : S → Prop) (x : Fallible S E α) : Prop :=
  ∀ s, P s → ∀ e s', exec x s = (.error e, s') → P s'

variable {P : S → Prop}

theorem Keeps.onError {x : Fallible S E α} (h : Keeps P x) : KeepsOnError P x := by
  intro s hs e s' he
  have hk := h s hs
  rw [he] at hk
  exact hk

theorem keeps_get : Keeps P (get : Fallible S E S) := fun _ h => h

theorem keeps_orThrow (fault : Option E) : Keeps P (orThrow fault : Fallible S E Unit) := by
  intro s h
  cases fault
  · exact h
  · exact h

theorem keeps_ofExcept (x : Except E α) : Keeps P (ofExcept x : Fallible S E α) := by
  intro s h
  rw [exec_ofExcept]
  exact h

theorem keepsOnError_step (fault : Option E) (f : S → S) : KeepsOnError P (step fault f) := by
  intro s h e s' he
  cases fault
  · cases congrArg Prod.fst he
  · cases congrArg Prod.snd he
    exact h

/-- Up to its last step a program keeps what its steps keep. -/
theorem KeepsOnError.bind {x : Fallible S E α} {f : α → Fallible S E β} (hx : Keeps P x)
    (hf : ∀ a, KeepsOnError P (f a)) : KeepsOnError P (x >>= f) := by
  intro s hs e s' he
  have hk := hx s hs
  rw [exec_bind] at he
  rcases hxs : exec x s with ⟨e₁ | a, s₁⟩
  · rw [hxs] at he hk
    cases congrArg Prod.snd he
    exact hk
  · rw [hxs] at he hk
    exact hf a s₁ hk e s' he

theorem keepsOnError_rethrow {x : Fallible S E α} (h : KeepsOnError P x) (wrap : E → E) :
    KeepsOnError P (tryCatch x fun e => throw (wrap e)) := by
  intro s hs e s' he
  rw [exec_tryCatch] at he
  rcases hx : exec x s with ⟨e₁ | a, s₁⟩
  · rw [hx] at he
    cases congrArg Prod.snd he
    exact h s hs e₁ s' hx
  · rw [hx] at he
    cases congrArg Prod.fst he

/-! ### Pre- and postconditions -/

/-- From a state with `P` the program returns with `Q` or throws with `R`. -/
structure Triple (P : S → Prop) (x : Fallible S E α) (Q : α → S → Prop) (R : E → S → Prop) :
    Prop where
  of_returns : ∀ {s a s'}, P s → exec x s = (.ok a, s') → Q a s'
  of_throws : ∀ {s e s'}, P s → exec x s = (.error e, s') → R e s'

section Triple

variable {x : Fallible S E α} {f : α → Fallible S E β} {Q Q' : α → S → Prop} {R R' : E → S → Prop}

/-- What holds of both outcomes holds after the program. -/
theorem Triple.after {T : S → Prop} (h : Triple P x (fun _ => T) fun _ => T) {s : S} (hs : P s) :
    T (exec x s).2 := by
  rcases hx : exec x s with ⟨e | a, s'⟩
  · exact h.of_throws hs hx
  · exact h.of_returns hs hx

theorem Triple.imp {P' : S → Prop} (h : Triple P x Q R) (hP : ∀ s, P' s → P s)
    (hQ : ∀ a s, Q a s → Q' a s) (hR : ∀ e s, R e s → R' e s) : Triple P' x Q' R' where
  of_returns hs hx := hQ _ _ (h.of_returns (hP _ hs) hx)
  of_throws hs hx := hR _ _ (h.of_throws (hP _ hs) hx)

/-- A program is run from one state at a time. -/
theorem Triple.of_forall (h : ∀ s, P s → Triple (· = s) x Q R) : Triple P x Q R where
  of_returns hs hx := (h _ hs).of_returns rfl hx
  of_throws hs hx := (h _ hs).of_throws rfl hx

/-- The second program starts where the first one returned; both may throw. -/
theorem Triple.bind {Q' : β → S → Prop} (hx : Triple P x Q R) (hf : ∀ a, Triple (Q a) (f a) Q' R) :
    Triple P (x >>= f) Q' R := by
  constructor
  · intro s b s' hs h
    obtain ⟨a, s₁, h₁, h₂⟩ := exec_bind_eq_ok h
    exact (hf a).of_returns (hx.of_returns hs h₁) h₂
  · intro s e s' hs h
    rcases hxs : exec x s with ⟨e₁ | a, s₁⟩
    · rw [exec_bind_error hxs] at h
      cases h
      exact hx.of_throws hs hxs
    · rw [exec_bind_ok hxs] at h
      exact (hf a).of_throws (hx.of_returns hs hxs) h

/-- The handler starts where the program threw. -/
theorem Triple.tryCatch {handler : E → Fallible S E α} (hx : Triple P x Q R)
    (hh : ∀ e, Triple (R e) (handler e) Q R') : Triple P (tryCatch x handler) Q R' := by
  constructor
  · intro s a s' hs h
    rw [exec_tryCatch] at h
    rcases hxs : exec x s with ⟨e₁ | a₁, s₁⟩
    · rw [hxs] at h
      exact (hh e₁).of_returns (hx.of_throws hs hxs) h
    · rw [hxs] at h
      cases h
      exact hx.of_returns hs hxs
  · intro s e s' hs h
    rw [exec_tryCatch] at h
    rcases hxs : exec x s with ⟨e₁ | a₁, s₁⟩
    · rw [hxs] at h
      exact (hh e₁).of_throws (hx.of_throws hs hxs) h
    · rw [hxs] at h
      cases congrArg Prod.fst h

theorem triple_pure {a : α} (h : ∀ s, P s → Q a s) : Triple P (pure a) Q R where
  of_returns hs hx := by
    cases hx
    exact h _ hs
  of_throws _ hx := by cases congrArg Prod.fst hx

theorem triple_throw {e : E} (h : ∀ s, P s → R e s) : Triple P (throw e) Q R where
  of_returns _ hx := by cases congrArg Prod.fst hx
  of_throws hs hx := by
    cases hx
    exact h _ hs

theorem triple_get {Q : S → S → Prop} (h : ∀ s, P s → Q s s) : Triple P get Q R where
  of_returns hs hx := by
    cases hx
    exact h _ hs
  of_throws _ hx := by cases congrArg Prod.fst hx

theorem triple_modify {g : S → S} {T : S → Prop} (h : ∀ s, P s → T (g s)) :
    Triple P (modify g) (fun _ => T) R where
  of_returns hs hx := by
    cases hx
    exact h _ hs
  of_throws _ hx := by cases congrArg Prod.fst hx

theorem triple_ofExcept {x : Except E α} (hQ : ∀ a s, x = .ok a → P s → Q a s)
    (hR : ∀ e s, P s → R e s) : Triple P (ofExcept x) Q R := by
  cases x with
  | ok a => exact triple_pure fun s hs => hQ a s rfl hs
  | error e => exact triple_throw (hR e)

theorem triple_orThrow {fault : Option E} {T : S → Prop} (hQ : ∀ s, fault = none → P s → T s)
    (hR : ∀ e s, fault = some e → P s → R e s) : Triple P (orThrow fault) (fun _ => T) R := by
  cases fault with
  | none => exact triple_pure fun s hs => hQ s rfl hs
  | some e => exact triple_throw fun s hs => hR e s rfl hs

theorem triple_step {fault : Option E} {g : S → S} {T : S → Prop}
    (hQ : ∀ s, fault = none → P s → T (g s)) (hR : ∀ e s, fault = some e → P s → R e s) :
    Triple P (step fault g) (fun _ => T) R :=
  (triple_orThrow (T := fun s => fault = none ∧ P s) (fun _ hnone hs => ⟨hnone, hs⟩) hR).bind
    fun _ => triple_modify fun s hs => hQ s hs.1 hs.2

end Triple

end Fallible

end EclairMobile.Lib
