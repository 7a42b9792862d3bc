import Mathlib.Tactic.TypeStar

/-!
# Formats: a writer and a reader

A reader that undoes the writer may still take more than the writer gives.  At an input where it
does not, it accepts exactly what was written.
-/

namespace EclairMobile.Lib

/-- A writer and a reader that reads what was written, both of which may refuse. -/
structure Format (ε α β : Type*) where
  write : α → Except ε β
  read : β → Except ε α
  read_of_write : ∀ {a b}, write a = .ok b → read b = .ok a

namespace Format

variable {ε α β : Type*} (f : Format ε α β)

/-- What is read from the input is written back as the input. -/
def ExactAt (b : β) : Prop := ∀ a, f.read b = .ok a → f.write a = .ok b

def Accepts (b : β) : Prop := ∃ a, f.read b = .ok a

def Produces (b : β) : Prop := ∃ a, f.write a = .ok b

theorem accepts_of_produces {b : β} : f.Produces b → f.Accepts b :=
  fun ⟨a, h⟩ => ⟨a, f.read_of_write h⟩

/-- **The reader accepts exactly what the writer produces where it is exact, and only there.** -/
theorem exactAt_iff {b : β} : f.ExactAt b ↔ (f.Accepts b ↔ f.Produces b) := by
  constructor
  · intro h
    exact ⟨fun ⟨a, ha⟩ => ⟨a, h a ha⟩, f.accepts_of_produces⟩
  · intro h a ha
    obtain ⟨a', ha'⟩ := h.mp ⟨a, ha⟩
    have heq : a' = a := Except.ok.inj ((f.read_of_write ha').symm.trans ha)
    rwa [heq] at ha'

end Format

end EclairMobile.Lib
