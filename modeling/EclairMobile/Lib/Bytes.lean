import Mathlib.Data.Int.Notation
import Mathlib.Data.List.TakeDrop

/-!
# Byte arrays, streams over them and files

The reading end is a stream that never fails: a buffer that it cannot fill stays zero from there on.
The writing end is a file that may keep what a shorter content does not overwrite.
-/

namespace EclairMobile.Lib

/-- An array of bytes. -/
abbrev Bytes := List UInt8

/-! ### Input streams -/

/-- An input stream over an array: the bytes that are not read yet. -/
structure ByteStream where
  rest : Bytes

namespace ByteStream

/-- The next byte as a nonnegative integer, or `-1` at the end of the stream. -/
def read : ByteStream → ℤ × ByteStream
  | ⟨[]⟩ => (-1, ⟨[]⟩)
  | ⟨b :: bs⟩ => ((b.toNat : ℤ), ⟨bs⟩)

/-- A new buffer of `n` bytes after one read into it. -/
def readBuffer (s : ByteStream) (n : ℕ) : Bytes × ByteStream :=
  (s.rest.take n ++ List.replicate (n - s.rest.length) 0, ⟨s.rest.drop n⟩)

def available (s : ByteStream) : ℕ := s.rest.length

@[simp] theorem read_nil : read ⟨[]⟩ = (-1, ⟨[]⟩) := rfl

@[simp] theorem read_cons (b : UInt8) (bs : Bytes) : read ⟨b :: bs⟩ = ((b.toNat : ℤ), ⟨bs⟩) := rfl

@[simp] theorem length_readBuffer (s : ByteStream) (n : ℕ) : (s.readBuffer n).1.length = n := by
  simp only [readBuffer, List.length_append, List.length_take, List.length_replicate]
  omega

theorem readBuffer_append {field : Bytes} {n : ℕ} (h : field.length = n) (rest : Bytes) :
    readBuffer ⟨field ++ rest⟩ n = (field, ⟨rest⟩) := by
  subst h
  simp [readBuffer]

@[simp] theorem readBuffer_available (s : ByteStream) :
    s.readBuffer s.available = (s.rest, ⟨[]⟩) := by simp [readBuffer, available]

end ByteStream

/-! ### Files -/

/-- Writing `new` from the start of a file that is not truncated. -/
def overwrite (old new : Bytes) : Bytes := new ++ old.drop new.length

/-- The file holds the new content and nothing else exactly if the old one was not longer. -/
theorem overwrite_eq_iff {old new : Bytes} : overwrite old new = new ↔ old.length ≤ new.length := by
  simp [overwrite]

end EclairMobile.Lib
