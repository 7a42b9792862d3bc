import EclairMobile.Models.LightningPaymentError

/-!
# Lightning payment errors in a parcel

An error goes to another activity in the parcel of an intent.  The list of hops is written, but what
is read of it ends up in a local variable: the error that comes out has no hops at all.
-/

namespace EclairMobile

/-! ### Parcels -/

/-- A value in a parcel, which may be null. -/
inductive ParcelValue
  | string (value : Option String)
  | list (value : Option (List String))
  deriving DecidableEq, Repr

/-- The values of a parcel that are not read yet. -/
abbrev Parcel := List ParcelValue

namespace Parcel

def writeString (value : Option String) (parcel : Parcel) : Parcel := parcel ++ [.string value]

def writeList (value : Option (List String)) (parcel : Parcel) : Parcel := parcel ++ [.list value]

/-- Fails on a value of another kind. -/
def readString : StateT Parcel Option (Option String)
  | .string value :: parcel => some (value, parcel)
  | _ => none

/-- Adds the elements to the list it is given; a null list has none. -/
def readList (outVal : List String) : StateT Parcel Option (List String)
  | .list value :: parcel => some (outVal ++ value.getD [], parcel)
  | _ => none

@[simp] theorem run_readString (value : Option String) (parcel : Parcel) :
    readString.run (.string value :: parcel) = some (value, parcel) := rfl

@[simp] theorem run_readList (outVal : List String) (value : Option (List String))
    (parcel : Parcel) :
    (readList outVal).run (.list value :: parcel) = some (outVal ++ value.getD [], parcel) := rfl

end Parcel

/-! ### Writing and reading an error -/

namespace LightningPaymentError

/-- An error made by the constructor from a parcel, which may leave `hops` null. -/
structure FromParcel where
  type : Option String
  cause : Option String
  origin : Option String
  originChannelId : Option String
  hops : Option (List String)
  deriving DecidableEq, Repr

def writeToParcel (e : LightningPaymentError) (parcel : Parcel) : Parcel :=
  ((((parcel.writeString e.type).writeString e.cause).writeString e.origin).writeString
    e.originChannelId).writeList (some e.hops)

/-- `CREATOR.createFromParcel`, the constructor from a parcel. -/
def createFromParcel : StateT Parcel Option FromParcel := do
  let type ← Parcel.readString
  let cause ← Parcel.readString
  let origin ← Parcel.readString
  let originChannelId ← Parcel.readString
  -- the list that is read is not assigned to the field
  let _h ← Parcel.readList []
  pure ⟨type, cause, origin, originChannelId, none⟩

/-- The error that comes out of the parcel. -/
def parceled (e : LightningPaymentError) : Option FromParcel :=
  (createFromParcel.run (e.writeToParcel [])).map Prod.fst

/-- What comes out has the fields of what went in. -/
def RoundTrips (e : LightningPaymentError) : Prop :=
  ∃ e', e.parceled = some e' ∧ e'.type = e.type ∧ e'.cause = e.cause ∧ e'.origin = e.origin ∧
    e'.originChannelId = e.originChannelId ∧ e'.hops = some e.hops

/-- The other fields come out as they went in, and the parcel is read to its end. -/
theorem run_createFromParcel (e : LightningPaymentError) :
    createFromParcel.run (e.writeToParcel []) =
      some (⟨e.type, e.cause, e.origin, e.originChannelId, none⟩, []) := by
  simp [createFromParcel, writeToParcel, Parcel.writeString, Parcel.writeList]

theorem parceled_eq (e : LightningPaymentError) :
    e.parceled = some ⟨e.type, e.cause, e.origin, e.originChannelId, none⟩ := by
  rw [parceled, run_createFromParcel]
  rfl

/-- **No error keeps its list of hops, not even the empty one.** -/
theorem not_roundTrips (e : LightningPaymentError) : ¬ RoundTrips e := by
  rintro ⟨e', he', -, -, -, -, hhops⟩
  rw [parceled_eq] at he'
  obtain rfl := Option.some.inj he'
  cases hhops

/-- A failure on the channel of the second hop: the three nodes of the route are lost. -/
theorem not_roundTrips_remoteFailure : ¬ RoundTrips (generateDetailedErrorCause
    (.remoteFailure "02bb" "TemporaryChannelFailure"
      [⟨"02aa", "02bb", some "1x1x0"⟩, ⟨"02bb", "02cc", some "2x1x0"⟩])) := by
  rintro ⟨e', he', -, -, -, -, hhops⟩
  rw [parceled_eq] at he'
  obtain rfl := Option.some.inj he'
  cases hhops

end LightningPaymentError

end EclairMobile
