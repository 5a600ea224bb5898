import Bacnet.ReadProperty
import Mathlib.Data.List.AList

/-!
# Bacnet.Epics

Reading everything there is in a device: `read_properties` and `epics` (`lib.rs`), over
whatever a single `read_prop_at` does. The reads change a state of any type, and a panic is
a `none`.
-/

namespace Bacnet

/-- `special_property_list_t`: the property ids of the two lists that are read. -/
structure SpecialPropertyList where
  required : List UInt32
  optional : List UInt32

/-- `HashMap<ObjectPropertyId, BACnetValue>`. -/
abbrev PropertyMap := AList fun _ : UInt32 => BACnetValue

/-- `HashMap<String, BACnetValue>`. -/
abbrev NamedMap := AList fun _ : String => BACnetValue

structure Epics where
  device : NamedMap
  objectList : List NamedMap

def propObjectList : UInt32 := 76

def objectDevice : UInt32 := 8

/-- `TryInto<u64>`. -/
def BACnetValue.tryIntoU64 : BACnetValue → Result UInt64
  | uint n => .ok n
  | v => .error (.cannotTurnValueIntoString v)

/-- A computation that reads: it changes the state, and may panic. -/
abbrev Reads (σ : Type) := StateT σ Option

/-- What the build and the machine decide: the sizes in octets of a value and of a map, whether
the build checks for overflow, and the largest allocation that the allocator grants. -/
structure Platform where
  sizeOfBACnetValue : Nat
  sizeOfHashMap : Nat
  overflowChecks : Bool
  allocationLimit : Nat

/-- So many octets can be allocated: a layout is at most `isize::MAX` octets. -/
def Platform.Allocates (platform : Platform) (octets : Nat) : Prop :=
  octets < 2 ^ 63 ∧ octets ≤ platform.allocationLimit

instance (platform : Platform) (octets : Nat) : Decidable (platform.Allocates octets) :=
  inferInstanceAs (Decidable (_ ∧ _))

/-- What `epics` builds on: the reads of the device, and the tables of `proplist.c` and
`bactext.c`. -/
structure Scan (σ : Type) extends Platform where
  readPropAt : ReadArgs → Reads σ (Result BACnetValue)
  propertyListSpecial : UInt32 → SpecialPropertyList
  bactextPropertyName : UInt32 → String

namespace Scan

variable {σ : Type} (scan : Scan σ)

/-- `read_prop`. -/
def readProp (objectType objectInstance propertyId : UInt32) : Reads σ (Result BACnetValue) :=
  scan.readPropAt ⟨objectType, objectInstance, propertyId, bacnetArrayAll⟩

/-- `Vec::with_capacity`: a capacity over `isize::MAX` octets panics, and one that the allocator
refuses aborts the process. -/
def withCapacity (size : Nat) (capacity : UInt64) : Reads σ Unit :=
  if scan.Allocates (size * capacity.toNat) then pure () else failure

/-- `i as u32 + 1`. -/
def elementIndex (i : Nat) : Reads σ UInt32 :=
  if scan.overflowChecks && UInt32.ofNat i == 0xFFFFFFFF then failure
  else pure (UInt32.ofNat i + 1)

/-- The elements of an array, one at a time. Those that cannot be read are left out. -/
def readElements (objectType objectInstance prop : UInt32) (len : UInt64) :
    Reads σ (List BACnetValue) := do
  scan.withCapacity scan.sizeOfBACnetValue len
  (List.range len.toNat).foldlM (fun ary i => do
    let index ← scan.elementIndex i
    match ← scan.readPropAt ⟨objectType, objectInstance, prop, index⟩ with
    | .ok val => pure (ary ++ [val])
    | .error _ => pure ary) []

/-- One turn of the loop over the required properties. -/
def readRequired (objectType objectInstance : UInt32) (ret : PropertyMap) (prop : UInt32) :
    Reads σ PropertyMap := do
  if prop = propObjectList then pure ret
  else
    match ← scan.readProp objectType objectInstance prop with
    | .ok v => pure (ret.insert prop v)
    | .error _ => pure ret

/-- One turn of the loop over the optional properties. -/
def readOptional (objectType objectInstance : UInt32) (ret : PropertyMap) (prop : UInt32) :
    Reads σ PropertyMap := do
  match ← scan.readProp objectType objectInstance prop with
  | .ok v => pure (ret.insert prop v)
  | .error (.bacnetError (.aborted _ code)) =>
    -- "segmentation not supported". This is an array
    if code = 4 then
      match (← scan.readPropAt ⟨objectType, objectInstance, prop, 0⟩).bind (·.tryIntoU64) with
      | .ok len => do
        let ary ← scan.readElements objectType objectInstance prop len
        pure (ret.insert prop (.array ary))
      | .error _ => pure ret
    else pure ret
  | .error _ => pure ret

/-- `read_properties`. -/
def readProperties (objectType objectInstance : UInt32) : Reads σ PropertyMap := do
  let special := scan.propertyListSpecial objectType
  let len := min special.required.length 130
  let ret ← (special.required.take len).foldlM (scan.readRequired objectType objectInstance) ∅
  let optlen := min special.optional.length (130 - len)
  (special.optional.take optlen).foldlM (scan.readOptional objectType objectInstance) ret

/-- The map under the texts of its properties. Of two properties with one text, one stays. -/
def rekey (props : PropertyMap) : NamedMap :=
  props.entries.foldl (fun named p => named.insert (scan.bactextPropertyName p.1) p.2) ∅

/-- One turn of the loop over the object-list. -/
def readObjectId (deviceId : UInt32) (objectIds : List (UInt32 × UInt32)) (i : Nat) :
    ExceptT Error (Reads σ) (List (UInt32 × UInt32)) := do
  match ← ExceptT.mk (scan.readPropAt ⟨objectDevice, deviceId, propObjectList, UInt32.ofNat i⟩) with
  | .objectId objectType objectInstance => pure (objectIds ++ [(objectType, objectInstance)])
  | _ => pure objectIds

/-- `epics`. -/
def epics (deviceId : UInt32) : ExceptT Error (Reads σ) Epics := do
  let deviceProps ← ExceptT.lift (scan.readProperties objectDevice deviceId)
  let v ← ExceptT.mk (scan.readPropAt ⟨objectDevice, deviceId, propObjectList, 0⟩)
  let len ← ExceptT.mk (pure v.tryIntoU64)
  ExceptT.lift (scan.withCapacity 8 len)
  -- the capacity is too much long before `len + 1` overflows
  let objectIds ← (List.range' 2 (len.toNat - 1)).foldlM (scan.readObjectId deviceId) []
  ExceptT.lift (scan.withCapacity scan.sizeOfHashMap len)
  let objects ← ExceptT.lift (objectIds.mapM fun id => scan.readProperties id.1 id.2)
  pure ⟨scan.rekey deviceProps, objects.map scan.rekey⟩

end Scan

/-! ### When every read fails -/

section

variable {σ : Type} {scan : Scan σ} {I : σ → Prop} {err : Error}

/-- The computation returns `a`, and what `I` says stays true. -/
def ReturnsKeeping {α : Type} (I : σ → Prop) (x : Reads σ α) (a : α) : Prop :=
  ∀ s, I s → ∃ s', x.run s = some (a, s') ∧ I s'

theorem ReturnsKeeping.pure {α : Type} (a : α) : ReturnsKeeping I (pure a) a :=
  fun s hs => ⟨s, rfl, hs⟩

theorem ReturnsKeeping.bind {α β : Type} {x : Reads σ α} {a : α} {f : α → Reads σ β} {b : β}
    (hx : ReturnsKeeping I x a) (hf : ReturnsKeeping I (f a) b) :
    ReturnsKeeping I (x >>= f) b := by
  intro s hs
  obtain ⟨s₁, hrun₁, hs₁⟩ := hx s hs
  obtain ⟨s₂, hrun₂, hs₂⟩ := hf s₁ hs₁
  refine ⟨s₂, ?_, hs₂⟩
  rw [StateT.run_bind, hrun₁]
  exact hrun₂

/-- A loop whose turns return what they are given. -/
theorem ReturnsKeeping.foldlM {α β : Type} {f : β → α → Reads σ β}
    (h : ∀ b a, ReturnsKeeping I (f b a) b) (xs : List α) (b : β) :
    ReturnsKeeping I (xs.foldlM f b) b := by
  induction xs with
  | nil => exact .pure b
  | cons a xs ih =>
    rw [List.foldlM_cons]
    exact (h b a).bind ih

/-- When every read returns the same error, other than that a value is too long for a message,
`read_properties` reads nothing. -/
theorem readProperties_of_error
    (h : ∀ args, ReturnsKeeping I (scan.readPropAt args) (.error err))
    (herr : ∀ text code, err ≠ .bacnetError (.aborted text code))
    (objectType objectInstance : UInt32) :
    ReturnsKeeping I (scan.readProperties objectType objectInstance) ∅ := by
  have hrequired : ∀ ret prop,
      ReturnsKeeping I (scan.readRequired objectType objectInstance ret prop) ret := by
    intro ret prop
    rw [Scan.readRequired]
    split
    · exact .pure ret
    · exact (h _).bind (.pure ret)
  have hoptional : ∀ ret prop,
      ReturnsKeeping I (scan.readOptional objectType objectInstance ret prop) ret := by
    intro ret prop
    refine (h _).bind ?_
    cases err with
    | bacnetError e =>
      cases e with
      | aborted text code => exact absurd rfl (herr text code)
      | rejected code => exact .pure ret
      | error classText cls text code => exact .pure ret
    | _ => exact .pure ret
  exact (ReturnsKeeping.foldlM hrequired _ _).bind (ReturnsKeeping.foldlM hoptional _ _)

/-- `epics` then returns the error. -/
theorem epics_of_error (h : ∀ args, ReturnsKeeping I (scan.readPropAt args) (.error err))
    (herr : ∀ text code, err ≠ .bacnetError (.aborted text code)) (deviceId : UInt32) :
    ReturnsKeeping I (scan.epics deviceId).run (.error err) := by
  have hdevice := readProperties_of_error h herr objectDevice deviceId
  rw [Scan.epics, ExceptT.run_bind_lift]
  refine hdevice.bind ?_
  rw [ExceptT.run_bind, ExceptT.run_mk]
  exact (h _).bind (.pure _)

end

end Bacnet
