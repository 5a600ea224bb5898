import Bacnet.Properties

/-!
# Bacnet.Responses

What `read_properties` makes of a device that answers each read in one way: the reads it asks for,
the map it returns, and when it panics.
-/

namespace Bacnet

/-- A device as its answer to each read: a value, an error, an abort, or the error of a timeout. -/
abbrev Responses := ReadArgs → Result BACnetValue

/-- The reads over the tables of the stack. -/
def Scan.stack {σ : Type} (readPropAt : ReadArgs → Reads σ (Result BACnetValue))
    (platform : Platform) : Scan σ where
  toPlatform := platform
  readPropAt := readPropAt
  propertyListSpecial := Bacnet.propertyListSpecial
  bactextPropertyName := Bacnet.bactextPropertyName

/-! ### Computations with one result -/

section

variable {σ α β : Type} {I : List ReadArgs → σ → Prop}

/-- The computation asks for `asked` and returns `r`, or panics where that is `none`. `I` says what
has been asked for in a state. -/
def Gives (I : List ReadArgs → σ → Prop) (x : Reads σ α) (r : Option α) (asked : List ReadArgs) :
    Prop :=
  ∀ log s, I log s →
    (∀ a, r = some a → ∃ s', x.run s = some (a, s') ∧ I (log ++ asked) s') ∧
    (r = none → x.run s = none)

theorem Gives.pure (a : α) : Gives I (pure a) (some a) [] := by
  intro log s hs
  constructor
  · intro b hb
    cases hb
    exact ⟨s, rfl, by rwa [List.append_nil]⟩
  · intro h
    cases h

theorem Gives.failure (asked : List ReadArgs) : Gives I (failure : Reads σ α) none asked := by
  intro log s hs
  refine ⟨?_, fun _ => rfl⟩
  intro a ha
  cases ha

/-- What comes after a panic is not reached. -/
theorem Gives.bind_none {x : Reads σ α} {f : α → Reads σ β} {asked : List ReadArgs}
    (hx : Gives I x none asked) (asked' : List ReadArgs) : Gives I (x >>= f) none asked' := by
  intro log s hs
  constructor
  · intro b hb
    cases hb
  · intro _
    rw [StateT.run_bind, (hx log s hs).2 rfl]
    rfl

theorem Gives.bind {x : Reads σ α} {a : α} {f : α → Reads σ β} {r : Option β}
    {asked asked' : List ReadArgs} (hx : Gives I x (some a) asked) (hf : Gives I (f a) r asked') :
    Gives I (x >>= f) r (asked ++ asked') := by
  intro log s hs
  obtain ⟨s₁, hrun, hs₁⟩ := (hx log s hs).1 a rfl
  obtain ⟨hsome, hnone⟩ := hf _ s₁ hs₁
  have hstep : (x >>= f).run s = (f a).run s₁ := by
    rw [StateT.run_bind, hrun]
    rfl
  rw [hstep, ← List.append_assoc]
  exact ⟨hsome, hnone⟩

/-- A loop, by its turns. -/
theorem Gives.foldlM {f : β → α → Reads σ β} {g : β → α → Option β} {asked : α → List ReadArgs}
    (h : ∀ b a, Gives I (f b a) (g b a) (asked a)) (xs : List α) (b : β) :
    Gives I (xs.foldlM f b) (xs.foldlM g b) (xs.flatMap asked) := by
  induction xs generalizing b with
  | nil => exact .pure b
  | cons a xs ih =>
    rw [List.foldlM_cons, List.foldlM_cons, List.flatMap_cons]
    have hturn := h b a
    cases hg : g b a with
    | none =>
      rw [hg] at hturn
      exact hturn.bind_none _
    | some b' =>
      rw [hg] at hturn
      exact hturn.bind (ih b')

/-- A loop of turns that are taken or panic. -/
theorem foldlM_guard {P : α → Prop} [DecidablePred P] (g : β → α → β) (xs : List α) (b : β) :
    xs.foldlM (fun b a => if P a then some (g b a) else none) b =
      if ∀ a ∈ xs, P a then some (xs.foldl g b) else none := by
  induction xs generalizing b with
  | nil => simp
  | cons a xs ih =>
    rw [List.foldlM_cons]
    by_cases ha : P a
    · simp [ha, ih]
    · simp [ha]

end

/-! ### What a device reports -/

namespace Responses

variable (d : Responses) (object : UInt32 × UInt32) (p : UInt32)

/-- The answer for one index. -/
def indexed (index : UInt32) : Result BACnetValue := d ⟨object.1, object.2, p, index⟩

/-- The answer for the whole property. -/
def whole : Result BACnetValue := d.indexed object p bacnetArrayAll

/-- The whole is aborted with "segmentation not supported". -/
def segmented : Bool :=
  match d.whole object p with
  | .error (.bacnetError (.aborted _ code)) => code == 4
  | _ => false

/-- The length of an array that is too long for one message. -/
def arrayLength : Option UInt64 :=
  if d.segmented object p then
    match d.indexed object p 0 with
    | .ok (.uint n) => some n
    | _ => none
  else none

/-- The elements that can be read, of the first `n`. -/
def elements (n : Nat) : List BACnetValue :=
  (List.range n).filterMap fun i => (d.indexed object p (UInt32.ofNat i + 1)).toOption

/-- What a turn of the loop over the required properties finds. -/
def requiredValue : Option BACnetValue :=
  if p = propObjectList then none else (d.whole object p).toOption

/-- What a turn of the loop over the optional properties finds. -/
def optionalValue : Option BACnetValue :=
  match d.whole object p with
  | .ok v => some v
  | .error _ => (d.arrayLength object p).map fun n => .array (d.elements object p n.toNat)

end Responses

/-! ### The reads of the two loops -/

/-- The reads for the elements of an array. -/
def elementReads (object : UInt32 × UInt32) (p : UInt32) (n : Nat) : List ReadArgs :=
  (List.range n).map fun i => ⟨object.1, object.2, p, UInt32.ofNat i + 1⟩

def requiredReads (object : UInt32 × UInt32) (p : UInt32) : List ReadArgs :=
  if p = propObjectList then [] else [⟨object.1, object.2, p, bacnetArrayAll⟩]

def Responses.optionalReads (d : Responses) (object : UInt32 × UInt32) (p : UInt32) : List ReadArgs :=
  ⟨object.1, object.2, p, bacnetArrayAll⟩ ::
    if d.segmented object p then
      ⟨object.1, object.2, p, 0⟩ ::
        (d.arrayLength object p).elim [] fun n => elementReads object p n.toNat
    else []

namespace Scan

variable {σ : Type} (scan : Scan σ)

/-- A vector for an array of this length can be allocated, and its indices do not overflow where
that is checked. -/
def Addressable (n : UInt64) : Prop :=
  scan.Allocates (scan.sizeOfBACnetValue * n.toNat) ∧
    (scan.overflowChecks = true → n.toNat < 2 ^ 32)

instance decidableAddressable (n : UInt64) : Decidable (scan.Addressable n) :=
  inferInstanceAs (Decidable (_ ∧ (_ → _)))

/-- The turn of an optional property does not panic. -/
def Fits (d : Responses) (object : UInt32 × UInt32) (p : UInt32) : Prop :=
  ∀ n, d.arrayLength object p = some n → scan.Addressable n

/-- `ret` with what was found for a property. -/
def put (ret : PropertyMap) (p : UInt32) (v : Option BACnetValue) : PropertyMap :=
  v.elim ret fun v => ret.insert p v

end Scan

section

open Scan

variable {σ : Type} {scan : Scan σ} {I : List ReadArgs → σ → Prop} {d : Responses}

/-- Each read has the answer of the device. -/
def Scan.AnsweredBy (scan : Scan σ) (I : List ReadArgs → σ → Prop) (d : Responses) : Prop :=
  ∀ args, Gives I (scan.readPropAt args) (some (d args)) [args]

theorem withCapacity_gives (size : Nat) (capacity : UInt64) :
    Gives I (scan.withCapacity size capacity)
      (if scan.Allocates (size * capacity.toNat) then some () else none) [] := by
  rw [withCapacity]
  split
  · exact .pure ()
  · exact .failure []

/-- `i as u32 + 1` overflows where `i as u32` is the greatest number. -/
theorem ofNat_eq_max_iff (i : Nat) :
    (UInt32.ofNat i == 0xFFFFFFFF) = true ↔ i % 2 ^ 32 = 2 ^ 32 - 1 := by
  rw [beq_iff_eq, ← UInt32.toNat_inj, UInt32.toNat_ofNat']
  rfl

theorem elementIndex_gives (i : Nat) :
    Gives I (scan.elementIndex i)
      (if ¬ (scan.overflowChecks && UInt32.ofNat i == 0xFFFFFFFF) = true then
        some (UInt32.ofNat i + 1) else none) [] := by
  rw [elementIndex]
  split
  · exact .failure []
  · exact .pure _

/-- No index of the loop overflows. -/
theorem indices_fit_iff (n : Nat) :
    (∀ i ∈ List.range n, ¬ (scan.overflowChecks && UInt32.ofNat i == 0xFFFFFFFF) = true) ↔
      (scan.overflowChecks = true → n < 2 ^ 32) := by
  simp only [Bool.and_eq_true, ofNat_eq_max_iff, List.mem_range, not_and]
  constructor
  · intro h hchecks
    by_contra hge
    exact h (2 ^ 32 - 1) (by omega) hchecks rfl
  · intro h i hi hchecks hmod
    have := h hchecks
    omega

theorem foldl_append_toList {α β : Type} (f : α → Option β) (xs : List α) (ys : List β) :
    xs.foldl (fun ys x => ys ++ (f x).toList) ys = ys ++ xs.filterMap f := by
  induction xs generalizing ys with
  | nil => simp
  | cons x xs ih =>
    rw [List.foldl_cons, ih, List.filterMap_cons]
    cases f x with
    | none => simp
    | some y => simp

/-- The loop over the elements. -/
theorem elements_foldlM (d : Responses) (object : UInt32 × UInt32) (p : UInt32) {n : UInt64}
    (hsize : scan.Allocates (scan.sizeOfBACnetValue * n.toNat)) :
    (List.range n.toNat).foldlM (fun ary i =>
      if ¬ (scan.overflowChecks && UInt32.ofNat i == 0xFFFFFFFF) = true then
        some (ary ++ (d.indexed object p (UInt32.ofNat i + 1)).toOption.toList) else none) [] =
      if scan.Addressable n then some (d.elements object p n.toNat) else none := by
  rw [foldlM_guard, foldl_append_toList, List.nil_append]
  by_cases hfit : scan.overflowChecks = true → n.toNat < 2 ^ 32
  · rw [if_pos ((indices_fit_iff _).mpr hfit), if_pos ⟨hsize, hfit⟩]
    rfl
  · rw [if_neg (fun hall => hfit ((indices_fit_iff _).mp hall)), if_neg (fun hand => hfit hand.2)]

theorem readElements_gives (h : scan.AnsweredBy I d) (object : UInt32 × UInt32) (p : UInt32)
    (n : UInt64) :
    Gives I (scan.readElements object.1 object.2 p n)
      (if scan.Addressable n then some (d.elements object p n.toNat) else none)
      (elementReads object p n.toNat) := by
  rw [Scan.readElements]
  have hcapacity : Gives I (scan.withCapacity scan.sizeOfBACnetValue n) _ [] :=
    withCapacity_gives scan.sizeOfBACnetValue n
  by_cases hsize : scan.Allocates (scan.sizeOfBACnetValue * n.toNat)
  · rw [if_pos hsize] at hcapacity
    rw [← elements_foldlM d object p hsize, elementReads, List.map_eq_flatMap]
    refine hcapacity.bind (Gives.foldlM ?_ _ _)
    intro ary i
    have hindex : Gives I (scan.elementIndex i) _ [] := elementIndex_gives i
    by_cases hover : (scan.overflowChecks && UInt32.ofNat i == 0xFFFFFFFF) = true
    · rw [if_neg (not_not.mpr hover)] at hindex ⊢
      exact hindex.bind_none _
    · rw [if_pos hover] at hindex ⊢
      refine hindex.bind ((h _).bind ?_)
      rw [Responses.indexed]
      cases d ⟨object.1, object.2, p, UInt32.ofNat i + 1⟩ with
      | ok v => exact .pure _
      | error e =>
        have hnil : ary ++ (Except.error e : Result BACnetValue).toOption.toList = ary :=
          List.append_nil ary
        rw [hnil]
        exact .pure _
  · rw [if_neg hsize] at hcapacity
    rw [if_neg (fun hand => hsize hand.1)]
    exact hcapacity.bind_none _

theorem readRequired_gives (h : scan.AnsweredBy I d) (object : UInt32 × UInt32)
    (ret : PropertyMap) (p : UInt32) :
    Gives I (scan.readRequired object.1 object.2 ret p)
      (some (put ret p (d.requiredValue object p))) (requiredReads object p) := by
  rw [readRequired, requiredReads, Responses.requiredValue]
  split
  · exact .pure ret
  · rw [← List.append_nil [_]]
    refine (h _).bind ?_
    rw [Responses.whole, Responses.indexed]
    cases d ⟨object.1, object.2, p, bacnetArrayAll⟩ with
    | ok v => exact .pure _
    | error e => exact .pure _

instance Scan.decidableFits (d : Responses) (object : UInt32 × UInt32) (p : UInt32) :
    Decidable (scan.Fits d object p) :=
  Option.decidableForallMem (d.arrayLength object p)

theorem segmented_iff {object : UInt32 × UInt32} {p : UInt32} :
    d.segmented object p = true ↔
      ∃ text, d.whole object p = .error (.bacnetError (.aborted text 4)) := by
  rw [Responses.segmented]
  constructor
  · intro h
    split at h
    · rename_i text code hwhole
      exact ⟨text, by rw [hwhole, eq_of_beq h]⟩
    · cases h
  · rintro ⟨text, hwhole⟩
    rw [hwhole]
    rfl

theorem arrayLength_eq_some_iff {object : UInt32 × UInt32} {p : UInt32} {n : UInt64} :
    d.arrayLength object p = some n ↔
      d.segmented object p = true ∧ d.indexed object p 0 = .ok (.uint n) := by
  rw [Responses.arrayLength]
  split
  · rename_i hseg
    constructor
    · intro h
      split at h
      · rename_i hn
        cases h
        exact ⟨hseg, hn⟩
      · cases h
    · rintro ⟨-, hn⟩
      rw [hn]
  · rename_i hseg
    simp [hseg]

theorem arrayLength_of_not_segmented {object : UInt32 × UInt32} {p : UInt32}
    (h : d.segmented object p = false) : d.arrayLength object p = none := by
  rw [Responses.arrayLength, h]
  rfl

theorem fits_of_not_segmented {object : UInt32 × UInt32} {p : UInt32}
    (h : d.segmented object p = false) : scan.Fits d object p := by
  intro n hn
  rw [arrayLength_of_not_segmented h] at hn
  cases hn

theorem readOptional_gives (h : scan.AnsweredBy I d) (object : UInt32 × UInt32)
    (ret : PropertyMap) (p : UInt32) :
    Gives I (scan.readOptional object.1 object.2 ret p)
      (if scan.Fits d object p then some (put ret p (d.optionalValue object p)) else none)
      (d.optionalReads object p) := by
  rw [readOptional, Responses.optionalReads]
  refine (h _).bind ?_
  have hwhole : d ⟨object.1, object.2, p, bacnetArrayAll⟩ = d.whole object p := rfl
  rw [hwhole]
  cases hseg : d.segmented object p with
  | false =>
    have hlength := arrayLength_of_not_segmented hseg
    rw [if_pos (fits_of_not_segmented hseg), Responses.optionalValue, hlength]
    rw [Responses.segmented] at hseg
    cases hr : d.whole object p with
    | ok v => exact .pure _
    | error e =>
      rw [hr] at hseg
      cases e with
      | bacnetError b =>
        cases b with
        | aborted text code =>
          have hcode : code ≠ 4 := by simpa using hseg
          simp only [if_neg hcode]
          exact .pure _
        | rejected code => exact .pure _
        | error classText cls text code => exact .pure _
      | _ => exact .pure _
  | true =>
    obtain ⟨text, hr⟩ := segmented_iff.mp hseg
    have hlength : d.indexed object p 0 = d ⟨object.1, object.2, p, 0⟩ := rfl
    rw [Responses.optionalValue, hr]
    refine (h _).bind ?_
    rw [← hlength]
    by_cases hn : ∃ n, d.arrayLength object p = some n
    · obtain ⟨n, hn⟩ := hn
      have hfits : scan.Fits d object p ↔ scan.Addressable n := by
        rw [Scan.Fits, hn]
        simp
      have hread := readElements_gives h object p n
      simp only [hn, hfits]
      rw [(arrayLength_eq_some_iff.mp hn).2]
      by_cases hadd : scan.Addressable n
      · rw [if_pos hadd] at hread ⊢
        have hall := hread.bind (f := fun ary => pure (ret.insert p (.array ary))) (.pure _)
        rwa [List.append_nil] at hall
      · rw [if_neg hadd] at hread ⊢
        exact hread.bind_none _
    · have hnone : d.arrayLength object p = none := by
        rw [Option.eq_none_iff_forall_ne_some]
        exact fun n hn' => hn ⟨n, hn'⟩
      have hfits : scan.Fits d object p := by
        intro n hn'
        exact absurd ⟨n, hn'⟩ hn
      rw [if_pos hfits, hnone]
      cases hv : d.indexed object p 0 with
      | error e => exact .pure _
      | ok v =>
        cases v with
        | uint n => exact absurd ⟨n, arrayLength_eq_some_iff.mpr ⟨hseg, hv⟩⟩ hn
        | _ => exact .pure _

/-! ### The whole of `read_properties` -/

/-- The map `read_properties` returns. -/
def Responses.properties (d : Responses) (object : UInt32 × UInt32) : PropertyMap :=
  let special := Bacnet.propertyListSpecial object.1
  special.optional.foldl (fun ret p => put ret p (d.optionalValue object p))
    (special.required.foldl (fun ret p => put ret p (d.requiredValue object p)) ∅)

/-- What it says of one property. -/
def Responses.reported (d : Responses) (object : UInt32 × UInt32) (p : UInt32) : Option BACnetValue :=
  let special := Bacnet.propertyListSpecial object.1
  (if p ∈ special.optional then d.optionalValue object p else none).or
    (if p ∈ special.required then d.requiredValue object p else none)

/-- What it asks for. -/
def Responses.propertyReads (d : Responses) (object : UInt32 × UInt32) : List ReadArgs :=
  let special := Bacnet.propertyListSpecial object.1
  special.required.flatMap (requiredReads object) ++
    special.optional.flatMap (d.optionalReads object)

/-- It does not panic. -/
def Scan.FitsAll (scan : Scan σ) (d : Responses) (object : UInt32 × UInt32) : Prop :=
  ∀ p ∈ (Bacnet.propertyListSpecial object.1).optional, scan.Fits d object p

instance Scan.decidableFitsAll (d : Responses) (object : UInt32 × UInt32) :
    Decidable (scan.FitsAll d object) :=
  List.decidableBAll (scan.Fits d object) (Bacnet.propertyListSpecial object.1).optional

theorem readProperties_gives (hlists : scan.propertyListSpecial = Bacnet.propertyListSpecial)
    (h : scan.AnsweredBy I d) (object : UInt32 × UInt32) :
    Gives I (scan.readProperties object.1 object.2)
      (if scan.FitsAll d object then some (d.properties object) else none)
      (d.propertyReads object) := by
  have hlen := length_propertyListSpecial_le object.1
  have hrequired := Gives.foldlM (fun ret p => readRequired_gives h object ret p)
    (Bacnet.propertyListSpecial object.1).required ∅
  have hsome : (Bacnet.propertyListSpecial object.1).required.foldlM
      (fun ret p => some (put ret p (d.requiredValue object p))) ∅ =
      some ((Bacnet.propertyListSpecial object.1).required.foldl
        (fun ret p => put ret p (d.requiredValue object p)) ∅) := List.foldlM_pure
  have hoptional := Gives.foldlM (fun ret p => readOptional_gives h object ret p)
    (Bacnet.propertyListSpecial object.1).optional
    ((Bacnet.propertyListSpecial object.1).required.foldl
      (fun ret p => put ret p (d.requiredValue object p)) ∅)
  rw [hsome] at hrequired
  rw [foldlM_guard] at hoptional
  rw [readProperties, hlists]
  simp only []
  rw [List.take_of_length_le (by omega), List.take_of_length_le (by omega)]
  exact hrequired.bind hoptional

theorem lookup_put (ret : PropertyMap) (p q : UInt32) (v : Option BACnetValue) :
    (put ret p v).lookup q = if q = p then v.or (ret.lookup q) else ret.lookup q := by
  cases v with
  | none => simp [put]
  | some v =>
    by_cases h : q = p
    · subst h
      simp [put]
    · simp [put, h]

/-- A loop over properties: of each the map says what its turn finds. -/
theorem lookup_foldl_put (f : UInt32 → Option BACnetValue) (ps : List UInt32) (ret : PropertyMap)
    (q : UInt32) :
    (ps.foldl (fun ret p => put ret p (f p)) ret).lookup q =
      (if q ∈ ps then f q else none).or (ret.lookup q) := by
  induction ps generalizing ret with
  | nil => simp
  | cons p ps ih =>
    rw [List.foldl_cons, ih, lookup_put]
    by_cases hq : q = p
    · subst hq
      by_cases hmem : q ∈ ps
      · cases f q <;> simp [hmem]
      · simp [hmem]
    · simp [hq]

theorem lookup_properties (d : Responses) (object : UInt32 × UInt32) (p : UInt32) :
    (d.properties object).lookup p = d.reported object p := by
  rw [Responses.properties, Responses.reported, lookup_foldl_put, lookup_foldl_put]
  simp

end

end Bacnet
