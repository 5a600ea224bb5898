import Bacnet.ArrayReads

/-!
# Bacnet.EpicsReads

What `epics` makes of a device that answers each read in one way: the objects it finds, and what it
keeps of what is read of them.
-/

namespace Bacnet

/-! ### The result of `epics` -/

namespace Responses

variable (d : Responses) (deviceId : UInt32)

/-- The answer for an index of the object-list. -/
def objectAt (i : Nat) : Result BACnetValue :=
  d ⟨objectDevice, deviceId, propObjectList, UInt32.ofNat i⟩

/-- The length of the object-list. -/
def listLength : Result UInt64 := (d.objectAt deviceId 0).bind (·.tryIntoU64)

/-- A turn of the loop over the object-list. -/
def walkTurn (objectIds : List (UInt32 × UInt32)) (i : Nat) :
    Except Error (List (UInt32 × UInt32)) :=
  (d.objectAt deviceId i).map fun v =>
    match v with
    | .objectId objectType objectInstance => objectIds ++ [(objectType, objectInstance)]
    | _ => objectIds

/-- The loop over the object-list. -/
def walk (n : UInt64) : Except Error (List (UInt32 × UInt32)) :=
  (List.range' 2 (n.toNat - 1)).foldlM (d.walkTurn deviceId) []

/-- The indices at which the loop arrives, which ends at an error. -/
def reached : List Nat → List Nat
  | [] => []
  | i :: is =>
    i :: match d.objectAt deviceId i with
      | .ok _ => reached is
      | .error _ => []

/-- The reads of the loop. -/
def walkReads (is : List Nat) : List ReadArgs :=
  (d.reached deviceId is).map fun i => ⟨objectDevice, deviceId, propObjectList, UInt32.ofNat i⟩

/-- The reads after the length of the object-list. -/
def objectReads (n : UInt64) : List ReadArgs :=
  d.walkReads deviceId (List.range' 2 (n.toNat - 1)) ++
    match d.walk deviceId n with
    | .ok objects => objects.flatMap d.propertyReads
    | .error _ => []

/-- The reads of `epics`. -/
def epicsReads : List ReadArgs :=
  d.propertyReads (objectDevice, deviceId) ++
    ⟨objectDevice, deviceId, propObjectList, 0⟩ ::
      match d.listLength deviceId with
      | .ok n => d.objectReads deviceId n
      | .error _ => []

end Responses

section

open Scan

variable {σ : Type} {scan : Scan σ} {I : List ReadArgs → σ → Prop} {d : Responses}

/-- The vectors of `epics` can be allocated, and no `read_properties` in it panics. -/
def Scan.EpicsFits (scan : Scan σ) (d : Responses) (deviceId : UInt32) : Prop :=
  scan.FitsAll d (objectDevice, deviceId) ∧
    ∀ n, d.listLength deviceId = .ok n →
      scan.Allocates (8 * n.toNat) ∧
      ∀ objects, d.walk deviceId n = .ok objects →
        scan.Allocates (scan.sizeOfHashMap * n.toNat) ∧ ∀ object ∈ objects, scan.FitsAll d object

/-- What `epics` returns. -/
def Scan.epicsResult (scan : Scan σ) (d : Responses) (deviceId : UInt32) : Except Error Epics := do
  let n ← d.listLength deviceId
  let objects ← d.walk deviceId n
  pure ⟨scan.rekey (d.properties (objectDevice, deviceId)),
    objects.map fun object => scan.rekey (d.properties object)⟩

/-- A loop of turns that are taken or panic, which keeps what each returns. -/
theorem Gives.mapM {α β : Type} {f : α → Reads σ β} {P : α → Prop} [DecidablePred P] {g : α → β}
    {asked : α → List ReadArgs} (h : ∀ a, Gives I (f a) (if P a then some (g a) else none) (asked a))
    (xs : List α) :
    Gives I (xs.mapM f) (if ∀ a ∈ xs, P a then some (xs.map g) else none) (xs.flatMap asked) := by
  induction xs with
  | nil => exact .pure []
  | cons a xs ih =>
    rw [List.mapM_cons, List.flatMap_cons]
    have ha := h a
    by_cases hP : P a
    · rw [if_pos hP] at ha
      by_cases hall : ∀ a ∈ xs, P a
      · rw [if_pos hall] at ih
        rw [if_pos (List.forall_mem_cons.mpr ⟨hP, hall⟩)]
        have hrest := ih.bind (f := fun bs => Pure.pure (g a :: bs)) (.pure _)
        rw [List.append_nil] at hrest
        exact ha.bind hrest
      · rw [if_neg hall] at ih
        rw [if_neg (fun hcons => hall (List.forall_mem_cons.mp hcons).2)]
        exact ha.bind (ih.bind_none _)
    · rw [if_neg hP] at ha
      rw [if_neg (fun hcons => hP (List.forall_mem_cons.mp hcons).1)]
      exact ha.bind_none _

theorem readObjectId_gives (h : scan.AnsweredBy I d) (deviceId : UInt32)
    (objectIds : List (UInt32 × UInt32)) (i : Nat) :
    Gives I (scan.readObjectId deviceId objectIds i).run (some (d.walkTurn deviceId objectIds i))
      [⟨objectDevice, deviceId, propObjectList, UInt32.ofNat i⟩] := by
  rw [readObjectId, ExceptT.run_bind, ExceptT.run_mk]
  rw [← List.append_nil [_]]
  refine (h _).bind ?_
  rw [Responses.walkTurn, Responses.objectAt]
  cases d ⟨objectDevice, deviceId, propObjectList, UInt32.ofNat i⟩ with
  | error e => exact .pure _
  | ok v =>
    cases v with
    | objectId objectType objectInstance => exact .pure _
    | _ => exact .pure _

theorem walk_gives (h : scan.AnsweredBy I d) (deviceId : UInt32) (is : List Nat)
    (objectIds : List (UInt32 × UInt32)) :
    Gives I (is.foldlM (scan.readObjectId deviceId) objectIds).run
      (some (is.foldlM (d.walkTurn deviceId) objectIds)) (d.walkReads deviceId is) := by
  induction is generalizing objectIds with
  | nil => exact .pure _
  | cons i is ih =>
    have hturn := readObjectId_gives h deviceId objectIds i
    rw [List.foldlM_cons, List.foldlM_cons, ExceptT.run_bind, Responses.walkReads,
      Responses.reached, List.map_cons]
    rw [Responses.walkTurn] at hturn ⊢
    cases hv : d.objectAt deviceId i with
    | error e =>
      rw [hv] at hturn
      exact hturn.bind (.pure _)
    | ok v =>
      rw [hv] at hturn
      exact hturn.bind (ih _)

open Classical in
/-- `epics` after the length of the object-list. -/
theorem objects_gives (hlists : scan.propertyListSpecial = Bacnet.propertyListSpecial)
    (h : scan.AnsweredBy I d) (deviceId : UInt32) (n : UInt64) (deviceProps : PropertyMap) :
    Gives I
      (do
        ExceptT.lift (scan.withCapacity 8 n)
        let objectIds ← (List.range' 2 (n.toNat - 1)).foldlM (scan.readObjectId deviceId) []
        ExceptT.lift (scan.withCapacity scan.sizeOfHashMap n)
        let objects ← ExceptT.lift (objectIds.mapM fun id => scan.readProperties id.1 id.2)
        pure (Epics.mk (scan.rekey deviceProps) (objects.map scan.rekey)) :
          ExceptT Error (Reads σ) Epics).run
      (if scan.Allocates (8 * n.toNat) ∧ ∀ objects, d.walk deviceId n = .ok objects →
          scan.Allocates (scan.sizeOfHashMap * n.toNat) ∧
            ∀ object ∈ objects, scan.FitsAll d object then
        some ((d.walk deviceId n).map fun objects => ⟨scan.rekey deviceProps,
          objects.map fun object => scan.rekey (d.properties object)⟩)
      else none)
      (d.objectReads deviceId n) := by
  have hids : Gives I (scan.withCapacity 8 n) _ [] := withCapacity_gives 8 n
  have hmaps : Gives I (scan.withCapacity scan.sizeOfHashMap n) _ [] :=
    withCapacity_gives scan.sizeOfHashMap n
  have hwalk := walk_gives h deviceId (List.range' 2 (n.toNat - 1)) []
  rw [← Responses.walk] at hwalk
  rw [ExceptT.run_bind_lift, Responses.objectReads]
  by_cases hsize : scan.Allocates (8 * n.toNat)
  · rw [if_pos hsize] at hids
    refine hids.bind ?_
    rw [ExceptT.run_bind]
    refine hwalk.bind ?_
    cases hw : d.walk deviceId n with
    | error e =>
      rw [if_pos ⟨hsize, by intro objects hobjects; cases hobjects⟩]
      exact .pure _
    | ok objects =>
      have hmap := Gives.mapM (fun object => readProperties_gives hlists h object) objects
      simp only [ExceptT.run_bind_lift]
      by_cases hmapSize : scan.Allocates (scan.sizeOfHashMap * n.toNat)
      · rw [if_pos hmapSize] at hmaps
        refine hmaps.bind ?_
        by_cases hall : ∀ object ∈ objects, scan.FitsAll d object
        · rw [if_pos hall] at hmap
          rw [if_pos ⟨hsize, by rintro _ ⟨⟩; exact ⟨hmapSize, hall⟩⟩]
          have hend := hmap.bind (f := fun maps => (pure (Epics.mk (scan.rekey deviceProps)
            (maps.map scan.rekey)) : ExceptT Error (Reads σ) Epics).run) (.pure _)
          rw [List.append_nil, List.map_map] at hend
          exact hend
        · rw [if_neg hall] at hmap
          rw [if_neg (fun hand => hall (hand.2 objects rfl).2)]
          exact hmap.bind_none _
      · rw [if_neg hmapSize] at hmaps
        rw [if_neg (fun hand => hmapSize (hand.2 objects rfl).1)]
        exact hmaps.bind_none _
  · rw [if_neg hsize] at hids
    rw [if_neg (fun hand => hsize hand.1)]
    exact hids.bind_none _

open Classical in
/-- `epics` returns what the device's answers make of it, or panics. -/
theorem epics_gives (hlists : scan.propertyListSpecial = Bacnet.propertyListSpecial)
    (h : scan.AnsweredBy I d) (deviceId : UInt32) :
    Gives I (scan.epics deviceId).run
      (if scan.EpicsFits d deviceId then some (scan.epicsResult d deviceId) else none)
      (d.epicsReads deviceId) := by
  have hdevice := readProperties_gives hlists h (objectDevice, deviceId)
  rw [epics, ExceptT.run_bind_lift, Responses.epicsReads]
  by_cases hfits : scan.FitsAll d (objectDevice, deviceId)
  · rw [if_pos hfits] at hdevice
    refine hdevice.bind ?_
    rw [ExceptT.run_bind, ExceptT.run_mk]
    refine (h _).bind ?_
    have hlength : (d ⟨objectDevice, deviceId, propObjectList, 0⟩).bind (·.tryIntoU64) =
        d.listLength deviceId := rfl
    have hresult : ∀ {e}, d.listLength deviceId = .error e →
        scan.EpicsFits d deviceId ∧ scan.epicsResult d deviceId = .error e := by
      intro e he
      refine ⟨⟨hfits, ?_⟩, by rw [epicsResult, he]; rfl⟩
      intro n hn
      rw [he] at hn
      cases hn
    cases hv : d ⟨objectDevice, deviceId, propObjectList, 0⟩ with
    | error e =>
      rw [hv] at hlength
      obtain ⟨hall, hend⟩ := hresult hlength.symm
      rw [if_pos hall, hend, ← hlength]
      exact .pure _
    | ok v =>
      have hv' : v.tryIntoU64 = d.listLength deviceId := by rw [← hlength, hv]; rfl
      simp only [ExceptT.run_bind, ExceptT.run_mk, pure_bind]
      rw [hv']
      cases hn : d.listLength deviceId with
      | error e =>
        obtain ⟨hall, hend⟩ := hresult hn
        rw [if_pos hall, hend]
        exact .pure _
      | ok n =>
        have hobjects := objects_gives hlists h deviceId n (d.properties (objectDevice, deviceId))
        have hiff : scan.EpicsFits d deviceId ↔ scan.Allocates (8 * n.toNat) ∧
            ∀ objects, d.walk deviceId n = .ok objects →
              scan.Allocates (scan.sizeOfHashMap * n.toNat) ∧
              ∀ object ∈ objects, scan.FitsAll d object := by
          rw [EpicsFits, hn]
          constructor
          · rintro ⟨-, hall⟩
            exact hall n rfl
          · intro hall
            refine ⟨hfits, ?_⟩
            rintro _ ⟨⟩
            exact hall
        have hend : scan.epicsResult d deviceId = (d.walk deviceId n).map fun objects =>
            ⟨scan.rekey (d.properties (objectDevice, deviceId)),
              objects.map fun object => scan.rekey (d.properties object)⟩ := by
          rw [epicsResult, hn]
          rfl
        simp only [hiff, hend]
        exact hobjects
  · rw [if_neg hfits] at hdevice
    rw [if_neg (fun hand => hfits hand.1)]
    exact hdevice.bind_none _

end

end Bacnet
