import Bacnet.Lib.Probe
import Bacnet.Lib.Table
import Mathlib.Data.Finset.Image
import Mathlib.Data.Finset.Card

/-!
# Bacnet.Tsm

The transaction state machine (`tsm.c`): a table of 255 slots, each free (invoke id 0)
or reserved for an outstanding request, and a running counter from which ids are taken.

The client never runs the timer, so a slot keeps only its id and state. The abstract
view of the table is `Tsm.reserved`, the finite set of ids in use: allocation inserts an
id that was not in it, `tsm_free_invoke_id` erases one.
-/

namespace Bacnet

open Bacnet.Lib

/-- `MAX_TSM_TRANSACTIONS`. -/
abbrev maxTsmTransactions : Nat := 255

/-- The states of a transaction the client's requests go through. -/
inductive TsmState where
  | idle
  | awaitConfirmation
  deriving DecidableEq

/-- `BACNET_TSM_DATA`. -/
structure TsmData where
  invokeId : UInt8
  state : TsmState
  deriving DecidableEq

/-- `TSM_List` and `Current_Invoke_ID`. -/
structure Tsm where
  list : Table maxTsmTransactions TsmData
  currentInvokeId : UInt8
  deriving DecidableEq

namespace Tsm

/-- The tables as the program starts. -/
def init : Tsm := ⟨Table.replicate maxTsmTransactions ⟨0, .idle⟩, 1⟩

/-! ### The code -/

def findInvokeIdIndex (t : Tsm) (invokeId : UInt8) : Option (Fin maxTsmTransactions) :=
  t.list.find? fun d => d.invokeId == invokeId

def findFirstFreeIndex (t : Tsm) : Option (Fin maxTsmTransactions) :=
  t.list.find? fun d => d.invokeId == 0

def transactionAvailable (t : Tsm) : Bool := (t.list.find? fun d => d.invokeId == 0).isSome

def transactionIdleCount (t : Tsm) : Nat :=
  t.list.count fun d => d.invokeId == 0 && d.state == .idle

def invokeIdSet (t : Tsm) (invokeId : UInt8) : Tsm :=
  { t with currentInvokeId := if invokeId = 0 then 1 else invokeId }

/-- The counter's increment, which skips zero. -/
def increment (id : UInt8) : UInt8 := if id + 1 = 0 then 1 else id + 1

/-- The id the allocation loop stops at. There are 256 ids to try at most. -/
def nextUnused (t : Tsm) : UInt8 :=
  probe increment (fun id => (t.findInvokeIdIndex id).isSome) 256 t.currentInvokeId

/-- `tsm_next_free_invokeID`. -/
def nextFreeInvokeId (t : Tsm) : UInt8 × Tsm :=
  if t.transactionAvailable then
    match t.findFirstFreeIndex with
    | some i =>
      (t.nextUnused, ⟨t.list.set i ⟨t.nextUnused, .idle⟩, increment t.nextUnused⟩)
    | none => (0, { t with currentInvokeId := t.nextUnused })
  else (0, t)

/-- `tsm_set_confirmed_unsegmented_transaction`, for a message that is not empty. -/
def setConfirmedUnsegmentedTransaction (t : Tsm) (invokeId : UInt8) : Tsm :=
  if invokeId ≠ 0 then
    match t.findInvokeIdIndex invokeId with
    | some i => { t with list := t.list.set i ⟨(t.list.get i).invokeId, .awaitConfirmation⟩ }
    | none => t
  else t

/-- `tsm_free_invoke_id`. -/
def freeInvokeId (t : Tsm) (invokeId : UInt8) : Tsm :=
  match t.findInvokeIdIndex invokeId with
  | some i => { t with list := t.list.set i ⟨0, .idle⟩ }
  | none => t

/-- `tsm_invoke_id_free`. -/
def invokeIdFree (t : Tsm) (invokeId : UInt8) : Bool := (t.findInvokeIdIndex invokeId).isNone

/-- `tsm_invoke_id_failed`. -/
def invokeIdFailed (t : Tsm) (invokeId : UInt8) : Bool :=
  match t.findInvokeIdIndex invokeId with
  | some i => (t.list.get i).state == .idle
  | none => false

/-! ### The set of reserved ids -/

/-- The ids in use. -/
def reserved (t : Tsm) : Finset UInt8 :=
  (Finset.univ.image fun i => (t.list.get i).invokeId).erase 0

/-- What holds of the table between the client's steps. -/
structure Ok (t : Tsm) : Prop where
  /-- A reserved id has one slot. -/
  distinct : ∀ i j, (t.list.get i).invokeId = (t.list.get j).invokeId →
    (t.list.get i).invokeId ≠ 0 → i = j
  /-- A free slot is idle, a reserved one awaits its confirmation. -/
  state : ∀ i, (t.list.get i).state = .idle ↔ (t.list.get i).invokeId = 0
  current : t.currentInvokeId ≠ 0

theorem ok_init : init.Ok where
  distinct i j _ hi := by simp [init] at hi
  state i := by simp [init]
  current := by decide

theorem mem_reserved {t : Tsm} {id : UInt8} :
    id ∈ t.reserved ↔ id ≠ 0 ∧ ∃ i, (t.list.get i).invokeId = id := by
  simp [reserved]

theorem reserved_init : init.reserved = ∅ := by
  ext id
  rw [mem_reserved]
  simp [init, eq_comm]

theorem invokeIdFree_iff {t : Tsm} {id : UInt8} :
    t.invokeIdFree id = true ↔ ∀ i, (t.list.get i).invokeId ≠ id := by
  simp [invokeIdFree, findInvokeIdIndex, Table.find?_eq_none]

/-- An id other than 0 is free when it is not reserved. -/
theorem invokeIdFree_of_ne_zero {t : Tsm} {id : UInt8} (h0 : id ≠ 0) :
    t.invokeIdFree id = true ↔ id ∉ t.reserved := by
  rw [invokeIdFree_iff, mem_reserved]
  simp [h0]

theorem transactionAvailable_iff {t : Tsm} :
    t.transactionAvailable = true ↔ ∃ i, (t.list.get i).invokeId = 0 := by
  rw [transactionAvailable, Option.isSome_iff_exists]
  constructor
  · rintro ⟨i, hi⟩
    exact ⟨i, by simpa using Table.find?_sat hi⟩
  · rintro ⟨i, hi⟩
    exact Table.exists_find? (i := i) (by simpa using hi)

/-- The id 0 is free, as the code sees it, when no slot is. -/
theorem invokeIdFree_zero {t : Tsm} :
    t.invokeIdFree 0 = true ↔ t.transactionAvailable = false := by
  rw [← Bool.not_eq_true, transactionAvailable_iff, invokeIdFree_iff]
  simp

/-- A reserved id has not failed: the client polls only between its steps. -/
theorem invokeIdFailed_iff {t : Tsm} (ht : t.Ok) {id : UInt8} :
    t.invokeIdFailed id = true ↔ id = 0 ∧ t.transactionAvailable = true := by
  rw [invokeIdFailed]
  cases hf : t.findInvokeIdIndex id with
  | some i =>
      have hid : (t.list.get i).invokeId = id := by simpa using Table.find?_sat hf
      simp only [beq_iff_eq, ht.state i, hid]
      constructor
      · intro h
        exact ⟨h, transactionAvailable_iff.mpr ⟨i, hid.trans h⟩⟩
      · intro h
        exact h.1
  | none =>
      have hfree : t.invokeIdFree id = true := by rw [invokeIdFree, hf]; rfl
      simp only [Bool.false_eq_true, false_iff, not_and, Bool.not_eq_true]
      intro h
      subst h
      exact invokeIdFree_zero.mp hfree

/-! ### Allocation -/

/-- One turn of the counter, on the numbers 1 to 255. -/
theorem toNat_increment {id : UInt8} (h : id ≠ 0) :
    (increment id).toNat = id.toNat % 255 + 1 := by
  have hlt := id.toNat_lt
  have hpos : id.toNat ≠ 0 := fun h0 => h (UInt8.toNat_inj.mp h0)
  have hadd : (id + 1).toNat = (id.toNat + 1) % 256 := by simp [UInt8.toNat_add]
  rw [increment]
  split
  · rename_i hz
    rw [hz] at hadd
    have : (0 : UInt8).toNat = 0 := rfl
    have h255 : id.toNat = 255 := by omega
    rw [h255]
    rfl
  · rename_i hz
    have hne : (id + 1).toNat ≠ 0 := fun h0 => hz (UInt8.toNat_inj.mp h0)
    omega

theorem increment_ne_zero (id : UInt8) : increment id ≠ 0 := by
  rw [increment]
  split
  · decide
  · assumption

theorem iterate_increment_ne_zero {id : UInt8} (h : id ≠ 0) (k : Nat) : increment^[k] id ≠ 0 := by
  cases k with
  | zero => exact h
  | succ k =>
      rw [Function.iterate_succ_apply']
      exact increment_ne_zero _

theorem toNat_iterate_increment {id : UInt8} (h : id ≠ 0) (k : Nat) :
    (increment^[k] id).toNat = (id.toNat - 1 + k) % 255 + 1 := by
  have hlt := id.toNat_lt
  have hpos : id.toNat ≠ 0 := fun h0 => h (UInt8.toNat_inj.mp h0)
  induction k with
  | zero =>
      rw [Function.iterate_zero_apply]
      omega
  | succ k ih =>
      rw [Function.iterate_succ_apply', toNat_increment (iterate_increment_ne_zero h k), ih]
      omega

/-- The counter comes by every id. -/
theorem exists_iterate_increment {id v : UInt8} (h : id ≠ 0) (hv : v ≠ 0) :
    ∃ k, k < 255 ∧ increment^[k] id = v := by
  have hlt := id.toNat_lt
  have hvlt := v.toNat_lt
  have hpos : id.toNat ≠ 0 := fun h0 => h (UInt8.toNat_inj.mp h0)
  have hvpos : v.toNat ≠ 0 := fun h0 => hv (UInt8.toNat_inj.mp h0)
  refine ⟨(v.toNat + 255 - id.toNat) % 255, Nat.mod_lt _ (by decide), ?_⟩
  rw [← UInt8.toNat_inj, toNat_iterate_increment h]
  omega

/-- With a slot free, some id is not in the table: 255 slots, of which one holds 0, do
not hold the 255 other ids. -/
theorem exists_unused {t : Tsm} (h : t.transactionAvailable = true) :
    ∃ v : UInt8, v ≠ 0 ∧ t.invokeIdFree v = true := by
  by_contra hall
  have hsurj : Function.Surjective fun i => (t.list.get i).invokeId.toFin := by
    intro v
    obtain ⟨i, hi⟩ : ∃ i, (t.list.get i).invokeId = UInt8.ofFin v := by
      by_cases hv : UInt8.ofFin v = 0
      · rw [hv]
        exact transactionAvailable_iff.mp h
      · by_contra hi
        exact hall ⟨_, hv, invokeIdFree_iff.mpr fun i hid => hi ⟨i, hid⟩⟩
    exact ⟨i, by simp [hi]⟩
  have hcard := Fintype.card_le_of_surjective _ hsurj
  simp only [Fintype.card_fin] at hcard
  exact absurd hcard (by decide)

/-- The loop of the allocation ends at the first unused id from the counter on. -/
theorem nextUnused_firstFailing {t : Tsm} (ht : t.Ok) (h : t.transactionAvailable = true) :
    FirstFailing increment (fun id => (t.findInvokeIdIndex id).isSome) t.currentInvokeId
      t.nextUnused := by
  obtain ⟨v, hv, hfree⟩ := exists_unused h
  obtain ⟨k, hk, hkv⟩ := exists_iterate_increment ht.current hv
  refine probe_spec ⟨k, by omega, ?_⟩
  rw [hkv]
  simpa [invokeIdFree] using hfree

theorem nextUnused_ne_zero {t : Tsm} (ht : t.Ok) (h : t.transactionAvailable = true) :
    t.nextUnused ≠ 0 := by
  obtain ⟨k, hk, -⟩ := nextUnused_firstFailing ht h
  rw [hk]
  exact iterate_increment_ne_zero ht.current k

theorem nextUnused_free {t : Tsm} (ht : t.Ok) (h : t.transactionAvailable = true) :
    t.invokeIdFree t.nextUnused = true := by
  obtain ⟨k, -, hk, -⟩ := nextUnused_firstFailing ht h
  simpa [invokeIdFree] using hk

theorem nextUnused_not_mem {t : Tsm} (ht : t.Ok) (h : t.transactionAvailable = true) :
    t.nextUnused ∉ t.reserved :=
  (invokeIdFree_of_ne_zero (nextUnused_ne_zero ht h)).mp (nextUnused_free ht h)

/-! ### Reserving and releasing a slot -/

/-- An id in one slot is found there. -/
theorem findInvokeIdIndex_eq {t : Tsm} {i : Fin maxTsmTransactions} {id : UInt8}
    (hi : (t.list.get i).invokeId = id) (huniq : ∀ j, (t.list.get j).invokeId = id → j = i) :
    t.findInvokeIdIndex id = some i := by
  refine Table.find?_eq_some.mpr ⟨by simpa using hi, fun j hj => ?_⟩
  by_contra h
  have hji := huniq j (by simpa using h)
  exact absurd (hji ▸ hj) (lt_irrefl i)

/-- `t` with a free slot `i` given to `id`. -/
def reserveAt (t : Tsm) (i : Fin maxTsmTransactions) (id : UInt8) (st : TsmState) : Tsm :=
  ⟨t.list.set i ⟨id, st⟩, increment id⟩

/-- An id written to one slot of a table that did not hold it is found in that slot. -/
theorem findInvokeIdIndex_reserveAt {t : Tsm} {i : Fin maxTsmTransactions} {id : UInt8}
    {st : TsmState} (hfree : t.invokeIdFree id = true) :
    (t.reserveAt i id st).findInvokeIdIndex id = some i := by
  refine findInvokeIdIndex_eq (by simp [reserveAt]) fun j hj => ?_
  by_contra hne
  rw [reserveAt, Table.get_set_ne _ (Ne.symm hne)] at hj
  exact invokeIdFree_iff.mp hfree j hj

/-- What allocation does when a slot is free. -/
theorem nextFreeInvokeId_of_available {t : Tsm} (h : t.transactionAvailable = true) :
    ∃ i, (t.list.get i).invokeId = 0 ∧
      t.nextFreeInvokeId = (t.nextUnused, t.reserveAt i t.nextUnused .idle) := by
  obtain ⟨i, hi⟩ : ∃ i, t.findFirstFreeIndex = some i := by
    obtain ⟨j, hj⟩ := transactionAvailable_iff.mp h
    exact Table.exists_find? (i := j) (by simpa using hj)
  refine ⟨i, by simpa using Table.find?_sat hi, ?_⟩
  rw [nextFreeInvokeId, if_pos h, hi]
  rfl

theorem nextFreeInvokeId_of_not_available {t : Tsm} (h : t.transactionAvailable = false) :
    t.nextFreeInvokeId = (0, t) := by
  simp [nextFreeInvokeId, h]

/-- Allocation, then the request is sent: the slot awaits its confirmation. -/
theorem setConfirmed_reserveAt {t : Tsm} {i : Fin maxTsmTransactions} {id : UInt8}
    (hid : id ≠ 0) (hfree : t.invokeIdFree id = true) :
    (t.reserveAt i id .idle).setConfirmedUnsegmentedTransaction id =
      t.reserveAt i id .awaitConfirmation := by
  rw [setConfirmedUnsegmentedTransaction, if_pos hid, findInvokeIdIndex_reserveAt hfree]
  simp [reserveAt, Table.set_set]

/-- Allocation, then the request turns out not to fit: only the counter has moved. -/
theorem free_reserveAt {t : Tsm} (ht : t.Ok) {i : Fin maxTsmTransactions} {id : UInt8}
    (hi : (t.list.get i).invokeId = 0) (hfree : t.invokeIdFree id = true) :
    (t.reserveAt i id .idle).freeInvokeId id = { t with currentInvokeId := increment id } := by
  have hslot : (⟨0, .idle⟩ : TsmData) = t.list.get i := by
    have hst := (ht.state i).mpr hi
    cases hd : t.list.get i with
    | mk a b =>
        rw [hd] at hi hst
        exact TsmData.mk.injEq .. |>.mpr ⟨hi.symm, hst.symm⟩
  rw [freeInvokeId, findInvokeIdIndex_reserveAt hfree]
  simp only [reserveAt, Table.set_set]
  rw [hslot, Table.set_get]

theorem distinct_reserveAt {t : Tsm} (ht : t.Ok) {i : Fin maxTsmTransactions} {id : UInt8}
    {st : TsmState} (hfree : t.invokeIdFree id = true) (j k : Fin maxTsmTransactions)
    (hjk : ((t.reserveAt i id st).list.get j).invokeId =
      ((t.reserveAt i id st).list.get k).invokeId)
    (hj : ((t.reserveAt i id st).list.get j).invokeId ≠ 0) : j = k := by
  simp only [reserveAt, Table.get_set] at hjk hj
  split at hjk <;> split at hjk
  · rename_i hij hik
    rw [← hij, ← hik]
  · exact absurd hjk.symm (invokeIdFree_iff.mp hfree k)
  · exact absurd hjk (invokeIdFree_iff.mp hfree j)
  · rename_i hij _
    rw [if_neg hij] at hj
    exact ht.distinct j k hjk hj

theorem ok_reserveAt {t : Tsm} (ht : t.Ok) {i : Fin maxTsmTransactions} {id : UInt8}
    (hid : id ≠ 0) (hfree : t.invokeIdFree id = true) :
    (t.reserveAt i id .awaitConfirmation).Ok where
  distinct := distinct_reserveAt ht hfree
  state j := by
    simp only [reserveAt, Table.get_set]
    split
    · simp [hid]
    · exact ht.state j
  current := increment_ne_zero id

theorem reserved_reserveAt {t : Tsm} {i : Fin maxTsmTransactions} {id : UInt8} {st : TsmState}
    (hid : id ≠ 0) (hi : (t.list.get i).invokeId = 0) :
    (t.reserveAt i id st).reserved = insert id t.reserved := by
  ext v
  rw [Finset.mem_insert, mem_reserved, mem_reserved]
  constructor
  · rintro ⟨hv, j, hj⟩
    simp only [reserveAt, Table.get_set] at hj
    split at hj
    · exact Or.inl hj.symm
    · exact Or.inr ⟨hv, j, hj⟩
  · intro h
    rcases h with rfl | ⟨hv, j, hj⟩
    · exact ⟨hid, i, by simp [reserveAt]⟩
    · refine ⟨hv, j, ?_⟩
      have hne : i ≠ j := by
        intro hij
        rw [hij, hj] at hi
        exact hv hi
      rw [reserveAt, Table.get_set_ne _ hne]
      exact hj

theorem ok_invokeIdSet {t : Tsm} (ht : t.Ok) (id : UInt8) : (t.invokeIdSet id).Ok where
  distinct := ht.distinct
  state := ht.state
  current := by
    simp only [invokeIdSet]
    split
    · exact (by decide : (1 : UInt8) ≠ 0)
    · assumption

theorem ok_freeInvokeId {t : Tsm} (ht : t.Ok) (id : UInt8) : (t.freeInvokeId id).Ok := by
  rw [freeInvokeId]
  cases t.findInvokeIdIndex id with
  | none => exact ht
  | some i =>
      refine ⟨fun j k hjk hj => ?_, fun j => ?_, ht.current⟩
      · simp only [Table.get_set] at hjk hj
        split at hj
        · exact absurd rfl hj
        · rename_i hij
          rw [if_neg hij] at hjk
          split at hjk
          · exact absurd hjk hj
          · exact ht.distinct j k hjk hj
      · simp only [Table.get_set]
        split
        · simp
        · exact ht.state j

/-- Releasing an id erases it from the ids in use, and touches no other. -/
theorem reserved_freeInvokeId {t : Tsm} (ht : t.Ok) (id : UInt8) :
    (t.freeInvokeId id).reserved = t.reserved.erase id := by
  rw [freeInvokeId]
  cases hf : t.findInvokeIdIndex id with
  | none =>
      have hfree : t.invokeIdFree id = true := by rw [invokeIdFree, hf]; rfl
      refine (Finset.erase_eq_of_notMem fun hmem => ?_).symm
      obtain ⟨-, i, hi⟩ := mem_reserved.mp hmem
      exact invokeIdFree_iff.mp hfree i hi
  | some i =>
      have hi : (t.list.get i).invokeId = id := by simpa using Table.find?_sat hf
      ext v
      rw [Finset.mem_erase, mem_reserved, mem_reserved]
      constructor
      · rintro ⟨hv, j, hj⟩
        simp only [Table.get_set] at hj
        split at hj
        · exact absurd hj.symm hv
        · rename_i hij
          refine ⟨fun hvid => hij ?_, hv, j, hj⟩
          refine ht.distinct i j ?_ ?_
          · rw [hi, hj, hvid]
          · rw [hi, ← hvid]
            exact hv
      · rintro ⟨hvid, hv, j, hj⟩
        refine ⟨hv, j, ?_⟩
        have hij : i ≠ j := by
          intro hij
          rw [← hij, hi] at hj
          exact hvid hj.symm
        rw [Table.get_set_ne _ hij]
        exact hj

/-- Every slot is idle or holds one of the ids in use. -/
theorem transactionIdleCount_add_card {t : Tsm} (ht : t.Ok) :
    t.transactionIdleCount + t.reserved.card = 255 := by
  have hidle : t.transactionIdleCount =
      (Finset.univ.filter fun i => (t.list.get i).invokeId = 0).card := by
    rw [transactionIdleCount, Table.count_eq_card]
    congr 1
    ext i
    simp [ht.state i]
  have hres : t.reserved =
      (Finset.univ.filter fun i => ¬ (t.list.get i).invokeId = 0).image
        fun i => (t.list.get i).invokeId := by
    ext v
    simp only [mem_reserved, Finset.mem_image, Finset.mem_filter, Finset.mem_univ, true_and]
    constructor
    · rintro ⟨hv, i, rfl⟩
      exact ⟨i, hv, rfl⟩
    · rintro ⟨i, hi, rfl⟩
      exact ⟨hi, i, rfl⟩
  have hcard : t.reserved.card =
      (Finset.univ.filter fun i => ¬ (t.list.get i).invokeId = 0).card := by
    rw [hres]
    refine Finset.card_image_of_injOn fun i hi j _ hij => ?_
    exact ht.distinct i j hij (by simpa using hi)
  rw [hidle, hcard, Finset.card_filter_add_card_filter_not]
  simp

/-- A slot is free exactly when fewer than 255 ids are in use. -/
theorem transactionAvailable_iff_card {t : Tsm} (ht : t.Ok) :
    t.transactionAvailable = true ↔ t.reserved.card < 255 := by
  have hsum := transactionIdleCount_add_card ht
  have hpos : t.transactionAvailable = true ↔ 0 < t.transactionIdleCount := by
    rw [transactionAvailable_iff, transactionIdleCount, Table.count_eq_card, Finset.card_pos]
    constructor
    · rintro ⟨i, hi⟩
      exact ⟨i, by simp [hi, (ht.state i).mpr hi]⟩
    · rintro ⟨i, hi⟩
      simp only [Finset.mem_filter, Bool.and_eq_true, beq_iff_eq] at hi
      exact ⟨i, hi.2.1⟩
  rw [hpos]
  omega

end Tsm

end Bacnet
