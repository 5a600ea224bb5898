import Bacnet.Invariants
import Bacnet.NegativeReplies

/-!
# Bacnet.Allocation

The loop of `tsm_next_free_invokeID` has no bound of its own: it turns until the running
counter comes to an id that is not in the table. Here it is a loop, and
`Tsm.nextFreeInvokeId` is what it ends with.

Every turn but the last passes a reserved id, and the counter passes none twice, so there is at
most one turn more than there are reserved ids.
-/

namespace Bacnet

open Bacnet.Lib

variable {env : Env} {s : Sys}

namespace Tsm

/-! ### The loop -/

/-- One turn of the loop of `tsm_next_free_invokeID`. -/
def allocationTurn (t : Tsm) : Tsm ⊕ UInt8 × Tsm :=
  match t.findInvokeIdIndex t.currentInvokeId with
  | none =>
    match t.findFirstFreeIndex with
    | some i =>
      .inr (t.currentInvokeId,
        ⟨t.list.set i ⟨t.currentInvokeId, .idle⟩, increment t.currentInvokeId⟩)
    | none => .inr (0, t)
  | some _ => .inl { t with currentInvokeId := increment t.currentInvokeId }

/-- `tsm_next_free_invokeID`, as far as a number of turns takes it. -/
def nextFreeInvokeIdWithin (t : Tsm) (turns : Nat) : Option (UInt8 × Tsm) :=
  if t.transactionAvailable then loop allocationTurn turns t else some (0, t)

/-- `t` with its counter moved on `k` times. -/
def advance (t : Tsm) (k : Nat) : Tsm := { t with currentInvokeId := increment^[k] t.currentInvokeId }

/-- Within one round of the counter no id comes twice. -/
theorem iterate_increment_inj {id : UInt8} (h : id ≠ 0) {j k : Nat} (hj : j < 255) (hk : k < 255)
    (hjk : increment^[j] id = increment^[k] id) : j = k := by
  have hlt := id.toNat_lt
  have heq := congrArg UInt8.toNat hjk
  rw [toNat_iterate_increment h, toNat_iterate_increment h] at heq
  omega

/-- The ids that the loop passes are reserved, and they are different ones. -/
theorem le_card_reserved {t : Tsm} (h0 : t.currentInvokeId ≠ 0) {k : Nat} (hk : k < 255)
    (hpass : ∀ j, j < k → t.invokeIdFree (increment^[j] t.currentInvokeId) = false) :
    k ≤ t.reserved.card := by
  rw [← Finset.card_range k]
  refine Finset.card_le_card_of_injOn (fun j => increment^[j] t.currentInvokeId)
    (fun j hj => ?_) fun i hi j hj hij => ?_
  · have hne := iterate_increment_ne_zero h0 j
    have hres := hpass j (Finset.mem_range.mp hj)
    by_contra hnot
    rw [(invokeIdFree_of_ne_zero hne).mpr hnot] at hres
    cases hres
  · have hi := Finset.mem_range.mp hi
    have hj := Finset.mem_range.mp hj
    exact iterate_increment_inj h0 (by omega) (by omega) hij

theorem allocationTurn_of_reserved {t : Tsm} {k : Nat}
    (h : t.invokeIdFree (increment^[k] t.currentInvokeId) = false) :
    allocationTurn (t.advance k) = .inl (t.advance (k + 1)) := by
  obtain ⟨i, hi⟩ : ∃ i, t.findInvokeIdIndex (increment^[k] t.currentInvokeId) = some i := by
    rw [← Option.isSome_iff_exists]
    simpa [invokeIdFree] using h
  have hfound : (t.advance k).findInvokeIdIndex (t.advance k).currentInvokeId = some i := hi
  rw [allocationTurn, hfound]
  simp only [advance, Function.iterate_succ_apply']

/-- The turn that ends the loop allocates. -/
theorem allocationTurn_of_free {t : Tsm} {k : Nat} (havail : t.transactionAvailable = true)
    (hk : t.nextUnused = increment^[k] t.currentInvokeId)
    (h : t.invokeIdFree t.nextUnused = true) :
    allocationTurn (t.advance k) = .inr t.nextFreeInvokeId := by
  obtain ⟨i, hi⟩ : ∃ i, t.findFirstFreeIndex = some i := by
    obtain ⟨j, hj⟩ := transactionAvailable_iff.mp havail
    exact Table.exists_find? (i := j) (by simpa using hj)
  have hcurrent : (t.advance k).currentInvokeId = t.nextUnused := hk.symm
  have hnone : (t.advance k).findInvokeIdIndex t.nextUnused = none :=
    Option.isNone_iff_eq_none.mp h
  have hfree : (t.advance k).findFirstFreeIndex = some i := hi
  rw [allocationTurn, hcurrent, hnone, hfree, nextFreeInvokeId, if_pos havail, hi]
  rfl

/-- The loop ends, with the allocation. -/
theorem nextFreeInvokeIdWithin_eq {t : Tsm} (ht : t.Ok) {turns : Nat}
    (hturns : t.transactionAvailable = true → t.reserved.card < turns) :
    t.nextFreeInvokeIdWithin turns = some t.nextFreeInvokeId := by
  rw [nextFreeInvokeIdWithin]
  cases havail : t.transactionAvailable with
  | false =>
      rw [nextFreeInvokeId_of_not_available havail]
      rfl
  | true =>
      obtain ⟨k, hk, -, hpass⟩ := nextUnused_firstFailing ht havail
      have hpass : ∀ j, j < k → t.invokeIdFree (increment^[j] t.currentInvokeId) = false :=
        fun j hj => by simpa [invokeIdFree] using hpass j hj
      -- the counter has come by an unused id before it is through with one round
      have hround : k < 255 := by
        obtain ⟨v, hv, hfree⟩ := exists_unused havail
        obtain ⟨l, hl, rfl⟩ := exists_iterate_increment ht.current hv
        by_contra hge
        rw [hpass l (by omega)] at hfree
        cases hfree
      have hle := le_card_reserved ht.current hround hpass
      have hloop : loop allocationTurn (k + 1) t = some t.nextFreeInvokeId :=
        loop_eq_some (f := t.advance) (fun j hj => allocationTurn_of_reserved (hpass j hj))
          (allocationTurn_of_free havail hk (nextUnused_free ht havail))
      exact loop_mono hloop (Nat.lt_of_le_of_lt hle (hturns havail))

/-! ### What it allocates -/

/-- The slots that are in use. -/
def reservedCount (t : Tsm) : Nat := t.list.count fun d => d.invokeId != 0

/-- What allocation does, from a table `t`. -/
structure Allocates (t : Tsm) (id : UInt8) (t' : Tsm) : Prop where
  /-- No id is left only when every slot is in use. -/
  full : id = 0 → t.reservedCount = maxTsmTransactions ∧ t' = t
  fresh : id ≠ 0 → id ∉ t.reserved ∧ t'.reserved = insert id t.reserved ∧
    t'.reservedCount = t.reservedCount + 1
  /-- The slots in use have different ids, and one with the id 0 awaits nothing. -/
  distinct : ∀ i j, (t'.list.get i).invokeId = (t'.list.get j).invokeId →
    (t'.list.get i).invokeId ≠ 0 → i = j
  state : ∀ i, (t'.list.get i).invokeId = 0 → (t'.list.get i).state = .idle
  current : t'.currentInvokeId ≠ 0

theorem reservedCount_eq_iff {t : Tsm} :
    t.reservedCount = maxTsmTransactions ↔ t.transactionAvailable = false := by
  rw [reservedCount, Table.count_eq_size, ← Bool.not_eq_true, transactionAvailable_iff]
  simp

/-- Allocation differs from a request that is sent in the state of its slot alone. -/
theorem allocates_nextFreeInvokeId {t : Tsm} (ht : t.Ok) :
    t.Allocates t.nextFreeInvokeId.1 t.nextFreeInvokeId.2 := by
  cases havail : t.transactionAvailable with
  | false =>
      rw [nextFreeInvokeId_of_not_available havail]
      exact ⟨fun _ => ⟨reservedCount_eq_iff.mpr havail, rfl⟩, fun h => absurd rfl h, ht.distinct,
        fun i => (ht.state i).mpr, ht.current⟩
  | true =>
      obtain ⟨i, hi, halloc⟩ := nextFreeInvokeId_of_available havail
      rw [halloc]
      have h0 := nextUnused_ne_zero ht havail
      have hfree := nextUnused_free ht havail
      refine ⟨fun h => absurd h h0, fun _ => ⟨nextUnused_not_mem ht havail,
        reserved_reserveAt h0 hi, ?_⟩, ?_, ?_, increment_ne_zero _⟩
      · exact Table.count_set_new (by simp [hi]) (by simpa using h0)
      · exact distinct_reserveAt ht hfree
      · intro j hj
        by_cases hij : i = j
        · subst hij
          simp [reserveAt]
        · rw [reserveAt, Table.get_set_ne _ hij] at hj ⊢
          exact (ht.state j).mpr hj

end Tsm

/-- The allocation of a send, in whatever state the client is: its loop ends within a round of
the counter. -/
theorem allocates_of_run {es : List Event} {os : List Output}
    (hrun : (client env).run .init es = some (s, os)) :
    ∃ id tsm, s.stack.tsm.nextFreeInvokeId = (id, tsm) ∧
      (∀ turns, 255 ≤ turns → s.stack.tsm.nextFreeInvokeIdWithin turns = some (id, tsm)) ∧
      s.stack.tsm.Allocates id tsm := by
  have ht := (wf_run hrun).tsm
  refine ⟨_, _, rfl, fun turns hturns => ?_, Tsm.allocates_nextFreeInvokeId ht⟩
  refine Tsm.nextFreeInvokeIdWithin_eq ht fun havail => ?_
  have hcard := (Tsm.transactionAvailable_iff_card ht).mp havail
  omega

/-- With the request of a first read outstanding, the next read gets the id 2. -/
theorem allocates_readSent :
    ∃ s os, (client lan).run .init readSent = some (s, os) ∧
      s.stack.tsm.reserved.card = 1 ∧
      ∃ id tsm, s.stack.tsm.nextFreeInvokeId = (id, tsm) ∧ id = 2 ∧
        (∀ turns, 255 ≤ turns → s.stack.tsm.nextFreeInvokeIdWithin turns = some (id, tsm)) ∧
        s.stack.tsm.Allocates id tsm := by
  have hsome : ((client lan).run .init readSent).any (fun p =>
      decide (p.1.stack.tsm.transactionIdleCount = 254 ∧
        p.1.stack.tsm.nextFreeInvokeId.1 = 2)) = true := by
    decide +kernel
  obtain ⟨s, os, hrun, hp⟩ := Machine.exists_run hsome
  obtain ⟨hcount, htwo⟩ := of_decide_eq_true hp
  have hcard : s.stack.tsm.reserved.card = 1 := by
    have hsum := Tsm.transactionIdleCount_add_card (wf_run hrun).tsm
    rw [hcount] at hsum
    omega
  obtain ⟨id, tsm, heq, hturns, hall⟩ := allocates_of_run hrun
  rw [heq] at htwo
  exact ⟨s, os, hrun, hcard, id, tsm, heq, htwo, hturns, hall⟩

end Bacnet
