import Bacnet.Bvll
import Bacnet.Lib.Lease

/-!
# Bacnet.ForeignDevices

The **foreign device table** of a BBMD (`bvlc.c`): a fixed number of slots, each a
registered endpoint with the seconds its registration has left.

Read as leases (`remaining`), the table is what its name says. As long as no two valid
slots are for the same endpoint and no valid slot has run out (`FdtWf`), an accepted
registration grants a lease, a deletion releases one, the maintenance timer lets time
elapse, and nothing else happens to anybody's registration.
-/

namespace Bacnet

open Bacnet.Lib

variable {n : Nat}

/-- The time-to-live and a grace period of 30 seconds, as far as 16 bits hold it. -/
def leaseSeconds (ttlSeconds : UInt16) : UInt16 :=
  if ttlSeconds < 65535 - 30 then ttlSeconds + 30 else 65535

/-- A valid entry for the address. -/
def ForeignDeviceTableEntry.isFor (addr : BacnetIpAddress) (entry : ForeignDeviceTableEntry) :
    Bool :=
  entry.valid && ! bvlcAddressDifferent entry.destAddress addr

/-- `none` when the source returns false: there is no slot for the address. -/
def bvlcForeignDeviceTableEntryAdd (fdt : Table n ForeignDeviceTableEntry)
    (addr : BacnetIpAddress) (ttlSeconds : UInt16) : Option (Table n ForeignDeviceTableEntry) :=
  match fdt.find? (ForeignDeviceTableEntry.isFor addr) with
  -- am I here already?
  | some i =>
    some (fdt.set i { fdt.get i with
      ttlSeconds := ttlSeconds
      ttlSecondsRemaining := leaseSeconds ttlSeconds })
  | none =>
    match fdt.find? (! ·.valid) with
    | some i => some (fdt.set i ⟨true, addr, ttlSeconds, leaseSeconds ttlSeconds⟩)
    | none => none

/-- `none` when the source returns false: no entry was found. -/
def bvlcForeignDeviceTableEntryDelete (fdt : Table n ForeignDeviceTableEntry)
    (addr : BacnetIpAddress) : Option (Table n ForeignDeviceTableEntry) :=
  match fdt.find? (ForeignDeviceTableEntry.isFor addr) with
  | some i => some (fdt.set i { fdt.get i with valid := false, ttlSecondsRemaining := 0 })
  | none => none

/-- One entry in the loop of the maintenance timer. -/
def ForeignDeviceTableEntry.maintain (seconds : UInt16) (entry : ForeignDeviceTableEntry) :
    ForeignDeviceTableEntry :=
  if entry.valid ∧ entry.ttlSecondsRemaining ≠ 0 then
    let remaining :=
      if entry.ttlSecondsRemaining < seconds then 0 else entry.ttlSecondsRemaining - seconds
    { entry with
      ttlSecondsRemaining := remaining
      valid := if remaining = 0 then false else entry.valid }
  else entry

def bvlcForeignDeviceTableMaintenanceTimer (fdt : Table n ForeignDeviceTableEntry)
    (seconds : UInt16) : Table n ForeignDeviceTableEntry :=
  fdt.map (·.maintain seconds)

/-! ### The table as leases -/

/-- What is left of the registration of an endpoint. -/
def remaining (fdt : Table n ForeignDeviceTableEntry) : Leases BacnetIpAddress := fun addr =>
  match fdt.find? (ForeignDeviceTableEntry.isFor addr) with
  | some i => (fdt.get i).ttlSecondsRemaining.toNat
  | none => 0

structure FdtWf (fdt : Table n ForeignDeviceTableEntry) : Prop where
  distinct : ∀ i j, (fdt.get i).valid = true → (fdt.get j).valid = true →
    (fdt.get i).destAddress = (fdt.get j).destAddress → i = j
  live : ∀ i, (fdt.get i).valid = true → (fdt.get i).ttlSecondsRemaining ≠ 0

@[simp] theorem bvlcAddressDifferent_eq_false {a b : BacnetIpAddress} :
    bvlcAddressDifferent a b = false ↔ a = b := by
  obtain ⟨address, port⟩ := a
  obtain ⟨address', port'⟩ := b
  simp [bvlcAddressDifferent]

@[simp] theorem isFor_eq_true {addr : BacnetIpAddress} {entry : ForeignDeviceTableEntry} :
    entry.isFor addr = true ↔ entry.valid = true ∧ entry.destAddress = addr := by
  simp [ForeignDeviceTableEntry.isFor]

variable {fdt fdt' : Table n ForeignDeviceTableEntry} {addr : BacnetIpAddress}

/-- An address that is registered is found where its entry is. -/
theorem FdtWf.find?_eq (h : FdtWf fdt) {i : Fin n} (hvalid : (fdt.get i).valid = true) :
    fdt.find? (ForeignDeviceTableEntry.isFor (fdt.get i).destAddress) = some i := by
  have hfor : (fdt.get i).isFor (fdt.get i).destAddress = true := isFor_eq_true.mpr ⟨hvalid, rfl⟩
  obtain ⟨j, hj⟩ := Table.exists_find? hfor
  obtain ⟨hjv, hja⟩ := isFor_eq_true.mp (Table.find?_sat hj)
  rwa [h.distinct j i hjv hvalid hja] at hj

/-- **Reading the table.** Time is left for an endpoint exactly when a valid entry for it
says so. -/
theorem FdtWf.remaining_iff (h : FdtWf fdt) {r : Nat} (hr : 0 < r) :
    remaining fdt addr = r ↔
      ∃ i, (fdt.get i).valid = true ∧ (fdt.get i).destAddress = addr ∧
        (fdt.get i).ttlSecondsRemaining.toNat = r := by
  constructor
  · intro hrem
    unfold remaining at hrem
    split at hrem
    · rename_i i hi
      obtain ⟨hvalid, haddr⟩ := isFor_eq_true.mp (Table.find?_sat hi)
      exact ⟨i, hvalid, haddr, hrem⟩
    · exact absurd hrem.symm (Nat.ne_of_gt hr)
  · intro hentry
    obtain ⟨i, hvalid, haddr, hrem⟩ := hentry
    have hfind := h.find?_eq hvalid
    rw [haddr] at hfind
    simp only [remaining, hfind, hrem]

theorem FdtWf.remaining_pos_iff (h : FdtWf fdt) :
    0 < remaining fdt addr ↔
      ∃ i, (fdt.get i).valid = true ∧ (fdt.get i).destAddress = addr := by
  constructor
  · intro hpos
    obtain ⟨i, hvalid, haddr, -⟩ := (h.remaining_iff hpos).mp rfl
    exact ⟨i, hvalid, haddr⟩
  · intro hentry
    obtain ⟨i, hvalid, haddr⟩ := hentry
    have hne := h.live i hvalid
    have hpos : 0 < (fdt.get i).ttlSecondsRemaining.toNat :=
      Nat.pos_of_ne_zero fun h0 => hne (UInt16.toNat_inj.mp h0)
    rwa [(h.remaining_iff hpos).mpr ⟨i, hvalid, haddr, rfl⟩]

/-- Tables with the same readings are the same leases. -/
theorem eq_of_pos_iff {x y : Nat} (h : ∀ r, 0 < r → (x = r ↔ y = r)) : x = y := by
  by_cases hx : x = 0
  · by_cases hy : y = 0
    · rw [hx, hy]
    · exact absurd ((h y (Nat.pos_of_ne_zero hy)).mpr rfl) (fun hxy => hy (hxy ▸ hx))
  · exact ((h x (Nat.pos_of_ne_zero hx)).mp rfl).symm

@[simp] theorem toNat_leaseSeconds (ttlSeconds : UInt16) :
    (leaseSeconds ttlSeconds).toNat = min (ttlSeconds.toNat + 30) 65535 := by
  have hlt := ttlSeconds.toNat_lt
  unfold leaseSeconds
  split
  · rename_i h
    have hle : ttlSeconds.toNat < 65505 := UInt16.lt_iff_toNat_lt.mp h
    rw [UInt16.toNat_add]
    simp only [UInt16.reduceToNat]
    omega
  · rename_i h
    have hle : ¬ ttlSeconds.toNat < 65505 := fun hlt => h (UInt16.lt_iff_toNat_lt.mpr hlt)
    simp only [UInt16.reduceToNat]
    omega

theorem leaseSeconds_ne_zero (ttlSeconds : UInt16) : leaseSeconds ttlSeconds ≠ 0 := by
  intro h
  have hnat := toNat_leaseSeconds ttlSeconds
  rw [h] at hnat
  simp only [UInt16.reduceToNat] at hnat
  omega

/-! ### Registration -/

/-- An accepted registration writes one slot: that of the address if it has one, a free
one otherwise. -/
theorem FdtWf.add_inv (h : FdtWf fdt) {ttlSeconds : UInt16}
    (hadd : bvlcForeignDeviceTableEntryAdd fdt addr ttlSeconds = some fdt') :
    ∃ i, ((fdt.get i).valid = true → (fdt.get i).destAddress = addr) ∧
      (∀ j, j ≠ i → (fdt.get j).valid = true → (fdt.get j).destAddress ≠ addr) ∧
      fdt' = fdt.set i ⟨true, addr, ttlSeconds, leaseSeconds ttlSeconds⟩ := by
  unfold bvlcForeignDeviceTableEntryAdd at hadd
  split at hadd
  · rename_i i hi
    obtain ⟨hvalid, haddr⟩ := isFor_eq_true.mp (Table.find?_sat hi)
    simp only [hvalid, haddr, Option.some.injEq] at hadd
    refine ⟨i, fun _ => haddr, fun j hj hjv hja => ?_, hadd.symm⟩
    exact hj (h.distinct j i hjv hvalid (hja.trans haddr.symm))
  · rename_i hnone
    have hother : ∀ j, (fdt.get j).valid = true → (fdt.get j).destAddress ≠ addr := by
      intro j hjv hja
      have hj := Table.find?_eq_none.mp hnone j
      rw [isFor_eq_true.mpr ⟨hjv, hja⟩] at hj
      cases hj
    split at hadd
    · rename_i i hi
      have hfree : (fdt.get i).valid = false := by simpa using Table.find?_sat hi
      refine ⟨i, fun hvalid => ?_, fun j _ => hother j, (Option.some.inj hadd).symm⟩
      rw [hfree] at hvalid
      cases hvalid
    · cases hadd

theorem FdtWf.add (h : FdtWf fdt) {ttlSeconds : UInt16}
    (hadd : bvlcForeignDeviceTableEntryAdd fdt addr ttlSeconds = some fdt') : FdtWf fdt' := by
  obtain ⟨i, -, hother, rfl⟩ := h.add_inv hadd
  constructor
  · intro j k hj hk heq
    rw [Table.get_set] at hj hk heq
    rw [Table.get_set] at heq
    by_cases hij : i = j
    · by_cases hik : i = k
      · exact hij.symm.trans hik
      · rw [if_pos hij, if_neg hik] at heq
        rw [if_neg hik] at hk
        exact absurd heq.symm (hother k (Ne.symm hik) hk)
    · rw [if_neg hij] at hj heq
      by_cases hik : i = k
      · rw [if_pos hik] at heq
        exact absurd heq (hother j (Ne.symm hij) hj)
      · rw [if_neg hik] at hk heq
        exact h.distinct j k hj hk heq
  · intro j hj
    rw [Table.get_set] at hj ⊢
    split
    · exact leaseSeconds_ne_zero ttlSeconds
    · rename_i hij
      rw [if_neg hij] at hj
      exact h.live j hj

/-- **A registration is a grant.** -/
theorem FdtWf.remaining_add (h : FdtWf fdt) {ttlSeconds : UInt16}
    (hadd : bvlcForeignDeviceTableEntryAdd fdt addr ttlSeconds = some fdt') :
    remaining fdt' =
      (remaining fdt).apply (.grant addr (min (ttlSeconds.toNat + 30) 65535)) := by
  have h' := h.add hadd
  obtain ⟨i, hslot, hother, rfl⟩ := h.add_inv hadd
  funext b
  refine eq_of_pos_iff fun r hr => ?_
  rw [h'.remaining_iff hr]
  by_cases hb : b = addr
  · rw [hb, Leases.apply_grant_self]
    constructor
    · intro hentry
      obtain ⟨j, hjv, hja, hjr⟩ := hentry
      rw [Table.get_set] at hjv hja hjr
      by_cases hij : i = j
      · rw [if_pos hij, toNat_leaseSeconds] at hjr
        exact hjr
      · rw [if_neg hij] at hjv hja
        exact absurd hja (hother j (Ne.symm hij) hjv)
    · intro hterm
      refine ⟨i, ?_⟩
      rw [Table.get_set_self]
      exact ⟨rfl, rfl, (toNat_leaseSeconds ttlSeconds).trans hterm⟩
  · rw [Leases.apply_grant_of_ne _ hb, h.remaining_iff hr]
    refine exists_congr fun j => ?_
    rw [Table.get_set]
    by_cases hij : i = j
    · rw [if_pos hij]
      constructor
      · intro hentry
        exact absurd hentry.2.1.symm hb
      · intro hentry
        exact absurd ((hij ▸ hentry.2.1).symm.trans (hslot (hij ▸ hentry.1))) hb
    · rw [if_neg hij]

/-- **A refused registration.** There is no room exactly when the endpoint is not
registered and as many others are as the table has slots. -/
theorem FdtWf.add_eq_none_iff (h : FdtWf fdt) {ttlSeconds : UInt16} :
    bvlcForeignDeviceTableEntryAdd fdt addr ttlSeconds = none ↔
      remaining fdt addr = 0 ∧
        ∃ others : Finset BacnetIpAddress, others.card = n ∧ ∀ b ∈ others, 0 < remaining fdt b := by
  constructor
  · intro hnone
    unfold bvlcForeignDeviceTableEntryAdd at hnone
    split at hnone
    · cases hnone
    · rename_i hunknown
      split at hnone
      · cases hnone
      · rename_i hfull
        have hvalid : ∀ i, (fdt.get i).valid = true := by
          intro i
          simpa using Table.find?_eq_none.mp hfull i
        refine ⟨by simp only [remaining, hunknown],
          Finset.univ.image fun i => (fdt.get i).destAddress, ?_, fun b hb => ?_⟩
        · rw [Finset.card_image_of_injective _ fun i j => h.distinct i j (hvalid i) (hvalid j),
            Finset.card_univ, Fintype.card_fin]
        · obtain ⟨i, -, hi⟩ := Finset.mem_image.mp hb
          exact h.remaining_pos_iff.mpr ⟨i, hvalid i, hi⟩
  · intro hrefused
    obtain ⟨hunknown, others, hcard, hothers⟩ := hrefused
    -- the addresses of the others are those of all slots
    have hslots : others ⊆ (Finset.univ.filter fun i => (fdt.get i).valid = true).image
        fun i => (fdt.get i).destAddress := by
      intro b hb
      obtain ⟨i, hvalid, haddr⟩ := h.remaining_pos_iff.mp (hothers b hb)
      exact Finset.mem_image.mpr ⟨i, Finset.mem_filter.mpr ⟨Finset.mem_univ i, hvalid⟩, haddr⟩
    have hall : (Finset.univ.filter fun i => (fdt.get i).valid = true).card =
        (Finset.univ : Finset (Fin n)).card := by
      refine Nat.le_antisymm (Finset.card_filter_le _ _) ?_
      calc (Finset.univ : Finset (Fin n)).card
          = others.card := by rw [hcard, Finset.card_univ, Fintype.card_fin]
        _ ≤ _ := (Finset.card_le_card hslots).trans Finset.card_image_le
    have hvalid : ∀ i, (fdt.get i).valid = true := fun i =>
      Finset.card_filter_eq_iff.mp hall i (Finset.mem_univ i)
    have hnone : fdt.find? (ForeignDeviceTableEntry.isFor addr) = none := by
      refine Table.find?_eq_none.mpr fun i => Bool.eq_false_iff.mpr fun hfor => ?_
      have hpos := h.remaining_pos_iff.mpr ⟨i, isFor_eq_true.mp hfor⟩
      omega
    have hfull : fdt.find? (! ·.valid) = none := by
      refine Table.find?_eq_none.mpr fun i => ?_
      simp [hvalid i]
    simp only [bvlcForeignDeviceTableEntryAdd, hnone, hfull]

/-! ### Deletion -/

theorem FdtWf.delete_inv (h : FdtWf fdt)
    (hdel : bvlcForeignDeviceTableEntryDelete fdt addr = some fdt') :
    ∃ i, (fdt.get i).valid = true ∧ (fdt.get i).destAddress = addr ∧
      (∀ j, j ≠ i → (fdt.get j).valid = true → (fdt.get j).destAddress ≠ addr) ∧
      fdt' = fdt.set i { fdt.get i with valid := false, ttlSecondsRemaining := 0 } := by
  unfold bvlcForeignDeviceTableEntryDelete at hdel
  split at hdel
  · rename_i i hi
    obtain ⟨hvalid, haddr⟩ := isFor_eq_true.mp (Table.find?_sat hi)
    refine ⟨i, hvalid, haddr, fun j hj hjv hja => ?_, (Option.some.inj hdel).symm⟩
    exact hj (h.distinct j i hjv hvalid (hja.trans haddr.symm))
  · cases hdel

/-- A table with fewer of the entries. -/
theorem FdtWf.shrink (h : FdtWf fdt)
    (hget : ∀ j, (fdt'.get j).valid = true → (fdt.get j).valid = true ∧
      (fdt'.get j).destAddress = (fdt.get j).destAddress ∧
      (fdt'.get j).ttlSecondsRemaining ≠ 0) : FdtWf fdt' where
  distinct i j hi hj heq := by
    obtain ⟨hiv, hia, -⟩ := hget i hi
    obtain ⟨hjv, hja, -⟩ := hget j hj
    exact h.distinct i j hiv hjv (hia.symm.trans (heq.trans hja))
  live i hi := (hget i hi).2.2

theorem FdtWf.delete (h : FdtWf fdt)
    (hdel : bvlcForeignDeviceTableEntryDelete fdt addr = some fdt') : FdtWf fdt' := by
  obtain ⟨i, -, -, -, rfl⟩ := h.delete_inv hdel
  refine h.shrink fun j hj => ?_
  rw [Table.get_set] at hj ⊢
  by_cases hij : i = j
  · rw [if_pos hij] at hj
    cases hj
  · rw [if_neg hij] at hj ⊢
    exact ⟨hj, rfl, h.live j hj⟩

/-- **A deletion is a release.** -/
theorem FdtWf.remaining_delete (h : FdtWf fdt)
    (hdel : bvlcForeignDeviceTableEntryDelete fdt addr = some fdt') :
    remaining fdt' = (remaining fdt).apply (.release addr) := by
  have h' := h.delete hdel
  obtain ⟨i, -, haddr, hother, rfl⟩ := h.delete_inv hdel
  funext b
  refine eq_of_pos_iff fun r hr => ?_
  rw [h'.remaining_iff hr]
  by_cases hb : b = addr
  · rw [hb, Leases.apply_release_self]
    refine iff_of_false (fun hentry => ?_) (Nat.ne_of_lt hr)
    obtain ⟨j, hjv, hja, -⟩ := hentry
    rw [Table.get_set] at hjv hja
    by_cases hij : i = j
    · rw [if_pos hij] at hjv
      cases hjv
    · rw [if_neg hij] at hjv hja
      exact hother j (Ne.symm hij) hjv hja
  · rw [Leases.apply_release_of_ne _ hb, h.remaining_iff hr]
    refine exists_congr fun j => ?_
    rw [Table.get_set]
    by_cases hij : i = j
    · rw [if_pos hij, ← hij]
      refine iff_of_false (fun hentry => Bool.false_ne_true hentry.1) (fun hentry => ?_)
      exact hb (hentry.2.1.symm.trans haddr)
    · rw [if_neg hij]

theorem FdtWf.delete_eq_none_iff (h : FdtWf fdt) :
    bvlcForeignDeviceTableEntryDelete fdt addr = none ↔ remaining fdt addr = 0 := by
  unfold bvlcForeignDeviceTableEntryDelete
  cases hf : fdt.find? (ForeignDeviceTableEntry.isFor addr) with
  | none => simp [remaining, hf]
  | some i =>
      have hpos := h.remaining_pos_iff.mpr ⟨i, isFor_eq_true.mp (Table.find?_sat hf)⟩
      refine iff_of_false (Option.some_ne_none _) (Nat.ne_of_gt hpos)

/-! ### The timer -/

/-- What a call of the timer makes of a slot that has not run out. -/
theorem maintain_spec (seconds : UInt16) {entry : ForeignDeviceTableEntry}
    (hlive : entry.valid = true → entry.ttlSecondsRemaining ≠ 0) :
    (entry.maintain seconds).destAddress = entry.destAddress ∧
      ((entry.maintain seconds).valid = true ↔
        entry.valid = true ∧ seconds.toNat < entry.ttlSecondsRemaining.toNat) ∧
      (seconds.toNat < entry.ttlSecondsRemaining.toNat → entry.valid = true →
        (entry.maintain seconds).ttlSecondsRemaining.toNat =
          entry.ttlSecondsRemaining.toNat - seconds.toNat) := by
  unfold ForeignDeviceTableEntry.maintain
  by_cases hvalid : entry.valid = true
  · rw [if_pos ⟨hvalid, hlive hvalid⟩]
    by_cases hlt : entry.ttlSecondsRemaining < seconds
    · have hnat := UInt16.lt_iff_toNat_lt.mp hlt
      simp only [hlt, if_true, Bool.false_eq_true, false_iff, not_and, true_and]
      exact ⟨fun _ => by omega, fun h => by omega⟩
    · have hnat : seconds.toNat ≤ entry.ttlSecondsRemaining.toNat :=
        Nat.le_of_not_lt fun h => hlt (UInt16.lt_iff_toNat_lt.mpr h)
      have hsub : (entry.ttlSecondsRemaining - seconds).toNat =
          entry.ttlSecondsRemaining.toNat - seconds.toNat :=
        UInt16.toNat_sub_of_le _ _ (UInt16.le_iff_toNat_le.mpr hnat)
      have hzero : entry.ttlSecondsRemaining - seconds = 0 ↔
          ¬ seconds.toNat < entry.ttlSecondsRemaining.toNat := by
        rw [← UInt16.toNat_inj, hsub]
        simp only [UInt16.reduceToNat]
        omega
      simp only [hlt, if_false, hzero, hvalid, true_and, hsub]
      by_cases hleft : seconds.toNat < entry.ttlSecondsRemaining.toNat
      · simp [hleft]
      · simp [hleft]
  · rw [if_neg fun h => hvalid h.1]
    exact ⟨rfl, iff_of_false hvalid fun h => hvalid h.1, fun _ h => absurd h hvalid⟩

theorem FdtWf.maintenanceTimer (h : FdtWf fdt) (seconds : UInt16) :
    FdtWf (bvlcForeignDeviceTableMaintenanceTimer fdt seconds) := by
  refine h.shrink fun j hj => ?_
  rw [bvlcForeignDeviceTableMaintenanceTimer, Table.get_map] at hj ⊢
  obtain ⟨hdest, hvalid, hrem⟩ := maintain_spec seconds (h.live j)
  obtain ⟨hjv, hlt⟩ := hvalid.mp hj
  refine ⟨hjv, hdest, fun h0 => ?_⟩
  have hleft := hrem hlt hjv
  rw [h0] at hleft
  simp only [UInt16.reduceToNat] at hleft
  omega

/-- **The timer lets time elapse**, for every registration alike. -/
theorem FdtWf.remaining_maintenanceTimer (h : FdtWf fdt) (seconds : UInt16) :
    remaining (bvlcForeignDeviceTableMaintenanceTimer fdt seconds) =
      (remaining fdt).apply (.elapse seconds.toNat) := by
  have h' := h.maintenanceTimer seconds
  funext b
  refine eq_of_pos_iff fun r hr => ?_
  have hback : remaining fdt b - seconds.toNat = r ↔ remaining fdt b = r + seconds.toNat := by
    omega
  rw [h'.remaining_iff hr, Leases.apply_elapse, hback, h.remaining_iff (by omega)]
  refine exists_congr fun j => ?_
  obtain ⟨hdest, hvalid, hrem⟩ := maintain_spec seconds (h.live j)
  rw [bvlcForeignDeviceTableMaintenanceTimer, Table.get_map, hdest, hvalid]
  constructor
  · intro hentry
    obtain ⟨⟨hjv, hlt⟩, hja, hjr⟩ := hentry
    rw [hrem hlt hjv] at hjr
    exact ⟨hjv, hja, by omega⟩
  · intro hentry
    obtain ⟨hjv, hja, hjr⟩ := hentry
    have hlt : seconds.toNat < (fdt.get j).ttlSecondsRemaining.toNat := by omega
    rw [hrem hlt hjv]
    exact ⟨⟨hjv, hlt⟩, hja, by omega⟩

end Bacnet
