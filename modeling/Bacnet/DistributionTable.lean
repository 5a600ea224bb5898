import Bacnet.ForeignDevices

/-!
# Bacnet.DistributionTable

The **broadcast distribution table** of a BBMD (`bvlc.c`): the other BBMDs, each with the
mask that tells how broadcasts get to its subnet. A Write-Broadcast-Distribution-Table
message replaces the table as a whole; what the table holds in the order of its slots
(`members`) is what the message listed.
-/

namespace Bacnet

open Bacnet.Lib

variable {n : Nat}

def bvlcBroadcastDistributionTableEntryDifferent (a b : BroadcastDistributionTableEntry) : Bool :=
  if bvlcAddressDifferent a.destAddress b.destAddress then true
  else decide (a.broadcastMask ≠ b.broadcastMask)

/-- `none` when the source returns false: every slot is taken by another entry. -/
def bvlcBroadcastDistributionTableEntryAppend (bdt : Table n BroadcastDistributionTableEntry)
    (bdtNew : BroadcastDistributionTableEntry) :
    Option (Table n BroadcastDistributionTableEntry) :=
  match bdt.find? fun entry =>
      ! (entry.valid && bvlcBroadcastDistributionTableEntryDifferent entry bdtNew) with
  | some i =>
    if (bdt.get i).valid then some bdt
    -- first empty slot! Assume the remaining are empty.
    else some (bdt.set i { bdtNew with valid := true })
  | none => none

def bvlcBroadcastDistributionTableValidClear (bdt : Table n BroadcastDistributionTableEntry) :
    Table n BroadcastDistributionTableEntry :=
  bdt.map (·.invalidate)

/-- `bvlc_address_mask`. -/
def bvlcAddressMask (src : BacnetIpAddress) (mask : Vector UInt8 4) : BacnetIpAddress :=
  ⟨Vector.ofFn fun i => src.address[i] ||| ~~~ mask[i], src.port⟩

/-- `bvlc_broadcast_distribution_table_entry_forward_address`. -/
def BroadcastDistributionTableEntry.forwardAddress (entry : BroadcastDistributionTableEntry) :
    BacnetIpAddress :=
  bvlcAddressMask entry.destAddress entry.broadcastMask

/-- The mask of an entry whose BBMD is sent to directly. -/
def unicastMask : Vector UInt8 4 := #v[0xFF, 0xFF, 0xFF, 0xFF]

/-! ### The members -/

/-- The entries in use, slot by slot. -/
def members (bdt : Table n BroadcastDistributionTableEntry) :
    List BroadcastDistributionTableEntry :=
  bdt.cells.filter (·.valid)

theorem valid_of_mem_members {bdt : Table n BroadcastDistributionTableEntry}
    {entry : BroadcastDistributionTableEntry} (h : entry ∈ members bdt) : entry.valid = true :=
  (List.mem_filter.mp h).2

theorem length_members_le (bdt : Table n BroadcastDistributionTableEntry) :
    (members bdt).length ≤ n :=
  (List.length_filter_le _ _).trans_eq bdt.size

section Write

variable {pdu : Mem} {pduLen : Nat} {xs : List BroadcastDistributionTableEntry}

/-- **A table that is written.** The entries of the message are the members afterwards,
whoever they were before. -/
theorem members_decodeWrite (hvalid : ∀ x ∈ xs, x.valid = true) (hfit : xs.length ≤ n)
    (hm : pdu.Holds (xs.flatMap bvlcEncodeBroadcastDistributionTableEntry))
    (bdt : Table n BroadcastDistributionTableEntry) :
    (bvlcDecodeWriteBroadcastDistributionTable pdu (xs.length * 10) bdt).1 = xs.length * 10 ∧
      members (bvlcDecodeWriteBroadcastDistributionTable pdu (xs.length * 10) bdt).2 = xs := by
  rw [bvlcDecodeWriteBroadcastDistributionTable, if_pos (by omega)]
  exact decodeTable_encoded length_bvlcEncodeBroadcastDistributionTableEntry (fun _ => rfl) hvalid
    (fun x hx m => bvlcDecodeBroadcastDistributionTableEntry_of_holds (hvalid x hx)) hm hfit bdt

/-- **Any message that is not too long** replaces the table by its whole entries. -/
theorem members_decodeWrite_eq (pdu : Mem) (h : pduLen ≤ n * 10)
    (bdt : Table n BroadcastDistributionTableEntry) :
    (bvlcDecodeWriteBroadcastDistributionTable pdu pduLen bdt).1 = pduLen / 10 * 10 ∧
      members (bvlcDecodeWriteBroadcastDistributionTable pdu pduLen bdt).2 =
        (List.range (pduLen / 10)).map fun i =>
          bvlcDecodeBroadcastDistributionTableEntry (pdu.shift (i * 10)) := by
  have hcount : min bdt.cells.length ((pduLen - 0) / 10) = pduLen / 10 := by
    rw [bdt.size]
    omega
  rw [bvlcDecodeWriteBroadcastDistributionTable, if_pos h]
  simp only [decodeTable, members, decodeEntries_eq, hcount, Nat.zero_add, List.filter_append,
    List.filter_map, true_and]
  simp [Function.comp_def, bvlcDecodeBroadcastDistributionTableEntry,
    BroadcastDistributionTableEntry.invalidate]

/-- **A message with too many entries** is not looked at. -/
theorem decodeWrite_long (pdu : Mem) (h : n * 10 < pduLen)
    (bdt : Table n BroadcastDistributionTableEntry) :
    bvlcDecodeWriteBroadcastDistributionTable pdu pduLen bdt = (0, bdt) := by
  rw [bvlcDecodeWriteBroadcastDistributionTable, if_neg (by omega)]

end Write

end Bacnet
