import Bacnet.Bvlc
import Bacnet.NetworkMessage
import Bacnet.Lib.Table

/-!
# Bacnet.Bvll

The messages of the BACnet virtual link layer (`bvlc.c`): the codes in their headers, the
encoders, and the decoders of what stands behind the header. An encoder is given the size
of the buffer it writes to and yields no octets where the source encodes 0 bytes.

The entries of both tables take ten octets. A message with a list of them is written to a
table slot by slot, and the slots it has no entry for become invalid (`decodeEntries`).
-/

namespace Bacnet

open Bacnet.Lib

/-- `BACNET_BVLC_FUNCTION`. -/
inductive BvlcFunction
  | result
  | writeBroadcastDistributionTable
  | readBroadcastDistTable
  | readBroadcastDistTableAck
  | forwardedNpdu
  | registerForeignDevice
  | readForeignDeviceTable
  | readForeignDeviceTableAck
  | deleteForeignDeviceTableEntry
  | distributeBroadcastToNetwork
  | originalUnicastNpdu
  | originalBroadcastNpdu
  | secureBvll
  deriving DecidableEq

namespace BvlcFunction

def code : BvlcFunction → UInt8
  | result => 0
  | writeBroadcastDistributionTable => 1
  | readBroadcastDistTable => 2
  | readBroadcastDistTableAck => 3
  | forwardedNpdu => 4
  | registerForeignDevice => 5
  | readForeignDeviceTable => 6
  | readForeignDeviceTableAck => 7
  | deleteForeignDeviceTableEntry => 8
  | distributeBroadcastToNetwork => 9
  | originalUnicastNpdu => 10
  | originalBroadcastNpdu => 11
  | secureBvll => 12

/-- The function a message type octet stands for. -/
def ofCode? (messageType : UInt8) : Option BvlcFunction :=
  match messageType.toNat with
  | 0 => some result
  | 1 => some writeBroadcastDistributionTable
  | 2 => some readBroadcastDistTable
  | 3 => some readBroadcastDistTableAck
  | 4 => some forwardedNpdu
  | 5 => some registerForeignDevice
  | 6 => some readForeignDeviceTable
  | 7 => some readForeignDeviceTableAck
  | 8 => some deleteForeignDeviceTableEntry
  | 9 => some distributeBroadcastToNetwork
  | 10 => some originalUnicastNpdu
  | 11 => some originalBroadcastNpdu
  | 12 => some secureBvll
  | _ => none

@[simp] theorem ofCode?_code (f : BvlcFunction) : ofCode? f.code = some f := by
  cases f <;> rfl

end BvlcFunction

/-- `BACNET_BVLC_RESULT`. -/
inductive BvlcResultCode
  | successfulCompletion
  | writeBroadcastDistributionTableNak
  | readBroadcastDistributionTableNak
  | registerForeignDeviceNak
  | readForeignDeviceTableNak
  | deleteForeignDeviceTableEntryNak
  | distributeBroadcastToNetworkNak
  deriving DecidableEq

def BvlcResultCode.value : BvlcResultCode → UInt16
  | successfulCompletion => 0x0000
  | writeBroadcastDistributionTableNak => 0x0010
  | readBroadcastDistributionTableNak => 0x0020
  | registerForeignDeviceNak => 0x0030
  | readForeignDeviceTableNak => 0x0040
  | deleteForeignDeviceTableEntryNak => 0x0050
  | distributeBroadcastToNetworkNak => 0x0060

theorem BvlcResultCode.toNat_value (c : BvlcResultCode) : c.value.toNat = 16 * c.ctorIdx := by
  cases c
  all_goals rfl

theorem BvlcResultCode.value_inj {c c' : BvlcResultCode} (h : c.value = c'.value) : c = c' := by
  have hindex : c.ctorIdx = c'.ctorIdx := by
    have hc := c.toNat_value
    rw [h, c'.toNat_value] at hc
    omega
  rw [← c.ofNat_ctorIdx, hindex, c'.ofNat_ctorIdx]

/-- `BACNET_IP_BROADCAST_DISTRIBUTION_TABLE_ENTRY`. -/
structure BroadcastDistributionTableEntry where
  valid : Bool
  destAddress : BacnetIpAddress
  broadcastMask : Vector UInt8 4
  deriving DecidableEq

/-- `BACNET_IP_FOREIGN_DEVICE_TABLE_ENTRY`. -/
structure ForeignDeviceTableEntry where
  valid : Bool
  destAddress : BacnetIpAddress
  ttlSeconds : UInt16
  ttlSecondsRemaining : UInt16
  deriving DecidableEq

/-- The entry with `valid` reset. -/
def BroadcastDistributionTableEntry.invalidate (entry : BroadcastDistributionTableEntry) :
    BroadcastDistributionTableEntry :=
  { entry with valid := false }

/-- The entry with `valid` reset. -/
def ForeignDeviceTableEntry.invalidate (entry : ForeignDeviceTableEntry) :
    ForeignDeviceTableEntry :=
  { entry with valid := false }

/-! ### Encoders -/

def bvlcEncodeHeader (messageType : BvlcFunction) (length : UInt16) : List UInt8 :=
  0x81 :: messageType.code :: encodeUnsigned16 length

def bvlcEncodeAddress (ip : BacnetIpAddress) : List UInt8 :=
  ip.address.toList ++ encodeUnsigned16 ip.port

def bvlcEncodeResult (pduSize : Nat) (resultCode : UInt16) : List UInt8 :=
  if pduSize ≥ 6 then bvlcEncodeHeader .result 6 ++ encodeUnsigned16 resultCode else []

def bvlcEncodeBroadcastDistributionTableEntry (entry : BroadcastDistributionTableEntry) :
    List UInt8 :=
  bvlcEncodeAddress entry.destAddress ++ entry.broadcastMask.toList

def bvlcEncodeForeignDeviceTableEntry (entry : ForeignDeviceTableEntry) : List UInt8 :=
  bvlcEncodeAddress entry.destAddress ++
    (encodeUnsigned16 entry.ttlSeconds ++ encodeUnsigned16 entry.ttlSecondsRemaining)

/-- A header and the valid entries of a table. -/
def encodeEntries {ε : Type} (messageType : BvlcFunction) (valid : ε → Bool)
    (encode : ε → List UInt8) (pduSize : Nat) (entries : List ε) : List UInt8 :=
  let length := UInt16.ofNat (4 + entries.countP valid * 10)
  if pduSize ≥ length.toNat then
    bvlcEncodeHeader messageType length ++ (entries.filter valid).flatMap encode
  else []

def bvlcEncodeWriteBroadcastDistributionTable {n : Nat} (pduSize : Nat)
    (bdt : Table n BroadcastDistributionTableEntry) : List UInt8 :=
  encodeEntries .writeBroadcastDistributionTable (·.valid)
    bvlcEncodeBroadcastDistributionTableEntry pduSize bdt.cells

def bvlcEncodeReadBroadcastDistributionTableAck {n : Nat} (pduSize : Nat)
    (bdt : Table n BroadcastDistributionTableEntry) : List UInt8 :=
  encodeEntries .readBroadcastDistTableAck (·.valid)
    bvlcEncodeBroadcastDistributionTableEntry pduSize bdt.cells

def bvlcEncodeReadForeignDeviceTableAck {n : Nat} (pduSize : Nat)
    (fdt : Table n ForeignDeviceTableEntry) : List UInt8 :=
  encodeEntries .readForeignDeviceTableAck (·.valid)
    bvlcEncodeForeignDeviceTableEntry pduSize fdt.cells

def bvlcEncodeReadBroadcastDistributionTable (pduSize : Nat) : List UInt8 :=
  if pduSize ≥ 4 then bvlcEncodeHeader .readBroadcastDistTable 4 else []

def bvlcEncodeReadForeignDeviceTable (pduSize : Nat) : List UInt8 :=
  if pduSize ≥ 4 then bvlcEncodeHeader .readForeignDeviceTable 4 else []

/-- The `uint16_t` of the length cannot wrap: NPDUs lie in buffers of `MAX_MPDU` octets or fewer,
so they are shorter than 65526. -/
def bvlcEncodeForwardedNpdu (pduSize : Nat) (ip : BacnetIpAddress) (npdu : List UInt8) :
    List UInt8 :=
  if pduSize ≥ 10 + npdu.length then
    bvlcEncodeHeader .forwardedNpdu (UInt16.ofNat (10 + npdu.length)) ++
      (bvlcEncodeAddress ip ++ npdu)
  else []

def bvlcEncodeRegisterForeignDevice (pduSize : Nat) (ttlSeconds : UInt16) : List UInt8 :=
  if pduSize ≥ 6 then bvlcEncodeHeader .registerForeignDevice 6 ++ encodeUnsigned16 ttlSeconds
  else []

def bvlcEncodeDeleteForeignDevice (pduSize : Nat) (ip : BacnetIpAddress) : List UInt8 :=
  if pduSize ≥ 10 then
    bvlcEncodeHeader .deleteForeignDeviceTableEntry 10 ++ bvlcEncodeAddress ip
  else []

/-- A header and an NPDU. As with Forwarded-NPDUs, 4 more than the length of an NPDU in its
buffer is an `uint16_t`. -/
def encodeNpdu (messageType : BvlcFunction) (pduSize : Nat) (npdu : List UInt8) : List UInt8 :=
  if pduSize ≥ 4 + npdu.length then
    bvlcEncodeHeader messageType (UInt16.ofNat (4 + npdu.length)) ++ npdu
  else []

def bvlcEncodeDistributeBroadcastToNetwork (pduSize : Nat) (npdu : List UInt8) : List UInt8 :=
  encodeNpdu .distributeBroadcastToNetwork pduSize npdu

def bvlcEncodeOriginalUnicast (pduSize : Nat) (npdu : List UInt8) : List UInt8 :=
  encodeNpdu .originalUnicastNpdu pduSize npdu

def bvlcEncodeOriginalBroadcast (pduSize : Nat) (npdu : List UInt8) : List UInt8 :=
  encodeNpdu .originalBroadcastNpdu pduSize npdu

/-! ### Decoders, behind the header -/

def bvlcDecodeBroadcastDistributionTableEntry (pdu : Mem) : BroadcastDistributionTableEntry where
  valid := true
  destAddress := bvlcDecodeAddress pdu
  broadcastMask := #v[pdu 6, pdu 7, pdu 8, pdu 9]

def bvlcDecodeForeignDeviceTableEntry (pdu : Mem) : ForeignDeviceTableEntry where
  valid := true
  destAddress := bvlcDecodeAddress pdu
  ttlSeconds := UInt16.ofNat (decodeUnsigned16 (pdu.shift 6))
  ttlSecondsRemaining := UInt16.ofNat (decodeUnsigned16 (pdu.shift 8))

section Entries

variable {ε : Type} (decode : Mem → ε) (invalidate : ε → ε) (pdu : Mem) (pduLen : Nat)

/-- The loop over the slots of a table: the new slots and the offset reached. -/
def decodeEntries : Nat → List ε → List ε × Nat
  | offset, [] => ([], offset)
  | offset, entry :: entries =>
    if pduLen - offset ≥ 10 then
      let rest := decodeEntries (offset + 10) entries
      (decode (pdu.shift offset) :: rest.1, rest.2)
    else
      let rest := decodeEntries offset entries
      (invalidate entry :: rest.1, rest.2)

@[simp] theorem length_decodeEntries (offset : Nat) (entries : List ε) :
    (decodeEntries decode invalidate pdu pduLen offset entries).1.length = entries.length := by
  induction entries generalizing offset with
  | nil => rfl
  | cons entry entries ih =>
      rw [decodeEntries]
      split
      · simp [ih]
      · simp [ih]

/-- The bytes consumed and the table. -/
def decodeTable {n : Nat} (t : Table n ε) : Nat × Table n ε :=
  ((decodeEntries decode invalidate pdu pduLen 0 t.cells).2,
    ⟨(decodeEntries decode invalidate pdu pduLen 0 t.cells).1, by
      rw [length_decodeEntries, t.size]⟩)

end Entries

/-- The table is left alone when the entries do not fit. -/
def bvlcDecodeWriteBroadcastDistributionTable {n : Nat} (pdu : Mem) (pduLen : Nat)
    (bdt : Table n BroadcastDistributionTableEntry) :
    Nat × Table n BroadcastDistributionTableEntry :=
  if pduLen ≤ n * 10 then
    decodeTable bvlcDecodeBroadcastDistributionTableEntry (·.invalidate) pdu pduLen bdt
  else (0, bdt)

def bvlcDecodeReadBroadcastDistributionTableAck {n : Nat} (pdu : Mem) (pduLen : Nat)
    (bdt : Table n BroadcastDistributionTableEntry) :
    Nat × Table n BroadcastDistributionTableEntry :=
  if pduLen ≥ 10 then
    decodeTable bvlcDecodeBroadcastDistributionTableEntry (·.invalidate) pdu pduLen bdt
  else (0, bdt)

def bvlcDecodeReadForeignDeviceTableAck {n : Nat} (pdu : Mem) (pduLen : Nat)
    (fdt : Table n ForeignDeviceTableEntry) : Nat × Table n ForeignDeviceTableEntry :=
  if pduLen ≥ 10 then
    decodeTable bvlcDecodeForeignDeviceTableEntry (·.invalidate) pdu pduLen fdt
  else (0, fdt)

/-- `bvlc_decode_result` and `bvlc_decode_register_foreign_device`. -/
def decodeNumber (pdu : Mem) (pduLen : Nat) : Option UInt16 :=
  if pduLen ≥ 2 then some (UInt16.ofNat (decodeUnsigned16 pdu)) else none

def bvlcDecodeResult (pdu : Mem) (pduLen : Nat) : Option UInt16 := decodeNumber pdu pduLen

def bvlcDecodeRegisterForeignDevice (pdu : Mem) (pduLen : Nat) : Option UInt16 :=
  decodeNumber pdu pduLen

def bvlcDecodeDeleteForeignDevice (pdu : Mem) (pduLen : Nat) : Option BacnetIpAddress :=
  if pduLen ≥ 6 then some (bvlcDecodeAddress pdu) else none

/-- The address and the length of the NPDU behind it. -/
def bvlcDecodeForwardedNpdu (pdu : Mem) (pduLen : Nat) : Option (BacnetIpAddress × Nat) :=
  if pduLen ≥ 6 then some (bvlcDecodeAddress pdu, pduLen - 6) else none

/-! ### What is encoded is decoded -/

@[simp] theorem length_bvlcEncodeHeader (f : BvlcFunction) (length : UInt16) :
    (bvlcEncodeHeader f length).length = 4 := by
  simp [bvlcEncodeHeader, encodeUnsigned16]

@[simp] theorem length_encodeUnsigned16 (value : UInt16) : (encodeUnsigned16 value).length = 2 :=
  rfl

@[simp] theorem length_bvlcEncodeAddress (ip : BacnetIpAddress) :
    (bvlcEncodeAddress ip).length = 6 := by
  simp [bvlcEncodeAddress]

@[simp] theorem length_bvlcEncodeBroadcastDistributionTableEntry
    (entry : BroadcastDistributionTableEntry) :
    (bvlcEncodeBroadcastDistributionTableEntry entry).length = 10 := by
  simp [bvlcEncodeBroadcastDistributionTableEntry]

@[simp] theorem length_bvlcEncodeForeignDeviceTableEntry (entry : ForeignDeviceTableEntry) :
    (bvlcEncodeForeignDeviceTableEntry entry).length = 10 := by
  simp [bvlcEncodeForeignDeviceTableEntry]

/-- What a header shows the receiver. -/
theorem bvlcHeader_of_holds {m : Mem} {f : BvlcFunction} {length : UInt16} {rest : List UInt8}
    (h : m.Holds (bvlcEncodeHeader f length ++ rest)) :
    m 0 = 0x81 ∧ BvlcFunction.ofCode? (m 1) = some f ∧ (m.shift 4).Holds rest := by
  have hrest := h.right
  rw [length_bvlcEncodeHeader] at hrest
  have hlen : 4 ≤ (bvlcEncodeHeader f length ++ rest).length := by
    rw [List.length_append, length_bvlcEncodeHeader]
    exact Nat.le_add_right 4 rest.length
  have h0 : m 0 = 0x81 := h 0 (by omega)
  have h1 : m 1 = f.code := h 1 (by omega)
  exact ⟨h0, by rw [h1, BvlcFunction.ofCode?_code], hrest⟩

/-- The two octets of a number, read back. -/
theorem decodeUnsigned16_of_holds {m : Mem} {value : UInt16}
    (h : m.Holds (encodeUnsigned16 value)) : UInt16.ofNat (decodeUnsigned16 m) = value := by
  have hbe := h.be_eq
  rw [length_encodeUnsigned16, ofBe_encodeUnsigned16] at hbe
  rw [decodeUnsigned16, hbe, UInt16.ofNat_toNat]

/-- Four octets, read back one by one. -/
theorem octets_of_holds {m : Mem} {v : Vector UInt8 4} (h : m.Holds v.toList) :
    #v[m 0, m 1, m 2, m 3] = v := by
  have hget : ∀ i (hi : i < 4), m i = v[i] := by
    intro i hi
    rw [h i (by simpa using hi)]
    simp
  apply Vector.ext
  intro i hi
  rw [← hget i hi]
  match i, hi with
  | 0, _ => rfl
  | 1, _ => rfl
  | 2, _ => rfl
  | 3, _ => rfl

theorem bvlcDecodeAddress_of_holds {m : Mem} {ip : BacnetIpAddress}
    (h : m.Holds (bvlcEncodeAddress ip)) : bvlcDecodeAddress m = ip := by
  rw [bvlcDecodeAddress, octets_of_holds h.left]
  have hport := h.right
  rw [Vector.length_toList] at hport
  rw [decodeUnsigned16_of_holds hport]

theorem bvlcDecodeBroadcastDistributionTableEntry_of_holds {m : Mem}
    {entry : BroadcastDistributionTableEntry} (hvalid : entry.valid = true)
    (h : m.Holds (bvlcEncodeBroadcastDistributionTableEntry entry)) :
    bvlcDecodeBroadcastDistributionTableEntry m = entry := by
  have hmask := h.right
  rw [length_bvlcEncodeAddress] at hmask
  have hoctets := octets_of_holds hmask
  simp only [Mem.shift_apply] at hoctets
  rw [bvlcDecodeBroadcastDistributionTableEntry, bvlcDecodeAddress_of_holds h.left, hoctets,
    ← hvalid]

theorem bvlcDecodeForeignDeviceTableEntry_of_holds {m : Mem} {entry : ForeignDeviceTableEntry}
    (hvalid : entry.valid = true) (h : m.Holds (bvlcEncodeForeignDeviceTableEntry entry)) :
    bvlcDecodeForeignDeviceTableEntry m = entry := by
  have htimes := h.right
  rw [length_bvlcEncodeAddress] at htimes
  have hremaining := htimes.right
  rw [length_encodeUnsigned16, Mem.shift_shift] at hremaining
  rw [bvlcDecodeForeignDeviceTableEntry, bvlcDecodeAddress_of_holds h.left,
    decodeUnsigned16_of_holds htimes.left, decodeUnsigned16_of_holds hremaining, ← hvalid]

section Entries

variable {ε : Type} {decode : Mem → ε} {invalidate : ε → ε} {encode : ε → List UInt8}

theorem length_flatMap_encode (hlen : ∀ x, (encode x).length = 10) (xs : List ε) :
    (xs.flatMap encode).length = xs.length * 10 := by
  induction xs with
  | nil => rfl
  | cons x xs ih =>
      rw [List.flatMap_cons, List.length_append, hlen, ih, List.length_cons]
      omega

/-- Slots that no octets are left for. -/
theorem decodeEntries_end (pdu : Mem) {pduLen offset : Nat} (hend : pduLen - offset < 10)
    (entries : List ε) :
    decodeEntries decode invalidate pdu pduLen offset entries =
      (entries.map invalidate, offset) := by
  induction entries with
  | nil => rfl
  | cons entry entries ih =>
      rw [decodeEntries, if_neg (by omega), ih]
      rfl

/-- **A list of entries is read back.** The entries fill the first slots, in order, and
the other slots are invalidated. -/
theorem decodeEntries_encoded (hlen : ∀ x, (encode x).length = 10) {xs entries : List ε}
    (hdecode : ∀ x ∈ xs, ∀ m : Mem, m.Holds (encode x) → decode m = x) {pdu : Mem}
    {offset : Nat} (hm : (pdu.shift offset).Holds (xs.flatMap encode))
    (hfit : xs.length ≤ entries.length) {pduLen : Nat}
    (hpdu : pduLen = offset + xs.length * 10) :
    decodeEntries decode invalidate pdu pduLen offset entries =
      (xs ++ (entries.drop xs.length).map invalidate, pduLen) := by
  induction xs generalizing entries offset with
  | nil =>
      rw [List.length_nil, Nat.zero_mul, Nat.add_zero] at hpdu
      rw [decodeEntries_end pdu (by omega), hpdu]
      rfl
  | cons x xs ih =>
      cases entries with
      | nil => simp at hfit
      | cons entry entries =>
          rw [List.length_cons] at hpdu
          rw [List.flatMap_cons] at hm
          have hrest := hm.right
          rw [hlen, Mem.shift_shift] at hrest
          rw [decodeEntries, if_pos (by omega),
            ih (fun y hy => hdecode y (List.mem_cons_of_mem x hy)) hrest
              (by simpa using hfit) (by omega),
            hdecode x List.mem_cons_self _ hm.left]
          rfl

/-- **A list of any octets**: as many slots are written as whole entries are left, or as
there are. -/
theorem decodeEntries_eq (pdu : Mem) (pduLen offset : Nat) (entries : List ε) :
    decodeEntries decode invalidate pdu pduLen offset entries =
      ((List.range (min entries.length ((pduLen - offset) / 10))).map
          (fun i => decode (pdu.shift (offset + i * 10))) ++
        (entries.drop (min entries.length ((pduLen - offset) / 10))).map invalidate,
        offset + min entries.length ((pduLen - offset) / 10) * 10) := by
  induction entries generalizing offset with
  | nil => simp [decodeEntries]
  | cons entry entries ih =>
      by_cases hroom : pduLen - offset ≥ 10
      · have hcount : min (entries.length + 1) ((pduLen - offset) / 10) =
            min entries.length ((pduLen - (offset + 10)) / 10) + 1 := by omega
        have hshift : ∀ i, offset + 10 + i * 10 = offset + (i + 1) * 10 := fun i => by omega
        rw [decodeEntries, if_pos hroom, ih, List.length_cons, hcount, List.range_succ_eq_map]
        simp only [List.map_cons, List.map_map, List.cons_append, List.drop_succ_cons, Nat.zero_mul,
          Nat.add_zero, hshift, Function.comp_def, Nat.succ_eq_add_one]
      · have hcount : min (entry :: entries).length ((pduLen - offset) / 10) = 0 := by omega
        rw [decodeEntries_end pdu (by omega), hcount]
        simp

/-- **A table is read back**: the entries of the message are the valid ones of the table
they are written to, whatever it held before. -/
theorem decodeTable_encoded {n : Nat} {valid : ε → Bool} (hlen : ∀ x, (encode x).length = 10)
    (hinvalidate : ∀ x, valid (invalidate x) = false) {xs : List ε}
    (hvalid : ∀ x ∈ xs, valid x = true)
    (hdecode : ∀ x ∈ xs, ∀ m : Mem, m.Holds (encode x) → decode m = x) {pdu : Mem}
    (hm : pdu.Holds (xs.flatMap encode)) (hfit : xs.length ≤ n) (t : Table n ε) :
    (decodeTable decode invalidate pdu (xs.length * 10) t).1 = xs.length * 10 ∧
      (decodeTable decode invalidate pdu (xs.length * 10) t).2.cells.filter valid = xs := by
  have hentries : decodeEntries decode invalidate pdu (xs.length * 10) 0 t.cells =
      (xs ++ (t.cells.drop xs.length).map invalidate, xs.length * 10) :=
    decodeEntries_encoded hlen hdecode (by rwa [Mem.shift_zero]) (by rwa [t.size]) (by omega)
  have hrest : ((t.cells.drop xs.length).map invalidate).filter valid = [] := by
    refine List.filter_eq_nil_iff.mpr fun x hx => ?_
    obtain ⟨y, -, rfl⟩ := List.mem_map.mp hx
    simp [hinvalidate y]
  simp only [decodeTable, hentries, List.filter_append, List.filter_eq_self.mpr hvalid, hrest,
    List.append_nil, and_self]

/-- A message with the valid entries of a table, when they fit. -/
theorem encodeEntries_eq {messageType : BvlcFunction} {valid : ε → Bool} {pduSize : Nat}
    {entries : List ε} (hfit : 4 + entries.countP valid * 10 ≤ pduSize) (hsize : pduSize < 65536) :
    encodeEntries messageType valid encode pduSize entries =
      bvlcEncodeHeader messageType (UInt16.ofNat (4 + entries.countP valid * 10)) ++
        (entries.filter valid).flatMap encode := by
  have hlength : (UInt16.ofNat (4 + entries.countP valid * 10)).toNat =
      4 + entries.countP valid * 10 := Nat.mod_eq_of_lt (by omega)
  simp only [encodeEntries, hlength]
  exact if_pos hfit

end Entries

end Bacnet
