import Bacnet.Checked
import Bacnet.Misread
import Bacnet.NegativeReplies

/-!
# Bacnet.Completion

The reply handlers with every access checked, in the receive loop. They are called from C,
where a panic ends the process: while the lock is not poisoned they run to their end, on
whatever a host sends.

The loop over the bits of a bit string is the one that does not keep to its bounds.
`bitstring_set_bits_used` subtracts the unused bits from a count that can be 0, so a bit
string without octets is given up to 255 bits, and `bitstring_bit` is asked for bits it has
no room for.
-/

namespace Bacnet

open Bacnet.Lib

variable {env : Env}

namespace Checked

/-! ### The handlers -/

/-- `rp_ack_decode_service_request`, and `decode_data` on what it decodes. -/
def decodeReply (apdu : Mem) (apduLen : Nat) : Option (Result BACnetValue) :=
  match rpAckDecodeServiceRequest apdu apduLen with
  | some data => decodeData data
  | none => some (.error .failedToDecodeData)

/-- What the four reply handlers share. -/
def withMatchingDevice (order : List DeviceId) (s : Stack) (src : BacnetAddress)
    (invokeId : UInt8) (f : TargetDevice → Option TargetDevice) : Option Stack :=
  if s.poisoned then none
  else
    match findMatchingDevice order s.targets src invokeId with
    | none => some s
    | some d =>
      match s.targets.lookup d with
      | none => some s
      | some t => (f t).map (s.setTarget d)

def myReadpropAckHandler (order : List DeviceId) (s : Stack) (serviceRequest : Mem)
    (serviceLen : Nat) (src : BacnetAddress) (invokeId : UInt8) : Option Stack :=
  withMatchingDevice order s src invokeId fun t => do
    let decoded ← decodeReply serviceRequest serviceLen
    return { t with value := some decoded, request := some (invokeId, .done) }

def myErrorHandler (order : List DeviceId) (s : Stack) (src : BacnetAddress) (invokeId : UInt8)
    (errorClass errorCode : UInt32) : Option Stack :=
  withMatchingDevice order s src invokeId fun t => do
    let errorClassStr ← (bactextErrorClassName errorClass).bind cstr
    let errorCodeStr ← (bactextErrorCodeName errorCode).bind cstr
    return storeError (.error errorClassStr errorClass errorCodeStr errorCode) invokeId t

def myAbortHandler (order : List DeviceId) (s : Stack) (src : BacnetAddress) (invokeId : UInt8)
    (abortReason : UInt8) : Option Stack :=
  withMatchingDevice order s src invokeId fun t => do
    let abortText ← (bactextAbortReasonName abortReason.toUInt32).bind cstr
    return storeError (.aborted abortText abortReason) invokeId t

def myRejectHandler (order : List DeviceId) (s : Stack) (src : BacnetAddress) (invokeId : UInt8)
    (rejectReason : UInt8) : Option Stack :=
  withMatchingDevice order s src invokeId fun t =>
    some (storeError (.rejected rejectReason) invokeId t)

/-- `apdu_handler`. The I-Am handlers are those of the unchecked model. -/
def apduHandler (order : List DeviceId) (s : Stack) (src : BacnetAddress) (apdu : Mem)
    (apduLen : Nat) : Option Stack :=
  match decodeApdu apdu apduLen with
  | .complexAck invokeId serviceChoice serviceRequest serviceLen =>
    (if serviceChoice = serviceConfirmedReadProperty ∧ s.handlers.readPropertyAck then
      myReadpropAckHandler order s serviceRequest serviceLen src invokeId
    else some s).map (·.freeInvokeId invokeId)
  | .error invokeId serviceChoice errorClass errorCode =>
    (if serviceChoice = serviceConfirmedReadProperty ∧ s.handlers.readPropertyError then
      myErrorHandler order s src invokeId errorClass errorCode
    else some s).map (·.freeInvokeId invokeId)
  | .reject invokeId reason =>
    (if s.handlers.reject then myRejectHandler order s src invokeId reason
    else some s).map (·.freeInvokeId invokeId)
  | .abort invokeId reason =>
    (if s.handlers.abort then myAbortHandler order s src invokeId reason
    else some s).map (·.freeInvokeId invokeId)
  | _ => Bacnet.apduHandler order s src apdu apduLen

/-- `npdu_handler`. -/
def npduHandler (order : List DeviceId) (s : Stack) (src : BacnetAddress) (pdu : Mem)
    (pduLen : Nat) : Option (Stack × BacnetAddress) :=
  match npduRoute src pdu pduLen with
  | (src, none) => some (s, src)
  | (src, some (apdu, apduLen)) => (apduHandler order s src apdu apduLen).map fun s => (s, src)

/-- One `bip_receive` and, when there is an NPDU, one `npdu_handler`. -/
def receiveStep (env : Env) (s : Stack) (rx : RxState) (arrival : Arrival) :
    Option (Stack × RxState) :=
  let (pduLen, rx) :=
    bipReceive env.bip s.socketOpen arrival.datagram (rx.inMemory arrival.beyond)
  if pduLen > 0 then
    (npduHandler arrival.order s rx.src rx.rxBuf pduLen).map fun r => (r.1, { rx with src := r.2 })
  else some (s, rx)

/-! ### They do what the unchecked ones do -/

theorem decodeReply_eq (apdu : Mem) (apduLen : Nat) :
    decodeReply apdu apduLen = some (Bacnet.decodeReply apdu apduLen) := by
  unfold decodeReply Bacnet.decodeReply
  cases rpAckDecodeServiceRequest apdu apduLen with
  | none => rfl
  | some data => exact decodeData_eq data

theorem withMatchingDevice_eq {f : TargetDevice → Option TargetDevice}
    {g : TargetDevice → TargetDevice} (h : ∀ t, f t = some (g t)) (order : List DeviceId)
    (s : Stack) (src : BacnetAddress) (invokeId : UInt8) :
    withMatchingDevice order s src invokeId f =
      Bacnet.withMatchingDevice order s src invokeId g := by
  obtain rfl : f = fun t => some (g t) := funext h
  rfl

theorem myReadpropAckHandler_eq (order : List DeviceId) (s : Stack) (serviceRequest : Mem)
    (serviceLen : Nat) (src : BacnetAddress) (invokeId : UInt8) :
    myReadpropAckHandler order s serviceRequest serviceLen src invokeId =
      Bacnet.myReadpropAckHandler order s serviceRequest serviceLen src invokeId := by
  refine withMatchingDevice_eq (fun t => ?_) order s src invokeId
  rw [decodeReply_eq]
  rfl

theorem myErrorHandler_eq (order : List DeviceId) (s : Stack) (src : BacnetAddress)
    (invokeId : UInt8) (errorClass errorCode : UInt32) :
    myErrorHandler order s src invokeId errorClass errorCode =
      Bacnet.myErrorHandler order s src invokeId errorClass errorCode := by
  refine withMatchingDevice_eq (fun t => ?_) order s src invokeId
  rw [named_errorClass.cstr, named_errorCode.cstr]
  rfl

theorem myAbortHandler_eq (order : List DeviceId) (s : Stack) (src : BacnetAddress)
    (invokeId abortReason : UInt8) :
    myAbortHandler order s src invokeId abortReason =
      Bacnet.myAbortHandler order s src invokeId abortReason := by
  refine withMatchingDevice_eq (fun t => ?_) order s src invokeId
  rw [named_abortReason.cstr]
  rfl

theorem myRejectHandler_eq (order : List DeviceId) (s : Stack) (src : BacnetAddress)
    (invokeId rejectReason : UInt8) :
    myRejectHandler order s src invokeId rejectReason =
      Bacnet.myRejectHandler order s src invokeId rejectReason :=
  withMatchingDevice_eq (fun _ => rfl) order s src invokeId

theorem apduHandler_eq (order : List DeviceId) (s : Stack) (src : BacnetAddress) (apdu : Mem)
    (apduLen : Nat) :
    apduHandler order s src apdu apduLen = Bacnet.apduHandler order s src apdu apduLen := by
  unfold apduHandler
  cases ha : decodeApdu apdu apduLen with
  | complexAck id service request len =>
      simp only [Bacnet.apduHandler, ha, myReadpropAckHandler_eq]
  | error id service cls code => simp only [Bacnet.apduHandler, ha, myErrorHandler_eq]
  | reject id reason => simp only [Bacnet.apduHandler, ha, myRejectHandler_eq]
  | abort id reason => simp only [Bacnet.apduHandler, ha, myAbortHandler_eq]
  | ignored => rfl
  | iAm request => rfl
  | simpleAck id => rfl
  | segmentAck => rfl

theorem npduHandler_eq (order : List DeviceId) (s : Stack) (src : BacnetAddress) (pdu : Mem)
    (pduLen : Nat) :
    npduHandler order s src pdu pduLen = Bacnet.npduHandler order s src pdu pduLen := by
  obtain ⟨src', apdu, hroute⟩ : ∃ src' apdu, npduRoute src pdu pduLen = (src', apdu) :=
    ⟨_, _, rfl⟩
  cases apdu with
  | none => simp only [npduHandler, Bacnet.npduHandler, hroute]
  | some p => simp only [npduHandler, Bacnet.npduHandler, hroute, apduHandler_eq]

/-- The model's step is the one with every access checked. -/
theorem receiveStep_eq (env : Env) (s : Stack) (rx : RxState) (arrival : Arrival) :
    receiveStep env s rx arrival = Bacnet.receiveStep env s rx arrival := by
  unfold receiveStep Bacnet.receiveStep
  simp only [npduHandler_eq]

/-- The names that `decode_data` and the handlers look up. -/
def lookups : List (UInt32 → Option CharPtr) :=
  [bactextApplicationTagName, bactextEngineeringUnitName, bactextObjectTypeName,
    bactextBinaryPresentValueName, bactextErrorClassName, bactextErrorCodeName,
    bactextAbortReasonName]

theorem Named.ne_null {lookup : UInt32 → Option CharPtr} {name : UInt32 → String}
    (h : Named lookup name) (index : UInt32) :
    ∃ octets, lookup index = some (some octets) ∧ 0 ∈ octets :=
  ⟨utf8Octets (name index).toList ++ [0], h.lookup index, by simp⟩

theorem lookups_ne_null :
    ∀ lookup ∈ lookups, ∀ index, ∃ octets, lookup index = some (some octets) ∧ 0 ∈ octets := by
  simp only [lookups, List.forall_mem_cons]
  exact ⟨named_applicationTag.ne_null, named_engineeringUnit.ne_null, named_objectType.ne_null,
    named_binaryPresentValue.ne_null, named_errorClass.ne_null, named_errorCode.ne_null,
    named_abortReason.ne_null, List.forall_mem_nil _⟩

end Checked

/-! ### The bits of a bit string -/

/-- A bit string without an octet of bits that names unused ones. -/
def UnusedOnly (payload : List UInt8) : Prop :=
  ∃ t unused rest, TagOctets false t 8 1 ∧ payload = t ++ unused :: rest ∧ unused &&& 0x07 ≠ 0

/-- The bit string that `decode_data` returns the bits of. -/
def Checked.bitStringOf (data : ReadPropertyData) : Option BitString := do
  let (len, v) ← bacappDecodeApplicationData data.applicationData data.applicationDataLen .default
  if len ≠ bacnetStatusError ∧ v.value.tag = 8 then some v.value.bitString else none

/-- The count that `bitstring_set_bits_used` stores wraps for a string without octets only. -/
theorem bitsUsed_le_iff {n : Nat} (hn : n ≤ maxBitstringBytes) (unused : UInt8) :
    (UInt8.ofNat n * 8 - (unused &&& 0x07)).toNat ≤ maxBitstringBytes * 8 ↔
      ¬ (n = 0 ∧ unused &&& 0x07 ≠ 0) := by
  have hmax : maxBitstringBytes = 15 := rfl
  have hlow := lowerBits unused
  have hzero : unused &&& 0x07 = 0 ↔ unused.toNat % 8 = 0 := by
    rw [← UInt8.toNat_inj, hlow]
    rfl
  have h8 : (8 : UInt8).toNat = 8 := rfl
  rw [UInt8.toNat_sub, UInt8.toNat_mul, hlow, UInt8.toNat_ofNat', h8, ne_eq, hzero]
  omega

/-- The loop keeps to the bits that `bitstring_bit` has room for when the count does. -/
theorem bitNumbers_lt_iff (bitString : BitString) :
    (∀ bit ∈ Checked.bitNumbers bitString, bit.toNat < maxBitstringBytes * 8) ↔
      bitString.bitsUsed.toNat ≤ maxBitstringBytes * 8 := by
  have hused := bitString.bitsUsed.toNat_lt
  have htoNat : ∀ i < bitString.bitsUsed.toNat, (UInt8.ofNat i).toNat = i := fun i hi =>
    UInt8.toNat_ofNat_of_lt' (Nat.lt_trans hi hused)
  constructor
  · intro hall
    by_contra hgt
    have hmem : UInt8.ofNat (maxBitstringBytes * 8) ∈ Checked.bitNumbers bitString :=
      List.mem_map.mpr ⟨_, List.mem_range.mpr (Nat.lt_of_not_le hgt), rfl⟩
    have hlt := hall _ hmem
    rw [htoNat _ (Nat.lt_of_not_le hgt)] at hlt
    exact Nat.lt_irrefl _ hlt
  · intro hle bit hbit
    obtain ⟨i, hi, rfl⟩ := List.mem_map.mp hbit
    have hi := List.mem_range.mp hi
    rw [htoNat i hi]
    omega

/-- A value that is decoded as a bit string starts with the tag of one. -/
theorem startsWith_of_tag {data : ReadPropertyData}
    (h : (bacappDecodeApplicationData data.applicationData data.applicationDataLen .default).2.tag
      = 8) :
    ∃ len length, StartsWith data len 8 length := by
  unfold bacappDecodeApplicationData at h
  cases hclass : isContextSpecific (data.applicationData 0) with
  | true =>
      rw [if_pos hclass] at h
      cases h
  | false =>
      rw [if_neg (by simp [hclass])] at h
      cases hdecode : bacnetTagNumberAndValueDecode data.applicationData
          data.applicationDataLen with
      | none =>
          rw [hdecode] at h
          cases h
      | some decoded =>
          obtain ⟨len, number, length⟩ := decoded
          have h16 : maxBacnetApplicationTag ≠ 8 := by decide
          have htag : number = 8 := by
            rw [hdecode] at h
            simp only at h
            split at h
            · have hkept := bacappDecodeData_tag (data.applicationData.shift len) number length
                { ApplicationDataValue.default with tag := number }
              split at h
              · split at h
                · exact (hkept.resolve_right fun h' => h16 (h'.symm.trans h)).symm.trans h
                · exact (hkept.resolve_right fun h' => h16 (h'.symm.trans h)).symm.trans h
              · exact h
            · exact h
          exact ⟨len, length, hclass, htag ▸ hdecode⟩

/-- The bits that are returned are those of the string that is read. -/
theorem bitStringOf_eq_some {data : ReadPropertyData} {b : BitString}
    (h : Checked.bitStringOf data = some b) :
    (∃ len length, StartsWith data len 8 length) ∧
      ∃ bits, decodeData data = .ok (.bitString bits) ∧ bits.length = b.bitsUsed.toNat := by
  obtain ⟨n, v, hdecode, -, hlen, herase⟩ :=
    Checked.bacappDecodeApplicationData_spec data.applicationData data.applicationDataLen
  rw [Checked.bitStringOf, hdecode, Option.bind_eq_bind, Option.bind_some] at h
  simp only at h
  split at h
  · rename_i hread
    obtain rfl := Option.some.inj h
    have htag : v.erase.tag = 8 := hread.2
    refine ⟨startsWith_of_tag (by rw [herase hread.1, htag]), ?_⟩
    rw [decodeData_eq, hlen, if_neg hread.1, herase hread.1, readValue, htag]
    exact ⟨_, rfl, by rw [List.length_map, List.length_range]; rfl⟩
  · cases h

theorem bitStringOf_of_decodeData {data : ReadPropertyData} {bits : List Bool}
    (h : decodeData data = .ok (.bitString bits)) :
    ∃ b, Checked.bitStringOf data = some b ∧ b.bitsUsed.toNat = bits.length := by
  obtain ⟨n, v, hdecode, -, hlen, herase⟩ :=
    Checked.bacappDecodeApplicationData_spec data.applicationData data.applicationDataLen
  rw [decodeData_eq, hlen] at h
  by_cases hn : n = bacnetStatusError
  · rw [if_pos hn] at h
    cases h
  · rw [if_neg hn, herase hn, readValue] at h
    have htag : v.value.tag.toNat = 8 ∧ bits.length = v.value.bitString.bitsUsed.toNat := by
      have herased : v.erase.tag = v.value.tag := rfl
      rw [herased] at h
      split at h
      case h_8 h8 =>
        cases h
        exact ⟨h8, by rw [List.length_map, List.length_range]; rfl⟩
      all_goals cases h
    have h8 : v.value.tag = 8 := UInt8.toNat_inj.mp htag.1
    refine ⟨v.value.bitString, ?_, htag.2.symm⟩
    rw [Checked.bitStringOf, hdecode, Option.bind_eq_bind, Option.bind_some]
    exact if_pos ⟨hn, h8⟩

theorem decodeBitstring_bitsUsed (m : Mem) {k : Nat} (hk : k ≤ maxBitstringBytes) :
    (decodeBitstring m (k + 1)).2.bitsUsed = UInt8.ofNat k * 8 - (m 0 &&& 0x07) := by
  rw [decodeBitstring, if_pos (Nat.succ_ne_zero k), Nat.add_sub_cancel, if_pos hk]

/-- The number of bits that are returned behind a tag. -/
theorem length_of_bitString {data : ReadPropertyData} {m : Mem} {k : Nat} {bits : List Bool}
    (hk : k ≤ maxBitstringBytes)
    (h : readValue data { tagStored 8 with bitString := (decodeBitstring m (k + 1)).2 } =
      .ok (.bitString bits)) :
    bits.length = (UInt8.ofNat k * 8 - (m 0 &&& 0x07)).toNat := by
  rw [← decodeBitstring_bitsUsed m hk]
  cases h
  rw [List.length_map, List.length_range]

/-- A payload that is decoded as a bit string, octet by octet. -/
theorem bitStringOf_inv {data : ReadPropertyData} {b : BitString}
    (h : Checked.bitStringOf data = some b) :
    ∃ t unused o rest, TagOctets false t 8 (o.length + 1) ∧
      data.payload = t ++ unused :: (o ++ rest) ∧ o.length ≤ maxBitstringBytes ∧
      b.bitsUsed = UInt8.ofNat o.length * 8 - (unused &&& 0x07) := by
  obtain ⟨⟨len, length, hstart⟩, bits, hbits, hcount⟩ := bitStringOf_eq_some h
  have hread := (decodeData_bitString hstart).symm.trans hbits
  split at hread
  · rename_i hlength
    rcases bacnetTagNumberAndValueDecode_inv hstart.application hstart.decoded with
      ⟨t, ht, hholds, rfl, hle⟩ | ⟨-, hzero, -⟩ | ⟨h15, -⟩
    · obtain ⟨k, rfl⟩ := Nat.exists_eq_succ_of_ne_zero (show length ≠ 0 by omega)
      obtain ⟨rest, hsplit⟩ := payload_split hholds hle hlength.2
      rw [Nat.succ_eq_add_one, Mem.slice_cons] at hsplit
      have hk : (((data.behind t.length).shift 1).slice k).length = k := Mem.length_slice _ _
      have hfits : k ≤ maxBitstringBytes := by omega
      refine ⟨t, _, _, rest, by rw [hk]; exact ht, hsplit, by rw [hk]; exact hfits, ?_⟩
      rw [hk, ← UInt8.toNat_inj, ← hcount]
      exact length_of_bitString hfits hread
    · have hzero : length = 0 := hzero
      omega
    · cases h15
  · cases hread

/-- `decode_data` asks for bits that there is room for, for exactly the payloads that are
not without bits. -/
theorem bitNumbers_accepted_iff (data : ReadPropertyData) :
    (∀ b, Checked.bitStringOf data = some b →
      ∀ bit ∈ Checked.bitNumbers b, bit.toNat < maxBitstringBytes * 8) ↔
      ¬ UnusedOnly data.payload := by
  simp only [bitNumbers_lt_iff]
  constructor
  · rintro hall ⟨t, unused, rest, ht, hpayload, hunused⟩
    obtain ⟨hstart, hholds, hleft⟩ := startsWith_of_octets ht hpayload
    have hroom : (1 ≤ 1 ∧ 1 ≤ maxBitstringBytes + 1) ∧ 1 ≤ data.left t.length := by
      rw [hleft, List.length_cons]
      omega
    obtain ⟨bits, hbits⟩ : ∃ bits, readValue data { tagStored 8 with
        bitString := (decodeBitstring (data.behind t.length) (0 + 1)).2 } =
          .ok (.bitString bits) := ⟨_, rfl⟩
    obtain ⟨b, hb, hcount⟩ := bitStringOf_of_decodeData
      ((decodeData_bitString hstart).trans ((if_pos hroom).trans hbits))
    have hle := hall b hb
    rw [hcount, length_of_bitString (Nat.zero_le _) hbits, (Mem.holds_cons.mp hholds).1,
      bitsUsed_le_iff (Nat.zero_le _)] at hle
    exact hle ⟨rfl, hunused⟩
  · intro hnot b hb
    obtain ⟨t, unused, o, rest, ht, hpayload, hfits, hcount⟩ := bitStringOf_inv hb
    rw [hcount, bitsUsed_le_iff hfits]
    rintro ⟨hzero, hunused⟩
    obtain rfl := List.length_eq_zero_iff.mp hzero
    exact hnot ⟨t, unused, rest, ht, hpayload, hunused⟩

/-! ### They run to their end -/

/-- The value of an acknowledgement, when it is passed to `decode_data`. -/
def Checked.decodedBy (env : Env) (s : Stack) (rx : RxState) (arrival : Arrival) :
    Option ReadPropertyData :=
  match delivered env s.socketOpen rx arrival with
  | some (src, .complexAck invokeId serviceChoice serviceRequest serviceLen) =>
    if serviceChoice = serviceConfirmedReadProperty ∧ s.handlers.readPropertyAck = true ∧
        (findMatchingDevice arrival.order s.targets src invokeId).isSome = true then
      rpAckDecodeServiceRequest serviceRequest serviceLen
    else none
  | _ => none

/-- What is asked of the handlers of replies and of `decode_data`, for one datagram. -/
structure RunsToEnd (env : Env) (s : Stack) (rx : RxState) (arrival : Arrival) : Prop where
  /-- The handler of a reply runs to its end. -/
  reply : ∀ src a, delivered env s.socketOpen rx arrival = some (src, a) →
    a.releases ≠ none → ∃ r, Checked.receiveStep env s rx arrival = some r
  decodes : ∀ data, ∃ r, Checked.decodeData data = some r
  /-- The device that an acknowledgement is for is left what is decoded. -/
  stored : ∀ data, Checked.decodedBy env s rx arrival = some data →
    ∃ s' rx' d t, Checked.receiveStep env s rx arrival = some (s', rx') ∧
      s'.targets.lookup d = some t ∧ t.value = Checked.decodeData data
  /-- The text that is decoded lies in its buffer, with a NUL behind it. -/
  text : ∀ apdu apduLen, ∃ n v,
    Checked.bacappDecodeApplicationData apdu apduLen .default = some (n, v) ∧
      ∃ h : v.characterString.length < maxCharacterStringBytes,
        v.characterString.value[v.characterString.length] = 0
  /-- The loop over the bits keeps to those that `bitstring_bit` has room for. -/
  bits : ∀ data, Checked.decodedBy env s rx arrival = some data →
    ∀ b, Checked.bitStringOf data = some b →
      ∀ bit ∈ Checked.bitNumbers b, bit.toNat < maxBitstringBytes * 8
  /-- A name is a text, whatever the number. -/
  names : ∀ lookup ∈ Checked.lookups, ∀ index,
    ∃ octets, lookup index = some (some octets) ∧ 0 ∈ octets

/-- A message that is delivered is passed to `apdu_handler`. -/
theorem receiveStep_of_delivered {stack : Stack} {rx : RxState} {arrival : Arrival}
    {src : BacnetAddress} {a : Apdu} (h : delivered env stack.socketOpen rx arrival = some (src, a)) :
    ∃ apdu apduLen rx', decodeApdu apdu apduLen = a ∧
      receiveStep env stack rx arrival =
        (apduHandler arrival.order stack src apdu apduLen).map fun s => (s, rx') := by
  unfold delivered at h
  unfold receiveStep npduHandler
  cases hb : bipReceive env.bip stack.socketOpen arrival.datagram (rx.inMemory arrival.beyond) with
  | mk pduLen rx₁ =>
  simp only [hb] at h ⊢
  split at h
  · rename_i hpos
    rw [if_pos hpos]
    split at h
    · rename_i src' apdu apduLen hroute
      cases h
      rw [hroute]
      simp only [Option.map_map]
      exact ⟨apdu, apduLen, { rx₁ with src := _ }, rfl, rfl⟩
    · cases h
  · cases h

/-- The matching device is left the value of an acknowledgement. -/
theorem stored_of_decodedBy {stack : Stack} (hp : stack.poisoned = false) {rx : RxState}
    {arrival : Arrival} {data : ReadPropertyData}
    (h : Checked.decodedBy env stack rx arrival = some data) :
    ∃ s' rx' d t, Checked.receiveStep env stack rx arrival = some (s', rx') ∧
      s'.targets.lookup d = some t ∧ t.value = Checked.decodeData data := by
  unfold Checked.decodedBy at h
  split at h
  · rename_i src invokeId service request len hdel
    split at h
    · rename_i hread
      obtain ⟨hservice, hhandler, hmatch⟩ := hread
      obtain ⟨d, hd⟩ := Option.isSome_iff_exists.mp hmatch
      obtain ⟨t, ht, -⟩ := findMatchingDevice_eq_some hd
      rw [Checked.receiveStep_eq, Checked.decodeData_eq]
      have hreply : decodeReply request len = decodeData data := by rw [decodeReply, h]
      obtain ⟨apdu, apduLen, rx', hapdu, hrecv⟩ := receiveStep_of_delivered hdel
      have hack : myReadpropAckHandler arrival.order stack request len src invokeId =
          some (stack.setTarget d (storeAck request len invokeId t)) := by
        simp only [myReadpropAckHandler, withMatchingDevice, hp, hd, ht, Bool.false_eq_true,
          if_false]
      have hhandled : apduHandler arrival.order stack src apdu apduLen =
          some ((stack.setTarget d (storeAck request len invokeId t)).freeInvokeId invokeId) := by
        simp only [apduHandler, hapdu, hservice, hhandler, hack, and_self, if_true,
          Option.map_some]
      rw [hhandled, Option.map_some] at hrecv
      refine ⟨_, rx', d, storeAck request len invokeId t, hrecv, ?_, congrArg some hreply⟩
      exact AList.lookup_insert _
    · cases h
  · cases h

/-- While the lock is not poisoned the handlers of replies run to their end, and within their
bounds for exactly the datagrams that carry no bit string without bits. -/
theorem runsToEnd_iff {stack : Stack} (hp : stack.poisoned = false) (rx : RxState)
    (arrival : Arrival) :
    RunsToEnd env stack rx arrival ↔
      ∀ data, Checked.decodedBy env stack rx arrival = some data → ¬ UnusedOnly data.payload := by
  constructor
  · intro h data hdata
    exact (bitNumbers_accepted_iff data).mp (h.bits data hdata)
  · intro hnot
    exact
      { reply := fun src a hdel hreply => by
          rw [Checked.receiveStep_eq]
          cases h : receiveStep env stack rx arrival with
          | some r => exact ⟨r, rfl⟩
          | none =>
              rcases receiveStep_eq_none h with hpoisoned | ⟨-, hno⟩
              · rw [hp] at hpoisoned
                cases hpoisoned
              · exact absurd (hno src a hdel) hreply
        decodes := fun data => ⟨_, Checked.decodeData_eq data⟩
        stored := fun data hdata => stored_of_decodedBy hp hdata
        text := fun apdu apduLen => by
          obtain ⟨n, v, hdecode, hterm, -, -⟩ :=
            Checked.bacappDecodeApplicationData_spec apdu apduLen
          have hcap : characterStringCapacity < maxCharacterStringBytes := by decide
          exact ⟨n, v, hdecode, Nat.lt_of_le_of_lt hterm.fits hcap,
            hterm.zeros _ _ (Nat.le_refl _)⟩
        bits := fun data hdata => (bitNumbers_accepted_iff data).mpr (hnot data hdata)
        names := Checked.lookups_ne_null }

/-- An acknowledgement of the present value of analog input 0, with the octets of the value. -/
def ackOf (payload : List UInt8) : List UInt8 :=
  [0x30, 1, 12, 0x0c, 0, 0, 0, 0, 0x19, 85, 0x3e] ++ payload ++ [0x3f]

/-- While the read is going on, `decode_data` is run on the value of its acknowledgement. -/
theorem decodedBy_ackOf (payload : List UInt8) (bitsUsed : UInt8)
    (h : ((client lan).run .init readSent).any (fun r => !r.1.stack.poisoned &&
      (Checked.decodedBy lan r.1.stack .fresh (plainReply (ackOf payload))).any fun data =>
        decide (data.payload = payload) &&
          (Checked.bitStringOf data).any fun b => decide (b.bitsUsed = bitsUsed)) = true) :
    ∃ s os data b, (client lan).run .init readSent = some (s, os) ∧ s.stack.poisoned = false ∧
      Checked.decodedBy lan s.stack .fresh (plainReply (ackOf payload)) = some data ∧
      data.payload = payload ∧ Checked.bitStringOf data = some b ∧ b.bitsUsed = bitsUsed := by
  obtain ⟨s, os, hrun, htest⟩ := Machine.exists_run h
  rw [Bool.and_eq_true, Bool.not_eq_true'] at htest
  obtain ⟨data, hdata, hvalue⟩ := (Option.any_eq_true _ _).mp htest.2
  rw [Bool.and_eq_true, decide_eq_true_iff] at hvalue
  obtain ⟨b, hb, hused⟩ := (Option.any_eq_true _ _).mp hvalue.2
  exact ⟨s, os, data, b, hrun, htest.1, hdata, hvalue.1, hb, of_decide_eq_true hused⟩

/-- The acknowledgement with a bit string of four bits. -/
theorem runsToEnd_fourBits :
    ∃ s os data b, (client lan).run .init readSent = some (s, os) ∧ s.stack.poisoned = false ∧
      Checked.decodedBy lan s.stack .fresh (plainReply (ackOf [0x82, 0x04, 0xa0])) = some data ∧
      Checked.bitStringOf data = some b ∧ b.bitsUsed = 4 ∧
      RunsToEnd lan s.stack .fresh (plainReply (ackOf [0x82, 0x04, 0xa0])) := by
  obtain ⟨s, os, data, b, hrun, hp, hdata, hpayload, hb, hused⟩ :=
    decodedBy_ackOf [0x82, 0x04, 0xa0] 4 (by decide +kernel)
  refine ⟨s, os, data, b, hrun, hp, hdata, hb, hused,
    (runsToEnd_iff hp .fresh _).mpr fun data' hdata' => ?_⟩
  obtain rfl := Option.some.inj (hdata.symm.trans hdata')
  rintro ⟨t, unused, rest, ht, hsplit, -⟩
  have htag : TagOctets false (encodeTag 8 false 2) 8 2 := encodeTag_octets 8 false (by decide)
  have hboth : encodeTag 8 false 2 ++ [0x04, 0xa0] = t ++ unused :: rest :=
    hpayload.symm.trans hsplit
  obtain ⟨-, -, -, hlength⟩ := htag.unique ht hboth
  cases hlength

/-- A bit string without octets that names seven unused bits is read as one of 249 bits. -/
theorem emptyBits_overrun :
    ∃ s os data b, (client lan).run .init readSent = some (s, os) ∧ s.stack.poisoned = false ∧
      Checked.decodedBy lan s.stack .fresh (plainReply (ackOf [0x81, 0x07])) = some data ∧
      Checked.bitStringOf data = some b ∧ b.bitsUsed = 249 ∧
      ¬ RunsToEnd lan s.stack .fresh (plainReply (ackOf [0x81, 0x07])) := by
  obtain ⟨s, os, data, b, hrun, hp, hdata, -, hb, hused⟩ :=
    decodedBy_ackOf [0x81, 0x07] 249 (by decide +kernel)
  refine ⟨s, os, data, b, hrun, hp, hdata, hb, hused, fun h => ?_⟩
  have hle := (bitNumbers_lt_iff b).mp (h.bits data hdata b hb)
  rw [hused] at hle
  exact absurd hle (by decide)

end Bacnet
