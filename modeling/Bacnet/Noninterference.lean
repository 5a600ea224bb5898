import Bacnet.CachedAddresses
import Bacnet.NegativeReplies
import Bacnet.Overreads

/-!
# Bacnet.Noninterference

A datagram that arrives finds the receive buffer and the source address as the datagrams before
it left them. What it makes the client store does not depend on them: every decoder reads
within the message and the zeros that `bip_receive` writes behind it, or comes to the same
result whatever it reads there.

The one decoder that is told a wrong length is that of a segmented ack which is too short for
its header: the length of its service wraps round. There the octets that `bip_receive` leaves
behind when it moves the NPDU to the start of the buffer stand in the way: the octet which
would have to be a service or a tag is the ack's own first octet.

What is behind the receive buffer is read too, but only for a datagram that leaves less than 16
octets of the buffer.
-/

namespace Bacnet

open Bacnet.Lib

variable {m m' : Mem}

/-! ### The header of the NPDU -/

theorem decodeSpecifier_congr {pduLen : Nat} (h : Mem.Agree pduLen m m') (len : Nat)
    (addr : BacnetAddress) :
    decodeSpecifier m pduLen len addr = decodeSpecifier m' pduLen len addr := by
  unfold decodeSpecifier
  by_cases hlen : pduLen ≥ len + 3
  · rw [if_pos hlen, if_pos hlen]
    have hnet : Mem.Agree 2 (m.shift len) (m'.shift len) := (h.mono (by omega)).shift
    rw [h (len + 2) (by omega), decodeUnsigned16, decodeUnsigned16, hnet.be_eq]
    by_cases hzero : m' (len + 2) ≠ 0
    · dsimp only
      rw [if_pos hzero, if_pos hzero]
      by_cases hlarge : (m' (len + 2)).toNat > maxMacLen ∨
          pduLen < len + 3 + (m' (len + 2)).toNat
      · rw [if_pos hlarge, if_pos hlarge]
      · have hoctet : ∀ i : Fin maxMacLen, ∀ b : UInt8,
            (if i.val < (m' (len + 2)).toNat then m (len + 3 + i.val) else b) =
              if i.val < (m' (len + 2)).toNat then m' (len + 3 + i.val) else b := by
          intro i b
          split
          · exact h _ (by omega)
          · rfl
        rw [if_neg hlarge, if_neg hlarge]
        simp only [hoctet]
    · dsimp only
      rw [if_neg hzero, if_neg hzero]
  · rw [if_neg hlen, if_neg hlen]

theorem bacnetNpduDecode_congr {pduLen : Nat} (h : Mem.Agree pduLen m m') (src : BacnetAddress) :
    bacnetNpduDecode m pduLen src = bacnetNpduDecode m' pduLen src := by
  unfold bacnetNpduDecode
  by_cases hlen : pduLen < 2
  · rw [if_pos hlen, if_pos hlen]
  · simp only [if_neg hlen, h 1 (by omega), decodeSpecifier_congr h]

/-- The APDU starts at the same place in both memories. -/
theorem npduRoute_congr {pduLen : Nat} (h : Mem.Agree pduLen m m') (src : BacnetAddress) :
    ∃ src', (npduRoute src m pduLen = (src', none) ∧ npduRoute src m' pduLen = (src', none)) ∨
      ∃ off, off < pduLen ∧
        npduRoute src m pduLen = (src', some (m.shift off, pduLen - off)) ∧
        npduRoute src m' pduLen = (src', some (m'.shift off, pduLen - off)) := by
  unfold npduRoute
  by_cases hlen : pduLen < 1
  · rw [if_pos hlen, if_pos hlen]
    exact ⟨src, Or.inl ⟨rfl, rfl⟩⟩
  rw [if_neg hlen, if_neg hlen, h 0 (by omega)]
  by_cases hversion : m' 0 ≠ bacnetProtocolVersion
  · rw [if_pos hversion, if_pos hversion]
    exact ⟨src, Or.inl ⟨rfl, rfl⟩⟩
  rw [if_neg hversion, if_neg hversion, bacnetNpduDecode_congr h]
  generalize bacnetNpduDecode m' pduLen src = r
  refine ⟨r.src, ?_⟩
  dsimp only
  by_cases hnetwork : r.networkLayerMessage
  · rw [if_pos hnetwork, if_pos hnetwork]
    exact Or.inl ⟨rfl, rfl⟩
  rw [if_neg hnetwork, if_neg hnetwork]
  cases r.offset with
  | none => exact Or.inl ⟨rfl, rfl⟩
  | some off =>
    dsimp only
    by_cases hoff : off < pduLen
    · rw [h off hoff]
      by_cases hclient : off > 0 ∧ off < pduLen ∧
          (r.dest.net = 0 ∨ r.dest.net = bacnetBroadcastNetwork) ∧
          ¬ (r.dest.net = bacnetBroadcastNetwork ∧ m' off &&& 0xF0 = 0)
      · rw [if_pos hclient, if_pos hclient]
        exact Or.inr ⟨off, hoff, rfl, rfl⟩
      · rw [if_neg hclient, if_neg hclient]
        exact Or.inl ⟨rfl, rfl⟩
    · rw [if_neg fun hclient => hoff hclient.2.1, if_neg fun hclient => hoff hclient.2.1]
      exact Or.inl ⟨rfl, rfl⟩

/-! ### The APDU -/

/-- The buffer behind the start of an APDU of `len` octets, in two memories into which the same
datagram was received. The NPDU was moved by `offset`, and its last octets are still there. -/
structure Arrived (offset len : Nat) (m m' : Mem) : Prop where
  margin : Margin (len + offset) m m'
  repeats : ∀ p, p < len → len ≤ p + offset → m (p + offset) = m p

theorem Arrived.shift {offset len p : Nat} (h : Arrived offset len m m') (hp : p ≤ len) :
    Arrived offset (len - p) (m.shift p) (m'.shift p) where
  margin := by
    have hmargin := h.margin.shift (by omega : p ≤ len + offset)
    rwa [show len + offset - p = len - p + offset by omega] at hmargin
  repeats i hi hle := by
    have hrepeats := h.repeats (p + i) (by omega) (by omega)
    rw [Nat.add_assoc] at hrepeats
    exact hrepeats

/-- The two messages say the same to the client's handlers. -/
inductive Apdu.Alike : Apdu → Apdu → Prop
  | refl (a : Apdu) : Alike a a
  | iAm {request request' : Mem}
      (h : iamDecodeServiceRequest request = iamDecodeServiceRequest request') :
      Alike (.iAm request) (.iAm request')
  | complexAck {request request' : Mem} {serviceLen : Nat} (invokeId serviceChoice : UInt8)
      (h : decodeReply request serviceLen = decodeReply request' serviceLen) :
      Alike (.complexAck invokeId serviceChoice request serviceLen)
        (.complexAck invokeId serviceChoice request' serviceLen)

section FirstOctet

set_option maxRecDepth 4096

/-- The first octet of an ack is no service that an ack is processed for, -/
theorem complexAck_not_service (b : UInt8) (h : b &&& 0xF0 = 0x30) :
    b.toNat ∉ complexAckServices :=
  forall_octet (P := fun b => b &&& 0xF0 = 0x30 → b.toNat ∉ complexAckServices) (by decide) b h

/-- and as a tag it has the number 3. -/
theorem complexAck_tag (b : UInt8) (h : b &&& 0xF0 = 0x30) :
    isExtendedTagNumber b = false ∧ b >>> 4 = 3 :=
  forall_octet (P := fun b => b &&& 0xF0 = 0x30 → isExtendedTagNumber b = false ∧ b >>> 4 = 3)
    (by decide) b h

end FirstOctet

/-- An acknowledgement with the first octet of an ack where its property would be. -/
theorem decodeReply_of_ack {len : Nat} (h : m 5 &&& 0xF0 = 0x30) :
    decodeReply m len = .error .failedToDecodeData := by
  have hnumber : (decodeTagNumberAndValue (m.shift 5)).2.number ≠ 1 := by
    obtain ⟨hshort, htag⟩ := complexAck_tag (m 5) h
    rw [decodeTagNumberAndValue_number, decodeTagNumber, Mem.shift_apply, Nat.add_zero, hshort,
      if_neg (by decide), htag]
    decide
  have hnone : rpAckDecodeServiceRequest m len = none := by
    unfold rpAckDecodeServiceRequest
    split
    · rfl
    · split
      · rfl
      · simp only [if_pos hnumber]
  rw [decodeReply, hnone]

/-- An ack that is too short for its header is ignored, or its service is not decoded. -/
theorem decodeComplexAck_alike {offset len : Nat} (h : Arrived offset len m m')
    (hoffset : offset = 4 ∨ offset = 10) (hlen : 3 ≤ len) (htype : m' 0 &&& 0xF0 = 0x30) :
    (decodeComplexAck m len).Alike (decodeComplexAck m' len) := by
  have hagree := h.margin.agree
  unfold decodeComplexAck
  rw [hagree 0 (by omega), hagree 1 (by omega)]
  generalize hp : (if m' 0 &&& 0x08 ≠ 0 then 4 else 2 : Nat) = p
  replace hp : p = 4 ∨ p = 2 := by
    rw [← hp]
    exact ite_eq_or_eq _ 4 2
  dsimp only
  rw [hagree p (by omega)]
  split
  · rename_i hservice
    refine .complexAck _ _ ?_
    by_cases hfits : p + 1 ≤ len
    · exact decodeReply_congr (h.margin.shift (by omega : p + 1 ≤ len + offset)) (by omega)
    · -- the length wraps round
      rcases hoffset with rfl | rfl
      · obtain rfl : p = 4 := by omega
        have hrepeats := h.repeats 0 (by omega) (by omega)
        rw [hagree 0 (by omega), Nat.zero_add, hagree 4 (by omega)] at hrepeats
        rw [hrepeats] at hservice
        exact absurd hservice (complexAck_not_service (m' 0) htype)
      · obtain rfl : p = 4 := by omega
        have hrepeats := h.repeats 0 (by omega) (by omega)
        rw [hagree 0 (by omega), Nat.zero_add] at hrepeats
        have hm : (m.shift (4 + 1)) 5 &&& 0xF0 = 0x30 := by
          rw [Mem.shift_apply, hrepeats, htype]
        have hm' : (m'.shift (4 + 1)) 5 &&& 0xF0 = 0x30 := by
          rw [Mem.shift_apply, ← hagree 10 (by omega), hrepeats, htype]
        rw [decodeReply_of_ack hm, decodeReply_of_ack hm']
  · exact .refl _

/-- The header of an APDU, and what its handler decodes of it. -/
theorem decodeApdu_alike {offset len : Nat} (h : Arrived offset len m m')
    (hoffset : offset = 4 ∨ offset = 10) : (decodeApdu m len).Alike (decodeApdu m' len) := by
  have hagree := h.margin.agree
  unfold decodeApdu
  rw [hagree 0 (by omega), hagree 1 (by omega), hagree 2 (by omega),
    decodeErrorPair_congr h.margin (by omega)]
  split
  · split
    · exact .iAm (iamDecodeServiceRequest_congr (h.margin.shift (by omega : 2 ≤ len + offset)))
    · exact .refl _
  · exact .refl _
  · rename_i htype
    split
    · exact decodeComplexAck_alike h hoffset ‹_› (UInt8.toNat_inj.mp htype)
    · exact .refl _
  · exact .refl _
  · exact .refl _
  · exact .refl _
  · exact .refl _
  · exact .refl _

/-- Messages that say the same do the same. -/
theorem apduHandler_congr {order : List DeviceId} {s : Stack} {src : BacnetAddress}
    {apdu apdu' : Mem} {len len' : Nat}
    (h : (decodeApdu apdu len).Alike (decodeApdu apdu' len')) :
    apduHandler order s src apdu len = apduHandler order s src apdu' len' := by
  unfold apduHandler
  generalize decodeApdu apdu len = a at h ⊢
  generalize decodeApdu apdu' len' = a' at h ⊢
  cases h with
  | refl => rfl
  | iAm h => simp only [handlerIAmBind, iAmHandler, h]
  | @complexAck request request' serviceLen invokeId serviceChoice h =>
    have hstore : storeAck request serviceLen invokeId = storeAck request' serviceLen invokeId := by
      funext t
      rw [storeAck, storeAck, h]
    simp only [myReadpropAckHandler, hstore]

/-! ### The datagram -/

/-- The same datagram arrives. What is in memory behind the receive buffer is the same only where
the datagram leaves no room in the buffer for the octets that `bip_receive` clears. -/
structure Arrival.SameMessage (a a' : Arrival) : Prop where
  datagram : a.datagram = a'.datagram
  order : a.order = a'.order
  beyond : (∃ d ∈ a.datagram, maxMpdu < d.payload.length + 16) → a.beyond = a'.beyond

section Received

variable {bytes : List UInt8}

theorem received_apply {i : Nat} (hi : i < bytes.length) :
    eraseMargin bytes.length (storeReceived bytes m) i = bytes[i] := by
  rw [eraseMargin, if_neg fun h => Nat.not_lt.mpr h.1 hi, storeReceived,
    Mem.holds_overlay bytes m i hi]

theorem received_agree :
    Mem.Agree bytes.length (eraseMargin bytes.length (storeReceived bytes m))
      (eraseMargin bytes.length (storeReceived bytes m')) :=
  fun _ hi => (received_apply hi).trans (received_apply hi).symm

theorem received_margin (hfits : bytes.length + 16 ≤ maxMpdu) :
    Margin bytes.length (eraseMargin bytes.length (storeReceived bytes m))
      (eraseMargin bytes.length (storeReceived bytes m')) := by
  have hzero : ∀ (m : Mem) i, bytes.length ≤ i → i < bytes.length + 16 →
      eraseMargin bytes.length (storeReceived bytes m) i = 0 := by
    intro m i hi hlt
    exact if_pos ⟨hi, by omega⟩
  refine ⟨fun i hi => ?_, hzero m'⟩
  by_cases hin : i < bytes.length
  · exact received_agree i hin
  · rw [hzero m i (by omega) hi, hzero m' i (by omega) hi]

/-- All of the buffer was received or cleared. -/
theorem received_eq (hlong : maxMpdu < bytes.length + 16)
    (hbeyond : ∀ i, maxMpdu ≤ i → m i = m' i) :
    eraseMargin bytes.length (storeReceived bytes m) =
      eraseMargin bytes.length (storeReceived bytes m') := by
  funext i
  by_cases hin : i < bytes.length
  · exact received_agree i hin
  · by_cases hmargin : i < bytes.length + min 16 (maxMpdu - bytes.length)
    · exact (if_pos ⟨by omega, hmargin⟩).trans (if_pos ⟨by omega, hmargin⟩).symm
    · have hlen : bytes.length ≤ i := by omega
      rw [eraseMargin, eraseMargin, if_neg fun h => hmargin h.2, if_neg fun h => hmargin h.2,
        storeReceived, storeReceived, Mem.overlay, Mem.overlay, List.getD_eq_getElem?_getD,
        List.getD_eq_getElem?_getD, List.getElem?_eq_none hlen]
      exact hbeyond i (by omega)

end Received

theorem bvlcBbmdEnabledHandler_congr {len : Nat} (h : Mem.Agree len m m') (cfg : BipConfig)
    (addr : BacnetIpAddress) :
    bvlcBbmdEnabledHandler cfg addr m len = bvlcBbmdEnabledHandler cfg addr m' len := by
  unfold bvlcBbmdEnabledHandler
  by_cases hshort : len < 4
  · rw [if_pos (Or.inl hshort), if_pos (Or.inl hshort)]
  · have haddress : len - 4 ≥ 6 →
        bvlcDecodeAddress (m.shift 4) = bvlcDecodeAddress (m'.shift 4) := by
      intro hlen
      have hshift : Mem.Agree 6 (m.shift 4) (m'.shift 4) := (h.mono (by omega)).shift
      have hport : Mem.Agree 2 ((m.shift 4).shift 4) ((m'.shift 4).shift 4) := hshift.shift
      rw [bvlcDecodeAddress, bvlcDecodeAddress, hshift 0 (by decide), hshift 1 (by decide),
        hshift 2 (by decide), hshift 3 (by decide), decodeUnsigned16, decodeUnsigned16, hport.be_eq]
    rw [h 0 (by omega), h 1 (by omega)]
    split
    · rfl
    · dsimp only
      split
      · split
        · rename_i hlen
          rw [haddress hlen]
        · rfl
      · rfl
      · rfl
      · rfl

theorem bvlcBbmdEnabledHandler_offset {cfg : BipConfig} {addr : BacnetIpAddress} {len offset : Nat}
    {src : BacnetAddress} (h : bvlcBbmdEnabledHandler cfg addr m len = some (src, offset)) :
    (offset = 4 ∨ offset = 10) ∧ offset ≤ len := by
  unfold bvlcBbmdEnabledHandler at h
  split at h
  · cases h
  · dsimp only at h
    repeat' split at h
    all_goals cases h
    · exact ⟨Or.inr rfl, by omega⟩
    · exact ⟨Or.inl rfl, by omega⟩
    · exact ⟨Or.inl rfl, by omega⟩

theorem arrived_shiftNpdu {offset len : Nat} (h : Margin (len + offset) m m') :
    Arrived offset len (shiftNpdu offset len m) (shiftNpdu offset len m') where
  margin := by
    refine ⟨fun i hi => ?_, fun i hi hlt => ?_⟩
    · unfold shiftNpdu
      split
      · exact h.agree _ (by omega)
      · exact h.agree i hi
    · exact (if_neg (by omega)).trans (h.zero i hi hlt)
  repeats p hp hle := by
    unfold shiftNpdu
    rw [if_neg (by omega), if_pos hp, Nat.add_comm]

/-- What is in the buffer and in the source address before it: `bip_receive` hands back no NPDU, or
the same one from the same source. -/
theorem bipReceive_congr (cfg : BipConfig) (socketOpen : Bool) {a a' : Arrival}
    (h : a.SameMessage a') (rx rx' : RxState) :
    ((bipReceive cfg socketOpen a.datagram (rx.inMemory a.beyond)).1 = 0 ∧
        (bipReceive cfg socketOpen a'.datagram (rx'.inMemory a'.beyond)).1 = 0) ∨
      ∃ len src buf buf',
        bipReceive cfg socketOpen a.datagram (rx.inMemory a.beyond) = (len, ⟨src, buf⟩) ∧
        bipReceive cfg socketOpen a'.datagram (rx'.inMemory a'.beyond) = (len, ⟨src, buf'⟩) ∧
        (buf = buf' ∨ ∃ offset, (offset = 4 ∨ offset = 10) ∧ Arrived offset len buf buf') := by
  have hbeyond := h.beyond
  rw [h.datagram] at hbeyond ⊢
  unfold bipReceive
  by_cases hopen : ¬ socketOpen
  · rw [if_pos hopen, if_pos hopen]
    exact Or.inl ⟨rfl, rfl⟩
  rw [if_neg hopen, if_neg hopen]
  cases hd : a'.datagram with
  | none => exact Or.inl ⟨rfl, rfl⟩
  | some d =>
    dsimp only
    by_cases hzero : (d.payload.take maxMpdu).length = 0
    · rw [if_pos hzero, if_pos hzero]
      exact Or.inl ⟨rfl, rfl⟩
    rw [if_neg hzero, if_neg hzero]
    have hlong : maxMpdu < (d.payload.take maxMpdu).length + 16 → a.beyond = a'.beyond := by
      intro hlt
      rw [List.length_take] at hlt
      exact hbeyond ⟨d, hd, by omega⟩
    generalize d.payload.take maxMpdu = bytes at hzero hlong ⊢
    have hbehind : maxMpdu < bytes.length + 16 → ∀ i, maxMpdu ≤ i →
        (rx.inMemory a.beyond).rxBuf i = (rx'.inMemory a'.beyond).rxBuf i := by
      intro hlt i hi
      rw [RxState.inMemory, RxState.inMemory]
      dsimp only
      rw [if_neg (by omega), if_neg (by omega), hlong hlt]
    generalize rx.inMemory a.beyond = r at hbehind ⊢
    generalize rx'.inMemory a'.beyond = r' at hbehind ⊢
    have hfirst : storeReceived bytes r.rxBuf 0 = storeReceived bytes r'.rxBuf 0 :=
      (Mem.holds_overlay bytes r.rxBuf 0 (by omega)).trans
        (Mem.holds_overlay bytes r'.rxBuf 0 (by omega)).symm
    rw [hfirst]
    by_cases hbip : storeReceived bytes r'.rxBuf 0 ≠ 0x81
    · rw [if_pos hbip, if_pos hbip]
      exact Or.inl ⟨rfl, rfl⟩
    rw [if_neg hbip, if_neg hbip, bvlcBbmdEnabledHandler_congr received_agree]
    cases hnpdu : bvlcBbmdEnabledHandler cfg d.source
        (eraseMargin bytes.length (storeReceived bytes r'.rxBuf)) bytes.length with
    | none => exact Or.inl ⟨rfl, rfl⟩
    | some p =>
      obtain ⟨src, offset⟩ := p
      obtain ⟨hoffset, hle⟩ := bvlcBbmdEnabledHandler_offset hnpdu
      refine Or.inr ⟨bytes.length - offset, src, _, _, rfl, rfl, ?_⟩
      by_cases hfits : bytes.length + 16 ≤ maxMpdu
      · refine Or.inr ⟨offset, hoffset, arrived_shiftNpdu ?_⟩
        rw [Nat.sub_add_cancel hle]
        exact received_margin hfits
      · rw [received_eq (by omega) (hbehind (by omega))]
        exact Or.inl rfl

theorem npduHandler_congr {order : List DeviceId} {s : Stack} {src : BacnetAddress} {len : Nat}
    {buf buf' : Mem}
    (h : buf = buf' ∨ ∃ offset, (offset = 4 ∨ offset = 10) ∧ Arrived offset len buf buf') :
    npduHandler order s src buf len = npduHandler order s src buf' len := by
  rcases h with rfl | ⟨offset, hoffset, harrived⟩
  · rfl
  unfold npduHandler
  obtain ⟨src', ⟨hroute, hroute'⟩ | ⟨off, hlt, hroute, hroute'⟩⟩ :=
    npduRoute_congr (harrived.margin.agree.mono (by omega : len ≤ len + offset + 16)) src
  · rw [hroute, hroute']
  · rw [hroute, hroute']
    have halike := decodeApdu_alike (harrived.shift (Nat.le_of_lt hlt)) hoffset
    simp only [apduHandler_congr halike]

/-- The next datagram makes of the client's state the same, whatever the thread that receives it
has received before. -/
theorem receiveStep_congr (env : Env) (s : Stack) {a a' : Arrival} (h : a.SameMessage a')
    (rx rx' : RxState) :
    (receiveStep env s rx a).map Prod.fst = (receiveStep env s rx' a').map Prod.fst := by
  unfold receiveStep
  rcases bipReceive_congr env.bip s.socketOpen h rx rx' with
    ⟨hnone, hnone'⟩ | ⟨len, src, buf, buf', hsome, hsome', hbuf⟩
  · simp only [hnone, hnone', Nat.lt_irrefl, gt_iff_lt, if_false, Option.map_some]
  · simp only [hsome, hsome', h.order, npduHandler_congr hbuf]
    split
    · rw [Option.map_map, Option.map_map]
      rfl
    · rfl

/-! ### The state -/

/-- The state without the address cache and the flag that only `connect` looks at. -/
def Stack.bare (s : Stack) : Stack := { s with cache := .init, initDone := false }

theorem withMatchingDevice_bare (order : List DeviceId) (s : Stack) (src : BacnetAddress)
    (invokeId : UInt8) (f : TargetDevice → TargetDevice) :
    (withMatchingDevice order s src invokeId f).map Stack.bare =
      (withMatchingDevice order s.bare src invokeId f).map Stack.bare := by
  unfold withMatchingDevice
  by_cases hp : s.poisoned
  · rw [if_pos hp, if_pos (show s.bare.poisoned = true from hp)]
  · rw [if_neg hp, if_neg (show ¬ s.bare.poisoned = true from hp)]
    have htargets : s.bare.targets = s.targets := rfl
    rw [htargets]
    cases hd : findMatchingDevice order s.targets src invokeId with
    | none => rfl
    | some d =>
      obtain ⟨t, ht, -⟩ := findMatchingDevice_eq_some hd
      simp only [ht]
      rfl

/-- A reply, with its handler or without. -/
theorem reply_bare {registered : Prop} [Decidable registered] (order : List DeviceId) (s : Stack)
    (src : BacnetAddress) (invokeId : UInt8) (f : TargetDevice → TargetDevice) :
    ((if registered then withMatchingDevice order s src invokeId f else some s).map
        (·.freeInvokeId invokeId)).map Stack.bare =
      ((if registered then withMatchingDevice order s.bare src invokeId f else some s.bare).map
        (·.freeInvokeId invokeId)).map Stack.bare := by
  have hfree : ∀ r : Option Stack, (r.map (·.freeInvokeId invokeId)).map Stack.bare =
      (r.map Stack.bare).map (·.freeInvokeId invokeId) := by
    intro r
    cases r with
    | none => rfl
    | some s => rfl
  rw [hfree, hfree]
  split
  · rw [withMatchingDevice_bare]
  · rfl

theorem iAmHandler_bare (s : Stack) (request : Mem) (src : BacnetAddress) :
    (iAmHandler s request src).map Stack.bare = (iAmHandler s.bare request src).map Stack.bare := by
  unfold iAmHandler
  cases iamDecodeServiceRequest request with
  | none => rfl
  | some i =>
    dsimp only
    cases copyFromSlice src.mac src.macLen with
    | none => rfl
    | some macAddr =>
      dsimp only
      cases (if src.net > 0 then copyFromSlice src.adr src.len
        else some (Vector.replicate 6 0)) with
      | none => rfl
      | some addr => rfl

theorem handlerIAmBind_bare (s : Stack) (request : Mem) (src : BacnetAddress) :
    (handlerIAmBind s request src).bare = (handlerIAmBind s.bare request src).bare := by
  unfold handlerIAmBind
  cases iamDecodeServiceRequest request with
  | none => rfl
  | some i => simp only [Stack.bare]

/-- The handlers do not look at the address cache, -/
theorem apduHandler_bare (order : List DeviceId) (s : Stack) (src : BacnetAddress) (apdu : Mem)
    (len : Nat) :
    (apduHandler order s src apdu len).map Stack.bare =
      (apduHandler order s.bare src apdu len).map Stack.bare := by
  unfold apduHandler
  have hdcc : s.bare.dcc = s.dcc := rfl
  have hhandlers : s.bare.handlers = s.handlers := rfl
  rw [hdcc, hhandlers]
  cases decodeApdu apdu len with
  | ignored => rfl
  | iAm request =>
    dsimp only
    split
    · rfl
    · cases s.handlers.iAm with
      | none => rfl
      | some handler =>
        cases handler with
        | handlerIAmBind =>
          dsimp only
          rw [Option.map_some, Option.map_some, handlerIAmBind_bare s]
        | iAmHandler => exact iAmHandler_bare s request src
  | simpleAck invokeId => rfl
  | complexAck invokeId serviceChoice request serviceLen => exact reply_bare order s src invokeId _
  | segmentAck => rfl
  | error invokeId serviceChoice errorClass errorCode => exact reply_bare order s src invokeId _
  | reject invokeId reason => exact reply_bare order s src invokeId _
  | abort invokeId reason => exact reply_bare order s src invokeId _

/-- and neither does what receives for them. -/
theorem receiveStep_bare (env : Env) (s : Stack) (rx : RxState) (a : Arrival) :
    (receiveStep env s rx a).map (fun r => r.1.bare) =
      (receiveStep env s.bare rx a).map fun r => r.1.bare := by
  have hopen : s.bare.socketOpen = s.socketOpen := rfl
  unfold receiveStep npduHandler
  rw [hopen]
  generalize bipReceive env.bip s.socketOpen a.datagram (rx.inMemory a.beyond) = r
  obtain ⟨pduLen, rx⟩ := r
  dsimp only
  split
  · generalize npduRoute rx.src rx.rxBuf pduLen = route
    obtain ⟨src, apdu⟩ := route
    cases apdu with
    | none => rfl
    | some apdu =>
      have hbare := apduHandler_bare a.order s src apdu.1 apdu.2
      simp only [Option.map_map]
      exact hbare
  · rfl

/-! ### The handlers that are registered -/

/-- What decides which handler a datagram reaches. -/
structure Config where
  handlers : Handlers
  socketOpen : Bool
  dcc : Communication
  initDone : Bool

def Stack.config (s : Stack) : Config := ⟨s.handlers, s.socketOpen, s.dcc, s.initDone⟩

/-- The calls that set it. -/
inductive Setup where
  | connect
  | whoisStart
  | whoisClose
  deriving DecidableEq

def Event.setup : Event → Option Setup
  | connect _ _ => some .connect
  | whoisStart _ _ => some .whoisStart
  | whoisClose _ => some .whoisClose
  | _ => none

def Setup.apply (c : Config) : Setup → Config
  | connect => if c.initDone then c else ⟨.installed, true, c.dcc, true⟩
  | whoisStart =>
    { c with
      handlers :=
        { c.handlers with
          unrecognizedService := false
          readProperty := true
          iAm := some .iAmHandler }
      socketOpen := true }
  | whoisClose => { c with socketOpen := false }

/-- The handlers that the calls of a run have left registered, and whether the socket is open. -/
def configured (es : List Event) : Config :=
  (es.filterMap Event.setup).foldl Setup.apply Stack.init.config

variable {env : Env} {s s' : Sys} {e : Event} {o : Output} {es : List Event} {os : List Output}

theorem config_connecting (env : Env) (s : Stack) (cache : AddressCache) :
    (connecting env s cache).config = Setup.connect.apply s.config := by
  unfold connecting stackInit Setup.apply
  cases hinit : s.initDone with
  | true => simp [Stack.config, hinit]
  | false => simp [Stack.config, hinit, dlenvInit, initServiceHandlers]

theorem config_step (hs : Step env s e s' o) :
    s'.stack.config = e.setup.elim s.stack.config (Setup.apply s.stack.config) := by
  cases hs with
  | connect t b stack o hth h =>
    cases h with
    | ok m addr cache hp hr => exact config_connecting env s.stack cache
    | failed cache hr => exact config_connecting env s.stack cache
    | panicked cache hp hr => exact config_connecting env s.stack cache
  | send t d args tgt stack id frame hth hp hl h => cases h <;> rfl
  | receive t arrival rx' stack hth h =>
    cases h with
    | nothing hd => rfl
    | apdu src a hd he => cases he <;> rfl
  | extract t call stack o hth hpc h => cases h <;> rfl
  | _ => rfl

/-- Whatever is read and received, these calls alone decide. -/
theorem config_run (hrun : (client env).run .init es = some (s, os)) :
    s.stack.config = configured es := by
  refine Machine.run_history (motive := fun es _ s => s.stack.config = configured es)
    (P := fun _ _ => True) rfl ?_ (all_true es) hrun
  intro es os s e s' o hrun ih _ hs
  rw [config_step (step_cases (wf_run hrun).tsm hs), configured, List.filterMap_append,
    List.foldl_append, ← configured, ← ih]
  cases he : e.setup with
  | none => simp [he]
  | some x => simp [he]

/-! ### Two runs -/

/-- The tracked devices with the lock of their map, the transactions, and what was discovered. -/
structure SameTables (s s' : Stack) : Prop where
  targets : s.targets = s'.targets
  poisoned : s.poisoned = s'.poisoned
  tsm : s.tsm = s'.tsm
  discovered : s.discovered = s'.discovered

theorem SameTables.of_bare {s s' : Stack} (h : s.bare = s'.bare) : SameTables s s' :=
  ⟨congrArg (·.targets) h, congrArg (·.poisoned) h, congrArg (·.tsm) h, congrArg (·.discovered) h⟩

theorem SameTables.bare {s s' : Stack} (h : SameTables s s') (hconfig : s.config = s'.config) :
    s.bare = s'.bare := by
  have hhandlers := congrArg Config.handlers hconfig
  have hopen := congrArg Config.socketOpen hconfig
  have hdcc := congrArg Config.dcc hconfig
  simp only [Stack.config] at hhandlers hopen hdcc
  simp only [Stack.bare, hhandlers, hopen, hdcc, h.targets, h.poisoned, h.tsm, h.discovered]

/-- The receiving thread, and what it makes of the datagram. -/
theorem receive_cases (hrun : (client env).run .init es = some (s, os)) {t : Nat} {a : Arrival}
    (hs : (client env).step s (.receive t a) = some (s', o)) :
    ∃ rx next, afterReceive s t (receiveStep env s.stack rx a) next = (s', o) := by
  have hreceives : ∃ rx next, Receives (s.threads t) rx next := by
    cases step_cases (wf_run hrun).tsm hs with
    | receive _ _ rx' stack hth h => exact ⟨_, _, hth⟩
    | abort _ _ hth h => exact ⟨_, _, hth⟩
  obtain ⟨rx, next, hth⟩ := hreceives
  rw [step_receive env (not_aborted_of_step hs) hth] at hs
  exact ⟨rx, next, Option.some.inj hs⟩

theorem afterReceive_congr {s₁ s₂ s₁' s₂' : Sys} {o₁ o₂ : Output} {t₁ t₂ : Nat}
    {r₁ r₂ : Option (Stack × RxState)} {next₁ next₂ : RxState → Thread}
    (haborted : s₁.aborted = s₂.aborted) (htables : SameTables s₁.stack s₂.stack)
    (hr : r₁.map (fun r => r.1.bare) = r₂.map fun r => r.1.bare)
    (h₁ : afterReceive s₁ t₁ r₁ next₁ = (s₁', o₁)) (h₂ : afterReceive s₂ t₂ r₂ next₂ = (s₂', o₂)) :
    o₁ = o₂ ∧ s₁'.aborted = s₂'.aborted ∧ SameTables s₁'.stack s₂'.stack := by
  cases r₁ with
  | none =>
    cases r₂ with
    | none =>
      cases h₁
      cases h₂
      exact ⟨rfl, rfl, htables⟩
    | some r => cases hr
  | some r =>
    cases r₂ with
    | none => cases hr
    | some r' =>
      cases h₁
      cases h₂
      exact ⟨rfl, haborted, .of_bare (Option.some.inj hr)⟩

/-- Two runs that have left the same handlers registered, and whose tables are the same: whatever
datagrams they have received, the next one does the same in both, in whichever of their receive
loops it arrives. -/
theorem sameTables_of_receive {es₁ es₂ : List Event} {os₁ os₂ : List Output}
    {s₁ s₂ s₁' s₂' : Sys} (hrun₁ : (client env).run .init es₁ = some (s₁, os₁))
    (hrun₂ : (client env).run .init es₂ = some (s₂, os₂))
    (hconfigured : configured es₁ = configured es₂)
    (htables : SameTables s₁.stack s₂.stack) {t₁ t₂ : Nat} {a₁ a₂ : Arrival}
    (hsame : a₁.SameMessage a₂) {o₁ o₂ : Output}
    (hs₁ : (client env).step s₁ (.receive t₁ a₁) = some (s₁', o₁))
    (hs₂ : (client env).step s₂ (.receive t₂ a₂) = some (s₂', o₂)) :
    o₁ = o₂ ∧ s₁'.aborted = s₂'.aborted ∧ SameTables s₁'.stack s₂'.stack := by
  have hbare : s₁.stack.bare = s₂.stack.bare := by
    refine htables.bare ?_
    rw [config_run hrun₁, config_run hrun₂, hconfigured]
  have haborted : s₁.aborted = s₂.aborted :=
    (not_aborted_of_step hs₁).trans (not_aborted_of_step hs₂).symm
  obtain ⟨rx₁, next₁, h₁⟩ := receive_cases hrun₁ hs₁
  obtain ⟨rx₂, next₂, h₂⟩ := receive_cases hrun₂ hs₂
  refine afterReceive_congr haborted htables ?_ h₁ h₂
  rw [receiveStep_bare env s₁.stack, receiveStep_bare env s₂.stack, hbare]
  have hsteps := congrArg (Option.map Stack.bare)
    (receiveStep_congr env s₂.stack.bare hsame rx₁ rx₂)
  rw [Option.map_map, Option.map_map] at hsteps
  exact hsteps

/-- An announcement where no NPDU is: in a BVLC result. -/
def strayAnnouncement : Arrival where
  datagram := some ⟨⟨#v[10, 0, 0, 77], 47808⟩,
    [0x81, 0x00, 0, 20, 0x01, 0x00, 0x10, 0x00, 0xc4, 2, 0, 0, 7, 0x22, 5, 0xc4, 0x91, 0, 0x21, 5]⟩
  order := []
  beyond _ := 0

/-- The same announcement, cut off behind the device. -/
def cutAnnouncement : Arrival := lanMessage 77 [0x10, 0x00, 0xc4, 2, 0, 0, 7]

/-- One `whois` has the rest of the announcement in its buffer and the other has not, and neither
discovers the device. -/
theorem sameTables_of_cutAnnouncement :
    ∃ s₁ os₁ s₂ os₂ rx₁ rx₂ s₁' o₁ s₂' o₂,
      (client lan).run .init [.whoisStart 0 none, .receive 0 strayAnnouncement] = some (s₁, os₁) ∧
      (client lan).run .init [.whoisStart 0 none, .receive 0 silence] = some (s₂, os₂) ∧
      s₁.threads 0 = .discovering rx₁ ∧ rx₁.rxBuf 13 = 0x22 ∧
      s₂.threads 0 = .discovering rx₂ ∧ rx₂.rxBuf 13 = 0 ∧
      (client lan).step s₁ (.receive 0 cutAnnouncement) = some (s₁', o₁) ∧
      (client lan).step s₂ (.receive 0 cutAnnouncement) = some (s₂', o₂) ∧
      s₁'.stack.discovered = [] ∧
      (o₁ = o₂ ∧ s₁'.aborted = s₂'.aborted ∧ SameTables s₁'.stack s₂'.stack) := by
  refine ⟨_, _, _, _, _, _, _, _, _, _, rfl, rfl, rfl, rfl, rfl, rfl, rfl, rfl, rfl, ?_⟩
  have hrun := fun a : Arrival =>
    (rfl : (client lan).run .init [.whoisStart 0 none, .receive 0 a] = _)
  exact sameTables_of_receive (hrun strayAnnouncement) (hrun silence) rfl ⟨rfl, rfl, rfl, rfl⟩
    ⟨rfl, rfl, fun _ => rfl⟩ (rfl : (client lan).step _ (.receive 0 cutAnnouncement) = _)
    (rfl : (client lan).step _ (.receive 0 cutAnnouncement) = _)

end Bacnet
