import Bacnet.Noninterference

/-!
# Bacnet.ReceiveBuffer

What stands in memory from a service request on.

`bip_receive` clears 16 octets behind the datagram and then moves the NPDU to the start of the
buffer, over the header of the virtual link. So the last octets of the datagram stand there
twice: a decoder that runs past the end of a request reads them once more, and then zeros.
-/

namespace Bacnet

open Bacnet.Lib

/-- A request in the receive buffer: behind its octets `tail`, and then zeros. A datagram that
leaves no room for the zeros has a long request. -/
def InBuffer (request : Mem) (body tail : List UInt8) : Prop :=
  ∃ zeros, request.Holds (body ++ (tail ++ List.replicate zeros 0)) ∧
    (16 ≤ zeros ∨ 1456 ≤ body.length)

/-! ### Where a request starts -/

theorem decodeSpecifier_le {npdu : Mem} {pduLen len len' : Nat} {addr : BacnetAddress}
    (h : (decodeSpecifier npdu pduLen len addr).1 = some len') : len' ≤ len + 10 := by
  have hmax : maxMacLen = 7 := rfl
  unfold decodeSpecifier at h
  split at h
  · dsimp only at h
    split at h
    · split at h
      · cases h
      · rename_i hfits
        have hlen := Option.some.inj h
        omega
    · have hlen := Option.some.inj h
      omega
  · have hlen := Option.some.inj h
    omega

/-- The header of an NPDU has at most 23 octets. -/
theorem bacnetNpduDecode_offset_le {npdu : Mem} {pduLen off : Nat} {src : BacnetAddress}
    (h : (bacnetNpduDecode npdu pduLen src).offset = some off) : off ≤ 23 := by
  unfold bacnetNpduDecode at h
  split at h
  · have hoff := Option.some.inj h
    omega
  · dsimp only at h
    generalize hdest : (if npdu 1 &&& 0x20 ≠ 0 then decodeSpecifier npdu pduLen 2 .default
      else (some 2, .default)) = dest at h
    have hdestLe : ∀ len ∈ dest.1, len ≤ 12 := by
      intro len hlen
      rw [← hdest] at hlen
      split at hlen
      · exact decodeSpecifier_le hlen
      · have hlen := Option.some.inj hlen
        omega
    obtain ⟨_ | len, destAddr⟩ := dest
    · cases h
    · have hlen := hdestLe len rfl
      dsimp only at h
      generalize hsrc : (if npdu 1 &&& 0x08 ≠ 0 then decodeSpecifier npdu pduLen len src
        else (some len, { src with
          net := if src.net ≠ bacnetBroadcastNetwork then 0 else src.net
          len := 0
          adr := Vector.replicate maxMacLen 0 })) = source at h
      have hsourceLe : ∀ len' ∈ source.1, len' ≤ len + 10 := by
        intro len' hlen'
        rw [← hsrc] at hlen'
        split at hlen'
        · exact decodeSpecifier_le hlen'
        · have hlen' := Option.some.inj hlen'
          omega
      obtain ⟨_ | len', srcAddr⟩ := source
      · cases h
      · have hlen' := hsourceLe len' rfl
        have hoff := Option.some.inj h
        split at hoff
        · omega
        · omega

theorem npduRoute_inv {pdu apdu : Mem} {pduLen apduLen : Nat} {src src' : BacnetAddress}
    (h : npduRoute src pdu pduLen = (src', some (apdu, apduLen))) :
    ∃ off ≤ 23, off < pduLen ∧ apdu = pdu.shift off ∧ apduLen = pduLen - off := by
  unfold npduRoute at h
  split at h
  · cases h
  · split at h
    · cases h
    · dsimp only at h
      split at h
      · cases h
      · split at h
        · cases h
        · rename_i off hoff
          split at h
          · rename_i hclient
            cases h
            exact ⟨off, bacnetNpduDecode_offset_le hoff, hclient.2.1, rfl, rfl⟩
          · cases h

theorem decodeApdu_iAm_inv {apdu request : Mem} {apduLen : Nat}
    (h : decodeApdu apdu apduLen = .iAm request) :
    2 ≤ apduLen ∧ apdu 0 &&& 0xF0 = 0x10 ∧ apdu 1 = 0 ∧ request = apdu.shift 2 := by
  unfold decodeApdu at h
  split at h
  case h_1 htype =>
    split at h
    · rename_i hiam
      cases h
      exact ⟨hiam.1, UInt8.toNat_inj.mp htype, hiam.2, rfl⟩
    · cases h
  case h_3 =>
    split at h
    · unfold decodeComplexAck at h
      extract_lets len service len' at h
      split at h
      · cases h
      · cases h
    · cases h
  case h_4 => cases h
  case h_8 => cases h
  all_goals
    split at h
    · cases h
    · cases h

/-- What `bip_receive` leaves in the buffer when it hands back an NPDU. -/
theorem bipReceive_pos {cfg : BipConfig} {socketOpen : Bool} {datagram : Option Datagram}
    {rx : RxState} (h : (bipReceive cfg socketOpen datagram rx).1 > 0) :
    ∃ d src offset, datagram = some d ∧ (offset = 4 ∨ offset = 10) ∧
      offset ≤ (d.payload.take maxMpdu).length ∧
      bipReceive cfg socketOpen datagram rx =
        ((d.payload.take maxMpdu).length - offset,
          ⟨src, shiftNpdu offset ((d.payload.take maxMpdu).length - offset)
            (eraseMargin (d.payload.take maxMpdu).length
              (storeReceived (d.payload.take maxMpdu) rx.rxBuf))⟩) := by
  unfold bipReceive at h ⊢
  split at h
  · exact absurd h (Nat.lt_irrefl 0)
  · rename_i hopen
    rw [if_neg hopen]
    cases datagram with
    | none => exact absurd h (Nat.lt_irrefl 0)
    | some d =>
        refine ⟨d, ?_⟩
        dsimp only at h ⊢
        generalize d.payload.take maxMpdu = bytes at h ⊢
        split at h
        · exact absurd h (Nat.lt_irrefl 0)
        · rename_i hzero
          rw [if_neg hzero]
          split at h
          · exact absurd h (Nat.lt_irrefl 0)
          · rename_i hbip
            rw [if_neg hbip]
            cases hnpdu : bvlcBbmdEnabledHandler cfg d.source
                (eraseMargin bytes.length (storeReceived bytes rx.rxBuf)) bytes.length with
            | none =>
                rw [hnpdu] at h
                exact absurd h (Nat.lt_irrefl 0)
            | some r =>
                obtain ⟨src, offset⟩ := r
                obtain ⟨hoffset, hle⟩ := bvlcBbmdEnabledHandler_offset hnpdu
                exact ⟨src, offset, rfl, hoffset, hle, rfl⟩

/-- The NPDU is at the start of the buffer, and behind it what the move and the clearing left. -/
theorem holds_moved {bytes : List UInt8} {offset : Nat} (h : offset ≤ bytes.length) (m : Mem) :
    (shiftNpdu offset (bytes.length - offset)
      (eraseMargin bytes.length (storeReceived bytes m))).Holds
      (bytes.drop offset ++ (bytes.drop (bytes.length - offset) ++
        List.replicate (min 16 (maxMpdu - bytes.length)) 0)) := by
  have hlen : (bytes.drop offset).length = bytes.length - offset := List.length_drop
  refine Mem.holds_append.mpr ⟨?_, Mem.holds_append.mpr ⟨fun i hi => ?_, fun i hi => ?_⟩⟩
  · rw [← hlen]
    refine holds_shiftNpdu fun i hi => ?_
    rw [Mem.shift_apply, received_apply (by omega), List.getElem_drop]
  · rw [List.length_drop] at hi
    rw [Mem.shift_apply, hlen, shiftNpdu, if_neg (by omega), received_apply (by omega),
      List.getElem_drop]
  · rw [List.length_replicate] at hi
    rw [Mem.shift_apply, Mem.shift_apply, hlen, List.length_drop, shiftNpdu, if_neg (by omega),
      eraseMargin, if_pos (by omega), List.getElem_replicate]

/-- What stands behind the two octets of the PDU of a request. -/
theorem holds_request {buffer : Mem} {octets behind : List UInt8}
    (h : buffer.Holds (octets ++ behind)) {off : Nat} (hlen : off + 2 ≤ octets.length) :
    ∃ body, octets.drop off = buffer.shift off 0 :: buffer.shift off 1 :: body ∧
      ((buffer.shift off).shift 2).Holds (body ++ behind) := by
  have hdrop : (octets.drop off).length = octets.length - off := List.length_drop
  have htake : (octets.take off).length = off := List.length_take_of_le (by omega)
  obtain ⟨pduType, rest, hrest⟩ := List.exists_cons_of_length_pos (l := octets.drop off) (by omega)
  obtain ⟨choice, body, rfl⟩ := List.exists_cons_of_length_pos (l := rest) (by
    rw [hrest, List.length_cons] at hdrop
    omega)
  rw [← List.take_append_drop off octets, hrest, List.append_assoc, List.cons_append,
    List.cons_append] at h
  have hright := h.right
  rw [htake] at hright
  obtain ⟨h0, hright⟩ := Mem.holds_cons.mp hright
  obtain ⟨h1, hbody⟩ := Mem.holds_cons.mp hright
  rw [Mem.shift_shift] at hbody
  refine ⟨body, ?_, hbody⟩
  rw [hrest, h0]
  exact congrArg (_ :: · :: body) h1.symm

/-- The octets of the message from a request on: the request, the last octets of the message
once more, and zeros. -/
theorem inBuffer_of_delivered {env : Env} {socketOpen : Bool} {rx : RxState} {arrival : Arrival}
    {src : BacnetAddress} {request : Mem}
    (h : delivered env socketOpen rx arrival = some (src, .iAm request)) :
    ∃ d header pduType body tail, arrival.datagram = some d ∧
      d.payload.take maxMpdu = header ++ pduType :: 0 :: body ∧ pduType &&& 0xF0 = 0x10 ∧
      tail <:+ d.payload.take maxMpdu ∧ (tail.length = 4 ∨ tail.length = 10) ∧
      InBuffer request body tail := by
  unfold delivered at h
  by_cases hpos : (bipReceive env.bip socketOpen arrival.datagram
      (rx.inMemory arrival.beyond)).1 > 0
  · obtain ⟨d, source, offset, hd, hoffset, hle, hrecv⟩ := bipReceive_pos hpos
    rw [hrecv] at hpos h
    dsimp only at hpos h
    rw [if_pos hpos] at h
    have hsize : (d.payload.take maxMpdu).length ≤ maxMpdu := by
      rw [List.length_take]
      omega
    have hmax : maxMpdu = 1506 := rfl
    generalize hbytes : d.payload.take maxMpdu = bytes at hle hpos h hsize
    have hholds := holds_moved hle (rx.inMemory arrival.beyond).rxBuf
    generalize shiftNpdu offset (bytes.length - offset)
      (eraseMargin bytes.length (storeReceived bytes (rx.inMemory arrival.beyond).rxBuf)) = buffer
      at h hholds
    split at h
    · rename_i src' apdu apduLen hroute
      obtain ⟨-, hiam⟩ := Prod.mk.inj (Option.some.inj h)
      obtain ⟨htwo, htype, hchoice, rfl⟩ := decodeApdu_iAm_inv hiam
      obtain ⟨off, hoff, hlt, rfl, rfl⟩ := npduRoute_inv hroute
      have hnpdu : (bytes.drop offset).length = bytes.length - offset := List.length_drop
      obtain ⟨body, hapdu, hrequest⟩ := holds_request hholds (show off + 2 ≤ _ by omega)
      rw [hchoice, List.drop_drop] at hapdu
      have hbody := congrArg List.length hapdu
      rw [List.length_drop, List.length_cons, List.length_cons] at hbody
      refine ⟨d, bytes.take (offset + off), buffer.shift off 0, body,
        bytes.drop (bytes.length - offset), hd, ?_, htype, hbytes ▸ List.drop_suffix _ _, ?_, _,
        hrequest, ?_⟩
      · rw [hbytes, ← hapdu, List.take_append_drop]
      · rw [List.length_drop]
        omega
      · omega
    · cases h
  · dsimp only at h
    rw [if_neg hpos] at h
    cases h

end Bacnet
