import Bacnet.NetworkMessage
import Bacnet.Steps

/-!
# Bacnet.Unicast

A unicast message on its way in: what `bip_receive` and `npdu_handler` make of a datagram
that carries an NPDU. Its source address is the UDP endpoint it came from, with the network
and the MAC of the source specifier, if there is one.
-/

namespace Bacnet

open Bacnet.Lib

/-- The datagram with the message. -/
def unicast (source : BacnetIpAddress) (m : NetworkMessage) : Datagram :=
  ⟨source, bvlcEncode 10 m.octets⟩

/-! ### `bip_receive` -/

/-- The octets of the message that are received. -/
theorem take_bvlcEncode (npdu : List UInt8) :
    (bvlcEncode 10 npdu).take maxMpdu =
      [0x81, 10] ++ (encodeUnsigned16 (UInt16.ofNat (4 + npdu.length)) ++
        npdu.take (maxMpdu - 4)) :=
  rfl

theorem holds_eraseMargin {m : Mem} {l : List UInt8} (h : m.Holds l) :
    (eraseMargin l.length m).Holds l := by
  intro i hi
  rw [eraseMargin, if_neg (by omega)]
  exact h i hi

theorem holds_shiftNpdu {m : Mem} {offset : Nat} {l : List UInt8} (h : (m.shift offset).Holds l) :
    (shiftNpdu offset l.length m).Holds l := by
  intro i hi
  rw [shiftNpdu, if_pos hi]
  exact h i hi

theorem bbmdAddressMatchSelf_iff {cfg : BipConfig} {addr : BacnetIpAddress} :
    bbmdAddressMatchSelf cfg addr = true ↔ addr = cfg.address := by
  obtain ⟨⟨address, port⟩, broadcast, remoteBbmd⟩ := cfg
  obtain ⟨address', port'⟩ := addr
  simp only [bbmdAddressMatchSelf, bvlcAddressDifferent, BacnetIpAddress.mk.injEq]
  by_cases ha : address = address'
  · simp [ha, eq_comm]
  · simp [ha, Ne.symm ha]

/-- The handler on a unicast message: the NPDU is behind the four octets of the header. -/
theorem bvlcBbmdEnabledHandler_unicast (cfg : BipConfig) (source : BacnetIpAddress) {mtu : Mem}
    {mtuLen : Nat} (h0 : mtu 0 = 0x81) (h1 : mtu 1 = 10) (hlen : 4 < mtuLen) :
    bvlcBbmdEnabledHandler cfg source mtu mtuLen =
      if source = cfg.address then none else some (bvlcIpAddressToBacnetLocal source, 4) := by
  have hvalid : ¬ (mtuLen < 4 ∨ mtu 0 ≠ 0x81) := by
    rintro (hlt | hne)
    · omega
    · exact hne h0
  have hnpdu : mtuLen - 4 ≠ 0 := by omega
  rw [bvlcBbmdEnabledHandler, if_neg hvalid, h1]
  change (if bbmdAddressMatchSelf cfg source = true then none
    else if mtuLen - 4 ≠ 0 then some (bvlcIpAddressToBacnetLocal source, 4) else none) = _
  simp only [bbmdAddressMatchSelf_iff, if_pos hnpdu]

/-- The NPDU of a unicast message is moved to the start of the buffer, unless it is the
client's own. -/
theorem bipReceive_unicast (cfg : BipConfig) (source : BacnetIpAddress) {npdu : List UInt8}
    (hne : npdu ≠ []) (rx : RxState) :
    ∃ own buf, buf.Holds (npdu.take (maxMpdu - 4)) ∧
      bipReceive cfg true (some ⟨source, bvlcEncode 10 npdu⟩) rx =
        if source = cfg.address then (0, { rx with rxBuf := own })
        else ((npdu.take (maxMpdu - 4)).length, ⟨bvlcIpAddressToBacnetLocal source, buf⟩) := by
  have hpos : 0 < (npdu.take (maxMpdu - 4)).length := by
    have hlen := List.length_pos_iff.mpr hne
    have hroom : 0 < maxMpdu - 4 := by decide
    rw [List.length_take]
    omega
  have hbytes := take_bvlcEncode npdu
  generalize npdu.take (maxMpdu - 4) = received at hpos hbytes
  generalize hall : (bvlcEncode 10 npdu).take maxMpdu = bytes at hbytes
  have hcount : bytes.length = 4 + received.length := by
    rw [hbytes]
    simp [encodeUnsigned16]
    omega
  have h0 : storeReceived bytes rx.rxBuf 0 = 0x81 := by
    rw [storeReceived, hbytes]
    rfl
  have hm : (eraseMargin bytes.length (storeReceived bytes rx.rxBuf)).Holds bytes :=
    holds_eraseMargin (Mem.holds_overlay bytes rx.rxBuf)
  have hheader : eraseMargin bytes.length (storeReceived bytes rx.rxBuf) 0 = 0x81 ∧
      eraseMargin bytes.length (storeReceived bytes rx.rxBuf) 1 = 10 := by
    refine ⟨(hm 0 (by omega)).trans ?_, (hm 1 (by omega)).trans ?_⟩
    · simp [hbytes]
    · simp [hbytes]
  have hnpdu : ((eraseMargin bytes.length (storeReceived bytes rx.rxBuf)).shift 4).Holds
      received := by
    rw [hbytes] at hm ⊢
    have hright := hm.right.right
    rw [Mem.shift_shift] at hright
    exact hright
  have hhandler := bvlcBbmdEnabledHandler_unicast cfg source hheader.1 hheader.2
    (show 4 < bytes.length by omega)
  refine ⟨eraseMargin bytes.length (storeReceived bytes rx.rxBuf), _, holds_shiftNpdu hnpdu, ?_⟩
  have hopen : ¬ ¬ (true = true) := not_not.mpr rfl
  have hne0 : bytes.length ≠ 0 := by omega
  rw [bipReceive, if_neg hopen]
  simp only [hall, hne0, h0, hhandler, if_false, ne_eq, not_true_eq_false]
  by_cases hself : source = cfg.address
  · simp only [hself, if_true]
  · simp only [hself, if_false, hcount, Nat.add_sub_cancel_left]

/-! ### `npdu_handler` -/

section Routing

variable {m : NetworkMessage} {pdu : Mem} {pduLen : Nat} {src : BacnetAddress}

/-- A message for the client: to the local network or a global broadcast, and not a
confirmed request that is broadcast. -/
def ForClient (m : NetworkMessage) : Prop :=
  ∀ spec ∈ m.dest, spec.net = bacnetBroadcastNetwork ∧ m.apdu.getD 0 0 &&& 0xF0 ≠ 0

theorem npduRoute_eq (h : m.WellFormed) (hm : pdu.Holds m.header)
    (hlen : m.header.length < pduLen) (hfit : m.AddressesFit) :
    npduRoute src pdu pduLen = (m.sourceAddress src,
      if (m.destAddress.net = 0 ∨ m.destAddress.net = bacnetBroadcastNetwork) ∧
          ¬ (m.destAddress.net = bacnetBroadcastNetwork ∧
            pdu m.header.length &&& 0xF0 = 0) then
        some (pdu.shift m.header.length, pduLen - m.header.length) else none) := by
  have hversion : pdu 0 = bacnetProtocolVersion := hm 0 (by simp [NetworkMessage.header])
  have hpos : 0 < m.header.length := by simp [NetworkMessage.header]
  rw [npduRoute, if_neg (by omega), if_neg (not_not.mpr hversion)]
  simp only [NetworkMessage.bacnetNpduDecode_octets h hfit hm hlen, hpos, hlen, true_and,
    Bool.false_eq_true, if_false]
  split
  · rfl
  · rfl

/-- A message for the client is passed on. -/
theorem npduRoute_forClient (h : m.WellFormed) (hm : pdu.Holds m.octets)
    (hlen : m.octets.length = pduLen) (hfit : m.AddressesFit) (hclient : ForClient m) :
    npduRoute src pdu pduLen =
      (m.sourceAddress src, some (pdu.shift m.header.length, m.apdu.length)) := by
  have hapdu := List.length_pos_iff.mpr h.apdu
  have hsplit : m.octets.length = m.header.length + m.apdu.length := List.length_append
  have hfirst : pdu m.header.length = m.apdu.getD 0 0 := by
    rw [List.getD_eq_getElem?_getD, List.getElem?_eq_getElem hapdu, Option.getD_some]
    exact hm.right 0 hapdu
  have hpass : (m.destAddress.net = 0 ∨ m.destAddress.net = bacnetBroadcastNetwork) ∧
      ¬ (m.destAddress.net = bacnetBroadcastNetwork ∧ pdu m.header.length &&& 0xF0 = 0) := by
    rw [NetworkMessage.destAddress, hfirst]
    cases hd : m.dest with
    | none => exact ⟨Or.inl rfl, fun hb => absurd hb.1 (by decide)⟩
    | some spec =>
      obtain ⟨hnet, htype⟩ := hclient spec hd
      exact ⟨Or.inr hnet, fun hb => htype hb.2⟩
  rw [npduRoute_eq h hm.left (by omega) hfit, if_pos hpass]
  rw [← hlen, hsplit, Nat.add_sub_cancel_left]

/-- Where a message that is passed on comes from. -/
theorem npduRoute_some (h : m.WellFormed) (hm : pdu.Holds m.header)
    (hlen : m.header.length < pduLen) {src' : BacnetAddress} {r : Mem × Nat}
    (hroute : npduRoute src pdu pduLen = (src', some r)) :
    m.AddressesFit ∧ src' = m.sourceAddress src := by
  by_cases hfit : m.AddressesFit
  · rw [npduRoute_eq h hm hlen hfit] at hroute
    exact ⟨hfit, (Prod.ext_iff.mp hroute).1.symm⟩
  · have hnone := NetworkMessage.bacnetNpduDecode_long h hfit hm hlen src
    unfold npduRoute at hroute
    simp only [hnone] at hroute
    split at hroute
    · cases hroute
    · split at hroute
      · cases hroute
      · split at hroute
        · cases hroute
        · cases hroute

end Routing

/-! ### Delivery -/

variable {env : Env} {source : BacnetIpAddress} {m : NetworkMessage}

/-- What the arrival of a datagram hands to `apdu_handler`: the source address, and the
octets of the APDU. -/
def CarriesApdu (env : Env) (socketOpen : Bool) (rx : RxState) (arrival : Arrival)
    (src : BacnetAddress) (pdu : List UInt8) : Prop :=
  let r := bipReceive env.bip socketOpen arrival.datagram (rx.inMemory arrival.beyond)
  r.1 > 0 ∧ ∃ apdu : Mem, apdu.Holds pdu ∧
    npduRoute r.2.src r.2.rxBuf r.1 = (src, some (apdu, pdu.length))

theorem CarriesApdu.delivered {socketOpen : Bool} {rx : RxState} {arrival : Arrival}
    {src : BacnetAddress} {pdu : List UInt8} (h : CarriesApdu env socketOpen rx arrival src pdu) :
    ∃ apdu : Mem, apdu.Holds pdu ∧
      delivered env socketOpen rx arrival = some (src, decodeApdu apdu pdu.length) := by
  obtain ⟨hpos, apdu, hm, hroute⟩ := h
  refine ⟨apdu, hm, ?_⟩
  simp only [Bacnet.delivered, hpos, if_true, hroute]

theorem octets_ne_nil (m : NetworkMessage) : m.octets ≠ [] := by
  simp [NetworkMessage.octets, NetworkMessage.header]

theorem length_header_le (h : m.WellFormed) : m.header.length ≤ 519 := by
  have hspec : ∀ spec : Option Specifier, (∀ x ∈ spec, x.adr.length < 256) →
      (NetworkMessage.specifierOctets spec).length ≤ 258 := by
    intro spec hadr
    cases spec with
    | none => exact Nat.zero_le _
    | some x =>
      have hlt := hadr x rfl
      rw [NetworkMessage.specifierOctets, Specifier.length_octets]
      omega
  have hdest := hspec m.dest fun x hx => (h.dest x hx).2
  have hsource := hspec m.source h.source
  have hhop : (if m.dest.isSome then [m.hopCount] else []).length ≤ 1 := by
    split <;> simp
  rw [NetworkMessage.length_header]
  omega

/-- A unicast message for the client carries its APDU, from the address it came from. -/
theorem carriesApdu_of_unicast (h : m.WellFormed) (hfit : m.AddressesFit) (hclient : ForClient m)
    (hself : source ≠ env.bip.address) (hsize : (bvlcEncode 10 m.octets).length ≤ maxMpdu)
    (rx : RxState) {arrival : Arrival} (hd : arrival.datagram = some (unicast source m)) :
    CarriesApdu env true rx arrival (m.sourceAddress (bvlcIpAddressToBacnetLocal source)) m.apdu := by
  obtain ⟨own, buf, hm, hrecv⟩ := bipReceive_unicast env.bip source (octets_ne_nil m)
    (rx.inMemory arrival.beyond)
  have hlen : (bvlcEncode 10 m.octets).length = 4 + m.octets.length := by
    simp [bvlcEncode, encodeUnsigned16]
    omega
  have hmax : maxMpdu = 1506 := rfl
  have hpos := List.length_pos_iff.mpr (octets_ne_nil m)
  rw [if_neg hself, List.take_of_length_le (by omega)] at hrecv
  rw [List.take_of_length_le (by omega)] at hm
  rw [CarriesApdu, hd, unicast, hrecv]
  exact ⟨hpos, buf.shift m.header.length, hm.right,
    npduRoute_forClient h hm rfl hfit hclient⟩

theorem delivered_unicast (h : m.WellFormed) (hfit : m.AddressesFit) (hclient : ForClient m)
    (hself : source ≠ env.bip.address) (hsize : (bvlcEncode 10 m.octets).length ≤ maxMpdu)
    (rx : RxState) {arrival : Arrival} (hd : arrival.datagram = some (unicast source m)) :
    ∃ apdu : Mem, apdu.Holds m.apdu ∧ delivered env true rx arrival =
      some (m.sourceAddress (bvlcIpAddressToBacnetLocal source),
        decodeApdu apdu m.apdu.length) :=
  (carriesApdu_of_unicast h hfit hclient hself hsize rx hd).delivered

/-- The source address of a unicast message that is delivered. -/
theorem source_of_delivered (h : m.WellFormed) {socketOpen : Bool} {rx : RxState}
    {arrival : Arrival} (hd : arrival.datagram = some (unicast source m)) {src : BacnetAddress}
    {a : Apdu} (hdel : delivered env socketOpen rx arrival = some (src, a)) :
    source ≠ env.bip.address ∧ m.AddressesFit ∧
      src = m.sourceAddress (bvlcIpAddressToBacnetLocal source) := by
  cases socketOpen with
  | false => cases hdel
  | true =>
    obtain ⟨own, buf, hm, hrecv⟩ := bipReceive_unicast env.bip source (octets_ne_nil m)
      (rx.inMemory arrival.beyond)
    rw [delivered, hd, unicast] at hdel
    by_cases hself : source = env.bip.address
    · simp only [hrecv, if_pos hself] at hdel
      cases hdel
    · simp only [hrecv, if_neg hself] at hdel
      have hheader := length_header_le h
      have hapdu := List.length_pos_iff.mpr h.apdu
      have hsplit : m.octets.length = m.header.length + m.apdu.length := List.length_append
      have hmax : maxMpdu = 1506 := rfl
      have hlen : m.header.length < (m.octets.take (maxMpdu - 4)).length := by
        rw [List.length_take]
        omega
      have hstart : buf.Holds m.header := by
        rw [NetworkMessage.octets, List.take_append, List.take_of_length_le (by omega)] at hm
        exact hm.left
      split at hdel
      · split at hdel
        · rename_i hroute
          cases hdel
          exact ⟨hself, npduRoute_some h hstart hlen hroute⟩
        · cases hdel
      · cases hdel

end Bacnet
