import Bacnet.CachedAddresses
import Bacnet.Server
import Bacnet.Storms

/-!
# Bacnet.Exchange

**From the call of one device to the values of another.** A device of the network is its
datalink and the handlers over it (`Node`). It answers a confirmed request that is sent to it
with one message, back to where the request came from (`request_answered`), nobody answers that
(`reply_unanswered`), and a read returns what the objects of the other device say
(`read_answered`).
-/

namespace Bacnet

open Bacnet.Lib

/-! ### Replies as messages -/

/-- The message with a reply for `dest`. -/
def replyMessage (dest : BacnetAddress) (apdu : List UInt8) : NetworkMessage :=
  { requestMessage dest apdu with flags := 0 }

theorem wellFormed_replyMessage (dest : BacnetAddress) {apdu : List UInt8} (h : apdu ≠ []) :
    (replyMessage dest apdu).WellFormed where
  flags := by
    change (0 : UInt8) &&& 0xA8 = 0
    decide
  dest := (wellFormed_requestMessage dest h).dest
  source := (wellFormed_requestMessage dest h).source
  apdu := h

theorem addressesFit_replyMessage (dest : BacnetAddress) (apdu : List UInt8) :
    (replyMessage dest apdu).AddressesFit :=
  addressesFit_requestMessage dest apdu

/-- `npdu_encode_pdu` writes it. -/
theorem replyPdu_eq {dest : BacnetAddress} (h : AddressFits dest) (apdu : List UInt8) :
    replyPdu dest apdu = (replyMessage dest apdu).octets := by
  have hrequest := npduEncodePdu_eq h apdu
  rw [replyPdu, NetworkMessage.octets]
  refine congrArg₂ HAppend.hAppend ?_ rfl
  by_cases hnet : dest.net = 0
  · simp [npduEncodePdu, replyMessage, requestMessage, NetworkMessage.header,
      NetworkMessage.control, NetworkMessage.specifierOctets, hnet, BacnetAddress.default]
  · have hlen : UInt8.ofNat (macOctets dest.adr dest.len).length = dest.len := by
      rw [length_macOctets, Nat.min_eq_left (h hnet), UInt8.ofNat_toNat]
    simp [npduEncodePdu, replyMessage, requestMessage, NetworkMessage.header,
      NetworkMessage.control, NetworkMessage.specifierOctets, Specifier.octets, hnet, hlen,
      BacnetAddress.default]

/-! ### A device of the network -/

/-- A device: the datalink, and the handlers over it. -/
structure Node where
  link : Bbmd
  server : Server

/-- A datagram arrives. What the datalink sends on comes first, then what the handlers answer.
`beyond` is what the receive buffer has behind the NPDU. -/
def Node.receive (node : Node) (d : Datagram) (beyond : Mem) : Node × List Transmission :=
  let r := node.link.next (.receive d)
  let replies := match r.2.npdu with
    | some (src, npdu) => node.server.npduReplies src (Mem.overlay npdu beyond) npdu.length
    | none => []
  ({ node with link := r.1 }, r.2.sent ++ replies.flatMap fun reply => r.1.bvlcSendPdu reply.1 reply.2)

theorem length_replyMessage_header_le (dest : BacnetAddress) (apdu : List UInt8) :
    (replyMessage dest apdu).header.length ≤ 13 := by
  have hdest : (NetworkMessage.specifierOctets (replyMessage dest apdu).dest).length ≤ 10 := by
    cases hspec : (replyMessage dest apdu).dest with
    | none => exact Nat.zero_le _
    | some spec =>
        have hfit := (addressesFit_replyMessage dest apdu).1 spec hspec
        have hmac : maxMacLen = 7 := rfl
        rw [NetworkMessage.specifierOctets, Specifier.length_octets]
        omega
  have hsource : (NetworkMessage.specifierOctets (replyMessage dest apdu).source).length = 0 := rfl
  have hhop := length_optional_le (p := (replyMessage dest apdu).dest.isSome = true)
    (l := [(replyMessage dest apdu).hopCount]) (n := 1) fun _ => Nat.le_refl 1
  rw [NetworkMessage.length_header]
  omega

/-- The source of a message that is received fits `BACNET_ADDRESS`. -/
theorem addressFits_sourceAddress {m : NetworkMessage} (hfit : m.AddressesFit)
    (source : BacnetIpAddress) :
    AddressFits (m.sourceAddress (bvlcIpAddressToBacnetLocal source)) := by
  intro _
  cases hspec : m.source with
  | none =>
      rw [NetworkMessage.sourceAddress, hspec]
      exact Nat.zero_le _
  | some spec =>
      have hle := hfit.2 spec hspec
      rw [NetworkMessage.sourceAddress, hspec]
      change (UInt8.ofNat spec.adr.length).toNat ≤ maxMacLen
      exact (Nat.mod_le _ _).trans hle

section Request

variable {node : Node} {source : BacnetIpAddress} {m : NetworkMessage}

/-- A message that a device hears reaches its handlers. -/
theorem receive_heard (hm : m.WellFormed) (hfit : m.AddressesFit) (hclient : ForClient m)
    {d : Datagram} {src : BacnetAddress} (hheard : node.link.hears d = some (src, m.octets))
    (beyond : Mem) :
    ∃ apdu : Mem, apdu.Holds m.apdu ∧ (node.receive d beyond).2 =
      (node.link.receive d).sent ++
        (node.server.apduReplies (m.sourceAddress src) apdu m.apdu.length).flatMap
          fun reply => (node.link.receive d).state.bvlcSendPdu reply.1 reply.2 := by
  have hholds := Mem.holds_overlay m.octets beyond
  refine ⟨(Mem.overlay m.octets beyond).shift m.header.length, hholds.right, ?_⟩
  have hnpdu : (node.link.next (.receive d)).2.npdu = some (src, m.octets) := hheard
  rw [Node.receive]
  simp only [hnpdu, Server.npduReplies, npduRoute_forClient hm hholds rfl hfit hclient]
  rfl

/-- A message is heard from a UDP endpoint. -/
theorem hears_source {link : Bbmd} {d : Datagram} {src : BacnetAddress} {npdu : List UInt8}
    (h : link.hears d = some (src, npdu)) : ∃ ip, src = bvlcIpAddressToBacnetLocal ip := by
  rw [hears_eq] at h
  obtain ⟨r, hr, hnpdu⟩ := Option.map_eq_some_iff.mp h
  obtain ⟨rfl, -⟩ := Prod.mk.inj hnpdu
  exact bvlcBbmdEnabledHandler_source hr

/-- A unicast message that reaches the network layer of a device. -/
theorem receive_unicast (hm : m.WellFormed) (hfit : m.AddressesFit) (hclient : ForClient m)
    (hself : source ≠ node.link.bip.address) (hsize : 4 + m.octets.length ≤ maxMpdu)
    (beyond : Mem) :
    ∃ (link : Bbmd) (apdu : Mem), link.bip = node.link.bip ∧ apdu.Holds m.apdu ∧
      (node.receive (unicast source m) beyond).2 =
        (node.server.apduReplies (m.sourceAddress (bvlcIpAddressToBacnetLocal source)) apdu
          m.apdu.length).flatMap fun reply => link.bvlcSendPdu reply.1 reply.2 := by
  have hpayload : (unicast source m).payload = encodeNpdu .originalUnicastNpdu maxMpdu m.octets := by
    rw [encodeNpdu, if_pos hsize]
    rfl
  have hheard : node.link.hears (unicast source m) =
      some (bvlcIpAddressToBacnetLocal source, m.octets) := by
    have h := hears_original (p := node.link) (Or.inl rfl) (octets_ne_nil m) hsize hpayload
    rwa [if_neg (show (unicast source m).source ≠ _ from hself)] at h
  have hfunction : (unicast source m).function = some .originalUnicastNpdu := by
    rw [encodeNpdu, if_pos hsize] at hpayload
    exact Datagram.function_of_header hpayload
  have hsent : (node.link.receive (unicast source m)).sent = [] := next_originalUnicast hfunction
  obtain ⟨apdu, hapdu, hreceive⟩ := receive_heard hm hfit hclient hheard beyond
  rw [hsent, List.nil_append] at hreceive
  exact ⟨_, apdu, receive_bip node.link _, hapdu, hreceive⟩

/-- Where a message came from, as a destination. -/
theorem bvlcIpAddressFromBacnetLocal_source (m : NetworkMessage) (source : BacnetIpAddress) :
    bvlcIpAddressFromBacnetLocal (m.sourceAddress (bvlcIpAddressToBacnetLocal source)) =
      some source := by
  have hsame : ∀ a : BacnetAddress, a.macLen = (bvlcIpAddressToBacnetLocal source).macLen →
      a.mac = (bvlcIpAddressToBacnetLocal source).mac →
      bvlcIpAddressFromBacnetLocal a = some source := by
    intro a hlen hmac
    have hport : (((source.port &&& 0xff00) >>> 8).toUInt8.toUInt16 <<< 8) |||
        (source.port &&& 0xff).toUInt8.toUInt16 = source.port := by
      rw [highOctet_eq]
      exact join_octets source.port
    have hip : #v[source.address[0], source.address[1], source.address[2], source.address[3]] =
        source.address := by
      refine Vector.ext fun i hi => ?_
      obtain _ | _ | _ | _ | i := i
      · rfl
      · rfl
      · rfl
      · rfl
      · omega
    rw [bvlcIpAddressFromBacnetLocal, hlen, hmac]
    change some (BacnetIpAddress.mk _ _) = _
    exact congrArg some (congrArg₂ BacnetIpAddress.mk hip hport)
  rw [NetworkMessage.sourceAddress]
  cases m.source with
  | none => exact hsame _ rfl rfl
  | some spec => exact hsame _ rfl rfl

/-- `datalink_send_pdu` with a reply: one datagram, to where the request came from. -/
theorem bvlcSendPdu_reply (link : Bbmd) (m : NetworkMessage) (source : BacnetIpAddress)
    (hnet : ∀ spec ∈ m.source, spec.net ≠ bacnetBroadcastNetwork) (pdu : List UInt8) :
    ∃ f, (f = .originalUnicastNpdu ∨ f = .originalBroadcastNpdu) ∧
      (m.source = none → f = .originalUnicastNpdu) ∧
      link.bvlcSendPdu (m.sourceAddress (bvlcIpAddressToBacnetLocal source)) pdu =
        [(source, encodeNpdu f maxMpdu pdu)] := by
  have hlocal := bvlcIpAddressFromBacnetLocal_source m source
  have hmacLen : (m.sourceAddress (bvlcIpAddressToBacnetLocal source)).macLen = 6 := by
    rw [NetworkMessage.sourceAddress]
    cases m.source with
    | none => rfl
    | some spec => rfl
  have hbroadcast : ¬ ((m.sourceAddress (bvlcIpAddressToBacnetLocal source)).net =
      bacnetBroadcastNetwork ∨
        (m.sourceAddress (bvlcIpAddressToBacnetLocal source)).macLen = 0) := by
    rw [hmacLen, NetworkMessage.sourceAddress]
    cases hspec : m.source with
    | none => exact fun h => h.elim (fun h => by cases h) fun h => by cases h
    | some spec => exact fun h => h.elim (hnet spec hspec) fun h => by cases h
  have hlocalNet : m.source = none →
      (m.sourceAddress (bvlcIpAddressToBacnetLocal source)).net = 0 := by
    intro hnone
    rw [NetworkMessage.sourceAddress, hnone]
    rfl
  generalize m.sourceAddress (bvlcIpAddressToBacnetLocal source) = src at *
  rw [Bbmd.bvlcSendPdu]
  simp only [hlocal, Option.getD_some]
  rw [if_neg hbroadcast]
  simp only [hmacLen, if_true]
  split
  · rename_i hremote
    refine ⟨.originalBroadcastNpdu, Or.inr rfl, fun hnone => ?_, rfl⟩
    rw [hlocalNet hnone] at hremote
    exact absurd hremote.1 (by decide)
  · exact ⟨.originalUnicastNpdu, Or.inl rfl, fun _ => rfl, rfl⟩

/-- The message is a confirmed request for the device it reaches. -/
structure IsRequest (m : NetworkMessage) : Prop where
  wellFormed : m.WellFormed
  fits : m.AddressesFit
  dest : m.dest = none
  confirmed : m.apdu.getD 0 0 &&& 0xF0 = 0
  size : 4 + m.octets.length ≤ maxMpdu

theorem IsRequest.forClient (hm : IsRequest m) : ForClient m := by
  intro spec hspec
  rw [hm.dest] at hspec
  cases hspec

end Request

/-! ### What a read is told -/

/-- A failure, as the other side understands it. -/
def Failure.err : Failure → BACnetErr
  | abort errorCode =>
    .aborted (bactextAbortReasonName (abortConvertErrorCode errorCode).toUInt32)
      (abortConvertErrorCode errorCode)
  | error errorClass errorCode =>
    .error (bactextErrorClassName errorClass) errorClass (bactextErrorCodeName errorCode) errorCode
  | reject errorCode => .rejected (rejectConvertErrorCode errorCode)

/-- What is returned for an outcome: the failure, or what `decode_data` makes of the octets of
the value and of the object and the property that they belong to. -/
inductive Reports (args : ReadArgs) : Except Failure (List UInt8) → Result BACnetValue → Prop
  | failed (failure : Failure) : Reports args (.error failure) (.error (.bacnetError failure.err))
  | read {data : ReadPropertyData} {octets : List UInt8} (hpayload : data.payload = octets)
      (htype : data.objectType = args.objectType)
      (hproperty : data.objectProperty = args.propertyId) :
      Reports args (.ok octets) (decodeData data)

/-- The error class and code of an Error PDU of this stack are read back. -/
theorem errorBody_encode (errorClass errorCode : UInt32) :
    ErrorBody (encodeApplicationEnumerated errorClass ++ (encodeApplicationEnumerated errorCode ++
      [])) errorClass errorCode :=
  .mk [] (numberField_enumerated errorClass) (numberField_enumerated errorCode)

/-- A failure is understood. -/
theorem Failure.answer {failure : Failure} {invokeId : UInt8} {m : Mem}
    (hm : m.Holds (failure.encodeApdu invokeId)) :
    (decodeApdu m (failure.encodeApdu invokeId).length).answer =
      some (.error (.bacnetError failure.err)) := by
  cases failure with
  | abort errorCode =>
      obtain ⟨h0, -, h2, -⟩ := header_of_holds hm
      have htype : m 0 &&& 0xF0 = 0x70 := by
        rw [h0]
        rfl
      have hlen : ((Failure.abort errorCode).encodeApdu invokeId).length = 3 := rfl
      rw [hlen, decodeApdu_abort htype (Nat.le_refl 3), h2]
      rfl
  | reject errorCode =>
      obtain ⟨h0, -, h2, -⟩ := header_of_holds hm
      have htype : m 0 &&& 0xF0 = 0x60 := by
        rw [h0]
        rfl
      have hlen : ((Failure.reject errorCode).encodeApdu invokeId).length = 3 := rfl
      rw [hlen, decodeApdu_reject htype (Nat.le_refl 3), h2]
      rfl
  | error errorClass errorCode =>
      have hbody : (Failure.error errorClass errorCode).encodeApdu invokeId =
          0x50 :: invokeId :: serviceConfirmedReadProperty ::
            (encodeApplicationEnumerated errorClass ++
              (encodeApplicationEnumerated errorCode ++ [])) := by
        rw [List.append_nil]
        rfl
      rw [hbody] at hm ⊢
      obtain ⟨h0, -, h2, hrest⟩ := header_of_holds hm
      have htype : m 0 &&& 0xF0 = 0x50 := by
        rw [h0]
        rfl
      rw [length_header, decodeApdu_error htype (Nat.le_add_right 3 _), h2,
        (errorBody_encode errorClass errorCode).decode hrest]
      rfl

/-- An acknowledgement in one message. -/
theorem answer_rpAck {invokeId : UInt8} {rest : List UInt8} {m : Mem}
    (hm : m.Holds (0x30 :: invokeId :: serviceConfirmedReadProperty :: rest))
    (hlen : 3 + rest.length < 65536) :
    (decodeApdu m (3 + rest.length)).answer = some (decodeReply (m.shift 3) rest.length) := by
  obtain ⟨h0, -, h2, -⟩ := header_of_holds hm
  have hservice : (serviceConfirmedReadProperty).toNat ∈ complexAckServices := by decide
  have hunsegmented : ¬ (0x30 : UInt8) &&& 0x08 ≠ 0 := by decide
  have hwrap : (3 + rest.length + 65536 - 3) % 65536 = rest.length := by omega
  have hack : decodeApdu m (3 + rest.length) =
      .complexAck (m 1) serviceConfirmedReadProperty (m.shift 3) rest.length := by
    unfold decodeApdu
    rw [h0]
    change (if 3 + rest.length ≥ 3 then decodeComplexAck m (3 + rest.length) else .ignored) = _
    rw [if_pos (Nat.le_add_right 3 _), decodeComplexAck, h0, if_neg hunsegmented]
    simp only [h2, hservice, if_true, hwrap]
  rw [hack, Apdu.answer, if_pos rfl]

theorem Device.objectType_resolve (dev : Device) (args : ReadArgs) :
    (dev.resolve args).objectType = args.objectType ∧
      (dev.resolve args).propertyId = args.propertyId := by
  unfold resolve
  split
  · exact ⟨rfl, rfl⟩
  · exact ⟨rfl, rfl⟩

/-- The acknowledgement is understood. -/
theorem Device.answer_acknowledge {dev : Device} {npduLen maxResp : Nat} {invokeId : UInt8}
    {args : ReadArgs} (hmax : maxResp < 65536) (htype : args.objectType.toNat ≤ bacnetMaxObject)
    (hinstance : (dev.resolve args).objectInstance.toNat ≤ bacnetMaxInstance) {m : Mem}
    (hm : m.Holds (dev.acknowledge npduLen invokeId maxResp args)) {r : Result BACnetValue}
    (hr : (decodeApdu m (dev.acknowledge npduLen invokeId maxResp args).length).answer = some r) :
    Reports args (dev.outcome npduLen maxResp args) r := by
  obtain ⟨herror, hok⟩ := dev.acknowledge_eq npduLen invokeId maxResp args
  obtain ⟨hsameType, hsameProperty⟩ := dev.objectType_resolve args
  cases h : dev.outcome npduLen maxResp args with
  | error failure =>
      rw [herror failure h] at hm hr
      cases (Failure.answer hm).symm.trans hr
      exact .failed failure
  | ok octets =>
      obtain ⟨hfit, hack⟩ := hok octets h
      -- the service part of the acknowledgement
      obtain ⟨rest, hrest⟩ : ∃ rest, rest = ackHeader (dev.resolve args).rpdata ++
          (octets ++ encodeClosingTag 3) := ⟨_, rfl⟩
      have hclosing : (encodeClosingTag 3).length = 1 := rfl
      have hlen : rest.length = (ackHeader (dev.resolve args).rpdata).length +
          (octets.length + 1) := by
        rw [hrest, List.length_append, List.length_append, hclosing]
      have hapdu : dev.acknowledge npduLen invokeId maxResp args =
          0x30 :: invokeId :: serviceConfirmedReadProperty :: rest := by
        rw [hack, rpAckEncodeApduInit_eq, hrest, List.append_assoc, List.append_assoc]
        rfl
      have hshort : 3 + rest.length < 65536 := by
        unfold initLen at hfit
        omega
      rw [hapdu] at hm hr
      rw [length_header, answer_rpAck hm hshort] at hr
      obtain ⟨-, -, -, hservice⟩ := header_of_holds hm
      rw [hrest] at hservice
      have htype' : (dev.resolve args).rpdata.objectType.toNat ≤ bacnetMaxObject := by
        change (dev.resolve args).objectType.toNat ≤ _
        rw [hsameType]
        exact htype
      have hdecode := rpAckDecodeServiceRequest_ackHeader rest.length htype' hinstance
        hservice.left (by omega)
      have hvalue := hservice.right.left
      have hleft : rest.length - (ackHeader (dev.resolve args).rpdata).length - 1 =
          octets.length := by omega
      cases hr
      rw [decodeReply, hdecode]
      refine .read ?_ hsameType hsameProperty
      rw [ReadPropertyData.payload, hleft]
      exact hvalue.slice_eq

/-- The device at 10.0.0.2, all of whose properties are 42. -/
def answeringNode : Node where
  link := .init { lan.bip with address := (lanDevice 7 2).endpoint }
  server := .installed ⟨7, by decide, 0, fun _ _ => .ok [0x21, 42]⟩

section Unanswered

variable {srv srv' : Server} {src : BacnetAddress}

/-- No handler transmits anything for an answer. -/
theorem apduReplies_of_answers {invokeId : UInt8} {a : List UInt8} (ha : Answers invokeId a)
    {apdu : Mem} (hapdu : apdu.Holds a) (n : Nat) : srv.apduReplies src apdu n = [] := by
  obtain ⟨hlen, -, hanswer⟩ := ha
  rw [getD_of_holds hapdu (by omega)] at hanswer
  unfold Server.apduReplies
  split
  · rename_i htype
    rw [htype] at hanswer
    exact hanswer.elim
  · rename_i htype
    rw [htype] at hanswer
    exact hanswer.elim
  · rfl

/-- The octets in front of an I-Am. -/
theorem iAm_header (dev : Device) {apdu : Mem} (hapdu : apdu.Holds dev.iAm) :
    2 ≤ dev.iAm.length ∧ apdu 0 = 0x10 ∧ apdu 1 = 0 := by
  have hlen : 2 ≤ dev.iAm.length := Nat.le_add_left 2 _
  exact ⟨hlen, hapdu 0 (by omega), hapdu 1 (by omega)⟩

/-- And none for an I-Am. -/
theorem apduReplies_of_iAm (dev : Device) {apdu : Mem} (hapdu : apdu.Holds dev.iAm) (n : Nat) :
    srv.apduReplies src apdu n = [] := by
  obtain ⟨-, htype, hservice⟩ := iAm_header dev hapdu
  rw [Server.apduReplies, htype]
  refine if_neg fun h => ?_
  rw [hservice] at h
  exact absurd h.2.1 (by decide)

/-- A message is not answered if its APDU is not. -/
theorem npduReplies_eq_nil {dest : BacnetAddress} (hfits : AddressFits dest) {a : List UInt8}
    (hne : a ≠ []) (ha : ∀ src (apdu : Mem), apdu.Holds a → ∀ n, srv.apduReplies src apdu n = [])
    {buf : Mem} (hbuf : buf.Holds (replyPdu dest a)) :
    srv.npduReplies src buf (replyPdu dest a).length = [] := by
  rw [replyPdu_eq hfits] at hbuf ⊢
  have hapdu : (buf.shift (replyMessage dest a).header.length).Holds a := hbuf.right
  have hlen : (replyMessage dest a).header.length < (replyMessage dest a).octets.length := by
    rw [NetworkMessage.octets, List.length_append]
    exact Nat.lt_add_of_pos_right (List.length_pos_iff.mpr hne)
  rw [Server.npduReplies, npduRoute_eq (wellFormed_replyMessage dest hne) hbuf.left hlen
    (addressesFit_replyMessage dest a)]
  split
  · rename_i hroute
    split at hroute
    · cases hroute
      exact ha _ _ hapdu _
    · cases hroute
  · rfl

/-- What the handlers transmit is not answered by anyone. -/
theorem npduReplies_of_reply (hlen : src.len.toNat ≤ maxMacLen) {pdu : Mem} {pduLen : Nat}
    {dest : BacnetAddress} {reply : List UInt8}
    (h : (dest, reply) ∈ srv.npduReplies src pdu pduLen) (src' : BacnetAddress) {buf : Mem}
    (hbuf : buf.Holds reply) : srv'.npduReplies src' buf reply.length = [] := by
  unfold Server.npduReplies at h
  split at h
  · rename_i src₁ apdu apduLen hroute
    obtain ⟨-, -, hfit⟩ := npduRoute_source hroute
    obtain ⟨-, -, a, ha, rfl⟩ | ⟨-, -, -, rfl⟩ := srv.apduReplies_cases src₁ h
    · exact npduReplies_eq_nil (fun _ => hfit hlen)
        (List.ne_nil_of_length_pos (Nat.lt_of_lt_of_le (by decide) ha.1))
        (fun _ _ hapdu n => apduReplies_of_answers ha hapdu n) hbuf
    · exact npduReplies_eq_nil (fun _ => Nat.zero_le _) (List.cons_ne_nil _ _)
        (fun _ _ hapdu n => apduReplies_of_iAm srv.device hapdu n) hbuf
  · cases h

/-- **An answer is not answered.** Whoever hears what a handler of a device transmits, the same
device included, transmits nothing of its own. -/
theorem reply_unanswered {node node' : Node} {d d' : Datagram} {src src' dest : BacnetAddress}
    {npdu reply : List UInt8} (hheard : node.link.hears d = some (src, npdu)) {beyond : Mem}
    (hreply : (dest, reply) ∈ node.server.npduReplies src (Mem.overlay npdu beyond) npdu.length)
    (hheard' : node'.link.hears d' = some (src', reply)) (beyond' : Mem) :
    (node'.receive d' beyond').2 = (node'.link.receive d').sent := by
  obtain ⟨source, rfl⟩ := hears_source hheard
  have hnone : node'.server.npduReplies src' (Mem.overlay reply beyond') reply.length = [] :=
    npduReplies_of_reply (Nat.zero_le _) hreply src' (Mem.holds_overlay _ _)
  have hnpdu : (node'.link.next (.receive d')).2.npdu = some (src', reply) := hheard'
  rw [Node.receive]
  simp only [hnpdu, hnone, List.flatMap_nil, List.append_nil]
  rfl

/-- The Reject of the device at 10.0.0.2, if it is sent back to the device. -/
theorem reply_unanswered_reject :
    (answeringNode.receive ⟨remoteNode, encodeNpdu .originalUnicastNpdu maxMpdu [1, 0, 96, 0, 9]⟩
      fun _ => 0).2 = [] :=
  reply_unanswered (d := ⟨remoteNode, encodeNpdu .originalUnicastNpdu maxMpdu [1, 0, 0]⟩)
    (show answeringNode.link.hears _ =
      some (bvlcIpAddressToBacnetLocal remoteNode, [1, 0, 0]) by decide +kernel)
    (show (bvlcIpAddressToBacnetLocal remoteNode, [1, 0, 96, 0, 9]) ∈
      answeringNode.server.npduReplies _ (Mem.overlay [1, 0, 0] fun _ => 0) 3 by decide +kernel)
    (show answeringNode.link.hears _ =
      some (bvlcIpAddressToBacnetLocal remoteNode, [1, 0, 96, 0, 9]) by decide +kernel) _

end Unanswered

/-! ### A request of a client -/

/-- What `decode_max_apdu` makes of what a client writes. -/
theorem decodeMaxApdu_client : decodeMaxApdu (encodeMaxSegsMaxApdu 0 maxApdu) = 1476 := by decide

/-- The request of a call is taken apart as it was put together. -/
theorem apduDecodeConfirmedServiceRequest_client {invokeId : UInt8} {args : ReadArgs} {apdu : Mem}
    (hm : apdu.Holds (rpEncodeApdu invokeId args)) :
    let r := apduDecodeConfirmedServiceRequest apdu (rpEncodeApdu invokeId args).length
    r.serviceData.segmentedMessage = false ∧ r.serviceData.maxResp = 1476 ∧
      r.serviceData.invokeId = invokeId ∧ r.serviceChoice = serviceConfirmedReadProperty ∧
      r.serviceRequest.Holds (serviceOctets args) ∧
      r.serviceLen = (serviceOctets args).length := by
  have hlen : (rpEncodeApdu invokeId args).length = 4 + (serviceOctets args).length := by
    rw [rpEncodeApdu_eq, List.length_append]
    rfl
  rw [rpEncodeApdu_eq] at hm
  obtain ⟨h0, h1, h2, hrest⟩ := header_of_holds hm
  obtain ⟨h3, -⟩ := Mem.holds_cons.mp hrest
  have hservice := hm.right
  have hmax : decodeMaxApdu (apdu 1) = 1476 := by
    rw [h1]
    exact decodeMaxApdu_client
  have hunsegmented : decide (apdu 0 &&& 0x08 ≠ 0) = false := by
    rw [h0]
    rfl
  rw [hlen, apduDecodeConfirmedServiceRequest, if_neg (by omega)]
  simp only [hunsegmented, Bool.false_eq_true, if_false]
  rw [if_neg (by omega)]
  exact ⟨rfl, hmax, h2, h3, hservice, Nat.add_sub_cancel_left 4 _⟩

namespace Server

/-- The handlers of a device that may answer tell it the outcome. -/
theorem apduReplies_client {srv : Server} (hread : srv.handlers.readProperty = true)
    (hdcc : srv.dcc ≠ .disable) (src : BacnetAddress) {invokeId : UInt8} {args : ReadArgs}
    (hin : InRange args) {apdu : Mem} (hm : apdu.Holds (rpEncodeApdu invokeId args)) :
    srv.apduReplies src apdu (rpEncodeApdu invokeId args).length =
      [(src, replyPdu src (srv.device.acknowledge (npduEncodePdu src .default false).length
        invokeId 1476 args))] := by
  obtain ⟨hseg, hmax, hid, hchoice, hrequest, hlen⟩ := apduDecodeConfirmedServiceRequest_client hm
  have htype : (apdu 0 &&& 0xF0).toNat = 0 := by
    rw [rpEncodeApdu_eq] at hm
    rw [(header_of_holds hm).1]
    rfl
  have hallowed : apduConfirmedDccDisabled srv.dcc serviceConfirmedReadProperty = false := by
    simp [apduConfirmedDccDisabled, hdcc]
  simp only [apduReplies, htype, hchoice, hallowed, hread, handlerReadProperty, hseg, hmax, hid,
    hlen, rpDecodeServiceRequest_ok hin hrequest, Bool.false_eq_true, if_false, and_self, if_true]

end Server

/-- A value that the device encodes with the stack comes back. -/
theorem Reports.value {args : ReadArgs} {value : ApplicationDataValue} {octets : List UInt8}
    {r : Result BACnetValue} (h : Reports args (.ok octets) r) (hvalue : Supported value)
    (henc : bacappEncodeApplicationData value = some octets) :
    ∃ v, r = .ok v ∧ Corresponds value v := by
  obtain ⟨v, hv⟩ := hvalue
  cases h with
  | @read data _ hpayload htype hproperty =>
      obtain ⟨e, rfl, haccepted, hlegible, hrep⟩ :=
        encoded_of_corresponds ⟨fun _ => none, fun _ => none⟩ hv henc
      have hbegins : e.octets <+: data.payload := ⟨[], by rw [hpayload, List.append_nil]⟩
      obtain ⟨v', hv', hrep'⟩ := decodeData_accepted hbegins haccepted
      exact ⟨v', hv', hv.of_represents hrep (hrep'.mpr hlegible)⟩

/-- The own instance of a device and every other one have a place in an acknowledgement. -/
theorem Device.objectInstance_resolve_le (dev : Device) {args : ReadArgs} (hin : InRange args) :
    (dev.resolve args).objectInstance.toNat ≤ bacnetMaxInstance := by
  unfold resolve
  split
  · exact dev.instance_le
  · exact hin.objectInstance

/-- An answer is short enough to be sent and received in one datagram. -/
theorem Device.length_acknowledge_le (dev : Device) (npduLen : Nat) (invokeId : UInt8)
    (args : ReadArgs) : (dev.acknowledge npduLen invokeId 1476 args).length ≤ 1476 := by
  obtain ⟨herror, hok⟩ := dev.acknowledge_eq npduLen invokeId 1476 args
  cases h : dev.outcome npduLen 1476 args with
  | error failure =>
      rw [herror failure h]
      cases failure with
      | abort errorCode => exact (by decide : 3 ≤ 1476)
      | reject errorCode => exact (by decide : 3 ≤ 1476)
      | error errorClass errorCode =>
          have hlen : ∀ value : UInt32, (encodeApplicationEnumerated value).length ≤ 5 := by
            intro value
            have hle := bacnetUnsignedLength_le value.toNat_lt
            simp only [encodeApplicationEnumerated, encodeBacnetEnumerated, encodeBacnetUnsigned,
              List.length_append, length_toBe]
            rw [length_encodeTag_le (by decide) false hle]
            omega
          have hclass := hlen errorClass
          have hcode := hlen errorCode
          simp only [Failure.encodeApdu, bacerrorEncodeApdu, List.length_append, List.length_cons,
            List.length_nil]
          omega
  | ok octets =>
      obtain ⟨hfit, hack⟩ := hok octets h
      rw [hack, List.length_append, List.length_append, length_rpAckEncodeApduInit]
      exact hfit

section Read

variable {env : Env} {s s' : Sys} {es : List Event} {os : List Output} {b : BACnetDeviceBuilder}
  {t : Nat} {id : UInt8} {args : ReadArgs} {frame : BacnetIpAddress × List UInt8} {node : Node}

/-- The request to a device of the own network. -/
theorem isRequest_local (hlocal : b.dnet = 0) (id : UInt8) (args : ReadArgs) :
    IsRequest (b.request (rpEncodeApdu id args)) := by
  have hnone : b.specifier = none := if_pos hlocal
  have hapdu := length_rpEncodeApdu_le id args
  have hne : rpEncodeApdu id args ≠ [] := by
    rw [rpEncodeApdu_eq]
    exact List.cons_ne_nil _ _
  have hmax : maxMpdu = 1506 := rfl
  have hheader : (b.request (rpEncodeApdu id args)).header.length = 2 := by
    rw [NetworkMessage.length_header, BACnetDeviceBuilder.request, hnone]
    rfl
  have hsize : (b.request (rpEncodeApdu id args)).octets.length =
      (b.request (rpEncodeApdu id args)).header.length + (rpEncodeApdu id args).length :=
    List.length_append
  refine ⟨?_, ?_, hnone, ?_, by omega⟩
  · rw [← requestMessage_build]
    exact wellFormed_requestMessage _ hne
  · rw [← requestMessage_build]
    exact addressesFit_requestMessage _ _
  · change (rpEncodeApdu id args).getD 0 0 &&& 0xF0 = 0
    rw [rpEncodeApdu_eq]
    change (0 : UInt8) &&& 0xF0 = 0
    decide

/-- The device that the request reaches sends one datagram back. -/
theorem receive_request (id : UInt8) (hlocal : b.dnet = 0) {source : BacnetIpAddress}
    (hself : source ≠ node.link.bip.address) (hread : node.server.handlers.readProperty = true)
    (hdcc : node.server.dcc ≠ .disable) (hin : InRange args) (beyond : Mem) :
    ∃ dest : BacnetAddress, dest.net = 0 ∧
      (node.receive (unicast source (b.request (rpEncodeApdu id args))) beyond).2 =
        [(source, bvlcEncode 10
          (replyMessage dest (node.server.device.acknowledge 2 id 1476 args)).octets)] := by
  have hm := isRequest_local hlocal id args
  obtain ⟨link, apdu, -, hapdu, hreceive⟩ :=
    receive_unicast hm.wellFormed hm.fits hm.forClient hself hm.size beyond
  obtain ⟨f, -, hunicast, hsend⟩ := bvlcSendPdu_reply link (b.request (rpEncodeApdu id args))
    source (by intro spec hspec; cases hspec)
    (replyPdu ((b.request (rpEncodeApdu id args)).sourceAddress (bvlcIpAddressToBacnetLocal source))
      (node.server.device.acknowledge 2 id 1476 args))
  obtain rfl := hunicast rfl
  have hfits := addressFits_sourceAddress hm.fits source
  have hnet : ((b.request (rpEncodeApdu id args)).sourceAddress
      (bvlcIpAddressToBacnetLocal source)).net = 0 := rfl
  generalize (b.request (rpEncodeApdu id args)).sourceAddress
    (bvlcIpAddressToBacnetLocal source) = src at *
  have hnpdu : (npduEncodePdu src .default false).length = 2 := by
    simp [npduEncodePdu, hnet, BacnetAddress.default]
  have hreplies := Server.apduReplies_client hread hdcc src hin hapdu
  rw [hnpdu] at hreplies
  refine ⟨src, hnet, ?_⟩
  have hheader := length_replyMessage_header_le src
    (node.server.device.acknowledge 2 id 1476 args)
  have hlen := node.server.device.length_acknowledge_le 2 id args
  have hoctets : (replyMessage src (node.server.device.acknowledge 2 id 1476 args)).octets.length =
      (replyMessage src (node.server.device.acknowledge 2 id 1476 args)).header.length +
        (node.server.device.acknowledge 2 id 1476 args).length := List.length_append
  have hmax : maxMpdu = 1506 := rfl
  rw [replyPdu_eq hfits, encodeNpdu, if_pos (by omega)] at hsend
  rw [hreceive]
  change (node.server.apduReplies src apdu (rpEncodeApdu id args).length).flatMap _ = _
  rw [hreplies, List.flatMap_singleton, replyPdu_eq hfits, hsend]
  rfl

/-- **A read is answered by the objects of the device.** When the request of a call reaches the
device that it is for, one datagram is sent back to the client, and when the client gets it,
the call returns the outcome. A value that the device encodes comes back as it was. -/
theorem read_answered (hrun : (client env).run .init es = some (s, os))
    (hbound : BoundAs s.stack b) (hlocal : b.dnet = 0)
    (hs : (client env).step s (.send t b.deviceId args) = some (s', .sent id (some frame)))
    (hdist : Distinguished s (.send t b.deviceId args)) (hself : b.endpoint ≠ env.bip.address)
    (hin : InRange args) (haddress : node.link.bip.address = b.endpoint)
    (hread : node.server.handlers.readProperty = true) (hdcc : node.server.dcc ≠ .disable)
    (beyond : Mem) :
    frame.1 = b.endpoint ∧ ∃ reply,
      (node.receive ⟨env.bip.address, frame.2⟩ beyond).2 = [(env.bip.address, reply)] ∧
      ∀ (arrivals : List Arrival) (arrival : Arrival) (elapsed : Bool),
        (∀ q ∈ arrivals, q.datagram = none) → arrival.datagram = some ⟨b.endpoint, reply⟩ →
        ∃ r s'' os', (client env).run s (readSteps t b.deviceId args arrivals arrival elapsed) =
            some (s'', os') ∧ os'.getLast? = some (.returned r) ∧
          Reports args (node.server.device.outcome 2 1476 args) r ∧
          ∀ value octets, node.server.device.outcome 2 1476 args = .ok octets →
            Supported value → bacappEncodeApplicationData value = some octets →
            ∃ v, r = .ok v ∧ Corresponds value v := by
  have hwf := wf_run hrun
  have hstep := step_cases hwf.tsm hs
  obtain ⟨hget, tgt, hl, haddr⟩ := hbound
  have hnet : b.dnet ≠ bacnetBroadcastNetwork := by
    rw [hlocal]
    decide
  -- the request that the client has sent
  obtain ⟨-, hid, -, -, m, dest, hdest, hframe⟩ := sent_inv hstep
  cases hget.symm.trans hdest
  rw [bvlcSendPdu_build hnet, requestPdu_build] at hframe
  obtain ⟨hopen, hsome⟩ := Option.ite_none_right_eq_some.mp hframe
  cases hsome
  refine ⟨rfl, ?_⟩
  -- the answer of the device
  have hother : env.bip.address ≠ node.link.bip.address := by
    rw [haddress]
    exact Ne.symm hself
  obtain ⟨src, hsrc, hsent⟩ := receive_request id hlocal hother hread hdcc hin beyond
  refine ⟨_, hsent, fun arrivals arrival elapsed hq hd => ?_⟩
  have hanswers := node.server.device.answers_acknowledge 2 id 1476 args
  have hlen := node.server.device.length_acknowledge_le 2 id args
  have hne : node.server.device.acknowledge 2 id 1476 args ≠ [] :=
    List.ne_nil_of_length_pos (Nat.lt_of_lt_of_le (by decide) hanswers.1)
  have hfits := addressesFit_replyMessage src (node.server.device.acknowledge 2 id 1476 args)
  have hlocalReply : (replyMessage src (node.server.device.acknowledge 2 id 1476 args)).dest =
      none := if_pos hsrc
  have hheader := length_replyMessage_header_le src
    (node.server.device.acknowledge 2 id 1476 args)
  have hmax : maxMpdu = 1506 := rfl
  have hreply : ReplyFrom b id
      (replyMessage src (node.server.device.acknowledge 2 id 1476 args)) :=
    { wellFormed := wellFormed_replyMessage src hne
      fits := hfits
      forClient := by
        intro spec hspec
        rw [hlocalReply] at hspec
        cases hspec
      source := Or.inl (if_pos hlocal).symm
      answers := hanswers
      size := by
        simp only [bvlcEncode, encodeUnsigned16, NetworkMessage.octets, List.length_append,
          List.length_cons, List.length_nil]
        change 1 + 1 + 2 + (_ + (node.server.device.acknowledge 2 id 1476 args).length) ≤ maxMpdu
        omega }
  -- what the call makes of it
  obtain ⟨src', a, r, s'', os', hdel, -, hanswer, hreads, hlast⟩ := completes_of_reply hwf
    (not_aborted_of_step hs) hl haddr hstep hopen hself hdist hreply arrivals arrival elapsed hq hd
  obtain ⟨apdu, hapdu, hdel'⟩ := delivered_unicast hreply.wellFormed hreply.fits
    hreply.forClient hself hreply.size .fresh hd
  cases hdel.symm.trans hdel'
  have hreports := Device.answer_acknowledge (by decide : 1476 < 65536) hin.objectType
    (node.server.device.objectInstance_resolve_le hin) hapdu hanswer
  refine ⟨r, s'', os', hreads, hlast, hreports, fun value octets hok hvalue henc => ?_⟩
  rw [hok] at hreports
  exact hreports.value hvalue henc

end Read

/-- There is one number for an unsigned. -/
theorem Corresponds.eq_uint {value : ApplicationDataValue} {v : BACnetValue}
    (h : Corresponds value v) (htag : value.tag = 2) : v = .uint value.unsignedInt := by
  cases h
  case unsigned => rfl
  all_goals simp_all

theorem read_answered_lanDevice :
    ∃ s s' frame reply, (client lan).step s (.send 0 7 presentValue) =
        some (s', .sent 1 (some frame)) ∧
      (answeringNode.receive ⟨lan.bip.address, frame.2⟩ fun _ => 0).2 =
        [(lan.bip.address, reply)] ∧
      ∃ s'' os, (client lan).run s (readSteps 0 7 presentValue []
          ⟨some ⟨(lanDevice 7 2).endpoint, reply⟩, [], fun _ => 0⟩ false) = some (s'', os) ∧
        os.getLast? = some (.returned (.ok (.uint 42))) := by
  have hsome : ((client lan).run .init
      ([.connect 0 (lanDevice 7 2)] ++ [.send 0 7 presentValue])).any
      (fun r => r.2.getLast?.any (Output.isRequest 1)) = true := by
    decide +kernel
  have hstate : ((client lan).run .init [.connect 0 (lanDevice 7 2)]).any
      (fun r => decide (BoundAs r.1.stack (lanDevice 7 2) ∧
        Distinguished r.1 (.send 0 7 presentValue))) = true := by
    decide +kernel
  have hin : InRange presentValue := ⟨by decide, by decide, by decide⟩
  obtain ⟨s, os, s', frame, hrun, hsend⟩ := exists_request hsome
  rw [hrun, Option.any_some] at hstate
  obtain ⟨hbound, hdist⟩ := of_decide_eq_true hstate
  obtain ⟨-, reply, hsent, hcall⟩ := read_answered hrun hbound rfl hsend hdist (by decide) hin
    (show answeringNode.link.bip.address = (lanDevice 7 2).endpoint from rfl) rfl (by decide)
    fun _ => 0
  obtain ⟨r, s'', os', hreads, hlast, -, hvalue⟩ := hcall []
    ⟨some ⟨(lanDevice 7 2).endpoint, reply⟩, [], fun _ => 0⟩ false
    (by intro q hq; cases hq) rfl
  have houtcome : answeringNode.server.device.outcome 2 1476 presentValue = .ok [0x21, 42] := rfl
  obtain ⟨v, rfl, hv⟩ := hvalue
    { ApplicationDataValue.default with tag := 2, unsignedInt := 42 } _ houtcome
    ⟨_, .unsigned rfl⟩ rfl
  rw [hv.eq_uint rfl] at hlast
  exact ⟨s, s', frame, reply, hsend, hsent, s'', os', hreads, hlast⟩

end Bacnet
