import Bacnet.Capacity
import Bacnet.Discovery
import Bacnet.Unicast

/-!
# Bacnet.Correlation

The address of a device through its five forms: the arguments of the builder, the address
that `build` makes of them, the destination of a request, the UDP endpoint and the source
specifier of a reply, and the address that the reply is looked up by.

A reply is taken for the device's exactly if it comes from the endpoint of the request and
names the network and the address that the request went to. A reply that names the network
0 counts as one that names none.
-/

namespace Bacnet

open Bacnet.Lib

variable {env : Env} {s s' : Sys} {b : BACnetDeviceBuilder}

namespace BACnetDeviceBuilder

/-- The UDP endpoint of the device, or of the router in front of it. -/
def endpoint (b : BACnetDeviceBuilder) : BacnetIpAddress := ⟨b.ip, b.port⟩

/-- The network and the address behind the router, if there is one. -/
def specifier (b : BACnetDeviceBuilder) : Option Specifier :=
  if b.dnet = 0 then none else some ⟨b.dnet, [b.dadr]⟩

/-- The message with a request to the device. -/
def request (b : BACnetDeviceBuilder) (apdu : List UInt8) : NetworkMessage :=
  ⟨0x04, b.specifier, none, hopCountDefault, apdu⟩

/-- The source specifiers of the device's messages: the destination specifier of the
requests, or, where these have none, one with the network 0. -/
def Accepts (b : BACnetDeviceBuilder) (source : Option Specifier) : Prop :=
  source = b.specifier ∨ b.dnet = 0 ∧ ∃ spec ∈ source, spec.net = 0

end BACnetDeviceBuilder

/-! ### The request -/

theorem requestMessage_build (b : BACnetDeviceBuilder) (apdu : List UInt8) :
    requestMessage b.build apdu = b.request apdu := by
  have hadr : macOctets b.build.adr b.build.len = [b.dadr] := rfl
  have hnet : b.build.net = b.dnet := rfl
  rw [requestMessage, hadr, hnet]
  rfl

theorem requestPdu_build (b : BACnetDeviceBuilder) (invokeId : UInt8) (args : ReadArgs) :
    requestPdu b.build invokeId args = (b.request (rpEncodeApdu invokeId args)).octets := by
  have hfits : AddressFits b.build := fun _ => show 1 ≤ 7 by decide
  rw [requestPdu, npduEncodePdu_eq hfits (rpEncodeApdu invokeId args), requestMessage_build]
  rfl

theorem bvlcIpAddressFromBacnetLocal_build (b : BACnetDeviceBuilder) :
    bvlcIpAddressFromBacnetLocal b.build = some b.endpoint := by
  have hport : (b.build.mac[4].toUInt16 <<< 8) ||| b.build.mac[5].toUInt16 = b.port :=
    join_octets b.port
  have hip : #v[b.build.mac[0], b.build.mac[1], b.build.mac[2], b.build.mac[3]] = b.ip := by
    refine Vector.ext fun i hi => ?_
    match i with
    | 0 => rfl
    | 1 => rfl
    | 2 => rfl
    | 3 => rfl
  rw [bvlcIpAddressFromBacnetLocal, if_pos (show b.build.macLen = 6 from rfl), hport, hip]
  rfl

/-- A request goes to the endpoint of the device. -/
theorem bvlcSendPdu_build (hnet : b.dnet ≠ bacnetBroadcastNetwork) (cfg : BipConfig)
    (socketOpen : Bool) (pdu : List UInt8) :
    bvlcSendPdu cfg socketOpen b.build pdu =
      if socketOpen then some (b.endpoint, bvlcEncode 10 pdu) else none := by
  have hbroadcast : ¬ (b.build.net = bacnetBroadcastNetwork ∨ b.build.macLen = 0) := by
    rintro (h | h)
    · exact hnet h
    · cases h
  have hremote : ¬ (b.build.net > 0 ∧ b.build.len = 0) := by
    rintro ⟨-, h⟩
    cases h
  simp only [bvlcSendPdu, if_neg hbroadcast, if_neg hremote, bvlcIpAddressFromBacnetLocal_build,
    Option.getD_some]
  rfl

/-! ### The source of a reply -/

/-- The local part of the addresses: IP address and port. -/
theorem octetsMatch_endpoint (b : BACnetDeviceBuilder) (source : BacnetIpAddress) :
    octetsMatch 6 b.build.mac (bvlcIpAddressToBacnetLocal source).mac = true ↔
      source = b.endpoint := by
  rw [octetsMatch_iff]
  constructor
  · intro h
    have h0 : b.ip[0] = source.address[0] := h 0 (by decide)
    have h1 : b.ip[1] = source.address[1] := h 1 (by decide)
    have h2 : b.ip[2] = source.address[2] := h 2 (by decide)
    have h3 : b.ip[3] = source.address[3] := h 3 (by decide)
    have h4 : (b.port >>> 8).toUInt8 = ((source.port &&& 0xff00) >>> 8).toUInt8 := h 4 (by decide)
    have h5 : (b.port &&& 0xff).toUInt8 = (source.port &&& 0xff).toUInt8 := h 5 (by decide)
    have hip : source.address = b.ip := by
      refine Vector.ext fun i hi => ?_
      rcases i with _ | _ | _ | _ | i
      · exact h0.symm
      · exact h1.symm
      · exact h2.symm
      · exact h3.symm
      · omega
    have hport : source.port = b.port := by
      rw [← join_octets source.port, ← highOctet_eq, ← h4, ← h5, join_octets]
    obtain ⟨address, port⟩ := source
    exact congrArg₂ BacnetIpAddress.mk hip hport
  · intro h i hi
    have hhigh : (b.port >>> 8).toUInt8 = ((b.port &&& 0xff00) >>> 8).toUInt8 :=
      (highOctet_eq b.port).symm
    subst h
    obtain ⟨i, hlt⟩ := i
    rcases i with _ | _ | _ | _ | _ | i
    · rfl
    · rfl
    · rfl
    · rfl
    · exact hhigh
    · have hi' : i + 5 < 6 := hi
      obtain rfl : i = 0 := by omega
      rfl

/-- The address behind a router: one octet. -/
theorem adrMatch_iff {spec : Specifier} (hfit : spec.adr.length ≤ maxMacLen)
    (addr : BacnetAddress) :
    (b.build.len = (spec.apply addr).len ∧
      octetsMatch b.build.len b.build.adr (spec.apply addr).adr = true) ↔ spec.adr = [b.dadr] := by
  have hfirst : (spec.apply addr).adr[0] = spec.adr.getD 0 (addr.adr.get 0) := by
    rw [Specifier.apply, Vector.getElem_ofFn]
    rfl
  rw [octetsMatch_iff]
  constructor
  · rintro ⟨hlen, hadr⟩
    have hone : spec.adr.length = 1 := by
      have htoNat : 1 = spec.adr.length % 256 := congrArg UInt8.toNat hlen
      have hmax : maxMacLen = 7 := rfl
      omega
    obtain ⟨octet, hoctet⟩ := List.length_eq_one_iff.mp hone
    have h0 : b.dadr = (spec.apply addr).adr[0] := hadr 0 (show 0 < 1 by decide)
    rw [hfirst, hoctet] at h0
    rw [hoctet, h0]
    rfl
  · intro hadr
    refine ⟨?_, fun i hi => ?_⟩
    · rw [Specifier.apply, hadr]
      rfl
    · replace hi : i.val < 1 := hi
      obtain rfl : i = 0 := Fin.ext (show i.val = 0 by omega)
      rw [hadr] at hfirst
      exact hfirst.symm

/-- The network and, unless the network is 0, the address there. -/
theorem remoteMatch_iff {spec : Specifier} (hfit : spec.adr.length ≤ maxMacLen)
    (addr : BacnetAddress) :
    (b.build.net = (spec.apply addr).net ∧ (b.build.net ≠ 0 →
        b.build.len = (spec.apply addr).len ∧
          octetsMatch b.build.len b.build.adr (spec.apply addr).adr = true)) ↔
      b.Accepts (some spec) := by
  rw [adrMatch_iff hfit]
  change (b.dnet = spec.net ∧ (b.dnet ≠ 0 → spec.adr = [b.dadr])) ↔ _
  obtain ⟨net, adr⟩ := spec
  by_cases h0 : b.dnet = 0
  · simp [BACnetDeviceBuilder.Accepts, BACnetDeviceBuilder.specifier, h0, eq_comm]
  · simp [BACnetDeviceBuilder.Accepts, BACnetDeviceBuilder.specifier, h0, eq_comm]

/-- The source of a message matches the address of the device exactly if the message comes
from its endpoint and names its network and address. -/
theorem addressMatch_build_iff {m : NetworkMessage} (hfit : m.AddressesFit)
    (source : BacnetIpAddress) :
    addressMatch b.build (m.sourceAddress (bvlcIpAddressToBacnetLocal source)) = true ↔
      source = b.endpoint ∧ b.Accepts m.source := by
  rw [addressMatch_iff]
  obtain ⟨flags, dest, spec, hopCount, apdu⟩ := m
  cases spec with
  | none =>
    have haccepts : b.Accepts none ↔ b.dnet = 0 := by
      by_cases h0 : b.dnet = 0
      · simp [BACnetDeviceBuilder.Accepts, BACnetDeviceBuilder.specifier, h0]
      · simp [BACnetDeviceBuilder.Accepts, BACnetDeviceBuilder.specifier, h0]
    change (6 : UInt8) = 6 ∧ octetsMatch 6 b.build.mac (bvlcIpAddressToBacnetLocal source).mac =
      true ∧ b.dnet = 0 ∧ (b.dnet ≠ 0 → _) ↔ _ ∧ b.Accepts none
    rw [octetsMatch_endpoint, haccepts]
    refine ⟨fun ⟨_, hmac, hnet, _⟩ => ⟨hmac, hnet⟩, fun ⟨hmac, hnet⟩ => ⟨rfl, hmac, hnet, ?_⟩⟩
    exact fun hne => absurd hnet hne
  | some spec =>
    have hremote := remoteMatch_iff (b := b) (hfit.2 spec rfl) (bvlcIpAddressToBacnetLocal source)
    rw [← octetsMatch_endpoint b source]
    change (6 : UInt8) = 6 ∧ octetsMatch 6 b.build.mac (bvlcIpAddressToBacnetLocal source).mac =
      true ∧ _ ↔ _ ∧ b.Accepts (some spec)
    rw [← hremote]
    exact ⟨fun h => h.2, fun h => ⟨rfl, h⟩⟩

/-! ### Answers -/

/-- The octets of the APDUs that are taken as the answer to a ReadProperty request: an
acknowledgement or an error of that service, a reject, or an abort. -/
def Answers (invokeId : UInt8) (apdu : List UInt8) : Prop :=
  3 ≤ apdu.length ∧ apdu.getD 1 0 = invokeId ∧
    match (apdu.getD 0 0 &&& 0xF0).toNat with
    -- the service choice of a segment is behind its sequence number and window size
    | 0x30 => apdu.getD (if apdu.getD 0 0 &&& 0x08 ≠ 0 then 4 else 2) 0 =
        serviceConfirmedReadProperty
    | 0x50 => apdu.getD 2 0 = serviceConfirmedReadProperty
    | 0x60 => True
    | 0x70 => True
    | _ => False

theorem getD_of_holds {m : Mem} {l : List UInt8} (h : m.Holds l) {i : Nat} (hi : i < l.length) :
    l.getD i 0 = m i := by
  rw [List.getD_eq_getElem?_getD, List.getElem?_eq_getElem hi, Option.getD_some]
  exact (h i hi).symm

theorem lt_of_getD_ne {l : List UInt8} {i : Nat} (h : l.getD i 0 ≠ 0) : i < l.length := by
  by_contra hle
  rw [List.getD_eq_getElem?_getD, List.getElem?_eq_none (Nat.le_of_not_lt hle)] at h
  exact h rfl

/-- Such an APDU releases its invoke id and says something. -/
theorem decodeApdu_of_answers {m : Mem} {apdu : List UInt8} {invokeId : UInt8} (hm : m.Holds apdu)
    (h : Answers invokeId apdu) :
    (decodeApdu m apdu.length).releases = some invokeId ∧
      ∃ r, (decodeApdu m apdu.length).answer = some r := by
  obtain ⟨hlen, hid, htype⟩ := h
  rw [getD_of_holds hm (by omega)] at hid
  rw [getD_of_holds hm (by omega)] at htype
  unfold decodeApdu
  generalize (m 0 &&& 0xF0).toNat = pduType at htype ⊢
  split at htype
  · have hservice : m (if m 0 &&& 0x08 ≠ 0 then 4 else 2) = serviceConfirmedReadProperty := by
      rw [← htype, getD_of_holds hm (lt_of_getD_ne (htype.symm ▸ by decide))]
    have hmem : (serviceConfirmedReadProperty).toNat ∈ complexAckServices := by decide
    simp only [hlen, if_true, decodeComplexAck, hservice, hmem]
    exact ⟨congrArg some hid, _, by rw [Apdu.answer, if_pos rfl]⟩
  · have hservice : m 2 = serviceConfirmedReadProperty := by
      rw [← htype, getD_of_holds hm (by omega)]
    simp only [hlen, if_true]
    exact ⟨congrArg some hid, _, if_pos hservice⟩
  · simp only [hlen, if_true]
    exact ⟨congrArg some hid, _, rfl⟩
  · simp only [hlen, if_true]
    exact ⟨congrArg some hid, _, rfl⟩
  · cases htype

/-! ### From the request to the reply -/

/-- A request that is handed to the socket could go out, over an open socket. -/
theorem sent_inv {s' : Sys} {t : Nat} {d : DeviceId} {args : ReadArgs}
    {id : UInt8} {frame : BacnetIpAddress × List UInt8}
    (hs : Step env s (.send t d args) s' (.sent id (some frame))) :
    SendReady s.stack d args ∧ id = s.stack.tsm.nextUnused ∧ s.stack.poisoned = false ∧
      s.threads t = .idle ∧ ∃ m dest, s.stack.cache.addressGetByDevice d = some (m, dest) ∧
        bvlcSendPdu env.bip s.stack.socketOpen dest (requestPdu dest id args) = some frame := by
  cases hs with
  | send _ _ _ tgt stack _ _ hth hp hl hse =>
    generalize hframe : some frame = frame' at hse
    cases hse with
    | failed tsm hn hlist hok => cases hframe
    | sent m dest i hready hg hi =>
      exact ⟨hready, rfl, hp, hth, m, dest, hg, rfl⟩

/-- A message for the client from a device that was read: it names the network and the
address of the device, and answers the request with the id. -/
structure ReplyFrom (b : BACnetDeviceBuilder) (id : UInt8) (m : NetworkMessage) : Prop where
  wellFormed : m.WellFormed
  fits : m.AddressesFit
  forClient : ForClient m
  source : b.Accepts m.source
  answers : Answers id m.apdu
  size : (bvlcEncode 10 m.octets).length ≤ maxMpdu

/-- A read that gets the message from the endpoint of the device, after waiting for a
while, takes it for the answer and returns what it says. -/
def Completes (env : Env) (s : Sys) (t : Nat) (b : BACnetDeviceBuilder) (args : ReadArgs)
    (m : NetworkMessage) : Prop :=
  ∀ (arrivals : List Arrival) (arrival : Arrival) (elapsed : Bool),
    (∀ q ∈ arrivals, q.datagram = none) → arrival.datagram = some (unicast b.endpoint m) →
    ∃ src a r s' os, delivered env true .fresh arrival = some (src, a) ∧
      addressMatch b.build src = true ∧ a.answer = some r ∧
      (client env).run s (readSteps t b.deviceId args arrivals arrival elapsed) = some (s', os) ∧
      os.getLast? = some (.returned r)

theorem completes_of_reply (hwf : s.Wf) (hrun : s.aborted = false) {t : Nat} {args : ReadArgs}
    {id : UInt8} {frame : BacnetIpAddress × List UInt8} {tgt : TargetDevice}
    (hl : s.stack.targets.lookup b.deviceId = some tgt) (haddr : tgt.addr = b.build)
    (hs : Step env s (.send t b.deviceId args) s' (.sent id (some frame)))
    (hopen : s.stack.socketOpen = true) (hself : b.endpoint ≠ env.bip.address)
    (hdist : Distinguished s (.send t b.deviceId args)) {m : NetworkMessage}
    (hm : ReplyFrom b id m) : Completes env s t b args m := by
  intro arrivals arrival elapsed hq hd
  obtain ⟨hready, hid, hp, hidle, -⟩ := sent_inv hs
  obtain ⟨apdu, hapdu, hdel⟩ := delivered_unicast hm.wellFormed hm.fits hm.forClient hself hm.size
    .fresh hd
  obtain ⟨hreleases, r, hans⟩ := decodeApdu_of_answers hapdu hm.answers
  have hmatch := (addressMatch_build_iff (b := b) hm.fits b.endpoint).mpr ⟨rfl, hm.source⟩
  have hreplies := hwf.installed (hwf.tracked _ _ hl)
  have hdel' := hdel
  rw [← hopen] at hdel'
  rw [hid] at hreleases
  obtain ⟨s'', os, hread, hlast⟩ := read_returns hwf.tsm hrun hidle hp hreplies hl hready hdist hq
    hdel' (haddr.symm ▸ hmatch) hreleases hans elapsed
  exact ⟨_, _, r, s'', os, hdel, hmatch, hans, hread, hlast⟩

/-- A `connect` that succeeds leaves its device bound and tracked at the address of the
builder. As long as it is, a request goes to the endpoint, network and address given to the
builder, a reply from there completes it, and a message from anywhere else does not match. -/
theorem correlation {es : List Event} {os : List Output}
    (hrun : (client env).run .init es = some (s, os)) (hnet : b.dnet ≠ bacnetBroadcastNetwork) :
    (∀ t s', (client env).step s (.connect t b) = some (s', .connected (.ok ())) →
      BoundAs s'.stack b) ∧
    (BoundAs s.stack b → ∀ t args s' id frame,
      (client env).step s (.send t b.deviceId args) = some (s', .sent id (some frame)) →
      frame = (b.endpoint, bvlcEncode 10 (b.request (rpEncodeApdu id args)).octets) ∧
      (b.endpoint ≠ env.bip.address → Distinguished s (.send t b.deviceId args) →
        ∀ m, ReplyFrom b id m → Completes env s t b args m)) ∧
    ∀ source m socketOpen rx arrival src a, m.WellFormed →
      arrival.datagram = some (unicast source m) →
      delivered env socketOpen rx arrival = some (src, a) →
      (addressMatch b.build src = true ↔ source = b.endpoint ∧ b.Accepts m.source) := by
  have hwf := wf_run hrun
  refine ⟨fun t s' hs => ?_, fun ⟨hbound, tgt, hl, haddr⟩ t args s' id frame hs => ?_, ?_⟩
  · obtain ⟨hget, hl⟩ := bound_of_connected (sound_run hrun) (step_cases hwf.tsm hs)
    exact ⟨hget, _, hl, rfl⟩
  · have hstep := step_cases hwf.tsm hs
    obtain ⟨-, hid, -, -, m, dest, hget, hframe⟩ := sent_inv hstep
    rw [hbound] at hget
    cases hget
    rw [bvlcSendPdu_build hnet, requestPdu_build] at hframe
    cases hopen : s.stack.socketOpen with
    | false =>
      rw [hopen] at hframe
      cases hframe
    | true =>
      rw [hopen, if_pos rfl, Option.some.injEq] at hframe
      refine ⟨hframe.symm, fun hself hdist m hm => ?_⟩
      exact completes_of_reply hwf (not_aborted_of_step hs) hl haddr hstep hopen hself hdist hm
  · intro source m socketOpen rx arrival src a hm hd hdel
    obtain ⟨-, hfit, rfl⟩ := source_of_delivered hm hd hdel
    exact addressMatch_build_iff hfit source

/-! ### Replies that are taken, and one that is not -/

/-- The output is a request with this id, handed to the socket. -/
def Output.isRequest (id : UInt8) : Output → Bool
  | sent id' (some _) => id' == id
  | _ => false

/-- The request that a run ends with. -/
theorem exists_request {es : List Event} {t : Nat} {d : DeviceId} {args : ReadArgs} {id : UInt8}
    (h : ((client env).run .init (es ++ [.send t d args])).any
      (fun r => r.2.getLast?.any (Output.isRequest id)) = true) :
    ∃ s os s' frame, (client env).run .init es = some (s, os) ∧
      (client env).step s (.send t d args) = some (s', .sent id (some frame)) := by
  obtain ⟨s, o, s', hat, ho⟩ := Machine.exists_at h
  obtain ⟨os, hbefore⟩ := hat.before
  rw [List.take_left] at hbefore
  unfold Output.isRequest at ho
  split at ho
  · rename_i id' frame
    rw [beq_iff_eq] at ho
    subst ho
    exact ⟨s, os, s', frame, hbefore, hat.step⟩
  · cases ho

/-- A device on network 7 behind the router at 10.0.0.9. -/
def routedDevice : BACnetDeviceBuilder := ⟨#v[10, 0, 0, 9], 7, 5, 47808, 12⟩

/-- An acknowledgement with the source specifier `source`. -/
def ackFrom (source : Option Specifier) : NetworkMessage :=
  ⟨0, none, source, 0, presentValueAck 1 0 42⟩

theorem replyFrom_ackFrom {source : Option Specifier} (haccepts : b.Accepts source)
    (hfit : ∀ spec ∈ source, spec.adr.length ≤ maxMacLen) : ReplyFrom b 1 (ackFrom source) where
  wellFormed :=
    { flags := show (0 : UInt8) &&& 0xA8 = 0 by decide
      dest := by
        intro spec hspec
        cases hspec
      source := fun spec hspec => Nat.lt_of_le_of_lt (hfit spec hspec) (by decide)
      apdu := List.cons_ne_nil _ _ }
  fits := by
    refine ⟨?_, hfit⟩
    intro spec hspec
    cases hspec
  forClient := by
    intro spec hspec
    cases hspec
  source := haccepts
  answers := by
    have hunsegmented : (0x30 : UInt8) &&& 0x08 = 0 := by decide
    simp [Answers, ackFrom, presentValueAck, serviceConfirmedReadProperty, hunsegmented]
  size := by
    have hspec : (NetworkMessage.specifierOctets source).length ≤ 10 := by
      cases source with
      | none => exact Nat.zero_le _
      | some spec =>
        have hadr := hfit spec rfl
        have hmac : maxMacLen = 7 := rfl
        rw [NetworkMessage.specifierOctets, Specifier.length_octets]
        omega
    have hheader : (ackFrom source).header.length = 2 + 0 +
        (NetworkMessage.specifierOctets source).length + 0 := NetworkMessage.length_header _
    have hoctets : (ackFrom source).octets.length = (ackFrom source).header.length + 14 :=
      List.length_append
    have hmax : maxMpdu = 1506 := rfl
    simp only [bvlcEncode, encodeUnsigned16, List.length_append, List.length_cons, List.length_nil]
    omega

instance (stack : Stack) (b : BACnetDeviceBuilder) : Decidable (BoundAs stack b) :=
  haveI : Decidable (∃ tgt, stack.targets.lookup b.deviceId = some tgt ∧ tgt.addr = b.build) :=
    decidable_of_iff (∃ tgt ∈ stack.targets.lookup b.deviceId, tgt.addr = b.build) Iff.rfl
  inferInstanceAs (Decidable (_ ∧ _))

theorem correlation_routedDevice :
    ∃ s os, (client lan).run .init [.connect 0 routedDevice] = some (s, os) ∧
      BoundAs s.stack routedDevice ∧
      Completes lan s 0 routedDevice presentValue (ackFrom (some ⟨7, [5]⟩)) := by
  have hsome : ((client lan).run .init
      ([.connect 0 routedDevice] ++ [.send 0 12 presentValue])).any
      (fun r => r.2.getLast?.any (Output.isRequest 1)) = true := by
    decide +kernel
  have hstate : ((client lan).run .init [.connect 0 routedDevice]).any
      (fun r => decide (BoundAs r.1.stack routedDevice ∧
        Distinguished r.1 (.send 0 12 presentValue))) = true := by
    decide +kernel
  have hnet : routedDevice.dnet ≠ bacnetBroadcastNetwork := by decide
  have hself : routedDevice.endpoint ≠ lan.bip.address := by decide
  have hreply : ReplyFrom routedDevice 1 (ackFrom (some ⟨7, [5]⟩)) := by
    refine replyFrom_ackFrom (Or.inl rfl) ?_
    intro spec hspec
    cases hspec
    decide
  obtain ⟨s, os, s', frame, hrun, hsend⟩ := exists_request hsome
  rw [hrun, Option.any_some] at hstate
  obtain ⟨hbound, hdist⟩ := of_decide_eq_true hstate
  obtain ⟨-, hcomplete, -⟩ := correlation hrun hnet
  exact ⟨s, os, hrun, hbound,
    (hcomplete hbound 0 presentValue s' 1 frame hsend).2 hself hdist _ hreply⟩

/-- A device given the client's own endpoint gets its request, but no reply from there is
delivered; and a message from the endpoint of a device on the local network matches although
it names the network 0 and an address there. -/
theorem ownEndpoint_unheard :
    (∃ s os s' frame, (client lan).run .init [.connect 0 (lanDevice 7 1)] = some (s, os) ∧
      (client lan).step s (.send 0 7 presentValue) = some (s', .sent 1 (some frame)) ∧
      ReplyFrom (lanDevice 7 1) 1 (ackFrom none) ∧
      ∀ rx arrival,
        arrival.datagram = some (unicast (lanDevice 7 1).endpoint (ackFrom none)) →
        delivered lan true rx arrival = none) ∧
    ∃ arrival src a,
      arrival.datagram = some (unicast (lanDevice 7 2).endpoint (ackFrom (some ⟨0, [9]⟩))) ∧
      delivered lan true .fresh arrival = some (src, a) ∧
      addressMatch (lanDevice 7 2).build src = true := by
  have hlocal : ReplyFrom (lanDevice 7 1) 1 (ackFrom none) := by
    refine replyFrom_ackFrom (Or.inl rfl) ?_
    intro spec hspec
    cases hspec
  have hzero : ReplyFrom (lanDevice 7 2) 1 (ackFrom (some ⟨0, [9]⟩)) := by
    refine replyFrom_ackFrom (Or.inr ⟨rfl, _, rfl, rfl⟩) ?_
    intro spec hspec
    cases hspec
    decide
  have hsome : ((client lan).run .init
      ([.connect 0 (lanDevice 7 1)] ++ [.send 0 7 presentValue])).any
      (fun r => r.2.getLast?.any (Output.isRequest 1)) = true := by
    decide +kernel
  have hself : (lanDevice 7 2).endpoint ≠ lan.bip.address := by decide
  obtain ⟨s, os, s', frame, hrun, hsend⟩ := exists_request hsome
  refine ⟨⟨s, os, s', frame, hrun, hsend, hlocal, fun rx arrival hd => ?_⟩, ?_⟩
  · cases hdel : delivered lan true rx arrival with
    | none => rfl
    | some p => exact absurd rfl (source_of_delivered hlocal.wellFormed hd hdel).1
  · let arrival : Arrival :=
      ⟨some (unicast (lanDevice 7 2).endpoint (ackFrom (some ⟨0, [9]⟩))), [], fun _ => 0⟩
    have hd : arrival.datagram =
        some (unicast (lanDevice 7 2).endpoint (ackFrom (some ⟨0, [9]⟩))) := rfl
    obtain ⟨apdu, -, hdel⟩ := delivered_unicast hzero.wellFormed hzero.fits hzero.forClient hself
      hzero.size .fresh hd
    exact ⟨arrival, _, _, hd, hdel,
      (addressMatch_build_iff hzero.fits _).mpr ⟨rfl, hzero.source⟩⟩

end Bacnet
