import Bacnet.DiscoveredAddress
import Bacnet.Exchange
import Bacnet.IAmBodies

/-!
# Bacnet.WhoIs

**How devices are found.** A device that hears a Who-Is broadcasts an I-Am, and a client that
looks for devices and hears the I-Am records the device, and with it what it takes to connect
(`whoIs_answered`). It makes no difference whether they hear the broadcasts themselves or what
a BBMD forwards of them (`Bacnet.Forwarding`).
-/

namespace Bacnet

open Bacnet.Lib

/-! ### Broadcasts as messages -/

/-- The message that is broadcast with an APDU. -/
def broadcastMessage (apdu : List UInt8) : NetworkMessage := replyMessage broadcastAddress apdu

theorem replyPdu_broadcast (apdu : List UInt8) :
    replyPdu broadcastAddress apdu = (broadcastMessage apdu).octets :=
  replyPdu_eq (fun _ => Nat.zero_le _) apdu

/-- The Who-Is of a client is such a message. -/
theorem whoIsPdu_eq : (whoIsPdu none).2 = (broadcastMessage [0x10, 8]).octets :=
  replyPdu_broadcast [0x10, 8]

/-- What is not a confirmed request is passed on by every device. -/
theorem forClient_broadcastMessage {apdu : List UInt8} (h : apdu.getD 0 0 &&& 0xF0 ≠ 0) :
    ForClient (broadcastMessage apdu) := by
  intro spec hspec
  have hdest : (broadcastMessage apdu).dest = some ⟨bacnetBroadcastNetwork, []⟩ := rfl
  rw [hdest] at hspec
  cases hspec
  exact ⟨rfl, h⟩

/-! ### The device -/

section Device

variable {node : Node}

/-- `apdu_handler` with a Who-Is. -/
theorem Server.apduReplies_whoIs {srv : Server} (hwhoIs : srv.handlers.whoIs = true)
    (hdcc : srv.dcc ≠ .disable) (src : BacnetAddress) {apdu : Mem} (hapdu : apdu.Holds [0x10, 8]) :
    srv.apduReplies src apdu 2 = [(broadcastAddress, replyPdu broadcastAddress srv.device.iAm)] := by
  have htype : apdu 0 = 0x10 := hapdu 0 (by decide)
  have hservice : apdu 1 = 8 := hapdu 1 (by decide)
  have hallowed : ¬ apduUnconfirmedDccDisabled srv.dcc = true := by
    simp [apduUnconfirmedDccDisabled, hdcc]
  rw [apduReplies, htype]
  exact if_pos ⟨Nat.le_refl 2, hservice, hwhoIs, hallowed, rfl⟩

/-- A broadcast of a device that is not a foreign device goes to its subnet. -/
theorem mem_bvlcSendPdu_broadcast (link : Bbmd) (hport : link.bip.remoteBbmd.port = 0)
    (pdu : List UInt8) : (link.bip.broadcast, bvlcEncodeOriginalBroadcast maxMpdu pdu) ∈
      link.bvlcSendPdu broadcastAddress pdu := by
  have hbroadcast : broadcastAddress.net = bacnetBroadcastNetwork ∨ broadcastAddress.macLen = 0 :=
    Or.inl rfl
  rw [Bbmd.bvlcSendPdu, if_pos hbroadcast, if_neg (not_not.mpr hport)]
  exact List.mem_append_right _ (List.mem_singleton_self _)

theorem length_encodeTag_le_seven (tagNumber : UInt8) (contextSpecific : Bool) (n : Nat) :
    (encodeTag tagNumber contextSpecific n).length ≤ 7 := by
  unfold encodeTag
  simp only
  split_ifs
  all_goals simp [length_toBe]

/-- An I-Am is short. -/
theorem Device.length_iAm_le (dev : Device) : dev.iAm.length ≤ 58 := by
  have hobject : (encodeBacnetObjectId 8 dev.objectInstanceNumber).length = 4 := length_toBe _ _
  have hnumber : ∀ value < 2 ^ 64, (encodeBacnetUnsigned value).length ≤ 8 := by
    intro value hvalue
    rw [encodeBacnetUnsigned, length_toBe]
    exact (bacnetUnsignedLength_spec hvalue).2.1
  have hmaxApdu := hnumber _ (UInt32.ofNat maxApdu).toUInt64.toNat_lt
  have hsegmentation := hnumber (3 : UInt32).toNat (by decide)
  have hvendor := hnumber _ dev.vendorIdentifier.toUInt64.toNat_lt
  have htag := length_encodeTag_le_seven
  have h₁ := htag 12 false 4
  have h₂ := htag 2 false (bacnetUnsignedLength (UInt32.ofNat maxApdu).toUInt64.toNat)
  have h₃ := htag 9 false (encodeBacnetUnsigned (3 : UInt32).toNat).length
  have h₄ := htag 2 false (bacnetUnsignedLength dev.vendorIdentifier.toUInt64.toNat)
  rw [iAm, iamEncodeApdu, encodeApplicationObjectId, encodeApplicationUnsigned,
    encodeApplicationEnumerated, encodeApplicationUnsigned, encodeBacnetEnumerated]
  simp only [List.length_append, List.length_cons, List.length_nil]
  omega

/-- The I-Am of a device that hears a Who-Is. -/
theorem receive_whoIs (hwhoIs : node.server.handlers.whoIs = true)
    (hdcc : node.server.dcc ≠ .disable) (hport : node.link.bip.remoteBbmd.port = 0)
    {d : Datagram} {src : BacnetAddress}
    (hheard : node.link.hears d = some (src, (whoIsPdu none).2)) (beyond : Mem) :
    (node.link.bip.broadcast, bvlcEncodeOriginalBroadcast maxMpdu
      (broadcastMessage node.server.device.iAm).octets) ∈ (node.receive d beyond).2 := by
  rw [whoIsPdu_eq] at hheard
  obtain ⟨apdu, hapdu, hreceive⟩ := receive_heard
    (wellFormed_replyMessage _ (List.cons_ne_nil 0x10 [8])) (addressesFit_replyMessage _ _)
    (forClient_broadcastMessage (by decide)) hheard beyond
  have hbip := receive_bip node.link d
  have hsent := mem_bvlcSendPdu_broadcast (node.link.receive d).state (hbip ▸ hport)
    (broadcastMessage node.server.device.iAm).octets
  rw [hbip] at hsent
  rw [hreceive]
  refine List.mem_append_right _ ?_
  change _ ∈ (node.server.apduReplies _ apdu 2).flatMap _
  rw [Server.apduReplies_whoIs hwhoIs hdcc _ hapdu, List.flatMap_singleton, replyPdu_broadcast]
  exact hsent

end Device

/-! ### The client -/

section Client

variable {env : Env} {m : NetworkMessage} {d : Datagram} {source : BacnetIpAddress}

/-- A message that a client hears carries its APDU. -/
theorem carriesApdu_of_hears (hm : m.WellFormed) (hfit : m.AddressesFit) (hclient : ForClient m)
    (hhears : (Bbmd.init env.bip).hears d = some (bvlcIpAddressToBacnetLocal source, m.octets))
    (rx : RxState) {arrival : Arrival} (hd : arrival.datagram = some d) :
    CarriesApdu env true rx arrival (m.sourceAddress (bvlcIpAddressToBacnetLocal source))
      m.apdu := by
  obtain ⟨buf, hbuf, hrecv⟩ := bipReceive_of_hears hhears (rx.inMemory arrival.beyond)
  change bipReceive env.bip true (some d) _ = _ at hrecv
  rw [CarriesApdu, hd, hrecv]
  exact ⟨List.length_pos_iff.mpr (octets_ne_nil m), buf.shift m.header.length, hbuf.right,
    npduRoute_forClient hm hbuf rfl hfit hclient⟩

/-- `apdu_handler` with the I-Am of a device. -/
theorem decodeApdu_iAm (dev : Device) {apdu : Mem} (hapdu : apdu.Holds dev.iAm) :
    decodeApdu apdu dev.iAm.length = .iAm (apdu.shift 2) ∧
      (apdu.shift 2).Holds (dev.iAm.drop 2) := by
  obtain ⟨hlen, htype, hservice⟩ := iAm_header dev hapdu
  refine ⟨?_, Mem.Holds.right (a := [0x10, 0]) hapdu⟩
  rw [decodeApdu, htype]
  exact if_pos ⟨hlen, hservice⟩

/-- What `i_am_handler` makes of the I-Am of a device. -/
theorem iAmRecord_iAm (dev : Device) {request : Mem} (hm : request.Holds (dev.iAm.drop 2))
    {src : BacnetAddress} (hlen : src.macLen = 6) (hnet : src.net = 0) :
    ∃ device, iAmRecord request src = some device ∧
      device.deviceId = dev.objectInstanceNumber ∧ device.maxApdu = UInt32.ofNat maxApdu ∧
      device.vendorId = dev.vendorIdentifier ∧ device.networkNumber = 0 := by
  have hbody : IAmBody (dev.iAm.drop 2) ⟨dev.objectInstanceNumber.toNat,
      (UInt32.ofNat maxApdu).toNat, (3 : UInt32).toNat, dev.vendorIdentifier.toNat⟩ :=
    iamBody_encode _ _ dev.instance_le (by decide)
  have hdecode := hbody.iAmLike.decode hm
  have hcopy : copyFromSlice src.mac src.macLen = some _ := if_pos (by rw [hlen]; decide)
  simp only [UInt32.ofNat_toNat, UInt16.ofNat_toNat] at hdecode
  rw [iAmRecord, hdecode, Option.bind_some, hcopy, Option.bind_some, hnet, if_neg (by decide),
    Option.map_some]
  exact ⟨_, rfl, rfl, rfl, rfl, rfl⟩

/-- The thread `t` is in the receive loop of `whois`, and I-Ams are passed on to it. -/
structure Looking (s : Sys) (t : Nat) (rx : RxState) : Prop where
  running : s.aborted = false
  thread : s.threads t = .discovering rx
  socketOpen : s.stack.socketOpen = true
  allowed : s.stack.dcc = .enable
  handler : s.stack.handlers.iAm = some .iAmHandler

/-- What is carried is handed to `apdu_handler`. -/
theorem receiveStep_of_carriesApdu {s : Stack} {rx : RxState} {arrival : Arrival}
    {src : BacnetAddress} {pdu : List UInt8}
    (h : CarriesApdu env s.socketOpen rx arrival src pdu) :
    ∃ apdu rx', apdu.Holds pdu ∧ receiveStep env s rx arrival =
      (apduHandler arrival.order s src apdu pdu.length).map fun s' => (s', rx') := by
  obtain ⟨hpos, apdu, hapdu, hroute⟩ := h
  rw [receiveStep]
  cases hb : bipReceive env.bip s.socketOpen arrival.datagram (rx.inMemory arrival.beyond) with
  | mk pduLen rx₁ =>
      rw [hb] at hpos hroute
      refine ⟨apdu, { rx₁ with src := src }, hapdu, ?_⟩
      simp only [hpos, if_true, npduHandler, hroute, Option.map_map]
      rfl

/-- `apdu_handler` appends the record of an I-Am to what was discovered. -/
theorem apduHandler_iAm {s : Stack} {apdu request : Mem} {apduLen : Nat} {src : BacnetAddress}
    {device : IAmDevice} (hdcc : s.dcc = .enable) (hhandler : s.handlers.iAm = some .iAmHandler)
    (hdecode : decodeApdu apdu apduLen = .iAm request)
    (hrecord : iAmRecord request src = some device) (order : List DeviceId) :
    apduHandler order s src apdu apduLen =
      some { s with discovered := s.discovered ++ [device] } := by
  have hallowed : ¬ s.dcc ≠ .enable := not_not.mpr hdcc
  rw [apduHandler, hdecode]
  simp only [hallowed, if_false, hhandler]
  obtain ⟨-, hnone⟩ | hsome := iAmHandler_cases s request src
  · cases hrecord.symm.trans hnone
  · rw [hsome, hrecord]
    rfl

/-- A client that looks for devices records the one whose I-Am it hears. -/
theorem step_iAm {s : Sys} {t : Nat} {rx : RxState} (h : Looking s t rx) (dev : Device)
    {arrival : Arrival} (hd : arrival.datagram = some d)
    (hhears : (Bbmd.init env.bip).hears d =
      some (bvlcIpAddressToBacnetLocal source, (broadcastMessage dev.iAm).octets)) :
    ∃ s' device, (client env).step s (.receive t arrival) = some (s', .silent) ∧
      s'.stack.discovered = s.stack.discovered ++ [device] ∧
      device.deviceId = dev.objectInstanceNumber ∧ device.maxApdu = UInt32.ofNat maxApdu ∧
      device.vendorId = dev.vendorIdentifier ∧ device.networkNumber = 0 ∧
      device.builder.endpoint = source := by
  have hne : dev.iAm ≠ [] := List.cons_ne_nil _ _
  have htype : dev.iAm.getD 0 0 &&& 0xF0 ≠ 0 := show (0x10 : UInt8) &&& 0xF0 ≠ 0 by decide
  have hcarries : CarriesApdu env s.stack.socketOpen rx arrival
      ((broadcastMessage dev.iAm).sourceAddress (bvlcIpAddressToBacnetLocal source)) dev.iAm := by
    rw [h.socketOpen]
    exact carriesApdu_of_hears (wellFormed_replyMessage _ hne) (addressesFit_replyMessage _ _)
      (forClient_broadcastMessage htype) hhears rx hd
  obtain ⟨apdu, rx', hapdu, hrecv⟩ := receiveStep_of_carriesApdu hcarries
  -- the record of the source
  obtain ⟨hdecode, hbody⟩ := decodeApdu_iAm dev hapdu
  obtain ⟨device, hrecord, hid, hmaxApdu, hvendor, hnumber⟩ := iAmRecord_iAm dev hbody
    (show (NetworkMessage.sourceAddress _ _).macLen = 6 from rfl)
    (show (NetworkMessage.sourceAddress (broadcastMessage dev.iAm)
      (bvlcIpAddressToBacnetLocal source)).net = 0 from rfl)
  have hendpoint : source = device.builder.endpoint :=
    (octetsMatch_endpoint _ _).mp (recordOf_iAmRecord rfl ⟨source, rfl⟩ hrecord).endpoint_builder
  rw [apduHandler_iAm h.allowed h.handler hdecode hrecord] at hrecv
  have hreceives : Receives (s.threads t) rx .discovering := h.thread ▸ .discovering rx
  have hstep := step_receive env h.running hreceives arrival
  rw [hrecv] at hstep
  exact ⟨_, device, hstep, rfl, hid, hmaxApdu, hvendor, hnumber, hendpoint.symm⟩

end Client

/-- **A device that is asked for makes itself known.** Wherever it hears a Who-Is from, it
broadcasts one message that leaves every client that looks for devices, and hears what there is
to hear of the broadcast, with one more record: that of the device, which leads back to it. -/
theorem whoIs_answered {node : Node} {src : BacnetAddress} {d : Datagram}
    (hwhoIs : node.server.handlers.whoIs = true) (hdcc : node.server.dcc ≠ .disable)
    (hport : node.link.bip.remoteBbmd.port = 0)
    (hheard : node.link.hears d = some (src, (whoIsPdu none).2)) (beyond : Mem) :
    ∃ reply, (node.link.bip.broadcast, reply) ∈ (node.receive d beyond).2 ∧
      ∀ (env : Env) (s : Sys) (t : Nat) (rx : RxState) (arrival : Arrival) (d' : Datagram),
        Looking s t rx → node.link.bip.address ≠ env.bip.address →
        arrival.datagram = some d' →
        (Bbmd.init env.bip).hears d' =
          (Bbmd.init env.bip).hears ⟨node.link.bip.address, reply⟩ →
        ∃ s' device, (client env).step s (.receive t arrival) = some (s', .silent) ∧
          s'.stack.discovered = s.stack.discovered ++ [device] ∧
          device.deviceId = node.server.device.objectInstanceNumber ∧
          device.maxApdu = UInt32.ofNat maxApdu ∧
          device.vendorId = node.server.device.vendorIdentifier ∧
          device.networkNumber = 0 ∧ device.builder.endpoint = node.link.bip.address := by
  refine ⟨_, receive_whoIs hwhoIs hdcc hport hheard beyond, ?_⟩
  intro env s t rx arrival d' hlooking hother hd hsame
  refine step_iAm hlooking node.server.device hd (hsame.trans ?_)
  have hheader : (broadcastMessage node.server.device.iAm).header.length ≤ 13 :=
    length_replyMessage_header_le _ _
  have hiAm := node.server.device.length_iAm_le
  have hoctets : (broadcastMessage node.server.device.iAm).octets.length =
      (broadcastMessage node.server.device.iAm).header.length + node.server.device.iAm.length :=
    List.length_append
  have hmax : maxMpdu = 1506 := rfl
  rw [hears_originalBroadcast (octets_ne_nil _) (by rw [hoctets]; omega) rfl]
  exact if_neg hother

/-- The Who-Is of a client and the I-Am of the device at 10.0.0.2, both heard on the subnet. -/
theorem whoIs_answered_lan : ∃ s frame reply s' device,
    (client lan).step .init (.whoisStart 0 none) =
      some (s, .whoIs (some (lan.bip.broadcast, frame))) ∧
    (lan.bip.broadcast, reply) ∈
      (answeringNode.receive ⟨lan.bip.address, frame⟩ fun _ => 0).2 ∧
    (client lan).step s (.receive 0
      ⟨some ⟨answeringNode.link.bip.address, reply⟩, [], fun _ => 0⟩) = some (s', .silent) ∧
    s'.stack.discovered = [device] ∧ device.deviceId = 7 := by
  have hheard : answeringNode.link.hears ⟨lan.bip.address, bvlcEncode 11 (whoIsPdu none).2⟩ =
      some (bvlcIpAddressToBacnetLocal lan.bip.address, (whoIsPdu none).2) := by
    decide +kernel
  obtain ⟨reply, hsent, hrecorded⟩ := whoIs_answered rfl (by decide) rfl hheard fun _ => 0
  have hlooking : Looking (Sys.setThread { Sys.init with
      stack := (whoisStart lan Sys.init.stack none).1 } 0 (.discovering .fresh)) 0 .fresh :=
    ⟨rfl, rfl, rfl, rfl, rfl⟩
  obtain ⟨s', device, hstep, hdiscovered, hid, -⟩ :=
    hrecorded lan _ 0 .fresh ⟨some ⟨answeringNode.link.bip.address, reply⟩, [], fun _ => 0⟩ _
      hlooking (by decide) rfl rfl
  exact ⟨_, _, reply, s', device, rfl, hsent, hstep, hdiscovered, hid⟩

end Bacnet
