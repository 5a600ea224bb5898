import Bacnet.Announcements
import Bacnet.CachedAddresses
import Bacnet.Correlation

/-!
# Bacnet.DiscoveredAddress

From a discovered device to a connected one: the source of an I-Am, the record that
`i_am_handler` makes of it, and the address that a builder makes of the record.

A record pads the address behind a router with zeros and drops its length, and a builder
takes one octet of it. So a record stands for one address if the device is not behind a
router; otherwise also the length has to be known, and only an address of one octet can be
built.
-/

namespace Bacnet

open Bacnet.Lib

variable {env : Env} {s s' : Sys} {device device' : IAmDevice} {src src' : BacnetAddress}

/-! ### The record of an I-Am -/

/-- An I-Am from `src` that the client can receive was accepted, and `device` is the record of
it. -/
def Announced (device : IAmDevice) (src : BacnetAddress) : Prop :=
  ∃ (env : Env) (es : List Event) (s : Sys) (os : List Output) (e : Event) (s' : Sys) (o : Output)
    (a : Apdu), (client env).run .init es = some (s, os) ∧
    (client env).step s e = some (s', o) ∧ arriving env s e = some (src, a) ∧
    a.record s.stack src = some device

/-- The arguments of the builder that a record gives. -/
def IAmDevice.builder (device : IAmDevice) : BACnetDeviceBuilder where
  ip := #v[device.macAddr[0], device.macAddr[1], device.macAddr[2], device.macAddr[3]]
  dnet := device.networkNumber
  dadr := device.addr[0]
  port := (device.macAddr[4].toUInt16 <<< 8) ||| device.macAddr[5].toUInt16
  deviceId := device.deviceId

theorem copyFromSlice_some {mac : Vector UInt8 maxMacLen} {len : UInt8} {v : Vector UInt8 6}
    (h : copyFromSlice mac len = some v) :
    len.toNat ≤ 6 ∧ ∀ i : Fin 6, v[i.val] = if i.val < len.toNat then mac[i.val] else 0 := by
  unfold copyFromSlice at h
  split at h
  · rename_i hlen
    cases h
    exact ⟨hlen, fun i => Vector.getElem_ofFn _⟩
  · cases h

/-- The record of an address: the first octets of the MAC, the network, and behind a router the
address there, filled up with zeros. -/
structure RecordOf (src : BacnetAddress) (device : IAmDevice) : Prop where
  macLen : src.macLen = 6
  endpoint : ∃ ip, src.mac = (bvlcIpAddressToBacnetLocal ip).mac
  macAddr : ∀ i : Fin 6, device.macAddr[i.val] = src.mac[i.val]
  networkNumber : device.networkNumber = src.net
  local_addr : src.net = 0 → device.addr = Vector.replicate 6 0
  len : src.net ≠ 0 → src.len.toNat ≤ 6
  addr : src.net ≠ 0 → ∀ i : Fin 6,
    device.addr[i.val] = if i.val < src.len.toNat then src.adr[i.val] else 0

theorem recordOf_iAmRecord {request : Mem} (hlen : src.macLen = 6)
    (hmac : ∃ ip, src.mac = (bvlcIpAddressToBacnetLocal ip).mac)
    (h : iAmRecord request src = some device) : RecordOf src device := by
  obtain ⟨i, hi, h⟩ := Option.bind_eq_some_iff.mp h
  obtain ⟨macAddr, hcopy, h⟩ := Option.bind_eq_some_iff.mp h
  obtain ⟨addr, haddr, rfl⟩ := Option.map_eq_some_iff.mp h
  have hmacAddr := (copyFromSlice_some hcopy).2
  rw [hlen] at hmacAddr
  refine ⟨hlen, hmac, fun i => (hmacAddr i).trans (if_pos i.isLt), rfl, fun h0 => ?_, fun hne => ?_,
    fun hne => ?_⟩
  · rw [h0, if_neg (by decide)] at haddr
    exact (Option.some.inj haddr).symm
  · rw [if_pos (UInt16.pos_iff_ne_zero.mpr hne)] at haddr
    exact (copyFromSlice_some haddr).1
  · rw [if_pos (UInt16.pos_iff_ne_zero.mpr hne)] at haddr
    exact (copyFromSlice_some haddr).2

theorem Announced.recordOf (h : Announced device src) : RecordOf src device := by
  obtain ⟨env, es, s, os, e, s', o, a, -, -, harr, hrec⟩ := h
  obtain ⟨rx, arrival, hdel⟩ := delivered_of_arriving harr
  obtain ⟨ip, hmac, hmacLen, -⟩ := delivered_source hdel
  cases a with
  | iAm request =>
    rw [Apdu.record] at hrec
    split at hrec
    · exact recordOf_iAmRecord hmacLen ⟨ip, hmac⟩ hrec
    · cases hrec
  | _ => cases hrec

/-! ### What a record says of the address -/

/-- Two records have the same MAC exactly if the MACs match. -/
theorem octetsMatch_mac_iff (h : RecordOf src device) (h' : RecordOf src' device') :
    octetsMatch src.macLen src.mac src'.mac = true ↔ device.macAddr = device'.macAddr := by
  rw [octetsMatch_iff, h.macLen]
  constructor
  · intro hmatch
    refine Vector.ext fun i hi => ?_
    rw [h.macAddr ⟨i, hi⟩, h'.macAddr ⟨i, hi⟩]
    exact hmatch ⟨i, Nat.lt_succ_of_lt hi⟩ hi
  · intro heq i hi
    have hmac := h.macAddr ⟨i.val, hi⟩
    rw [heq] at hmac
    exact hmac.symm.trans (h'.macAddr ⟨i.val, hi⟩)

/-- Of addresses of one length behind a router, two records have the same one exactly if they
match. -/
theorem octetsMatch_adr_iff (h : RecordOf src device) (h' : RecordOf src' device')
    (hne : src.net ≠ 0) (hne' : src'.net ≠ 0) (hlen : src.len = src'.len) :
    octetsMatch src.len src.adr src'.adr = true ↔ device.addr = device'.addr := by
  have hle := h.len hne
  rw [octetsMatch_iff]
  constructor
  · intro hmatch
    refine Vector.ext fun i hi => ?_
    rw [h.addr hne ⟨i, hi⟩, h'.addr hne' ⟨i, hi⟩, hlen]
    split
    · rename_i hi'
      exact hmatch ⟨i, Nat.lt_succ_of_lt hi⟩ (hlen ▸ hi')
    · rfl
  · intro heq i hi
    have hi6 : i.val < 6 := Nat.lt_of_lt_of_le hi hle
    have haddr := h.addr hne ⟨i.val, hi6⟩
    have haddr' := h'.addr hne' ⟨i.val, hi6⟩
    rw [if_pos hi, heq] at haddr
    rw [← hlen, if_pos hi] at haddr'
    exact haddr.symm.trans haddr'

/-- The sources of two I-Ams match exactly if their records agree on the address and, behind a
router, the addresses have the same length. -/
theorem RecordOf.addressMatch_iff (h : RecordOf src device) (h' : RecordOf src' device') :
    addressMatch src src' = true ↔
      device.macAddr = device'.macAddr ∧ device.networkNumber = device'.networkNumber ∧
        device.addr = device'.addr ∧ (src.net = 0 ∨ src.len = src'.len) := by
  rw [Bacnet.addressMatch_iff, octetsMatch_mac_iff h h', h.networkNumber, h'.networkNumber,
    h.macLen, h'.macLen]
  constructor
  · rintro ⟨-, hmac, hnet, hrest⟩
    by_cases h0 : src.net = 0
    · refine ⟨hmac, hnet, ?_, Or.inl h0⟩
      rw [h.local_addr h0, h'.local_addr (hnet ▸ h0)]
    · obtain ⟨hlen, hadr⟩ := hrest h0
      exact ⟨hmac, hnet, (octetsMatch_adr_iff h h' h0 (hnet ▸ h0) hlen).mp hadr, Or.inr hlen⟩
  · rintro ⟨hmac, hnet, haddr, hlen⟩
    refine ⟨rfl, hmac, hnet, fun hne => ?_⟩
    have hlen' := hlen.resolve_left hne
    exact ⟨hlen', (octetsMatch_adr_iff h h' hne (hnet ▸ hne) hlen').mpr haddr⟩

/-! ### What a builder makes of it -/

/-- The IP address and the port of the source are in the record. -/
theorem RecordOf.endpoint_builder (h : RecordOf src device) :
    octetsMatch 6 device.builder.build.mac src.mac = true := by
  obtain ⟨ip, hip⟩ := h.endpoint
  have hmac : ∀ i : Fin 6, device.macAddr[i.val] = (bvlcIpAddressToBacnetLocal ip).mac[i.val] := by
    intro i
    rw [h.macAddr i, hip]
  have haddress : device.builder.ip = ip.address := by
    refine Vector.ext fun i hi => ?_
    rcases i with _ | _ | _ | _ | i
    · exact hmac 0
    · exact hmac 1
    · exact hmac 2
    · exact hmac 3
    · omega
  have hhigh : device.macAddr[4] = (ip.port >>> 8).toUInt8 := (hmac 4).trans (highOctet_eq ip.port)
  have hlow : device.macAddr[5] = (ip.port &&& 0xff).toUInt8 := hmac 5
  have hport : device.builder.port = ip.port := by
    rw [IAmDevice.builder, hhigh, hlow]
    exact join_octets ip.port
  rw [hip]
  refine (octetsMatch_endpoint device.builder ip).mpr ?_
  rw [BACnetDeviceBuilder.endpoint, haddress, hport]

/-- The builder's address matches the source if that is not behind a router, or has one octet
there. -/
theorem RecordOf.builder_iff (h : RecordOf src device) :
    addressMatch device.builder.build src = true ↔ src.net = 0 ∨ src.len = 1 := by
  rw [Bacnet.addressMatch_iff]
  change (6 = src.macLen ∧ octetsMatch 6 device.builder.build.mac src.mac = true ∧
    device.networkNumber = src.net ∧ (device.networkNumber ≠ 0 → 1 = src.len ∧
      octetsMatch 1 device.builder.build.adr src.adr = true)) ↔ _
  rw [h.networkNumber]
  constructor
  · rintro ⟨-, -, -, hrest⟩
    by_cases h0 : src.net = 0
    · exact Or.inl h0
    · exact Or.inr (hrest h0).1.symm
  · intro hone
    refine ⟨h.macLen.symm, h.endpoint_builder, rfl, fun hne => ?_⟩
    have hlen : src.len = 1 := hone.resolve_left hne
    refine ⟨hlen.symm, octetsMatch_iff.mpr fun i hi => ?_⟩
    have hi' : i.val < 1 := hi
    obtain rfl : i = 0 := Fin.ext (show i.val = 0 by omega)
    have haddr := h.addr hne 0
    rw [hlen] at haddr
    exact haddr

/-- No builder makes another address. -/
theorem one_of_build {b : BACnetDeviceBuilder} (h : addressMatch b.build src = true) :
    src.net = 0 ∨ src.len = 1 := by
  obtain ⟨-, -, hnet, hrest⟩ := Bacnet.addressMatch_iff.mp h
  by_cases h0 : src.net = 0
  · exact Or.inl h0
  · exact Or.inr (hrest (hnet ▸ h0)).1.symm

/-- The device of a record is not the client itself. -/
theorem Announced.deviceId_ne (h : Announced device src) : device.deviceId ≠ 0xFFFFFFFF := by
  obtain ⟨env, es, s, os, e, s', o, a, -, -, -, hrec⟩ := h
  cases a with
  | iAm request =>
    rw [Apdu.record] at hrec
    split at hrec
    · obtain ⟨i, hi, hrec⟩ := Option.bind_eq_some_iff.mp hrec
      obtain ⟨macAddr, -, hrec⟩ := Option.bind_eq_some_iff.mp hrec
      obtain ⟨addr, -, rfl⟩ := Option.map_eq_some_iff.mp hrec
      exact iAm_deviceId_ne hi
    · cases hrec
  | _ => cases hrec

/-- On a cache with room, a `connect` finds its device. -/
theorem connectCache_of_room {c : AddressCache} {b : BACnetDeviceBuilder} (h : c.Sound)
    (hown : b.deviceId ≠ 0xFFFFFFFF) (hroom : c.Cached b.deviceId ∨ c.HasFree) :
    (connectCache c b).1 = some (UInt32.ofNat maxApdu, b.build) := by
  rw [connectCache, AddressCache.addressBindRequest_fst]
  exact AddressCache.addressGetByDevice_addressAdd_self (by rw [h.own]; exact hown.symm) hroom

/-! ### From discovery to connection -/

/-- Connecting with the builder `b` tracks an address that matches `src`, and a device that
answers from there can be read: in every state that the client reaches. -/
structure Connects (b : BACnetDeviceBuilder) (src : BacnetAddress) : Prop where
  succeeds : ∀ (env : Env) es s os t, (client env).run .init es = some (s, os) →
    s.aborted = false → s.threads t = .idle → s.stack.poisoned = false →
    s.stack.cache.Cached b.deviceId ∨ s.stack.cache.HasFree →
    ∃ s', (client env).step s (.connect t b) = some (s', .connected (.ok ()))
  tracks : ∀ (env : Env) es s os t s', (client env).run .init es = some (s, os) →
    (client env).step s (.connect t b) = some (s', .connected (.ok ())) →
    (∃ tgt, s'.stack.targets.lookup b.deviceId = some tgt ∧ addressMatch tgt.addr src = true) ∧
      (s'.stack.socketOpen = true → s'.stack.handlers = .installed → Readable env s' t b)

theorem connects_of_match {b : BACnetDeviceBuilder} (hown : b.deviceId ≠ 0xFFFFFFFF)
    (hmatch : addressMatch b.build src = true) : Connects b src where
  succeeds env es s os t hrun habort hidle hp hroom := by
    have hr := connectCache_of_room (sound_run hrun) hown hroom
    obtain ⟨stack, hstep, -⟩ := step_connect_found env habort hidle hp (Prod.ext hr rfl)
    exact ⟨_, hstep⟩
  tracks env es s os t s' hrun hs := by
    have hwf := wf_run hrun
    have hsound := sound_run hrun
    obtain ⟨-, hl⟩ := bound_of_connected hsound (step_cases hwf.tsm hs)
    exact ⟨⟨_, hl, hmatch⟩, fun hopen hhandlers =>
      readable_of_connected hwf hsound (dcc_run hrun) hs hopen hhandlers⟩

/-- The source of an I-Am is determined by its record, up to the length of an address behind a
router; and if that is one octet, or there is no router, and only then, there is a builder
whose address matches the source. The record gives it, and connecting with it tracks the
source. -/
theorem discovered_iff_connects (h : Announced device src) :
    (∀ device' src', Announced device' src' → (addressMatch src src' = true ↔
      device.macAddr = device'.macAddr ∧ device.networkNumber = device'.networkNumber ∧
        device.addr = device'.addr ∧ (src.net = 0 ∨ src.len = src'.len))) ∧
    (addressMatch device.builder.build src = true ↔ src.net = 0 ∨ src.len = 1) ∧
    (∀ b : BACnetDeviceBuilder, addressMatch b.build src = true → src.net = 0 ∨ src.len = 1) ∧
    (src.net = 0 ∨ src.len = 1 → Connects device.builder src) :=
  ⟨fun _ _ h' => h.recordOf.addressMatch_iff h'.recordOf, h.recordOf.builder_iff,
    fun _ => one_of_build, fun hone =>
      connects_of_match h.deviceId_ne (h.recordOf.builder_iff.mpr hone)⟩

/-- An I-Am of device 8, which is behind the router at 10.0.0.9 on the network 7, at the address
`adr`. -/
def routedIAm (adr : List UInt8) : Arrival where
  datagram := some ⟨routedDevice.endpoint,
    bvlcEncode 10 (NetworkMessage.octets ⟨0, none, some ⟨7, adr⟩, 0, lanIAm 8⟩)⟩
  order := []
  beyond _ := 0

/-- Its record, for an address that is 5 and zeros. -/
def routedRecord : IAmDevice :=
  ⟨8, 1476, 15, #v[10, 0, 0, 9, 0xba, 0xc0], 7, #v[5, 0, 0, 0, 0, 0]⟩

/-- Its source, for such an address of `len` octets. -/
def routedSource (len : UInt8) : BacnetAddress :=
  ⟨6, #v[10, 0, 0, 9, 0xba, 0xc0, 0], 7, len, #v[5, 0, 0, 0, 0, 0, 0]⟩

theorem announced_routed (adr : List UInt8) {len : UInt8}
    (h : ((client lan).run .init [.whoisStart 0 none]).any (fun r =>
      ((client lan).step r.1 (.receive 0 (routedIAm adr))).isSome &&
        (arriving lan r.1 (.receive 0 (routedIAm adr))).any fun p =>
          decide (p.1 = routedSource len ∧
            p.2.record r.1.stack p.1 = some routedRecord)) = true) :
    Announced routedRecord (routedSource len) := by
  obtain ⟨s, os, hrun, hp⟩ := Machine.exists_run h
  obtain ⟨hstep, harr⟩ := (Bool.and_eq_true _ _).mp hp
  obtain ⟨⟨s', o⟩, hs⟩ := Option.isSome_iff_exists.mp hstep
  obtain ⟨⟨src, a⟩, hp, htest⟩ := (Option.any_eq_true _ _).mp harr
  obtain ⟨rfl, hrec⟩ := of_decide_eq_true htest
  exact ⟨lan, _, s, os, _, s', o, a, hrun, hs, hp, hrec⟩

/-- The device at the address 5 is found. -/
theorem discovered_iff_connects_five :
    Announced routedRecord (routedSource 1) ∧ Connects routedRecord.builder (routedSource 1) := by
  have h : Announced routedRecord (routedSource 1) :=
    announced_routed [5] (by decide +kernel)
  exact ⟨h, (discovered_iff_connects h).2.2.2 (Or.inr rfl)⟩

/-- The device at the address 5, 0 leaves the same record, and no builder makes its address. -/
theorem routedRecord_ambiguous :
    Announced routedRecord (routedSource 1) ∧ Announced routedRecord (routedSource 2) ∧
      addressMatch (routedSource 1) (routedSource 2) = false ∧
      ∀ b : BACnetDeviceBuilder, addressMatch b.build (routedSource 2) = false := by
  refine ⟨announced_routed [5] (by decide +kernel),
    announced_routed [5, 0] (by decide +kernel), by decide, fun b => ?_⟩
  by_contra hmatch
  rcases one_of_build (Bool.not_eq_false _ ▸ hmatch) with h | h
  · exact absurd h (by decide)
  · exact absurd h (by decide)

end Bacnet
