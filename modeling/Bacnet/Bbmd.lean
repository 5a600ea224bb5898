import Bacnet.DistributionTable
import Bacnet.Lib.Machine

/-!
# Bacnet.Bbmd

The **broadcast management device** behind the datalink (`h_bbmd.c`): what it keeps, what
each datagram makes it keep and send, and what reaches the network layer. The stack is
built with it, so every client is one; `Bacnet.Bvlc` has only what a client sees of it.

Datagrams are sent with the socket open. A message that does not fit the buffer it is
encoded to is sent all the same, without any octets.
-/

namespace Bacnet

open Bacnet.Lib

/-- `MAX_BBMD_ENTRIES`. -/
abbrev maxBbmdEntries : Nat := 128

/-- `MAX_FD_ENTRIES`. -/
abbrev maxFdEntries : Nat := 128

/-- The variables of `h_bbmd.c`. -/
structure Bbmd where
  /-- The interface, with `Remote_BBMD`. -/
  bip : BipConfig
  /-- `BBMD_Table`. -/
  bdt : Table maxBbmdEntries BroadcastDistributionTableEntry
  /-- `FD_Table`. -/
  fdt : Table maxFdEntries ForeignDeviceTableEntry
  /-- `BVLC_Result_Code`. -/
  resultCode : UInt16
  /-- `BVLC_Function_Code`. -/
  functionCode : UInt8
  /-- `BVLC_Global_Address` while `BVLC_NAT_Handling` is set. -/
  globalAddress : Option BacnetIpAddress

/-- The variables as they are initialized. -/
def Bbmd.init (bip : BipConfig) : Bbmd where
  bip := bip
  bdt := Table.replicate _ ⟨false, ⟨Vector.replicate 4 0, 0⟩, Vector.replicate 4 0⟩
  fdt := Table.replicate _ ⟨false, ⟨Vector.replicate 4 0, 0⟩, 0, 0⟩
  resultCode := BvlcResultCode.successfulCompletion.value
  functionCode := BvlcFunction.result.code
  globalAddress := none

/-- A call of `bip_send_mpdu`: the destination and the octets. -/
abbrev Transmission := BacnetIpAddress × List UInt8

/-- What a call of the handler leaves and does: the NPDU is given by its source address
and its offset. -/
structure Handled where
  state : Bbmd
  sent : List Transmission
  npdu : Option (BacnetAddress × Nat)

namespace Bbmd

def bbmdBdtMemberMaskIsUnicast (b : Bbmd) (addr : BacnetIpAddress) : Bool :=
  b.bdt.cells.any fun entry =>
    entry.valid && (bvlcAddressDifferent b.bip.address entry.destAddress &&
      (! bvlcAddressDifferent addr entry.destAddress && decide (entry.broadcastMask = unicastMask)))

/-- `bbmd_forward_npdu`: nothing is sent when the message does not fit. -/
def bbmdForwardNpdu (b : Bbmd) (bipSrc : BacnetIpAddress) (npdu : List UInt8) :
    List Transmission :=
  let mtu := bvlcEncodeForwardedNpdu maxMpdu bipSrc npdu
  if mtu ≠ [] then [(b.bip.broadcast, mtu)] else []

/-- The destinations that are not skipped: a BBMD does not forward to itself, nor back to
the origin, nor, with NAT handling, to an address that is not the global one. -/
def forwards (b : Bbmd) (bipSrc bipDest : BacnetIpAddress) : Bool :=
  bvlcAddressDifferent bipDest b.bip.address && (bvlcAddressDifferent bipDest bipSrc &&
    match b.globalAddress with
    | some globalAddress => ! bvlcAddressDifferent bipDest globalAddress
    | none => true)

/-- The message that is forwarded. An original message is from the global address. -/
def forwardedMtu (b : Bbmd) (bipSrc : BacnetIpAddress) (npdu : List UInt8) (original : Bool) :
    List UInt8 :=
  match b.globalAddress with
  | some globalAddress =>
    bvlcEncodeForwardedNpdu maxMpdu (if original then globalAddress else bipSrc) npdu
  | none => bvlcEncodeForwardedNpdu maxMpdu bipSrc npdu

/-- The loop over the entries of a table. -/
def forwardTo (b : Bbmd) (dests : List BacnetIpAddress) (bipSrc : BacnetIpAddress)
    (npdu : List UInt8) (original : Bool) : List Transmission :=
  (dests.filter (b.forwards bipSrc)).map (·, b.forwardedMtu bipSrc npdu original)

/-- The addresses in the distribution table. -/
def bdtAddresses (b : Bbmd) : List BacnetIpAddress := (members b.bdt).map (·.forwardAddress)

/-- The foreign devices whose time has not run out. -/
def fdtAddresses (b : Bbmd) : List BacnetIpAddress :=
  (b.fdt.cells.filter fun entry => entry.valid && decide (entry.ttlSecondsRemaining ≠ 0)).map
    (·.destAddress)

def bbmdBdtForwardNpdu (b : Bbmd) (bipSrc : BacnetIpAddress) (npdu : List UInt8)
    (original : Bool) : List Transmission :=
  b.forwardTo b.bdtAddresses bipSrc npdu original

def bbmdFdtForwardNpdu (b : Bbmd) (bipSrc : BacnetIpAddress) (npdu : List UInt8)
    (original : Bool) : List Transmission :=
  b.forwardTo b.fdtAddresses bipSrc npdu original

def bvlcSendResult (destAddr : BacnetIpAddress) (resultCode : BvlcResultCode) :
    List Transmission :=
  [(destAddr, bvlcEncodeResult maxMpdu resultCode.value)]

/-- A table that is read: an acknowledgement if it fits, a result otherwise. -/
def sendTable (destAddr : BacnetIpAddress) (buffer : List UInt8) (nak : BvlcResultCode) :
    List Transmission :=
  if buffer ≠ [] then [(destAddr, buffer)] else bvlcSendResult destAddr nak

/-- The cases of `bvlc_bbmd_enabled_handler`. -/
@[grind =] def handleFunction (b : Bbmd) (addr : BacnetIpAddress) (mtu : Mem) (mtuLen : Nat) :
    BvlcFunction → Handled
  | .result =>
    match bvlcDecodeResult (mtu.shift 4) (mtuLen - 4) with
    | some resultCode => ⟨{ b with resultCode := resultCode }, [], none⟩
    | none => ⟨b, [], none⟩
  | .writeBroadcastDistributionTable =>
    let r := bvlcDecodeWriteBroadcastDistributionTable (mtu.shift 4) (mtuLen - 4) b.bdt
    let resultCode :=
      if r.1 > 0 then BvlcResultCode.successfulCompletion
      else .writeBroadcastDistributionTableNak
    ⟨{ b with bdt := r.2 }, bvlcSendResult addr resultCode, none⟩
  | .readBroadcastDistTable =>
    ⟨b, sendTable addr (bvlcEncodeReadBroadcastDistributionTableAck maxMpdu b.bdt)
      .readBroadcastDistributionTableNak, none⟩
  | .readBroadcastDistTableAck => ⟨b, [], none⟩
  | .forwardedNpdu =>
    match bvlcDecodeForwardedNpdu (mtu.shift 4) (mtuLen - 4) with
    | some (fwdAddress, npduLen) =>
      -- ignore forwards from my IPv4 address
      if bbmdAddressMatchSelf b.bip fwdAddress then ⟨b, [], none⟩
      else
        let onSubnet :=
          if b.bbmdBdtMemberMaskIsUnicast addr then [(b.bip.broadcast, mtu.slice mtuLen)] else []
        -- the foreign devices are sent the whole message as if it were the NPDU
        ⟨b, onSubnet ++ b.bbmdFdtForwardNpdu fwdAddress (mtu.slice mtuLen) false,
          some (bvlcIpAddressToBacnetLocal fwdAddress, mtuLen - npduLen)⟩
    | none => ⟨b, [], none⟩
  | .registerForeignDevice =>
    match bvlcDecodeRegisterForeignDevice (mtu.shift 4) (mtuLen - 4) with
    | some ttlSeconds =>
      match bvlcForeignDeviceTableEntryAdd b.fdt addr ttlSeconds with
      | some fdt => ⟨{ b with fdt := fdt }, bvlcSendResult addr .successfulCompletion, none⟩
      | none => ⟨b, bvlcSendResult addr .registerForeignDeviceNak, none⟩
    | none => ⟨b, [], none⟩
  | .readForeignDeviceTable =>
    ⟨b, sendTable addr (bvlcEncodeReadForeignDeviceTableAck maxMpdu b.fdt)
      .readForeignDeviceTableNak, none⟩
  | .readForeignDeviceTableAck => ⟨b, [], none⟩
  | .deleteForeignDeviceTableEntry =>
    match bvlcDecodeDeleteForeignDevice (mtu.shift 4) (mtuLen - 4) with
    | some fwdAddress =>
      match bvlcForeignDeviceTableEntryDelete b.fdt fwdAddress with
      | some fdt => ⟨{ b with fdt := fdt }, bvlcSendResult addr .successfulCompletion, none⟩
      | none => ⟨b, bvlcSendResult addr .deleteForeignDeviceTableEntryNak, none⟩
    | none => ⟨b, bvlcSendResult addr .deleteForeignDeviceTableEntryNak, none⟩
  | .distributeBroadcastToNetwork =>
    let npdu := (mtu.shift 4).slice (mtuLen - 4)
    let onSubnet := b.bbmdForwardNpdu addr npdu
    if onSubnet ≠ [] then
      ⟨b, onSubnet ++ (b.bbmdFdtForwardNpdu addr npdu false ++
        b.bbmdBdtForwardNpdu addr npdu false), none⟩
    else ⟨b, bvlcSendResult addr .distributeBroadcastToNetworkNak, none⟩
  | .originalUnicastNpdu =>
    -- ignore messages from my IPv4 address
    if bbmdAddressMatchSelf b.bip addr then ⟨b, [], none⟩
    else if mtuLen - 4 ≠ 0 then ⟨b, [], some (bvlcIpAddressToBacnetLocal addr, 4)⟩
    else ⟨b, [], none⟩
  | .originalBroadcastNpdu =>
    if bbmdAddressMatchSelf b.bip addr then ⟨b, [], none⟩
    else if mtuLen - 4 ≠ 0 then
      let npdu := (mtu.shift 4).slice (mtuLen - 4)
      ⟨b, b.bbmdFdtForwardNpdu addr npdu true ++ b.bbmdBdtForwardNpdu addr npdu true,
        some (bvlcIpAddressToBacnetLocal addr, 4)⟩
    else ⟨b, [], none⟩
  | .secureBvll => ⟨b, [], none⟩

/-- `bvlc_bbmd_enabled_handler`. -/
def bvlcBbmdEnabledHandler (b : Bbmd) (addr : BacnetIpAddress) (mtu : Mem) (mtuLen : Nat) :
    Handled :=
  if mtuLen < 4 ∨ mtu 0 ≠ 0x81 then ⟨b, [], none⟩
  else
    let b := { b with functionCode := mtu 1 }
    match BvlcFunction.ofCode? (mtu 1) with
    | some function => b.handleFunction addr mtu mtuLen function
    | none => ⟨b, [], none⟩

/-- `bvlc_send_pdu`. -/
def bvlcSendPdu (b : Bbmd) (dest : BacnetAddress) (pdu : List UInt8) : List Transmission :=
  let fromLocal := (bvlcIpAddressFromBacnetLocal dest).getD ⟨Vector.replicate 4 0, 0⟩
  if dest.net = bacnetBroadcastNetwork ∨ dest.macLen = 0 then
    if b.bip.remoteBbmd.port ≠ 0 then
      [(b.bip.remoteBbmd, bvlcEncodeDistributeBroadcastToNetwork maxMpdu pdu)]
    else
      let mtu := bvlcEncodeOriginalBroadcast maxMpdu pdu
      (if mtu ≠ [] then
        b.bbmdFdtForwardNpdu b.bip.address pdu true ++
          b.bbmdBdtForwardNpdu b.bip.address pdu true
      else []) ++ [(b.bip.broadcast, mtu)]
  else if dest.net > 0 ∧ dest.len = 0 then
    [(if dest.macLen = 6 then fromLocal else b.bip.broadcast,
      bvlcEncodeOriginalBroadcast maxMpdu pdu)]
  else if dest.macLen = 6 then [(fromLocal, bvlcEncodeOriginalUnicast maxMpdu pdu)]
  -- Send failure. Invalid Address.
  else []

end Bbmd

/-- The octets of a datagram that `recvfrom` stores. -/
def Datagram.bytes (d : Datagram) : List UInt8 := d.payload.take maxMpdu

/-- The buffer with them. What stands behind them is not read. -/
def Datagram.mtu (d : Datagram) : Mem := Mem.overlay d.bytes fun _ => 0

/-- `bip_receive` with a datagram: nothing reaches the handler when it has no octets. -/
def Bbmd.receive (b : Bbmd) (d : Datagram) : Handled :=
  if d.bytes.length = 0 then ⟨b, [], none⟩
  else b.bvlcBbmdEnabledHandler d.source d.mtu d.bytes.length

/-! ### The device as a machine -/

/-- What can happen to a broadcast management device. -/
inductive BbmdEvent
  /-- `bip_receive` with a datagram. -/
  | receive (d : Datagram)
  /-- `bvlc_maintenance_timer`. -/
  | maintenanceTimer (seconds : UInt16)
  /-- `bvlc_send_pdu`. -/
  | sendPdu (dest : BacnetAddress) (pdu : List UInt8)
  /-- `bvlc_broadcast_distribution_table_entry_append` on the table. -/
  | appendEntry (bdtNew : BroadcastDistributionTableEntry)
  /-- `bvlc_bdt_list_clear`. -/
  | clearBdt
  /-- `bvlc_set_global_address_for_nat`. -/
  | setGlobalAddressForNat (addr : BacnetIpAddress)
  /-- `bvlc_disable_nat`. -/
  | disableNat
  /-- `bvlc_register_with_bbmd`. -/
  | registerWithBbmd (bbmdAddr : BacnetIpAddress) (ttlSeconds : UInt16)
  /-- `bvlc_bbmd_read_bdt`. -/
  | readBdt (bbmdAddr : BacnetIpAddress)
  /-- `bvlc_bbmd_read_fdt`. -/
  | readFdt (bbmdAddr : BacnetIpAddress)

/-- What the device sends, and the NPDU it hands up. -/
structure BbmdOutput where
  sent : List Transmission
  npdu : Option (BacnetAddress × List UInt8)

/-- The device after an event, and what it does. -/
def Bbmd.next (b : Bbmd) : BbmdEvent → Bbmd × BbmdOutput
  | .receive d =>
    let handled := b.receive d
    (handled.state, ⟨handled.sent,
      handled.npdu.map fun (src, offset) => (src, d.bytes.drop offset)⟩)
  | .maintenanceTimer seconds =>
    ({ b with fdt := bvlcForeignDeviceTableMaintenanceTimer b.fdt seconds }, ⟨[], none⟩)
  | .sendPdu dest pdu => (b, ⟨b.bvlcSendPdu dest pdu, none⟩)
  | .appendEntry bdtNew =>
    ({ b with bdt := (bvlcBroadcastDistributionTableEntryAppend b.bdt bdtNew).getD b.bdt },
      ⟨[], none⟩)
  | .clearBdt => ({ b with bdt := bvlcBroadcastDistributionTableValidClear b.bdt }, ⟨[], none⟩)
  | .setGlobalAddressForNat addr => ({ b with globalAddress := some addr }, ⟨[], none⟩)
  | .disableNat => ({ b with globalAddress := none }, ⟨[], none⟩)
  | .registerWithBbmd bbmdAddr ttlSeconds =>
    ({ b with bip := { b.bip with remoteBbmd := bbmdAddr } },
      ⟨[(bbmdAddr, bvlcEncodeRegisterForeignDevice maxMpdu ttlSeconds)], none⟩)
  | .readBdt bbmdAddr =>
    (b, ⟨[(bbmdAddr, bvlcEncodeReadBroadcastDistributionTable maxMpdu)], none⟩)
  | .readFdt bbmdAddr => (b, ⟨[(bbmdAddr, bvlcEncodeReadForeignDeviceTable maxMpdu)], none⟩)

/-- Every event can happen at any time. -/
def bbmd : Machine Bbmd BbmdEvent BbmdOutput where
  step b e := some (b.next e)

/-- The interface of a BBMD at 1.1.1.1, for concrete runs. -/
def lanBip : BipConfig where
  address := ⟨Vector.replicate 4 1, 0xBAC0⟩
  broadcast := ⟨Vector.replicate 4 255, 0xBAC0⟩
  remoteBbmd := ⟨Vector.replicate 4 0, 0⟩

/-- A node of another subnet. -/
def remoteNode : BacnetIpAddress := ⟨Vector.replicate 4 9, 0xBAC0⟩

/-- And a third. -/
def peerNode : BacnetIpAddress := ⟨Vector.replicate 4 8, 0xBAC0⟩

/-! ### What a datagram asks for -/

theorem BvlcFunction.eq_code_of_ofCode? {messageType : UInt8} {f : BvlcFunction}
    (h : ofCode? messageType = some f) : messageType = f.code := by
  have hall : ∀ f' : BvlcFunction, messageType.toNat = f'.code.toNat → messageType = f'.code :=
    fun _ => UInt8.toNat_inj.mp
  unfold ofCode? at h
  split at h
  all_goals cases h
  all_goals exact hall _ ‹_›

/-- The function of a datagram with a header that is understood. -/
def Datagram.function (d : Datagram) : Option BvlcFunction :=
  if d.bytes.length < 4 ∨ d.mtu 0 ≠ 0x81 then none else BvlcFunction.ofCode? (d.mtu 1)

theorem Datagram.length_of_function {d : Datagram} {f : BvlcFunction}
    (h : d.function = some f) : 4 ≤ d.bytes.length := by
  unfold Datagram.function at h
  split at h
  · cases h
  · omega

theorem Datagram.type_of_function {d : Datagram} {f : BvlcFunction} (h : d.function = some f) :
    d.mtu 0 = 0x81 := by
  unfold Datagram.function at h
  split at h
  · cases h
  · rename_i hheader
    exact not_not.mp fun hne => hheader (Or.inr hne)

namespace Bbmd

theorem receive_of_function (b : Bbmd) {d : Datagram} {f : BvlcFunction}
    (h : d.function = some f) :
    b.receive d = { b with functionCode := f.code }.handleFunction d.source d.mtu d.bytes.length f := by
  have hlen := Datagram.length_of_function h
  unfold Datagram.function at h
  split at h
  · cases h
  · rename_i hheader
    rw [receive, if_neg (by omega), bvlcBbmdEnabledHandler, if_neg hheader]
    simp only [BvlcFunction.eq_code_of_ofCode? h, BvlcFunction.ofCode?_code]

/-- Nothing is done about any other datagram. -/
theorem receive_of_none (b : Bbmd) {d : Datagram} (h : d.function = none) :
    ∃ functionCode, b.receive d = ⟨{ b with functionCode := functionCode }, [], none⟩ := by
  unfold receive
  split
  · exact ⟨b.functionCode, rfl⟩
  · unfold Datagram.function at h
    unfold bvlcBbmdEnabledHandler
    split
    · exact ⟨b.functionCode, rfl⟩
    · rename_i hheader
      rw [if_neg hheader] at h
      simp only [h]
      exact ⟨d.mtu 1, rfl⟩

end Bbmd

theorem Datagram.bytes_of_payload {d : Datagram} {f : BvlcFunction} {length : UInt16}
    {rest : List UInt8} (h : d.payload = bvlcEncodeHeader f length ++ rest)
    (hfit : 4 + rest.length ≤ maxMpdu) : d.bytes = bvlcEncodeHeader f length ++ rest := by
  rw [Datagram.bytes, h, List.take_of_length_le (by simpa using hfit)]

theorem Datagram.function_of_bytes {d : Datagram} {f : BvlcFunction} {length : UInt16}
    {rest : List UInt8} (h : d.bytes = bvlcEncodeHeader f length ++ rest) :
    d.function = some f ∧ d.bytes.length = 4 + rest.length ∧ (d.mtu.shift 4).Holds rest := by
  have hlen : d.bytes.length = 4 + rest.length := by
    rw [h, List.length_append, length_bvlcEncodeHeader]
  have hm : d.mtu.Holds (bvlcEncodeHeader f length ++ rest) := h ▸ Mem.holds_overlay d.bytes _
  obtain ⟨h0, h1, hrest⟩ := bvlcHeader_of_holds hm
  refine ⟨?_, hlen, hrest⟩
  have hheader : ¬ (d.bytes.length < 4 ∨ d.mtu 0 ≠ 0x81) := by
    rw [not_or, not_not]
    exact ⟨by omega, h0⟩
  rw [Datagram.function, if_neg hheader, h1]

/-- A datagram with an encoded message. -/
theorem Datagram.function_of_payload {d : Datagram} {f : BvlcFunction} {length : UInt16}
    {rest : List UInt8} (h : d.payload = bvlcEncodeHeader f length ++ rest)
    (hfit : 4 + rest.length ≤ maxMpdu) :
    d.function = some f ∧ d.bytes.length = 4 + rest.length ∧ (d.mtu.shift 4).Holds rest :=
  Datagram.function_of_bytes (Datagram.bytes_of_payload h hfit)

/-- The function is in the header, however long the message is. -/
theorem Datagram.function_of_header {d : Datagram} {f : BvlcFunction} {length : UInt16}
    {rest : List UInt8} (h : d.payload = bvlcEncodeHeader f length ++ rest) :
    d.function = some f := by
  have hbytes : d.bytes = bvlcEncodeHeader f length ++ rest.take (maxMpdu - 4) := by
    rw [Datagram.bytes, h]
    rfl
  exact (Datagram.function_of_bytes hbytes).1

namespace Bbmd

/-- What is forwarded to the entries of a table. -/
theorem mem_forwardTo {b : Bbmd} {dests : List BacnetIpAddress} {bipSrc : BacnetIpAddress}
    {npdu : List UInt8} {original : Bool} {t : Transmission}
    (h : t ∈ b.forwardTo dests bipSrc npdu original) :
    t.1 ∈ dests ∧ ∃ src, t.2 = bvlcEncodeForwardedNpdu maxMpdu src npdu ∧
      (original = false → src = bipSrc) := by
  obtain ⟨dest, hdest, rfl⟩ := List.mem_map.mp h
  refine ⟨(List.mem_filter.mp hdest).1, ?_⟩
  unfold forwardedMtu
  split
  · refine ⟨_, rfl, fun hnot => ?_⟩
    rw [hnot]
    rfl
  · exact ⟨bipSrc, rfl, fun _ => rfl⟩

theorem length_forwardTo_le (b : Bbmd) (dests : List BacnetIpAddress) (bipSrc : BacnetIpAddress)
    (npdu : List UInt8) (original : Bool) :
    (b.forwardTo dests bipSrc npdu original).length ≤ dests.length := by
  rw [forwardTo, List.length_map]
  exact List.length_filter_le _ _

end Bbmd

end Bacnet
