import Bacnet.Npdu

/-!
# Bacnet.Bvlc

The BACnet/IP datalink (`bvlc.c`, `h_bbmd.c`, `bip-init.c`): which datagrams carry an
NPDU and from whom, and where a message for an address goes.

The broadcast distribution and foreign device tables only decide what is retransmitted
to third parties; they and those transmissions are in `Bacnet.Bbmd`.
-/

namespace Bacnet

open Bacnet.Lib

/-- `MAX_MPDU`. -/
def maxMpdu : Nat := 1506

/-- The network interface: own endpoint, broadcast endpoint, and the BBMD the client is
registered with as a foreign device (port 0 when it is not). -/
structure BipConfig where
  address : BacnetIpAddress
  broadcast : BacnetIpAddress
  remoteBbmd : BacnetIpAddress

/-- A UDP datagram: the source endpoint and the payload. -/
structure Datagram where
  source : BacnetIpAddress
  payload : List UInt8

/-- `bvlc_decode_address`. -/
def bvlcDecodeAddress (pdu : Mem) : BacnetIpAddress :=
  ⟨#v[pdu 0, pdu 1, pdu 2, pdu 3], UInt16.ofNat (decodeUnsigned16 (pdu.shift 4))⟩

/-- `bbmd_address_match_self`. -/
def bbmdAddressMatchSelf (cfg : BipConfig) (addr : BacnetIpAddress) : Bool :=
  ! bvlcAddressDifferent cfg.address addr

/-- `bvlc_bbmd_enabled_handler`: the address the NPDU comes from and its offset, or
`none` when there is no NPDU for the client (the source returns 0 and leaves `src`). -/
def bvlcBbmdEnabledHandler (cfg : BipConfig) (addr : BacnetIpAddress) (mtu : Mem) (mtuLen : Nat) :
    Option (BacnetAddress × Nat) :=
  if mtuLen < 4 ∨ mtu 0 ≠ 0x81 then none
  else
    let pduLen := mtuLen - 4
    match (mtu 1).toNat with
    -- BVLC_FORWARDED_NPDU
    | 4 =>
      if pduLen ≥ 6 then
        let fwdAddress := bvlcDecodeAddress (mtu.shift 4)
        if bbmdAddressMatchSelf cfg fwdAddress then none
        else some (bvlcIpAddressToBacnetLocal fwdAddress, 10)
      else none
    -- BVLC_ORIGINAL_UNICAST_NPDU
    | 10 =>
      if bbmdAddressMatchSelf cfg addr then none
      else if pduLen ≠ 0 then some (bvlcIpAddressToBacnetLocal addr, 4)
      else none
    -- BVLC_ORIGINAL_BROADCAST_NPDU
    | 11 =>
      if bbmdAddressMatchSelf cfg addr then none
      else if pduLen ≠ 0 then some (bvlcIpAddressToBacnetLocal addr, 4)
      else none
    | _ => none

/-- The variables a receive loop keeps from one `bip_receive` to the next. -/
structure RxState where
  src : BacnetAddress
  rxBuf : Mem

/-- The buffer after `recvfrom` stored `bytes` in it. -/
def storeReceived (bytes : List UInt8) (rxBuf : Mem) : Mem := Mem.overlay bytes rxBuf

/-- The buffer after up to 16 octets behind the message are erased. -/
def eraseMargin (received : Nat) (rxBuf : Mem) : Mem := fun i =>
  if received ≤ i ∧ i < received + min 16 (maxMpdu - received) then 0 else rxBuf i

/-- The buffer after the NPDU is shifted to its start. -/
def shiftNpdu (offset npduLen : Nat) (rxBuf : Mem) : Mem := fun i =>
  if i < npduLen then rxBuf (offset + i) else rxBuf i

/-- `bip_receive` with `max_npdu = MAX_MPDU`: the length it returns. `arrival` is what the
socket yields before the timeout. -/
def bipReceive (cfg : BipConfig) (socketOpen : Bool) (arrival : Option Datagram) (rx : RxState) :
    Nat × RxState :=
  if ¬ socketOpen then (0, rx)
  else
    match arrival with
    | none => (0, rx)
    | some d =>
      let bytes := d.payload.take maxMpdu
      let received := bytes.length
      if received = 0 then (0, rx)
      else
        let buf := storeReceived bytes rx.rxBuf
        if buf 0 ≠ 0x81 then (0, { rx with rxBuf := buf })
        else
          let buf := eraseMargin received buf
          match bvlcBbmdEnabledHandler cfg d.source buf received with
          | none => (0, { rx with rxBuf := buf })
          | some (src, offset) =>
            let npduLen := received - offset
            (npduLen, ⟨src, shiftNpdu offset npduLen buf⟩)

/-- `bvlc_encode_original_unicast` and its siblings: header and NPDU. -/
def bvlcEncode (messageType : UInt8) (npdu : List UInt8) : List UInt8 :=
  0x81 :: messageType :: encodeUnsigned16 (UInt16.ofNat (4 + npdu.length)) ++ npdu

/-- `bvlc_send_pdu`: the datagram handed to the socket, or `none` when there is none. -/
def bvlcSendPdu (cfg : BipConfig) (socketOpen : Bool) (dest : BacnetAddress) (pdu : List UInt8) :
    Option (BacnetIpAddress × List UInt8) :=
  let sendMpdu := fun (to_ : BacnetIpAddress) (mtu : List UInt8) =>
    if socketOpen then some (to_, mtu) else none
  let fromLocal := (bvlcIpAddressFromBacnetLocal dest).getD ⟨Vector.replicate 4 0, 0⟩
  if dest.net = bacnetBroadcastNetwork ∨ dest.macLen = 0 then
    if cfg.remoteBbmd.port ≠ 0 then sendMpdu cfg.remoteBbmd (bvlcEncode 9 pdu)
    else sendMpdu cfg.broadcast (bvlcEncode 11 pdu)
  else if dest.net > 0 ∧ dest.len = 0 then
    sendMpdu (if dest.macLen = 6 then fromLocal else cfg.broadcast) (bvlcEncode 11 pdu)
  else if dest.macLen = 6 then sendMpdu fromLocal (bvlcEncode 10 pdu)
  -- Send failure. Invalid Address.
  else none

end Bacnet
