import Bacnet.Address
import Bacnet.Decode

/-!
# Bacnet.Npdu

The network layer header (`npdu.c`): what the client puts in front of a request, and
what it reads from a message.
-/

namespace Bacnet

open Bacnet.Lib

/-- `BACNET_PROTOCOL_VERSION`. -/
def bacnetProtocolVersion : UInt8 := 1

/-- `HOP_COUNT_DEFAULT`. -/
def hopCountDefault : UInt8 := 255

/-- The first `n` octets of a MAC. -/
def macOctets (mac : Vector UInt8 maxMacLen) (n : UInt8) : List UInt8 := mac.toList.take n.toNat

/-- `npdu_encode_pdu`, with the `npdu_data` that `npdu_encode_npdu_data` fills in for a
message of normal priority: an APDU, not a network layer message. -/
def npduEncodePdu (dest src : BacnetAddress) (dataExpectingReply : Bool) : List UInt8 :=
  let control : UInt8 :=
    (if dest.net ≠ 0 then 0x20 else 0) |||
    (if src.net ≠ 0 ∧ src.len ≠ 0 then 0x08 else 0) |||
    (if dataExpectingReply then 0x04 else 0)
  [bacnetProtocolVersion, control] ++
  (if dest.net ≠ 0 then
    encodeUnsigned16 dest.net ++ dest.len :: macOctets dest.adr dest.len else []) ++
  (if src.net ≠ 0 ∧ src.len ≠ 0 then
    encodeUnsigned16 src.net ++ src.len :: macOctets src.adr src.len else []) ++
  (if dest.net ≠ 0 then [hopCountDefault] else [])

/-- A destination or source specifier at `len`: network, address length and address. The
new `len` is `none` when the source returns -1; what was stored by then stays stored. -/
def decodeSpecifier (npdu : Mem) (pduLen len : Nat) (addr : BacnetAddress) :
    Option Nat × BacnetAddress :=
  if pduLen ≥ len + 3 then
    let addrLen := npdu (len + 2)
    let addr :=
      { addr with net := UInt16.ofNat (decodeUnsigned16 (npdu.shift len)), len := addrLen }
    let len := len + 3
    if addrLen ≠ 0 then
      -- address is too large, could be a malformed message
      if addrLen.toNat > maxMacLen ∨ pduLen < len + addrLen.toNat then (none, addr)
      else
        (some (len + addrLen.toNat),
          { addr with adr := Vector.ofFn fun i =>
              if i.val < addrLen.toNat then npdu (len + i.val) else addr.adr.get i })
    else (some len, addr)
  else (some len, addr)

/-- What `bacnet_npdu_decode` hands back. -/
structure NpduDecode where
  /-- Offset of the APDU: `none` for -1. -/
  offset : Option Nat
  dest : BacnetAddress
  src : BacnetAddress
  networkLayerMessage : Bool

/-- `bacnet_npdu_decode`, into a zeroed destination. The fields of a network layer
message are not decoded here: its only reader discards such a message. -/
def bacnetNpduDecode (npdu : Mem) (pduLen : Nat) (src : BacnetAddress) : NpduDecode :=
  if pduLen < 2 then ⟨some 0, .default, src, false⟩
  else
    let control := npdu 1
    let networkLayerMessage := control &&& 0x80 ≠ 0
    let (len, dest) :=
      if control &&& 0x20 ≠ 0 then decodeSpecifier npdu pduLen 2 .default
      else (some 2, .default)
    match len with
    | none => ⟨none, dest, src, networkLayerMessage⟩
    | some len =>
      let (len, src) :=
        if control &&& 0x08 ≠ 0 then decodeSpecifier npdu pduLen len src
        else
          -- a broadcast network set by the datalink layer is not stomped on
          (some len,
            { src with
              net := if src.net ≠ bacnetBroadcastNetwork then 0 else src.net
              len := 0
              adr := Vector.replicate maxMacLen 0 })
      match len with
      | none => ⟨none, dest, src, networkLayerMessage⟩
      | some len =>
        -- hop count
        let len := if dest.net ≠ 0 ∧ pduLen > len then len + 1 else len
        ⟨some len, dest, src, networkLayerMessage⟩

end Bacnet
