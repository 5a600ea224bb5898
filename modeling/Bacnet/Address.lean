import Mathlib.Data.Fintype.Basic

/-!
# Bacnet.Address

Addresses: the stack's `BACNET_ADDRESS` (a local MAC plus, behind a router, a network
number and the MAC there), the UDP endpoint `BACNET_IP_ADDRESS`, and the two
comparisons and conversions the client relies on (`address_match`,
`bvlc_ip_address_to_bacnet_local`).
-/

namespace Bacnet

abbrev maxMacLen : Nat := 7

def bacnetBroadcastNetwork : UInt16 := 0xFFFF

/-- `BACNET_ADDRESS`. `net = 0` is the local network, and then `len` and `adr` mean
nothing. -/
structure BacnetAddress where
  macLen : UInt8
  mac : Vector UInt8 maxMacLen
  net : UInt16
  len : UInt8
  adr : Vector UInt8 maxMacLen
  deriving DecidableEq

namespace BacnetAddress

/-- The zeroed structure (`BACNET_ADDRESS::default()`, `{ 0 }`). -/
def default : BacnetAddress :=
  ⟨0, Vector.replicate maxMacLen 0, 0, 0, Vector.replicate maxMacLen 0⟩

instance : Inhabited BacnetAddress := ⟨default⟩

end BacnetAddress

/-- The octet comparison loops of `address_match`: the first `len` octets, at most
`MAX_MAC_LEN` of them, are equal. -/
def octetsMatch (len : UInt8) (x y : Vector UInt8 maxMacLen) : Bool :=
  decide (∀ i : Fin maxMacLen, i.val < len.toNat → x[i] = y[i])

def addressMatch (dest src : BacnetAddress) : Bool :=
  if dest.macLen ≠ src.macLen then false
  else if ¬ octetsMatch dest.macLen dest.mac src.mac then false
  else if dest.net ≠ src.net then false
  -- if local, ignore remaining fields
  else if dest.net = 0 then true
  else if dest.len ≠ src.len then false
  else octetsMatch dest.len dest.adr src.adr

/-! ### `address_match` is an equivalence -/

theorem octetsMatch_iff {len : UInt8} {x y : Vector UInt8 maxMacLen} :
    octetsMatch len x y = true ↔ ∀ i : Fin maxMacLen, i.val < len.toNat → x[i] = y[i] := by
  simp [octetsMatch]

/-- What a match says, field by field. -/
theorem addressMatch_iff {a b : BacnetAddress} :
    addressMatch a b = true ↔
      a.macLen = b.macLen ∧ octetsMatch a.macLen a.mac b.mac = true ∧ a.net = b.net ∧
        (a.net ≠ 0 → a.len = b.len ∧ octetsMatch a.len a.adr b.adr = true) := by
  obtain ⟨macLen, mac, net, len, adr⟩ := a
  obtain ⟨macLen', mac', net', len', adr'⟩ := b
  by_cases hm : macLen = macLen'
  · subst hm
    by_cases hmac : octetsMatch macLen mac mac' = true
    · by_cases hn : net = net'
      · subst hn
        by_cases h0 : net = 0
        · simp [addressMatch, hmac, h0]
        · by_cases hl : len = len'
          · subst hl
            simp [addressMatch, hmac, h0]
          · simp [addressMatch, hmac, h0, hl]
      · simp [addressMatch, hmac, hn]
    · simp [addressMatch, hmac]
  · simp [addressMatch, hm]

theorem octetsMatch_refl (len : UInt8) (x : Vector UInt8 maxMacLen) :
    octetsMatch len x x = true :=
  octetsMatch_iff.mpr fun _ _ => rfl

@[simp] theorem addressMatch_refl (a : BacnetAddress) : addressMatch a a = true :=
  addressMatch_iff.mpr ⟨rfl, octetsMatch_refl _ _, rfl, fun _ => ⟨rfl, octetsMatch_refl _ _⟩⟩

theorem addressMatch_symm {a b : BacnetAddress} (h : addressMatch a b = true) :
    addressMatch b a = true := by
  obtain ⟨hm, hmac, hn, hr⟩ := addressMatch_iff.mp h
  refine addressMatch_iff.mpr ⟨hm.symm, ?_, hn.symm, fun hb => ?_⟩
  · exact octetsMatch_iff.mpr fun i hi => (octetsMatch_iff.mp hmac i (hm ▸ hi)).symm
  · obtain ⟨hl, hadr⟩ := hr (hn ▸ hb)
    exact ⟨hl.symm, octetsMatch_iff.mpr fun i hi => (octetsMatch_iff.mp hadr i (hl ▸ hi)).symm⟩

theorem addressMatch_trans {a b c : BacnetAddress} (hab : addressMatch a b = true)
    (hbc : addressMatch b c = true) : addressMatch a c = true := by
  obtain ⟨hm, hmac, hn, hr⟩ := addressMatch_iff.mp hab
  obtain ⟨hm', hmac', hn', hr'⟩ := addressMatch_iff.mp hbc
  refine addressMatch_iff.mpr ⟨hm.trans hm', ?_, hn.trans hn', fun ha => ?_⟩
  · exact octetsMatch_iff.mpr fun i hi =>
      (octetsMatch_iff.mp hmac i hi).trans (octetsMatch_iff.mp hmac' i (hm ▸ hi))
  · obtain ⟨hl, hadr⟩ := hr ha
    obtain ⟨hl', hadr'⟩ := hr' (hn ▸ ha)
    exact ⟨hl.trans hl', octetsMatch_iff.mpr fun i hi =>
      (octetsMatch_iff.mp hadr i hi).trans (octetsMatch_iff.mp hadr' i (hl ▸ hi))⟩

/-! ### UDP endpoints -/

structure BacnetIpAddress where
  address : Vector UInt8 4
  port : UInt16
  deriving DecidableEq

def encodeUnsigned16 (value : UInt16) : List UInt8 :=
  [((value &&& 0xff00) >>> 8).toUInt8, (value &&& 0x00ff).toUInt8]

def bvlcAddressDifferent (a b : BacnetIpAddress) : Bool :=
  decide (a.address ≠ b.address) || decide (a.port ≠ b.port)

/-- `bvlc_ip_address_to_bacnet_local`: the whole structure is written. -/
def bvlcIpAddressToBacnetLocal (ip : BacnetIpAddress) : BacnetAddress where
  macLen := 6
  mac := #v[ip.address[0], ip.address[1], ip.address[2], ip.address[3],
    (encodeUnsigned16 ip.port).getD 0 0, (encodeUnsigned16 ip.port).getD 1 0, 0]
  net := 0
  len := 0
  adr := Vector.replicate maxMacLen 0

def bvlcIpAddressFromBacnetLocal (a : BacnetAddress) : Option BacnetIpAddress :=
  if a.macLen = 6 then
    some ⟨#v[a.mac[0], a.mac[1], a.mac[2], a.mac[3]],
      (a.mac[4].toUInt16 <<< 8) ||| a.mac[5].toUInt16⟩
  else none

end Bacnet
