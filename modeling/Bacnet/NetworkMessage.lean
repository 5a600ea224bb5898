import Bacnet.Npdu

/-!
# Bacnet.NetworkMessage

The format of an NPDU that carries an APDU: a control octet, an optional destination and an
optional source specifier, a hop count, and the APDU.

`bacnet_npdu_decode` reads a message of this format back, unless an address in it is longer
than `MAX_MAC_LEN`, and `npdu_encode_pdu` writes one.
-/

namespace Bacnet

open Bacnet.Lib

/-! ### Sixteen bits in two octets -/

theorem toNat_lowOctet (p : UInt16) : (p &&& 0xff).toUInt8.toNat = p.toNat % 256 := by
  simp only [UInt16.toNat_toUInt8, UInt16.toNat_and, UInt16.reduceToNat]
  rw [Nat.and_two_pow_sub_one_eq_mod _ 8]
  omega

theorem toNat_highOctet (p : UInt16) : (p >>> 8).toUInt8.toNat = p.toNat / 256 := by
  have hp := p.toNat_lt
  simp only [UInt16.toNat_toUInt8, UInt16.toNat_shiftRight, UInt16.reduceToNat, Nat.reduceMod]
  rw [Nat.shiftRight_eq_div_pow]
  omega

/-- Masking before the shift makes no difference. -/
theorem highOctet_eq (p : UInt16) : ((p &&& 0xff00) >>> 8).toUInt8 = (p >>> 8).toUInt8 := by
  have hmask : (65280 >>> 8 : Nat) = 2 ^ 8 - 1 := rfl
  apply UInt8.toNat_inj.mp
  simp only [UInt16.toNat_toUInt8, UInt16.toNat_shiftRight, UInt16.toNat_and, UInt16.reduceToNat,
    Nat.reduceMod]
  rw [Nat.shiftRight_and_distrib, hmask, Nat.and_two_pow_sub_one_eq_mod]
  omega

theorem ofBe_encodeUnsigned16 (p : UInt16) : ofBe (encodeUnsigned16 p) = p.toNat := by
  rw [encodeUnsigned16, highOctet_eq, ofBe_cons, ofBe_cons, ofBe_nil, toNat_highOctet,
    toNat_lowOctet]
  simp only [List.length_cons, List.length_nil]
  omega

/-- The two octets of a port, put together again. -/
theorem join_octets (p : UInt16) :
    ((p >>> 8).toUInt8.toUInt16 <<< 8) ||| (p &&& 0xff).toUInt8.toUInt16 = p := by
  have hp := p.toNat_lt
  have hhigh : (p.toNat / 256) <<< 8 % 2 ^ 16 = (p.toNat / 256) <<< 8 := by
    rw [Nat.shiftLeft_eq]
    omega
  apply UInt16.toNat_inj.mp
  simp only [UInt16.toNat_or, UInt16.toNat_shiftLeft, UInt8.toNat_toUInt16, toNat_highOctet,
    toNat_lowOctet, UInt16.reduceToNat, Nat.reduceMod]
  rw [hhigh, ← Nat.shiftLeft_add_eq_or_of_lt (Nat.mod_lt _ (by decide)), Nat.shiftLeft_eq]
  omega

/-! ### Specifiers -/

/-- A network number and the MAC address of a node there. -/
structure Specifier where
  net : UInt16
  adr : List UInt8
  deriving DecidableEq

namespace Specifier

def octets (spec : Specifier) : List UInt8 :=
  encodeUnsigned16 spec.net ++ UInt8.ofNat spec.adr.length :: spec.adr

/-- The address with the fields that a specifier sets. -/
def apply (spec : Specifier) (addr : BacnetAddress) : BacnetAddress :=
  { addr with
    net := spec.net
    len := UInt8.ofNat spec.adr.length
    adr := Vector.ofFn fun i => spec.adr.getD i.val (addr.adr.get i) }

@[simp] theorem length_octets (spec : Specifier) : spec.octets.length = 3 + spec.adr.length := by
  simp [octets, encodeUnsigned16]
  omega

end Specifier

variable {npdu : Mem} {pduLen len : Nat} {spec : Specifier}

/-- The fixed part of a specifier. -/
theorem specifier_of_holds (hm : (npdu.shift len).Holds spec.octets)
    (hadr : spec.adr.length < 256) :
    UInt16.ofNat (decodeUnsigned16 (npdu.shift len)) = spec.net ∧
      npdu (len + 2) = UInt8.ofNat spec.adr.length ∧
      (npdu (len + 2)).toNat = spec.adr.length ∧ (npdu.shift (len + 3)).Holds spec.adr := by
  have hnet : (npdu.shift len).be 2 = spec.net.toNat := by
    have hbe := hm.left.be_eq
    rwa [ofBe_encodeUnsigned16] at hbe
  have hrest := hm.right
  rw [Mem.shift_shift, show (encodeUnsigned16 spec.net).length = 2 from rfl,
    Mem.holds_cons, Mem.shift_apply, Mem.shift_shift] at hrest
  obtain ⟨hlen, hoctets⟩ := hrest
  refine ⟨?_, hlen, ?_, hoctets⟩
  · rw [decodeUnsigned16, hnet, UInt16.ofNat_toNat]
  · rw [show npdu (len + 2) = UInt8.ofNat spec.adr.length from hlen]
    exact Nat.mod_eq_of_lt hadr

theorem decodeSpecifier_octets (hm : (npdu.shift len).Holds spec.octets)
    (hlen : len + spec.octets.length ≤ pduLen) (hadr : spec.adr.length ≤ maxMacLen)
    (addr : BacnetAddress) :
    decodeSpecifier npdu pduLen len addr =
      (some (len + spec.octets.length), spec.apply addr) := by
  have hmax : maxMacLen = 7 := rfl
  obtain ⟨hnet, hcount, hn, hoctets⟩ := specifier_of_holds hm (by omega)
  rw [Specifier.length_octets] at hlen ⊢
  simp only [decodeSpecifier, hnet]
  rw [if_pos (by omega)]
  by_cases h0 : npdu (len + 2) = 0
  · have hnil : spec.adr.length = 0 := by
      rw [← hn, h0]
      rfl
    rw [List.length_eq_zero_iff] at hnil
    have hsame : Vector.ofFn addr.adr.get = addr.adr := by
      refine Vector.ext fun i hi => ?_
      rw [Vector.getElem_ofFn]
      rfl
    rw [if_neg (not_not.mpr h0)]
    simp only [Specifier.apply, h0, hnil, List.length_nil, List.getD_nil, hsame]
    rfl
  · rw [if_pos h0, if_neg (by omega), hn]
    refine Prod.ext (congrArg some (Nat.add_assoc len 3 _)) ?_
    simp only [Specifier.apply, ← hcount, BacnetAddress.mk.injEq, true_and]
    refine congrArg Vector.ofFn (funext fun i => ?_)
    by_cases hi : i.val < spec.adr.length
    · rw [if_pos hi, List.getD_eq_getElem?_getD, List.getElem?_eq_getElem hi, Option.getD_some]
      exact hoctets i.val hi
    · rw [if_neg hi, List.getD_eq_getElem?_getD,
        List.getElem?_eq_none (Nat.le_of_not_lt hi), Option.getD_none]

/-- An address that is too large. -/
theorem decodeSpecifier_long (hm : (npdu.shift len).Holds spec.octets)
    (hlen : len + spec.octets.length ≤ pduLen) (hadr : spec.adr.length < 256)
    (hlong : maxMacLen < spec.adr.length) (addr : BacnetAddress) :
    (decodeSpecifier npdu pduLen len addr).1 = none := by
  obtain ⟨-, -, hn, -⟩ := specifier_of_holds hm hadr
  rw [Specifier.length_octets] at hlen
  have h0 : npdu (len + 2) ≠ 0 := by
    intro h
    rw [h] at hn
    change 0 = spec.adr.length at hn
    omega
  rw [decodeSpecifier, if_pos (by omega), if_pos h0, if_pos (Or.inl (by omega))]

/-! ### Messages -/

/-- An NPDU that carries an APDU. -/
structure NetworkMessage where
  /-- Priority, "data expecting reply" and the reserved bits of the control octet. -/
  flags : UInt8
  dest : Option Specifier
  source : Option Specifier
  hopCount : UInt8
  apdu : List UInt8

namespace NetworkMessage

def control (m : NetworkMessage) : UInt8 :=
  (if m.dest.isSome then 0x20 else 0) ||| (if m.source.isSome then 0x08 else 0) ||| m.flags

/-- The octets of an optional specifier. -/
def specifierOctets : Option Specifier → List UInt8
  | some spec => spec.octets
  | none => []

/-- What goes in front of the APDU. -/
def header (m : NetworkMessage) : List UInt8 :=
  [bacnetProtocolVersion, m.control] ++ (specifierOctets m.dest ++ (specifierOctets m.source ++
    if m.dest.isSome then [m.hopCount] else []))

def octets (m : NetworkMessage) : List UInt8 := m.header ++ m.apdu

/-- The flags stay clear of the bits that say what the message is made of; a destination
network has a number; and there is an APDU. -/
structure WellFormed (m : NetworkMessage) : Prop where
  flags : m.flags &&& 0xA8 = 0
  dest : ∀ spec ∈ m.dest, spec.net ≠ 0 ∧ spec.adr.length < 256
  source : ∀ spec ∈ m.source, spec.adr.length < 256
  apdu : m.apdu ≠ []

/-- Every address of the message fits `BACNET_ADDRESS`. -/
def AddressesFit (m : NetworkMessage) : Prop :=
  (∀ spec ∈ m.dest, spec.adr.length ≤ maxMacLen) ∧ ∀ spec ∈ m.source, spec.adr.length ≤ maxMacLen

/-- The address that an optional specifier makes of `addr`: `other` when it is absent. -/
def specifierAddress (spec : Option Specifier) (addr other : BacnetAddress) : BacnetAddress :=
  match spec with
  | some spec => spec.apply addr
  | none => other

/-- The address that `bacnet_npdu_decode` leaves for a source at `src`. -/
def sourceAddress (m : NetworkMessage) (src : BacnetAddress) : BacnetAddress :=
  specifierAddress m.source src
    { src with
      net := if src.net ≠ bacnetBroadcastNetwork then 0 else src.net
      len := 0
      adr := Vector.replicate maxMacLen 0 }

/-- The destination that `bacnet_npdu_decode` finds. -/
def destAddress (m : NetworkMessage) : BacnetAddress := specifierAddress m.dest .default .default

theorem or_and_octet (x y z : UInt8) : (x ||| y) &&& z = (x &&& z) ||| (y &&& z) := by
  apply UInt8.toNat_inj.mp
  simp only [UInt8.toNat_and, UInt8.toNat_or]
  exact Nat.and_or_distrib_right _ _ _

/-- A bit of the control octet that the flags stay clear of. -/
theorem control_and {m : NetworkMessage} (h : m.WellFormed) {bit : UInt8}
    (hbit : 0xA8 &&& bit = bit) :
    m.control &&& bit =
      ((if m.dest.isSome then 0x20 else 0) ||| (if m.source.isSome then 0x08 else 0)) &&& bit := by
  have hflags : m.flags &&& bit = 0 := by
    rw [← hbit, ← UInt8.and_assoc, h.flags, UInt8.zero_and]
  rw [control, or_and_octet, hflags, UInt8.or_zero]

theorem control_bits {m : NetworkMessage} (h : m.WellFormed) :
    m.control &&& 0x80 = 0 ∧ (m.control &&& 0x20 ≠ 0 ↔ m.dest.isSome = true) ∧
      (m.control &&& 0x08 ≠ 0 ↔ m.source.isSome = true) := by
  rw [control_and h (by decide), control_and h (by decide), control_and h (by decide)]
  cases m.dest.isSome <;> cases m.source.isSome <;> decide

theorem destAddress_net_eq_zero {m : NetworkMessage} (h : m.WellFormed) :
    m.destAddress.net = 0 ↔ m.dest = none := by
  unfold destAddress specifierAddress
  cases hd : m.dest with
  | none => exact iff_of_true rfl rfl
  | some spec => exact iff_of_false (h.dest spec hd).1 (by intro h; cases h)

/-- A specifier that may be absent. -/
theorem decodeSpecifier_optional (pduLen : Nat) {npdu : Mem} {len : Nat} {spec : Option Specifier}
    (hm : (npdu.shift len).Holds (specifierOctets spec))
    (hlen : len + (specifierOctets spec).length ≤ pduLen)
    (hadr : ∀ x ∈ spec, x.adr.length ≤ maxMacLen) (addr other : BacnetAddress) :
    (if spec.isSome = true then decodeSpecifier npdu pduLen len addr else (some len, other)) =
      (some (len + (specifierOctets spec).length), specifierAddress spec addr other) := by
  cases spec with
  | none => rfl
  | some x => exact decodeSpecifier_octets hm hlen (hadr x rfl) addr

theorem length_header (m : NetworkMessage) :
    m.header.length = 2 + (specifierOctets m.dest).length + (specifierOctets m.source).length +
      (if m.dest.isSome then [m.hopCount] else []).length := by
  simp only [header, List.length_append, List.length_cons, List.length_nil]
  omega

/-- The parts of a header in memory. -/
theorem holds_header {m : NetworkMessage} {npdu : Mem} (hm : npdu.Holds m.header) :
    npdu 1 = m.control ∧ (npdu.shift 2).Holds (specifierOctets m.dest) ∧
      (npdu.shift (2 + (specifierOctets m.dest).length)).Holds (specifierOctets m.source) := by
  have hrest : (npdu.shift 2).Holds (specifierOctets m.dest ++ (specifierOctets m.source ++
      if m.dest.isSome then [m.hopCount] else [])) := hm.right
  have hsource := hrest.right.left
  rw [Mem.shift_shift] at hsource
  exact ⟨hm 1 (by simp [header]), hrest.left, hsource⟩

/-- A message is read back: the APDU starts behind the header, and the addresses are those
of the specifiers. -/
theorem bacnetNpduDecode_octets {m : NetworkMessage} (h : m.WellFormed) (hfit : m.AddressesFit)
    {npdu : Mem} {pduLen : Nat} (hm : npdu.Holds m.header) (hlen : m.header.length < pduLen)
    (src : BacnetAddress) :
    bacnetNpduDecode npdu pduLen src =
      ⟨some m.header.length, m.destAddress, m.sourceAddress src, false⟩ := by
  obtain ⟨hnetwork, hdest, hsource⟩ := control_bits h
  obtain ⟨hcontrol, hdestOctets, hsourceOctets⟩ := holds_header hm
  have hsplit := length_header m
  have hd := decodeSpecifier_optional pduLen hdestOctets (by omega) hfit.1 .default
    .default
  have hs := decodeSpecifier_optional pduLen hsourceOctets (by omega) hfit.2 src
    { src with
      net := if src.net ≠ bacnetBroadcastNetwork then 0 else src.net
      len := 0
      adr := Vector.replicate maxMacLen 0 }
  simp only [← hdest, ← hsource, ← hcontrol] at hd hs
  have hhop : (if m.destAddress.net ≠ 0 ∧ pduLen > 2 + (specifierOctets m.dest).length +
        (specifierOctets m.source).length then
      2 + (specifierOctets m.dest).length + (specifierOctets m.source).length + 1
      else 2 + (specifierOctets m.dest).length + (specifierOctets m.source).length) =
      m.header.length := by
    rw [hsplit]
    by_cases hnone : m.dest = none
    · rw [if_neg fun hc => hc.1 ((destAddress_net_eq_zero h).mpr hnone)]
      simp [hnone]
    · have hsome := Option.isSome_iff_ne_none.mpr hnone
      rw [if_pos ⟨fun hc => hnone ((destAddress_net_eq_zero h).mp hc), by omega⟩]
      simp [hsome]
  rw [bacnetNpduDecode, if_neg (by omega)]
  simp only [hd, hs, NpduDecode.mk.injEq]
  refine ⟨congrArg some hhop, rfl, rfl, ?_⟩
  rw [hcontrol, hnetwork]
  rfl

/-- A message with an address that is too large is refused. -/
theorem bacnetNpduDecode_long {m : NetworkMessage} (h : m.WellFormed) (hfit : ¬ m.AddressesFit)
    {npdu : Mem} {pduLen : Nat} (hm : npdu.Holds m.header) (hlen : m.header.length < pduLen)
    (src : BacnetAddress) : (bacnetNpduDecode npdu pduLen src).offset = none := by
  obtain ⟨-, hdest, hsource⟩ := control_bits h
  obtain ⟨hcontrol, hdestOctets, hsourceOctets⟩ := holds_header hm
  have hsplit := length_header m
  rw [bacnetNpduDecode, if_neg (by omega)]
  by_cases hd : ∀ spec ∈ m.dest, spec.adr.length ≤ maxMacLen
  · have hdec := decodeSpecifier_optional pduLen hdestOctets (by omega) hd .default
      .default
    simp only [← hdest, ← hcontrol] at hdec
    obtain ⟨spec, hspec, hlong⟩ : ∃ spec ∈ m.source, maxMacLen < spec.adr.length := by
      by_contra hno
      exact hfit ⟨hd, fun spec hspec => Nat.le_of_not_lt fun hlt => hno ⟨spec, hspec, hlt⟩⟩
    rw [Option.mem_def] at hspec
    have hm' := hsourceOctets
    rw [hspec] at hm' hsplit
    have hsome : npdu 1 &&& 0x08 ≠ 0 := hcontrol ▸ hsource.mpr (by rw [hspec]; rfl)
    have hnone := decodeSpecifier_long hm'
      (show _ + (specifierOctets (some spec)).length ≤ pduLen by omega) (h.source spec hspec) hlong src
    simp only [hdec, if_pos hsome, hnone]
  · obtain ⟨spec, hspec, hlong⟩ : ∃ spec ∈ m.dest, maxMacLen < spec.adr.length := by
      by_contra hno
      exact hd fun spec hspec => Nat.le_of_not_lt fun hlt => hno ⟨spec, hspec, hlt⟩
    rw [Option.mem_def] at hspec
    have hm' := hdestOctets
    rw [hspec] at hm' hsplit
    have hsome : npdu 1 &&& 0x20 ≠ 0 := hcontrol ▸ hdest.mpr (by rw [hspec]; rfl)
    have hnone := decodeSpecifier_long hm'
      (show _ + (specifierOctets (some spec)).length ≤ pduLen by omega) (h.dest spec hspec).2 hlong
      .default
    simp only [if_pos hsome, hnone]

end NetworkMessage

/-! ### What the client sends -/

/-- The message with a confirmed request for `dest`. -/
def requestMessage (dest : BacnetAddress) (apdu : List UInt8) : NetworkMessage where
  flags := 0x04
  dest := if dest.net = 0 then none else some ⟨dest.net, macOctets dest.adr dest.len⟩
  source := none
  hopCount := hopCountDefault
  apdu := apdu

/-- The address behind a router has at most `MAX_MAC_LEN` octets. -/
def AddressFits (a : BacnetAddress) : Prop := a.net ≠ 0 → a.len.toNat ≤ maxMacLen

instance (a : BacnetAddress) : Decidable (AddressFits a) :=
  inferInstanceAs (Decidable (_ → _))

theorem length_macOctets (mac : Vector UInt8 maxMacLen) (n : UInt8) :
    (macOctets mac n).length = min n.toNat maxMacLen := by
  rw [macOctets, List.length_take, Vector.length_toList]

theorem wellFormed_requestMessage (dest : BacnetAddress) {apdu : List UInt8} (h : apdu ≠ []) :
    (requestMessage dest apdu).WellFormed where
  flags := by
    change (0x04 : UInt8) &&& 0xA8 = 0
    decide
  dest := by
    intro spec hspec
    rw [requestMessage, Option.mem_def] at hspec
    split at hspec
    · cases hspec
    · rename_i hnet
      cases hspec
      refine ⟨hnet, ?_⟩
      rw [length_macOctets]
      exact Nat.lt_of_le_of_lt (Nat.min_le_right _ _) (by decide)
  source := by
    intro spec hspec
    cases hspec
  apdu := h

theorem addressesFit_requestMessage (dest : BacnetAddress) (apdu : List UInt8) :
    (requestMessage dest apdu).AddressesFit := by
  refine ⟨fun spec hspec => ?_, fun spec hspec => by cases hspec⟩
  rw [requestMessage, Option.mem_def] at hspec
  split at hspec
  · cases hspec
  · cases hspec
    rw [length_macOctets]
    exact Nat.min_le_right _ _

/-- `npdu_encode_pdu` writes the header of such a message. -/
theorem npduEncodePdu_eq {dest : BacnetAddress} (h : AddressFits dest) (apdu : List UInt8) :
    npduEncodePdu dest .default true = (requestMessage dest apdu).header := by
  by_cases hnet : dest.net = 0
  · simp [npduEncodePdu, requestMessage, NetworkMessage.header, NetworkMessage.control,
      NetworkMessage.specifierOctets, hnet, BacnetAddress.default]
  · have hlen : UInt8.ofNat (macOctets dest.adr dest.len).length = dest.len := by
      rw [length_macOctets, Nat.min_eq_left (h hnet), UInt8.ofNat_toNat]
    simp [npduEncodePdu, requestMessage, NetworkMessage.header, NetworkMessage.control,
      NetworkMessage.specifierOctets, Specifier.octets, hnet, hlen, BacnetAddress.default]

end Bacnet
