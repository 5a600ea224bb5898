import Bacnet.Steps

/-!
# Bacnet.Request

The request a read sends: how long it gets, and that it is the same datagram, to the same
endpoint, for two addresses that `address_match` does not tell apart.
-/

namespace Bacnet

open Bacnet.Lib

/-! ### The length of a request -/

/-- A read whose request is as long as they get. -/
def longestRead : ReadArgs := ⟨0, 0, 4194303, 0xFFFFFFFE⟩

/-- Every request to the address is shorter than what is left of the maximum APDU. -/
def Fits (dest : BacnetAddress) (m : UInt32) : Prop :=
  ∀ args, UInt16.ofNat (requestLength dest args) < m.toUInt16

/-- An optional part of a message. -/
theorem length_optional_le {p : Prop} [Decidable p] {l : List UInt8} {n : Nat}
    (h : p → l.length ≤ n) : (if p then l else []).length ≤ n := by
  split
  · rename_i hp
    exact h hp
  · exact Nat.zero_le n

theorem length_rpEncodeApdu_le (invokeId : UInt8) (args : ReadArgs) :
    (rpEncodeApdu invokeId args).length ≤ 18 := by
  have hobject : (encodeContextObjectId 0 args.objectType args.objectInstance).length = 5 := by
    simp [encodeContextObjectId, encodeBacnetObjectId, length_encodeTag_le]
  have hproperty : args.propertyId ≤ 4194303 →
      (encodeContextEnumerated 1 args.propertyId.toNat).length ≤ 4 := by
    intro h
    replace h : args.propertyId.toNat ≤ 4194303 := h
    have hlen : bacnetUnsignedLength args.propertyId.toNat ≤ 3 := by
      unfold bacnetUnsignedLength
      split_ifs <;> omega
    simp only [encodeContextEnumerated, List.length_append, encodeBacnetUnsigned, length_toBe]
    rw [length_encodeTag_le (by decide) true (by split_ifs <;> omega)]
    omega
  have hindex : (encodeContextUnsigned 2 args.index.toNat).length ≤ 5 := by
    have hlt := args.index.toNat_lt
    have hlen : bacnetUnsignedLength args.index.toNat ≤ 4 := by
      unfold bacnetUnsignedLength
      split_ifs <;> omega
    simp only [encodeContextUnsigned, List.length_append, encodeBacnetUnsigned, length_toBe]
    rw [length_encodeTag_le (by decide) true hlen]
    omega
  have h0 := length_optional_le (p := args.objectType.toNat ≤ bacnetMaxObject)
    fun _ => Nat.le_of_eq hobject
  have h1 := length_optional_le hproperty
  have h2 := length_optional_le (p := args.index ≠ bacnetArrayAll) fun _ => hindex
  simp only [rpEncodeApdu, List.length_append, List.length_cons, List.length_nil]
  omega

theorem length_npduEncodePdu_le (dest : BacnetAddress) :
    (npduEncodePdu dest .default true).length ≤ 13 := by
  have hmac : (macOctets dest.adr dest.len).length ≤ 7 := by
    simp [macOctets]
  have hdest : (encodeUnsigned16 dest.net ++ dest.len :: macOctets dest.adr dest.len).length ≤
      10 := by
    simp only [encodeUnsigned16, List.length_append, List.length_cons, List.length_nil]
    omega
  have h1 := length_optional_le (p := dest.net ≠ 0) fun _ => hdest
  have h2 := length_optional_le (p := dest.net ≠ 0) (l := [hopCountDefault]) (n := 1)
    fun _ => Nat.le_refl 1
  have h3 : (if BacnetAddress.default.net ≠ 0 ∧ BacnetAddress.default.len ≠ 0 then
      encodeUnsigned16 BacnetAddress.default.net ++ BacnetAddress.default.len ::
        macOctets BacnetAddress.default.adr BacnetAddress.default.len else []).length = 0 := rfl
  simp only [npduEncodePdu, List.length_append, List.length_cons, List.length_nil, h3]
  omega

/-- The request for `longestRead` is the longest one. -/
theorem requestLength_le (dest : BacnetAddress) (args : ReadArgs) :
    requestLength dest args ≤ requestLength dest longestRead ∧
      requestLength dest longestRead ≤ 31 := by
  have hargs := length_rpEncodeApdu_le 0 args
  have hdest := length_npduEncodePdu_le dest
  have hlongest : (rpEncodeApdu 0 longestRead).length = 18 := by decide
  simp only [requestLength, requestPdu, List.length_append]
  omega

theorem fits_iff {dest : BacnetAddress} {m : UInt32} :
    Fits dest m ↔ requestLength dest longestRead < m.toUInt16.toNat := by
  have hlt : ∀ args, (UInt16.ofNat (requestLength dest args)).toNat = requestLength dest args := by
    intro args
    have hle := requestLength_le dest args
    exact Nat.mod_eq_of_lt (show requestLength dest args < 2 ^ 16 by omega)
  constructor
  · intro h
    have hlongest := UInt16.lt_iff_toNat_lt.mp (h longestRead)
    rw [hlt] at hlongest
    exact hlongest
  · intro h args
    rw [UInt16.lt_iff_toNat_lt, hlt]
    exact Nat.lt_of_le_of_lt (requestLength_le dest args).1 h

instance (dest : BacnetAddress) (m : UInt32) : Decidable (Fits dest m) :=
  decidable_of_iff _ fits_iff.symm

/-- The maximum APDU that `connect` enters is large enough. -/
theorem fits_maxApdu (dest : BacnetAddress) : Fits dest (UInt32.ofNat maxApdu) := by
  refine fits_iff.mpr (Nat.lt_of_le_of_lt (requestLength_le dest longestRead).2 ?_)
  decide

/-! ### Matching addresses -/

theorem bvlcIpAddressFromBacnetLocal_of_match {a b : BacnetAddress}
    (h : addressMatch a b = true) :
    bvlcIpAddressFromBacnetLocal a = bvlcIpAddressFromBacnetLocal b := by
  obtain ⟨hlen, hmac, -, -⟩ := addressMatch_iff.mp h
  unfold bvlcIpAddressFromBacnetLocal
  rw [← hlen]
  split
  · rename_i h6
    have hoctet : ∀ i : Fin maxMacLen, i.val < 6 → a.mac[i] = b.mac[i] := by
      intro i hi
      refine octetsMatch_iff.mp hmac i ?_
      rw [h6]
      exact hi
    have h0 : a.mac[0] = b.mac[0] := hoctet 0 (by decide)
    have h1 : a.mac[1] = b.mac[1] := hoctet 1 (by decide)
    have h2 : a.mac[2] = b.mac[2] := hoctet 2 (by decide)
    have h3 : a.mac[3] = b.mac[3] := hoctet 3 (by decide)
    have h4 : a.mac[4] = b.mac[4] := hoctet 4 (by decide)
    have h5 : a.mac[5] = b.mac[5] := hoctet 5 (by decide)
    rw [h0, h1, h2, h3, h4, h5]
  · rfl

theorem macOctets_of_match {len : UInt8} {x y : Vector UInt8 maxMacLen}
    (h : octetsMatch len x y = true) : macOctets x len = macOctets y len := by
  have hmatch := octetsMatch_iff.mp h
  refine List.ext_getElem (by simp [macOctets]) fun i hi _ => ?_
  simp only [macOctets, List.length_take, Vector.length_toList] at hi
  simp only [macOctets, List.getElem_take, Vector.getElem_toList]
  exact hmatch ⟨i, by omega⟩ (by simp; omega)

theorem requestPdu_of_match {a b : BacnetAddress} (h : addressMatch a b = true)
    (invokeId : UInt8) (args : ReadArgs) :
    requestPdu a invokeId args = requestPdu b invokeId args := by
  obtain ⟨-, -, hnet, hremote⟩ := addressMatch_iff.mp h
  unfold requestPdu npduEncodePdu
  by_cases h0 : a.net = 0
  · rw [← hnet]
    simp only [h0, ne_eq, not_true_eq_false, if_false]
  · obtain ⟨hlen, hadr⟩ := hremote h0
    rw [macOctets_of_match hadr, ← hnet, ← hlen]

theorem bvlcSendPdu_of_match {a b : BacnetAddress} (h : addressMatch a b = true)
    (cfg : BipConfig) (socketOpen : Bool) (pdu : List UInt8) :
    bvlcSendPdu cfg socketOpen a pdu = bvlcSendPdu cfg socketOpen b pdu := by
  obtain ⟨hlen, -, hnet, hremote⟩ := addressMatch_iff.mp h
  have hzero : a.net > 0 ∧ a.len = 0 ↔ a.net > 0 ∧ b.len = 0 := by
    refine and_congr_right fun hpos => ?_
    have hne : a.net ≠ 0 := by
      intro h0
      rw [h0] at hpos
      exact absurd hpos (by decide)
    rw [(hremote hne).1]
  simp only [bvlcSendPdu, bvlcIpAddressFromBacnetLocal_of_match h, ← hlen, ← hnet, hzero]

/-- What is sent for a request depends on the address as far as `address_match` looks. -/
theorem frame_of_match {a b : BacnetAddress} (h : addressMatch a b = true) (cfg : BipConfig)
    (socketOpen : Bool) (invokeId : UInt8) (args : ReadArgs) :
    bvlcSendPdu cfg socketOpen a (requestPdu a invokeId args) =
      bvlcSendPdu cfg socketOpen b (requestPdu b invokeId args) := by
  rw [requestPdu_of_match h, bvlcSendPdu_of_match h]

end Bacnet
