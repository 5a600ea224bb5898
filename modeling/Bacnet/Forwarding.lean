import Bacnet.Bbmd
import Bacnet.Noninterference

/-!
# Bacnet.Forwarding

Where broadcasts go, and what is heard of them. A node that is sent a broadcast by a BBMD
hands the same message to its network layer, from the same source, as a node that hears it
on the subnet of its origin (`originalBroadcast_forwarded`, `foreignBroadcast_forwarded`).
A message that reaches a BBMD already forwarded gets no further than its subnet: what its
foreign devices are sent is wrapped twice, and their network layer discards it
(`relayed_discarded`).
-/

namespace Bacnet

open Bacnet.Lib

/-! ### What the client sees of the device -/

/-- The handler hands up what the client's view of it says, whatever is in the tables. -/
theorem handler_npdu (b : Bbmd) (addr : BacnetIpAddress) (mtu : Mem) (mtuLen : Nat) :
    (b.bvlcBbmdEnabledHandler addr mtu mtuLen).npdu =
      bvlcBbmdEnabledHandler b.bip addr mtu mtuLen := by
  unfold Bbmd.bvlcBbmdEnabledHandler bvlcBbmdEnabledHandler
  split
  · rfl
  · dsimp only
    cases hf : BvlcFunction.ofCode? (mtu 1) with
    | none =>
        have hcode : ∀ f : BvlcFunction, (mtu 1).toNat ≠ f.code.toNat := by
          intro f heq
          rw [UInt8.toNat_inj.mp heq, BvlcFunction.ofCode?_code] at hf
          cases hf
        simp only
        split
        · exact absurd ‹_› (hcode .forwardedNpdu)
        · exact absurd ‹_› (hcode .originalUnicastNpdu)
        · exact absurd ‹_› (hcode .originalBroadcastNpdu)
        · rfl
    | some f =>
        rw [BvlcFunction.eq_code_of_ofCode? hf]
        cases f with
        | forwardedNpdu =>
            change _ = if mtuLen - 4 ≥ 6 then
                if bbmdAddressMatchSelf b.bip (bvlcDecodeAddress (mtu.shift 4)) then none
                else some (bvlcIpAddressToBacnetLocal (bvlcDecodeAddress (mtu.shift 4)), 10)
              else none
            by_cases hlen : mtuLen - 4 ≥ 6
            · have hoffset : mtuLen - (mtuLen - 4 - 6) = 10 := by omega
              simp only [Bbmd.handleFunction, bvlcDecodeForwardedNpdu, hlen, if_true, hoffset]
              split
              all_goals rfl
            · simp only [Bbmd.handleFunction, bvlcDecodeForwardedNpdu, hlen, if_false]
        | originalUnicastNpdu =>
            change _ = if bbmdAddressMatchSelf b.bip addr then none
              else if mtuLen - 4 ≠ 0 then some (bvlcIpAddressToBacnetLocal addr, 4) else none
            simp only [Bbmd.handleFunction]
            repeat' split
            all_goals rfl
        | originalBroadcastNpdu =>
            change _ = if bbmdAddressMatchSelf b.bip addr then none
              else if mtuLen - 4 ≠ 0 then some (bvlcIpAddressToBacnetLocal addr, 4) else none
            simp only [Bbmd.handleFunction]
            repeat' split
            all_goals rfl
        | _ =>
            change _ = none
            simp only [Bbmd.handleFunction]
            repeat' split
            all_goals rfl

/-- What the node hands to its network layer when it receives a datagram: the source of
the NPDU, and the NPDU. -/
def Bbmd.hears (b : Bbmd) (d : Datagram) : Option (BacnetAddress × List UInt8) :=
  (b.next (.receive d)).2.npdu

theorem hears_eq (b : Bbmd) (d : Datagram) :
    b.hears d = (bvlcBbmdEnabledHandler b.bip d.source d.mtu d.bytes.length).map
      fun r => (r.1, d.bytes.drop r.2) := by
  by_cases hempty : d.bytes.length = 0
  · rw [hempty, Bbmd.hears, Bbmd.next, Bbmd.receive, if_pos hempty]
    rfl
  · rw [← handler_npdu, Bbmd.hears, Bbmd.next, Bbmd.receive, if_neg hempty]

/-- The octets the handler reads are those of the datagram. -/
theorem mtu_agree (d : Datagram) (rxBuf : Mem) :
    Mem.Agree d.bytes.length (eraseMargin d.bytes.length (storeReceived d.bytes rxBuf)) d.mtu :=
  fun i hi => (received_apply hi).trans (Mem.holds_overlay d.bytes _ i hi).symm

theorem storeReceived_first {d : Datagram} (h : d.bytes.length ≠ 0) (rxBuf : Mem) :
    storeReceived d.bytes rxBuf 0 = d.mtu 0 := by
  rw [storeReceived, Mem.holds_overlay d.bytes rxBuf 0 (by omega), Datagram.mtu,
    Mem.holds_overlay d.bytes _ 0 (by omega)]

/-- What the handler finds in a datagram is received. -/
theorem bipReceive_of_handler {b : Bbmd} {d : Datagram} {r : BacnetAddress × Nat}
    (h : bvlcBbmdEnabledHandler b.bip d.source d.mtu d.bytes.length = some r) (rx : RxState) :
    ∃ buf, buf.Holds (d.bytes.drop r.2) ∧
      bipReceive b.bip true (some d) rx = ((d.bytes.drop r.2).length, ⟨r.1, buf⟩) := by
  have hbvll : ¬ (d.bytes.length < 4 ∨ d.mtu 0 ≠ 0x81) := by
    intro hignored
    rw [bvlcBbmdEnabledHandler, if_pos hignored] at h
    cases h
  obtain ⟨hlong, htype⟩ := not_or.mp hbvll
  have hempty : d.bytes.length ≠ 0 := by omega
  rw [not_not, ← storeReceived_first hempty rx.rxBuf] at htype
  have hopen : ¬ ¬ (true = true) := not_not.mpr rfl
  have hbytes : d.payload.take maxMpdu = d.bytes := rfl
  have hagree := bvlcBbmdEnabledHandler_congr (mtu_agree d rx.rxBuf) b.bip d.source
  have hoffset := (bvlcBbmdEnabledHandler_offset h).2
  have hm : (eraseMargin d.bytes.length (storeReceived d.bytes rx.rxBuf)).Holds
      (d.bytes.take r.2 ++ d.bytes.drop r.2) := by
    rw [List.take_append_drop]
    exact fun i hi => received_apply hi
  have hnpdu := hm.right
  rw [List.length_take, Nat.min_eq_left hoffset] at hnpdu
  refine ⟨_, holds_shiftNpdu hnpdu, ?_⟩
  rw [bipReceive, if_neg hopen]
  simp only [hbytes, hempty, htype, hagree, h, if_false, ne_eq, not_true_eq_false,
    List.length_drop]

/-- Nothing else is. -/
theorem bipReceive_of_ignored {b : Bbmd} {d : Datagram}
    (h : bvlcBbmdEnabledHandler b.bip d.source d.mtu d.bytes.length = none) (rx : RxState) :
    ∃ buf, bipReceive b.bip true (some d) rx = (0, { rx with rxBuf := buf }) := by
  have hopen : ¬ ¬ (true = true) := not_not.mpr rfl
  have hbytes : d.payload.take maxMpdu = d.bytes := rfl
  have hagree := bvlcBbmdEnabledHandler_congr (mtu_agree d rx.rxBuf) b.bip d.source
  rw [bipReceive, if_neg hopen]
  by_cases hempty : d.bytes.length = 0
  · refine ⟨rx.rxBuf, ?_⟩
    simp only [hbytes, hempty, if_true]
  · by_cases htype : storeReceived d.bytes rx.rxBuf 0 = 0x81
    · refine ⟨eraseMargin d.bytes.length (storeReceived d.bytes rx.rxBuf), ?_⟩
      simp only [hbytes, hempty, htype, hagree, h, if_false, ne_eq, not_true_eq_false]
    · refine ⟨storeReceived d.bytes rx.rxBuf, ?_⟩
      simp only [hbytes, hempty, htype, if_false, ne_eq, not_false_eq_true, if_true]

/-- What a device hears is received by a client with its configuration. -/
theorem bipReceive_of_hears {b : Bbmd} {d : Datagram} {src : BacnetAddress} {npdu : List UInt8}
    (h : b.hears d = some (src, npdu)) (rx : RxState) : ∃ buf, buf.Holds npdu ∧
      bipReceive b.bip true (some d) rx = (npdu.length, ⟨src, buf⟩) := by
  rw [hears_eq] at h
  obtain ⟨r, hr, hnpdu⟩ := Option.map_eq_some_iff.mp h
  obtain ⟨rfl, rfl⟩ := Prod.mk.inj hnpdu
  exact bipReceive_of_handler hr rx

/-- **`bip_receive` agrees**: it hands the client the NPDU that the device hears, and returns
0 when there is none. -/
theorem bipReceive_hears (b : Bbmd) (d : Datagram) (rx : RxState) :
    (∀ src npdu, b.hears d = some (src, npdu) → ∃ buf, buf.Holds npdu ∧
      bipReceive b.bip true (some d) rx = (npdu.length, ⟨src, buf⟩)) ∧
    (b.hears d = none →
      ∃ buf, bipReceive b.bip true (some d) rx = (0, { rx with rxBuf := buf })) := by
  refine ⟨fun src npdu h => bipReceive_of_hears h rx, fun h => ?_⟩
  rw [hears_eq] at h
  exact bipReceive_of_ignored (Option.map_eq_none_iff.mp h) rx

/-! ### The messages with an NPDU -/

section Heard

variable {p : Bbmd} {d : Datagram} {npdu : List UInt8}

theorem hears_of_function {f : BvlcFunction} (h : d.function = some f) :
    p.hears d = (Bbmd.handleFunction { p with functionCode := f.code } d.source d.mtu
      d.bytes.length f).npdu.map fun r => (r.1, d.bytes.drop r.2) := by
  rw [← p.receive_of_function h]
  rfl

/-- A Forwarded-NPDU is heard from the address in it. -/
theorem hears_forwarded {bipSrc : BacnetIpAddress} (hfit : 10 + npdu.length ≤ maxMpdu)
    (hd : d.payload = bvlcEncodeForwardedNpdu maxMpdu bipSrc npdu) :
    p.hears d = if bipSrc = p.bip.address then none
      else some (bvlcIpAddressToBacnetLocal bipSrc, npdu) := by
  rw [bvlcEncodeForwardedNpdu, if_pos hfit] at hd
  have hlen : (bvlcEncodeAddress bipSrc ++ npdu).length = 6 + npdu.length := by simp
  obtain ⟨hf, hbytes, hrest⟩ := Datagram.function_of_payload hd (by omega)
  have hdrop : d.bytes.drop 10 = npdu := by
    rw [Datagram.bytes_of_payload hd (by omega), ← List.append_assoc, List.drop_left' (by simp)]
  have hoffset : d.bytes.length - (d.bytes.length - 4 - 6) = 10 := by omega
  have hlong : d.bytes.length - 4 ≥ 6 := by omega
  rw [hears_of_function hf, Bbmd.handleFunction]
  simp only [bvlcDecodeForwardedNpdu, hlong, if_true, bvlcDecodeAddress_of_holds hrest.left,
    hoffset, bbmdAddressMatchSelf_iff]
  split
  · rfl
  · simp only [Option.map_some, hdrop]

/-- An original message is heard from its sender. -/
theorem hears_original {f : BvlcFunction}
    (hf : f = .originalUnicastNpdu ∨ f = .originalBroadcastNpdu) (hne : npdu ≠ [])
    (hfit : 4 + npdu.length ≤ maxMpdu) (hd : d.payload = encodeNpdu f maxMpdu npdu) :
    p.hears d = if d.source = p.bip.address then none
      else some (bvlcIpAddressToBacnetLocal d.source, npdu) := by
  rw [encodeNpdu, if_pos hfit] at hd
  have hpos := List.length_pos_iff.mpr hne
  obtain ⟨hfunction, hbytes, hrest⟩ := Datagram.function_of_payload hd hfit
  have hdrop : d.bytes.drop 4 = npdu := by
    rw [Datagram.bytes_of_payload hd hfit, List.drop_left' (by simp)]
  have hlong : d.bytes.length - 4 ≠ 0 := by omega
  rw [hears_of_function hfunction]
  cases hf with
  | inl hf | inr hf =>
      subst hf
      simp only [Bbmd.handleFunction, hlong, if_true, ne_eq, not_false_eq_true,
        bbmdAddressMatchSelf_iff]
      split
      · rfl
      · simp only [Option.map_some, hdrop]

theorem hears_originalBroadcast (hne : npdu ≠ []) (hfit : 4 + npdu.length ≤ maxMpdu)
    (hd : d.payload = bvlcEncodeOriginalBroadcast maxMpdu npdu) :
    p.hears d = if d.source = p.bip.address then none
      else some (bvlcIpAddressToBacnetLocal d.source, npdu) :=
  hears_original (Or.inr rfl) hne hfit hd

/-- A unicast is sent to nobody else. -/
theorem next_originalUnicast (hd : d.function = some .originalUnicastNpdu) :
    (p.next (.receive d)).2.sent = [] := by
  change (p.receive d).sent = []
  rw [p.receive_of_function hd, Bbmd.handleFunction]
  repeat' split
  all_goals rfl

end Heard

/-! ### Where broadcasts go -/

/-- The nodes that a broadcast is forwarded to, beyond the subnet of the BBMD: its foreign
devices and the other BBMDs, but not the BBMD itself nor the origin. -/
def Bbmd.recipients (b : Bbmd) (origin : BacnetIpAddress) : List BacnetIpAddress :=
  (b.fdtAddresses ++ b.bdtAddresses).filter fun dest => dest ≠ b.bip.address ∧ dest ≠ origin

/-- What is forwarded without NAT handling. -/
theorem forwardTo_eq {b : Bbmd} (hnat : b.globalAddress = none) (dests : List BacnetIpAddress)
    (bipSrc : BacnetIpAddress) (npdu : List UInt8) (original : Bool) :
    b.forwardTo dests bipSrc npdu original =
      (dests.filter fun dest => dest ≠ b.bip.address ∧ dest ≠ bipSrc).map
        (·, bvlcEncodeForwardedNpdu maxMpdu bipSrc npdu) := by
  have hforwards : b.forwards bipSrc = fun dest =>
      decide (dest ≠ b.bip.address ∧ dest ≠ bipSrc) := by
    funext dest
    rw [Bool.eq_iff_iff, Bbmd.forwards, hnat]
    simp [← bvlcAddressDifferent_eq_false]
  simp only [Bbmd.forwardTo, Bbmd.forwardedMtu, hnat, hforwards]

theorem forwardTo_append {b : Bbmd} (hnat : b.globalAddress = none) (bipSrc : BacnetIpAddress)
    (npdu : List UInt8) (original : Bool) :
    b.bbmdFdtForwardNpdu bipSrc npdu original ++ b.bbmdBdtForwardNpdu bipSrc npdu original =
      (b.recipients bipSrc).map (·, bvlcEncodeForwardedNpdu maxMpdu bipSrc npdu) := by
  rw [Bbmd.bbmdFdtForwardNpdu, Bbmd.bbmdBdtForwardNpdu, forwardTo_eq hnat, forwardTo_eq hnat,
    Bbmd.recipients, List.filter_append, List.map_append]

section Broadcasts

variable {b : Bbmd} {npdu : List UInt8}

/-- **A broadcast on the subnet of a BBMD** is sent on to its recipients, and each of them
hears what it would have heard of the broadcast itself. -/
theorem originalBroadcast_forwarded (hnat : b.globalAddress = none) (hne : npdu ≠ [])
    (hfit : 10 + npdu.length ≤ maxMpdu) {d : Datagram} (hself : d.source ≠ b.bip.address)
    (hd : d.payload = bvlcEncodeOriginalBroadcast maxMpdu npdu) :
    ∃ mtu, (b.receive d).sent = (b.recipients d.source).map (·, mtu) ∧
      ∀ (p : Bbmd) (via : BacnetIpAddress), p.hears ⟨via, mtu⟩ = p.hears d := by
  refine ⟨bvlcEncodeForwardedNpdu maxMpdu d.source npdu, ?_, fun p via => ?_⟩
  · have hpos := List.length_pos_iff.mpr hne
    have hd' := hd
    rw [bvlcEncodeOriginalBroadcast, encodeNpdu, if_pos (by omega)] at hd'
    obtain ⟨hf, hbytes, hrest⟩ := Datagram.function_of_payload hd' (by omega)
    have hlong : d.bytes.length - 4 ≠ 0 := by omega
    have hslice : (d.mtu.shift 4).slice (d.bytes.length - 4) = npdu := by
      rw [hbytes, Nat.add_sub_cancel_left]
      exact hrest.slice_eq
    rw [b.receive_of_function hf, Bbmd.handleFunction]
    simp only [bbmdAddressMatchSelf_iff, hself, if_false, hlong, if_true, ne_eq,
      not_false_eq_true, hslice]
    exact forwardTo_append hnat _ _ _
  · rw [hears_forwarded hfit rfl, hears_originalBroadcast hne (by omega) hd]

/-- A BBMD with another one in its table. -/
def peeredBbmd : Bbmd :=
  ((Bbmd.init lanBip).next (.appendEntry ⟨true, peerNode, unicastMask⟩)).1

theorem recipients_peeredBbmd : peeredBbmd.recipients remoteNode = [peerNode] ∧
    peeredBbmd.recipients lanBip.address = [peerNode] := by
  decide +kernel

theorem originalBroadcast_forwarded_remote : ∃ mtu,
    (peeredBbmd.receive ⟨remoteNode, bvlcEncodeOriginalBroadcast maxMpdu [1, 0]⟩).sent =
      [(peerNode, mtu)] := by
  obtain ⟨mtu, hsent, -⟩ := originalBroadcast_forwarded (b := peeredBbmd) rfl
    (List.cons_ne_nil 1 [0]) (by decide)
    (d := ⟨remoteNode, bvlcEncodeOriginalBroadcast maxMpdu [1, 0]⟩)
    (show remoteNode ≠ lanBip.address by decide) rfl
  exact ⟨mtu, hsent.trans (by rw [recipients_peeredBbmd.1]; rfl)⟩

/-- **A broadcast of a foreign device** goes to its BBMD alone. That sends it to its subnet
and on to its recipients, and each of them hears what it would have heard of the foreign
device itself. -/
theorem foreignBroadcast_forwarded (hnat : b.globalAddress = none) (hne : npdu ≠ [])
    (hfit : 10 + npdu.length ≤ maxMpdu) {c : Bbmd} (hc : c.bip.remoteBbmd = b.bip.address)
    (hport : b.bip.address.port ≠ 0) {dest : BacnetAddress}
    (hdest : dest.net = bacnetBroadcastNetwork ∨ dest.macLen = 0) :
    ∃ request mtu, c.bvlcSendPdu dest npdu = [(b.bip.address, request)] ∧
      (b.receive ⟨c.bip.address, request⟩).sent =
        (b.bip.broadcast, mtu) :: (b.recipients c.bip.address).map (·, mtu) ∧
      ∀ (p : Bbmd) (via : BacnetIpAddress), p.hears ⟨via, mtu⟩ =
        p.hears ⟨c.bip.address, bvlcEncodeOriginalBroadcast maxMpdu npdu⟩ := by
  refine ⟨bvlcEncodeDistributeBroadcastToNetwork maxMpdu npdu,
    bvlcEncodeForwardedNpdu maxMpdu c.bip.address npdu, ?_, ?_, fun p via => ?_⟩
  · rw [Bbmd.bvlcSendPdu, if_pos hdest, hc, if_pos hport]
  · have hd : (Datagram.mk c.bip.address
        (bvlcEncodeDistributeBroadcastToNetwork maxMpdu npdu)).payload =
        bvlcEncodeHeader .distributeBroadcastToNetwork (UInt16.ofNat (4 + npdu.length)) ++ npdu :=
      if_pos (show maxMpdu ≥ 4 + npdu.length by omega)
    obtain ⟨hf, hbytes, hrest⟩ := Datagram.function_of_payload hd (by omega)
    have hslice := hrest.slice_eq
    have hforward : bvlcEncodeForwardedNpdu maxMpdu c.bip.address npdu ≠ [] := by
      rw [bvlcEncodeForwardedNpdu, if_pos hfit]
      exact List.cons_ne_nil _ _
    rw [b.receive_of_function hf, Bbmd.handleFunction, hbytes, Nat.add_sub_cancel_left]
    simp only [hslice, Bbmd.bbmdForwardNpdu, hforward, ne_eq, not_false_eq_true, if_true,
      List.cons_ne_nil, List.singleton_append]
    exact congrArg _ (forwardTo_append hnat _ _ _)
  · rw [hears_forwarded hfit rfl, hears_originalBroadcast hne (by omega) rfl]

/-- A client that has registered with the BBMD. -/
def foreignClient : Bbmd :=
  Bbmd.init { address := remoteNode, broadcast := remoteNode, remoteBbmd := lanBip.address }

theorem foreignBroadcast_forwarded_remote : ∃ request mtu,
    foreignClient.bvlcSendPdu BacnetAddress.default [1, 0] = [(lanBip.address, request)] ∧
    (peeredBbmd.receive ⟨remoteNode, request⟩).sent =
      [(lanBip.broadcast, mtu), (peerNode, mtu)] := by
  obtain ⟨request, mtu, hrequest, hsent, -⟩ := foreignBroadcast_forwarded (b := peeredBbmd)
    (c := foreignClient) rfl (List.cons_ne_nil 1 [0]) (by decide) rfl
    (show lanBip.address.port ≠ 0 by decide)
    (show _ ∨ BacnetAddress.default.macLen = 0 from Or.inr rfl)
  have hrecipients : peeredBbmd.recipients foreignClient.bip.address = [peerNode] :=
    recipients_peeredBbmd.1
  rw [hrecipients] at hsent
  exact ⟨request, mtu, hrequest, hsent⟩

end Broadcasts

/-! ### Messages that are forwarded again -/

theorem slice_mtu (d : Datagram) : d.mtu.slice d.bytes.length = d.bytes :=
  (Mem.holds_overlay d.bytes _).slice_eq

/-- What is sent on of a Forwarded-NPDU: the message as it is, on the subnet, if the sender
is a member of the distribution table with the unicast mask; and the message as the NPDU of
another one to the foreign devices. -/
theorem sent_of_forwarded (b : Bbmd) {d : Datagram} (hf : d.function = some .forwardedNpdu)
    {t : Transmission} (ht : t ∈ (b.receive d).sent) :
    (b.bbmdBdtMemberMaskIsUnicast d.source = true ∧ t = (b.bip.broadcast, d.bytes)) ∨
      ∃ fwdAddress, t.1 ∈ b.fdtAddresses ∧
        t.2 = bvlcEncodeForwardedNpdu maxMpdu fwdAddress d.bytes := by
  rw [b.receive_of_function hf, Bbmd.handleFunction] at ht
  split at ht
  · rename_i fwdAddress npduLen hdecode
    split at ht
    · cases ht
    · rw [slice_mtu] at ht
      rcases List.mem_append.mp ht with hsubnet | hforeign
      · split at hsubnet
        · exact Or.inl ⟨‹_›, List.mem_singleton.mp hsubnet⟩
        · cases hsubnet
      · obtain ⟨hdest, src, hmtu, -⟩ := Bbmd.mem_forwardTo hforeign
        exact Or.inr ⟨src, hdest, hmtu⟩
  · cases ht

theorem hears_nil (p : Bbmd) (via : BacnetIpAddress) : p.hears ⟨via, []⟩ = none := rfl

/-- **A message is forwarded once.** Of what a BBMD sends on when it receives a Forwarded-
NPDU, only the copy on its subnet is good for anything: whoever is sent another one, the
network layer discards it. -/
theorem relayed_discarded (b : Bbmd) {d : Datagram} (hf : d.function = some .forwardedNpdu)
    {t : Transmission} (ht : t ∈ (b.receive d).sent) :
    t = (b.bip.broadcast, d.bytes) ∨
      ∀ (p : Bbmd) (via : BacnetIpAddress) (src : BacnetAddress) (npdu : List UInt8),
        p.hears ⟨via, t.2⟩ = some (src, npdu) →
          ∀ buf : Mem, buf.Holds npdu → npduRoute src buf npdu.length = (src, none) := by
  rcases sent_of_forwarded b hf ht with ⟨-, hsubnet⟩ | ⟨fwdAddress, -, hmtu⟩
  · exact Or.inl hsubnet
  · refine Or.inr fun p via src npdu hears buf hbuf => ?_
    rw [hmtu] at hears
    by_cases hfit : 10 + d.bytes.length ≤ maxMpdu
    · rw [hears_forwarded hfit rfl] at hears
      split at hears
      · cases hears
      · obtain ⟨-, rfl⟩ := Prod.mk.inj (Option.some.inj hears)
        have hlen := Datagram.length_of_function hf
        have hfirst : buf 0 = 0x81 := by
          rw [hbuf 0 (by omega), ← Mem.holds_overlay d.bytes (fun _ => 0) 0 (by omega)]
          exact Datagram.type_of_function hf
        have hversion : buf 0 ≠ bacnetProtocolVersion := by
          rw [hfirst]
          decide
        rw [npduRoute, if_neg (by omega), if_pos hversion]
    · rw [bvlcEncodeForwardedNpdu, if_neg hfit, hears_nil] at hears
      cases hears

/-- A message from another BBMD, and what a foreign device is sent of it. -/
def relayed : Datagram :=
  ⟨⟨Vector.replicate 4 2, 0xBAC0⟩, bvlcEncodeForwardedNpdu maxMpdu remoteNode [1, 0]⟩

def relayedAgain : Transmission :=
  (⟨Vector.replicate 4 8, 0xBAC0⟩, bvlcEncodeForwardedNpdu maxMpdu remoteNode relayed.bytes)

theorem relayed_discarded_again : relayedAgain = (lanBip.broadcast, relayed.bytes) ∨
    ∀ (p : Bbmd) (via : BacnetIpAddress) (src : BacnetAddress) (npdu : List UInt8),
      p.hears ⟨via, relayedAgain.2⟩ = some (src, npdu) →
        ∀ buf : Mem, buf.Holds npdu → npduRoute src buf npdu.length = (src, none) :=
  relayed_discarded ((Bbmd.init lanBip).next (.receive ⟨⟨Vector.replicate 4 8, 0xBAC0⟩,
    bvlcEncodeRegisterForeignDevice maxMpdu 60⟩)).1 (d := relayed) (by decide)
    (t := relayedAgain) (by decide +kernel)

end Bacnet
