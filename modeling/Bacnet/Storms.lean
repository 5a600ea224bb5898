import Bacnet.Forwarding
import Bacnet.Management
import Bacnet.Registrations
import Bacnet.Lib.Flood

/-!
# Bacnet.Storms

A **network of devices** that all are BBMDs: the datagrams in flight between them are
delivered in any order, or lost, while timers run, tables are written and messages are
sent. Broadcasts beget broadcasts here, but none of them goes on forever: if no BBMD has a
peer with the unicast mask among those whose local broadcasts reach it, each message that
is sent causes a bounded number of deliveries (`no_storm`).

What bounds it is the rank of a message. A reply begets nothing, a request a reply, a
broadcast forwarded messages. A forwarded message is sent on only in a longer one, or once
as it is, on the subnet.
-/

namespace Bacnet

open Bacnet.Lib

/-! ### The rank of a message -/

/-- The rank of a message, and whether it is a local broadcast of its sender. -/
def rank (onSubnet : Bool) (d : Datagram) : Nat :=
  match d.function with
  | some .forwardedNpdu =>
    2 * (maxMpdu + 1 - d.bytes.length) + if onSubnet then 0 else 1
  | some .distributeBroadcastToNetwork => 3016
  | some .originalBroadcastNpdu => 3016
  | some .writeBroadcastDistributionTable => 1
  | some .readBroadcastDistTable => 1
  | some .registerForeignDevice => 1
  | some .readForeignDeviceTable => 1
  | some .deleteForeignDeviceTableEntry => 1
  | _ => 0

theorem length_bytes_le (d : Datagram) : d.bytes.length ≤ 1506 := by
  rw [Datagram.bytes, List.length_take]
  exact Nat.min_le_left _ _

theorem rank_le (onSubnet : Bool) (d : Datagram) : rank onSubnet d ≤ 3016 := by
  have hmax : maxMpdu = 1506 := rfl
  unfold rank
  split
  · have hlen := Datagram.length_of_function ‹_›
    split <;> omega
  all_goals omega

theorem rank_forwarded {onSubnet : Bool} {d : Datagram} (h : d.function = some .forwardedNpdu) :
    rank onSubnet d = 2 * (maxMpdu + 1 - d.bytes.length) + if onSubnet then 0 else 1 := by
  rw [rank, h]

/-- A datagram without octets is nothing to anybody. -/
theorem rank_nil (onSubnet : Bool) (via : BacnetIpAddress) : rank onSubnet ⟨via, []⟩ = 0 := rfl

/-- What is encoded as the NPDU of a Forwarded-NPDU. -/
theorem rank_encodeForwarded (onSubnet : Bool) (via bipSrc : BacnetIpAddress) (npdu : List UInt8) :
    rank onSubnet ⟨via, bvlcEncodeForwardedNpdu maxMpdu bipSrc npdu⟩ ≤
      2 * (maxMpdu + 1 - (10 + npdu.length)) + 1 := by
  by_cases hfit : 10 + npdu.length ≤ maxMpdu
  · have hd : (Datagram.mk via (bvlcEncodeForwardedNpdu maxMpdu bipSrc npdu)).payload =
        bvlcEncodeHeader .forwardedNpdu (UInt16.ofNat (10 + npdu.length)) ++
          (bvlcEncodeAddress bipSrc ++ npdu) := if_pos hfit
    have hlen : (bvlcEncodeAddress bipSrc ++ npdu).length = 6 + npdu.length := by simp
    obtain ⟨hf, hbytes, -⟩ := Datagram.function_of_payload hd (by omega)
    rw [rank_forwarded hf, hbytes, hlen]
    split <;> omega
  · rw [bvlcEncodeForwardedNpdu, if_neg hfit, rank_nil]
    exact Nat.zero_le _

theorem rank_of_function {onSubnet : Bool} {d : Datagram} {f : BvlcFunction}
    (h : d.function = some f) (hf : f = .result ∨ f = .readBroadcastDistTableAck ∨
      f = .readForeignDeviceTableAck) : rank onSubnet d = 0 := by
  rw [rank, h]
  rcases hf with rfl | rfl | rfl
  all_goals rfl

/-- A reply begets nothing. -/
theorem rank_reply (onSubnet : Bool) (via dest : BacnetIpAddress) (b : Bbmd) {t : Transmission}
    (ht : (∃ c, t ∈ Bbmd.bvlcSendResult dest c) ∨
      (∃ nak, t ∈ Bbmd.sendTable dest (bvlcEncodeReadBroadcastDistributionTableAck maxMpdu b.bdt)
        nak) ∨
      ∃ nak, t ∈ Bbmd.sendTable dest (bvlcEncodeReadForeignDeviceTableAck maxMpdu b.fdt) nak) :
    rank onSubnet ⟨via, t.2⟩ = 0 := by
  have hresult : ∀ c, t ∈ Bbmd.bvlcSendResult dest c → rank onSubnet ⟨via, t.2⟩ = 0 := by
    intro c hc
    rw [List.mem_singleton.mp hc]
    have hd : (Datagram.mk via (bvlcEncodeResult maxMpdu c.value)).payload =
        bvlcEncodeHeader .result 6 ++ encodeUnsigned16 c.value := rfl
    exact rank_of_function (Datagram.function_of_header hd) (Or.inl rfl)
  rcases ht with ⟨c, hc⟩ | ⟨nak, hbdt⟩ | ⟨nak, hfdt⟩
  · exact hresult c hc
  · unfold Bbmd.sendTable at hbdt
    split at hbdt
    · rw [List.mem_singleton.mp hbdt]
      obtain ⟨length, hd⟩ := encodeEntries_members .readBroadcastDistTableAck b.bdt
      have hd' : (Datagram.mk via (bvlcEncodeReadBroadcastDistributionTableAck maxMpdu
          b.bdt)).payload = bvlcEncodeHeader .readBroadcastDistTableAck length ++ _ := hd
      exact rank_of_function (Datagram.function_of_header hd') (Or.inr (Or.inl rfl))
    · exact hresult nak hbdt
  · unfold Bbmd.sendTable at hfdt
    split at hfdt
    · rw [List.mem_singleton.mp hfdt]
      obtain ⟨length, hd⟩ := bvlcEncodeReadForeignDeviceTableAck_eq b.fdt
      have hd' : (Datagram.mk via (bvlcEncodeReadForeignDeviceTableAck maxMpdu
          b.fdt)).payload = bvlcEncodeHeader .readForeignDeviceTableAck length ++ _ := hd
      exact rank_of_function (Datagram.function_of_header hd') (Or.inr (Or.inr rfl))
    · exact hresult nak hfdt

/-- What is forwarded to the entries of a table, or on the subnet. -/
theorem rank_forwardTo {b : Bbmd} {onSubnet : Bool} {via bipSrc : BacnetIpAddress}
    {dests : List BacnetIpAddress} {npdu : List UInt8} {original : Bool} {t : Transmission}
    (ht : t ∈ b.forwardTo dests bipSrc npdu original) : rank onSubnet ⟨via, t.2⟩ < 3016 := by
  have hmax : maxMpdu = 1506 := rfl
  obtain ⟨-, src, hmtu, -⟩ := Bbmd.mem_forwardTo ht
  have hrank := rank_encodeForwarded onSubnet via src npdu
  rw [← hmtu] at hrank
  omega

theorem rank_forwardNpdu {b : Bbmd} {onSubnet : Bool} {via bipSrc : BacnetIpAddress}
    {npdu : List UInt8} {t : Transmission} (ht : t ∈ b.bbmdForwardNpdu bipSrc npdu) :
    rank onSubnet ⟨via, t.2⟩ < 3016 := by
  have hmax : maxMpdu = 1506 := rfl
  unfold Bbmd.bbmdForwardNpdu at ht
  simp only at ht
  split at ht
  · rw [List.mem_singleton.mp ht]
    refine Nat.lt_of_le_of_lt (rank_encodeForwarded onSubnet via bipSrc npdu) ?_
    omega
  · cases ht

/-- The source is not part of the message. -/
theorem function_resent (d : Datagram) (via : BacnetIpAddress) :
    (Datagram.mk via d.bytes).bytes = d.bytes ∧
      (Datagram.mk via d.bytes).function = d.function := by
  have hsame : (Datagram.mk via d.bytes).bytes = d.bytes := by
    rw [Datagram.bytes, List.take_of_length_le (show d.bytes.length ≤ maxMpdu from length_bytes_le d)]
  refine ⟨hsame, ?_⟩
  unfold Datagram.function Datagram.mtu
  rw [hsame]

/-- **Every message that is sent because of another has a lower rank**, unless a local
broadcast comes from a peer with the unicast mask. -/
theorem rank_sent {b : Bbmd} {d : Datagram} {onSubnet : Bool}
    (hecho : onSubnet = true → b.bbmdBdtMemberMaskIsUnicast d.source = false) {t : Transmission}
    (ht : t ∈ (b.receive d).sent) (via : BacnetIpAddress) :
    rank (decide (t.1 = b.bip.broadcast)) ⟨via, t.2⟩ < rank onSubnet d := by
  cases hf : d.function with
  | none =>
      obtain ⟨functionCode, hnone⟩ := b.receive_of_none hf
      rw [hnone] at ht
      cases ht
  | some f =>
      have hreply : (∃ dest c, t ∈ Bbmd.bvlcSendResult dest c) →
          rank (decide (t.1 = b.bip.broadcast)) ⟨via, t.2⟩ = 0 := by
        rintro ⟨dest, c, hc⟩
        exact rank_reply _ via dest b (Or.inl ⟨c, hc⟩)
      cases f with
      | forwardedNpdu =>
          have hlen := length_bytes_le d
          have hmax : maxMpdu = 1506 := rfl
          rw [rank_forwarded hf]
          rcases sent_of_forwarded b hf ht with ⟨hmember, rfl⟩ | ⟨fwdAddress, -, hmtu⟩
          · have hoff : onSubnet = false := by
              cases onSubnet with
              | false => rfl
              | true =>
                  rw [hecho rfl] at hmember
                  cases hmember
            obtain ⟨hsame, hf'⟩ := function_resent d via
            rw [rank_forwarded (hf'.trans hf), hsame, hoff]
            simp
          · have hrank := rank_encodeForwarded (decide (t.1 = b.bip.broadcast)) via fwdAddress
              d.bytes
            rw [← hmtu] at hrank
            omega
      | distributeBroadcastToNetwork =>
          rw [show rank onSubnet d = 3016 by rw [rank, hf]]
          rw [b.receive_of_function hf, Bbmd.handleFunction] at ht
          split at ht
          · rcases List.mem_append.mp ht with hsubnet | htables
            · exact rank_forwardNpdu hsubnet
            · rcases List.mem_append.mp htables with hforeign | hpeers
              · exact rank_forwardTo hforeign
              · exact rank_forwardTo hpeers
          · rw [hreply ⟨_, _, ht⟩]
            omega
      | originalBroadcastNpdu =>
          rw [show rank onSubnet d = 3016 by rw [rank, hf]]
          rw [b.receive_of_function hf, Bbmd.handleFunction] at ht
          split at ht
          · cases ht
          · split at ht
            · rcases List.mem_append.mp ht with hforeign | hpeers
              · exact rank_forwardTo hforeign
              · exact rank_forwardTo hpeers
            · cases ht
      | writeBroadcastDistributionTable =>
          rw [b.receive_of_function hf, Bbmd.handleFunction] at ht
          rw [hreply ⟨_, _, ht⟩, rank, hf]
          exact Nat.one_pos
      | readBroadcastDistTable =>
          rw [b.receive_of_function hf, Bbmd.handleFunction] at ht
          rw [rank_reply _ via d.source b (Or.inr (Or.inl ⟨_, ht⟩)), rank, hf]
          exact Nat.one_pos
      | registerForeignDevice =>
          rw [show rank onSubnet d = 1 by rw [rank, hf]]
          rw [b.receive_of_function hf, Bbmd.handleFunction] at ht
          repeat' split at ht
          · rw [hreply ⟨_, _, ht⟩]
            exact Nat.one_pos
          · rw [hreply ⟨_, _, ht⟩]
            exact Nat.one_pos
          · cases ht
      | readForeignDeviceTable =>
          rw [b.receive_of_function hf, Bbmd.handleFunction] at ht
          rw [rank_reply _ via d.source b (Or.inr (Or.inr ⟨_, ht⟩)), rank, hf]
          exact Nat.one_pos
      | deleteForeignDeviceTableEntry =>
          rw [show rank onSubnet d = 1 by rw [rank, hf]]
          rw [b.receive_of_function hf, Bbmd.handleFunction] at ht
          repeat' split at ht
          all_goals
            rw [hreply ⟨_, _, ht⟩]
            exact Nat.one_pos
      | _ =>
          rw [b.receive_of_function hf, Bbmd.handleFunction] at ht
          repeat' split at ht
          all_goals cases ht

/-! ### How many messages another causes -/

theorem length_fdtAddresses_le (b : Bbmd) : b.fdtAddresses.length ≤ 128 := by
  rw [Bbmd.fdtAddresses, List.length_map]
  exact (List.length_filter_le _ _).trans_eq b.fdt.size

theorem length_bdtAddresses_le (b : Bbmd) : b.bdtAddresses.length ≤ 128 := by
  rw [Bbmd.bdtAddresses, List.length_map]
  exact (length_members b.bdt).2

/-- What is forwarded to both tables. -/
theorem length_forward_le (b : Bbmd) (bipSrc : BacnetIpAddress) (npdu : List UInt8)
    (original : Bool) :
    (b.bbmdFdtForwardNpdu bipSrc npdu original).length ≤ 128 ∧
      (b.bbmdBdtForwardNpdu bipSrc npdu original).length ≤ 128 :=
  ⟨(b.length_forwardTo_le _ _ _ _).trans (length_fdtAddresses_le b),
    (b.length_forwardTo_le _ _ _ _).trans (length_bdtAddresses_le b)⟩

theorem length_sendTable_le (dest : BacnetIpAddress) (buffer : List UInt8)
    (nak : BvlcResultCode) : (Bbmd.sendTable dest buffer nak).length ≤ 257 := by
  unfold Bbmd.sendTable
  split
  · simp
  · simp [Bbmd.bvlcSendResult]

/-- A datagram causes at most one message on the subnet and one to each entry of both tables. -/
theorem length_handleFunction_le (b : Bbmd) (addr : BacnetIpAddress) (mtu : Mem) (mtuLen : Nat)
    (f : BvlcFunction) : (b.handleFunction addr mtu mtuLen f).sent.length ≤ 257 := by
  have hresult : ∀ c, (Bbmd.bvlcSendResult addr c).length ≤ 257 := by simp [Bbmd.bvlcSendResult]
  have hnone : ([] : List Transmission).length ≤ 257 := Nat.zero_le _
  cases f with
  | forwardedNpdu =>
      rw [Bbmd.handleFunction]
      split
      · split
        · exact hnone
        · rename_i fwdAddress npduLen _ _
          have htable := (length_forward_le b fwdAddress (mtu.slice mtuLen) false).1
          rw [List.length_append]
          split
          · rw [List.length_singleton]
            omega
          · rw [List.length_nil]
            omega
      · exact hnone
  | distributeBroadcastToNetwork =>
      rw [Bbmd.handleFunction]
      have htables := length_forward_le b addr ((mtu.shift 4).slice (mtuLen - 4)) false
      have hsubnet : (b.bbmdForwardNpdu addr ((mtu.shift 4).slice (mtuLen - 4))).length ≤ 1 := by
        unfold Bbmd.bbmdForwardNpdu
        simp only
        split
        · exact Nat.le_refl 1
        · exact Nat.zero_le 1
      split
      · simp only [List.length_append]
        omega
      · exact hresult _
  | originalBroadcastNpdu =>
      rw [Bbmd.handleFunction]
      have htables := length_forward_le b addr ((mtu.shift 4).slice (mtuLen - 4)) true
      split
      · exact hnone
      · split
        · simp only [List.length_append]
          omega
        · exact hnone
  | readBroadcastDistTable => exact length_sendTable_le _ _ _
  | readForeignDeviceTable => exact length_sendTable_le _ _ _
  | writeBroadcastDistributionTable => exact hresult _
  | _ =>
      rw [Bbmd.handleFunction]
      repeat' split
      all_goals first | exact hresult _ | exact hnone

theorem length_receive_le (b : Bbmd) (d : Datagram) : (b.receive d).sent.length ≤ 257 := by
  cases hf : d.function with
  | none =>
      obtain ⟨functionCode, hnone⟩ := b.receive_of_none hf
      rw [hnone]
      exact Nat.zero_le _
  | some f =>
      rw [b.receive_of_function hf]
      exact length_handleFunction_le _ _ _ _ f

theorem length_next_le (b : Bbmd) (e : BbmdEvent) : (b.next e).2.sent.length ≤ 257 := by
  cases e with
  | receive d => exact length_receive_le b d
  | sendPdu dest pdu =>
      change (b.bvlcSendPdu dest pdu).length ≤ 257
      have htables := length_forward_le b b.bip.address pdu true
      unfold Bbmd.bvlcSendPdu
      simp only
      repeat' split
      all_goals simp only [List.length_append, List.length_cons, List.length_nil]
      all_goals omega
  | _ => simp [Bbmd.next]

/-- The interface stays as it is. -/
theorem handleFunction_bip (b : Bbmd) (addr : BacnetIpAddress) (mtu : Mem) (mtuLen : Nat)
    (f : BvlcFunction) : (b.handleFunction addr mtu mtuLen f).state.bip = b.bip := by
  cases f
  all_goals
    rw [Bbmd.handleFunction]
    repeat' split
  all_goals rfl

theorem receive_bip (b : Bbmd) (d : Datagram) : (b.receive d).state.bip = b.bip := by
  cases hf : d.function with
  | none =>
      obtain ⟨functionCode, hnone⟩ := b.receive_of_none hf
      rw [hnone]
  | some f => rw [b.receive_of_function hf, handleFunction_bip]

theorem next_bip (b : Bbmd) (e : BbmdEvent) : (b.next e).1.bip.address = b.bip.address ∧
    (b.next e).1.bip.broadcast = b.bip.broadcast := by
  cases e with
  | receive d =>
      change (b.receive d).state.bip.address = _ ∧ (b.receive d).state.bip.broadcast = _
      rw [receive_bip]
      exact ⟨rfl, rfl⟩
  | _ => exact ⟨rfl, rfl⟩

/-! ### The network -/

/-- A datagram on its way from one node to another. -/
structure Packet (ι : Type) where
  sender : ι
  receiver : ι
  /-- The address it is sent to. -/
  dest : BacnetIpAddress
  payload : List UInt8

/-- The nodes, and what is on its way between them. -/
structure Network (ι : Type) where
  nodes : ι → Bbmd
  inFlight : List (Packet ι)

/-- What can happen in the network. -/
inductive NetworkEvent (ι : Type)
  /-- The datagram at a place arrives. -/
  | deliver (k : Nat)
  /-- The datagram at a place is lost. -/
  | lose (k : Nat)
  /-- The datagram at a place is doubled. -/
  | duplicate (k : Nat)
  /-- Something else than a datagram reaches a node. -/
  | act (i : ι) (e : BbmdEvent)

def NetworkEvent.isDeliver {ι : Type} : NetworkEvent ι → Bool
  | .deliver _ => true
  | _ => false

/-- Datagrams may come up that no other one has caused. -/
def NetworkEvent.originates {ι : Type} : NetworkEvent ι → Bool
  | .duplicate _ => true
  | .act _ _ => true
  | _ => false

def BbmdEvent.isReceive : BbmdEvent → Bool
  | .receive _ => true
  | _ => false

namespace Network

variable {ι : Type} [DecidableEq ι] (reach : ι → BacnetIpAddress → List ι)

/-- The datagrams of a call of `bip_send_mpdu`: one for every node that what the sender
sends to the address reaches. -/
def packets (i : ι) (t : Transmission) : List (Packet ι) :=
  (reach i t.1).map fun j => ⟨i, j, t.1, t.2⟩

/-- A datagram as its receiver gets it. -/
def datagram (n : Network ι) (p : Packet ι) : Datagram :=
  ⟨(n.nodes p.sender).bip.address, p.payload⟩

/-- Is it on its way to the broadcast address of its sender? -/
def onSubnet (n : Network ι) (p : Packet ι) : Bool :=
  decide (p.dest = (n.nodes p.sender).bip.broadcast)

/-- A node after an event, with what it sends on its way behind what is `left` in flight. -/
def happen (n : Network ι) (i : ι) (e : BbmdEvent) (left : List (Packet ι)) : Network ι where
  nodes := Function.update n.nodes i ((n.nodes i).next e).1
  inFlight := left ++ ((n.nodes i).next e).2.sent.flatMap (packets reach i)

end Network

open Network

/-- The network. What a node hands to its network layer is the output. -/
def network {ι : Type} [DecidableEq ι] (reach : ι → BacnetIpAddress → List ι) :
    Machine (Network ι) (NetworkEvent ι) (Option (ι × BbmdOutput)) where
  step n
    | .deliver k => (n.inFlight[k]?).map fun p =>
      (n.happen reach p.receiver (.receive (n.datagram p)) (n.inFlight.eraseIdx k),
        some (p.receiver, ((n.nodes p.receiver).next (.receive (n.datagram p))).2))
    | .lose k => (n.inFlight[k]?).map fun _ =>
      ({ n with inFlight := n.inFlight.eraseIdx k }, none)
    | .duplicate k => (n.inFlight[k]?).map fun p =>
      ({ n with inFlight := p :: n.inFlight }, none)
    | .act i e =>
      if e.isReceive then none
      else some (n.happen reach i e n.inFlight, some (i, ((n.nodes i).next e).2))

/-- **No echo**: what arrives is not a local broadcast of a peer that the receiver has in its
table with the unicast mask. -/
def NoEcho {ι : Type} (n : Network ι) : NetworkEvent ι → Prop
  | .deliver k => ∀ p ∈ n.inFlight[k]?, n.onSubnet p = true →
    (n.nodes p.receiver).bbmdBdtMemberMaskIsUnicast (n.datagram p).source = false
  | _ => True

instance {ι : Type} (n : Network ι) : ∀ e, Decidable (NoEcho n e)
  | .deliver k => inferInstanceAs (Decidable (∀ p ∈ n.inFlight[k]?, n.onSubnet p = true →
    (n.nodes p.receiver).bbmdBdtMemberMaskIsUnicast (n.datagram p).source = false))
  | .lose _ => isTrue trivial
  | .duplicate _ => isTrue trivial
  | .act _ _ => isTrue trivial

section Storm

variable {ι : Type} {reach : ι → BacnetIpAddress → List ι} {N : Nat}

/-- The rank of a datagram in flight. -/
def Network.rank (n : Network ι) (p : Packet ι) : Nat :=
  Bacnet.rank (n.onSubnet p) (n.datagram p)

theorem Network.length_sent_le (hreach : ∀ i dest, (reach i dest).length ≤ N) (i : ι)
    {sent : List Transmission} (hfew : sent.length ≤ 257) :
    (sent.flatMap (packets reach i)).length ≤ 257 * N := by
  have hone : ∀ ts : List Transmission, (ts.flatMap (packets reach i)).length ≤ ts.length * N := by
    intro ts
    induction ts with
    | nil => simp
    | cons t ts ih =>
        have hlen : (packets reach i t).length ≤ N := by
          rw [packets, List.length_map]
          exact hreach i t.1
        rw [List.flatMap_cons, List.length_append, List.length_cons, Nat.add_mul, Nat.one_mul]
        omega
  exact (hone sent).trans (Nat.mul_le_mul_right N hfew)

/-- What a node sends has the rank of the message, from that node. -/
theorem Network.rank_packets {n : Network ι} {i : ι} {sent : List Transmission} {p : Packet ι}
    (hp : p ∈ sent.flatMap (packets reach i)) : ∃ t ∈ sent, n.rank p =
      Bacnet.rank (decide (t.1 = (n.nodes i).bip.broadcast)) ⟨(n.nodes i).bip.address, t.2⟩ := by
  obtain ⟨t, ht, hpt⟩ := List.mem_flatMap.mp hp
  obtain ⟨j, -, rfl⟩ := List.mem_map.mp hpt
  exact ⟨t, ht, rfl⟩

variable [DecidableEq ι]

/-- An event leaves the interfaces of the nodes. -/
theorem Network.happen_bip (reach : ι → BacnetIpAddress → List ι) (n : Network ι) (i : ι)
    (e : BbmdEvent) (left : List (Packet ι)) (j : ι) :
    ((n.happen reach i e left).nodes j).bip.address = (n.nodes j).bip.address ∧
      ((n.happen reach i e left).nodes j).bip.broadcast = (n.nodes j).bip.broadcast := by
  unfold happen
  by_cases hj : j = i
  · rw [hj]
    simp only [Function.update_self]
    exact next_bip (n.nodes i) e
  · simp only [Function.update_of_ne hj, and_self]

/-- So the ranks of what is in flight are as they were. -/
theorem Network.rank_happen (n : Network ι) (i : ι) (e : BbmdEvent) (left : List (Packet ι)) :
    (n.happen reach i e left).rank = n.rank := by
  funext p
  obtain ⟨haddress, hbroadcast⟩ := n.happen_bip reach i e left p.sender
  simp only [Network.rank, onSubnet, datagram, haddress, hbroadcast]

/-- What the datagrams in flight can still cause. -/
def Network.energy (N : Nat) (n : Network ι) : Nat :=
  potential (257 * N) n.rank n.inFlight

/-- The deliveries that a message of a node can cause, when what is sent to an address
reaches at most `N` nodes. -/
@[irreducible] def stormBound (N : Nat) : Nat := (257 * N + 1) ^ 3016 * (257 * N + 1)

theorem pow_le_pow_mul {b r e : Nat} (hb : 0 < b) (hr : r ≤ e) : b ^ r ≤ b ^ e * b :=
  (Nat.pow_le_pow_right hb hr).trans (Nat.le_mul_of_pos_right _ hb)

theorem pow_rank_le (N : Nat) {r : Nat} (hr : r ≤ 3016) :
    (257 * N + 1) ^ r ≤ stormBound N := by
  unfold stormBound
  exact pow_le_pow_mul (Nat.succ_pos _) hr

/-- What a node sends out of itself raises the potential by so much. -/
theorem Network.energy_act (hreach : ∀ i dest, (reach i dest).length ≤ N) (n : Network ι) (i : ι)
    (e : BbmdEvent) :
    (n.happen reach i e n.inFlight).energy N ≤ n.energy N + stormBound N := by
  have hfew := length_sent_le hreach i (length_next_le (n.nodes i) e)
  have hsent : potential (257 * N) n.rank
      (((n.nodes i).next e).2.sent.flatMap (packets reach i)) ≤ stormBound N :=
    calc potential (257 * N) n.rank (((n.nodes i).next e).2.sent.flatMap (packets reach i))
        ≤ _ * (257 * N + 1) ^ 3016 := potential_le _ _ fun p _ => rank_le _ _
      _ ≤ (257 * N + 1) * (257 * N + 1) ^ 3016 := Nat.mul_le_mul_right _ (Nat.le_succ_of_le hfew)
      _ = stormBound N := by
        unfold stormBound
        exact Nat.mul_comm _ _
  rw [energy, rank_happen, happen, potential_append]
  exact Nat.add_le_add_left hsent _

/-- What is delivered lowers the potential. -/
theorem Network.energy_deliver (hreach : ∀ i dest, (reach i dest).length ≤ N) {n : Network ι}
    {k : Nat} {p : Packet ι} (hp : n.inFlight[k]? = some p) (hecho : NoEcho n (.deliver k)) :
    (n.happen reach p.receiver (.receive (n.datagram p)) (n.inFlight.eraseIdx k)).energy N + 1 ≤
      n.energy N := by
  have hfew := length_sent_le hreach p.receiver
    (length_next_le (n.nodes p.receiver) (.receive (n.datagram p)))
  have hlow : ∀ q ∈ ((n.nodes p.receiver).next (.receive (n.datagram p))).2.sent.flatMap
      (packets reach p.receiver), n.rank q < n.rank p := by
    intro q hq
    obtain ⟨t, ht, hrank⟩ := rank_packets hq
    rw [hrank]
    exact rank_sent (hecho p hp) ht _
  have hsent := potential_beget (257 * N) n.rank hlow hfew
  have herase := potential_eraseIdx (257 * N) n.rank hp
  rw [energy, rank_happen, happen, potential_append, energy]
  omega

/-- **Paying for deliveries.** Every delivery is paid for by what is in flight at the start,
or by what nodes send of themselves. -/
theorem countP_isDeliver_le (hreach : ∀ i dest, (reach i dest).length ≤ N) {n n' : Network ι}
    {es : List (NetworkEvent ι)} {os} (hecho : (network reach).All NoEcho n es)
    (hrun : (network reach).run n es = some (n', os)) :
    es.countP (·.isDeliver) + n'.energy N ≤
      n.energy N + es.countP (·.originates) * stormBound N := by
  refine Machine.run_countP_le (P := NoEcho) (fun n e n' o hn h => ?_) hecho hrun
  cases e with
  | deliver k =>
      obtain ⟨p, hp, hn'⟩ := Option.map_eq_some_iff.mp h
      obtain ⟨rfl, -⟩ := Prod.mk.inj hn'
      have hdeliver := energy_deliver hreach hp hn
      simp only [NetworkEvent.isDeliver, NetworkEvent.originates, if_true, Bool.false_eq_true,
        if_false]
      omega
  | lose k =>
      obtain ⟨p, hp, hn'⟩ := Option.map_eq_some_iff.mp h
      obtain ⟨rfl, -⟩ := Prod.mk.inj hn'
      have herase := potential_eraseIdx (257 * N) n.rank hp
      have hsame : Network.energy N { n with inFlight := n.inFlight.eraseIdx k } =
          potential (257 * N) n.rank (n.inFlight.eraseIdx k) := rfl
      have hstart : n.energy N = potential (257 * N) n.rank n.inFlight := rfl
      simp only [NetworkEvent.isDeliver, NetworkEvent.originates, Bool.false_eq_true, if_false]
      omega
  | duplicate k =>
      obtain ⟨p, hp, hn'⟩ := Option.map_eq_some_iff.mp h
      obtain ⟨rfl, -⟩ := Prod.mk.inj hn'
      have hone := pow_rank_le N (rank_le (n.onSubnet p) (n.datagram p))
      rw [← Network.rank] at hone
      have hsame : Network.energy N { n with inFlight := p :: n.inFlight } =
          (257 * N + 1) ^ n.rank p + n.energy N := rfl
      simp only [NetworkEvent.isDeliver, NetworkEvent.originates, Bool.false_eq_true, if_false,
        if_true]
      omega
  | act i e =>
      change (if e.isReceive then none else some _) = some (n', o) at h
      split at h
      · cases h
      · obtain ⟨rfl, -⟩ := Prod.mk.inj (Option.some.inj h)
        have hact := energy_act hreach n i e
        simp only [NetworkEvent.isDeliver, NetworkEvent.originates, Bool.false_eq_true, if_false,
          if_true]
        omega

/-- **No storm.** In a network that is quiet at first, and in which a message reaches at most
`N` nodes, the messages that are delivered are bounded by those that nodes send of themselves,
whatever is lost or overtaken, as long as nothing is echoed. -/
theorem no_storm (hreach : ∀ i dest, (reach i dest).length ≤ N) {n n' : Network ι}
    {es : List (NetworkEvent ι)} {os} (hquiet : n.inFlight = [])
    (hecho : (network reach).All NoEcho n es)
    (hrun : (network reach).run n es = some (n', os)) :
    es.countP (·.isDeliver) ≤ es.countP (·.originates) * stormBound N := by
  have hpaid := countP_isDeliver_le hreach hecho hrun
  have hstart : n.energy N = 0 := by
    rw [energy, hquiet]
    rfl
  omega

/-- Two BBMDs that have each other in their tables with the unicast mask. -/
def unicastPeer (i : Bool) : Bbmd :=
  let here : BacnetIpAddress := ⟨Vector.replicate 4 (bif i then 2 else 1), 0xBAC0⟩
  let there : BacnetIpAddress := ⟨Vector.replicate 4 (bif i then 1 else 2), 0xBAC0⟩
  ((Bbmd.init { lanBip with address := here }).next (.appendEntry ⟨true, there, unicastMask⟩)).1

/-- Each of them on a subnet of its own. -/
def twoSubnets (i : Bool) (dest : BacnetIpAddress) : List Bool :=
  if dest = lanBip.broadcast then [i]
  else if dest = (unicastPeer false).bip.address then [false]
  else if dest = (unicastPeer true).bip.address then [true]
  else []

theorem length_twoSubnets_le (i : Bool) (dest : BacnetIpAddress) :
    (twoSubnets i dest).length ≤ 1 := by
  unfold twoSubnets
  split
  · exact Nat.le_refl 1
  · split
    · exact Nat.le_refl 1
    · split
      · exact Nat.le_refl 1
      · exact Nat.zero_le 1

/-- A broadcast of one of them, which the other forwards to its own subnet. -/
def forwardedBroadcast : List (NetworkEvent Bool) :=
  [.act false (.sendPdu .default [1, 0]), .deliver 0, .deliver 1, .deliver 0]

theorem no_storm_forwarded :
    ∃ n' os sent, (network twoSubnets).run ⟨unicastPeer, []⟩ forwardedBroadcast = some (n', os) ∧
      os[1]? = some (some (true, sent)) ∧
      (lanBip.broadcast,
        bvlcEncodeForwardedNpdu maxMpdu (unicastPeer false).bip.address [1, 0]) ∈ sent.sent ∧
      3 ≤ 1 * stormBound 1 := by
  have hforwards : ((network twoSubnets).run ⟨unicastPeer, []⟩ forwardedBroadcast).any
      (fun r => (r.2[1]?.bind id).any fun o => o.1 && decide ((lanBip.broadcast,
        bvlcEncodeForwardedNpdu maxMpdu (unicastPeer false).bip.address [1, 0]) ∈ o.2.sent)) =
        true := by
    decide +kernel
  obtain ⟨n', os, hrun, hforwards⟩ := Machine.exists_run hforwards
  obtain ⟨⟨i, sent⟩, hsent, hmem⟩ := (Option.any_eq_true _ _).mp hforwards
  obtain ⟨hi, hmem⟩ := (Bool.and_eq_true _ _).mp hmem
  obtain ⟨o, ho, rfl⟩ := Option.bind_eq_some_iff.mp hsent
  cases hi
  exact ⟨n', os, sent, hrun, ho, of_decide_eq_true hmem,
    no_storm length_twoSubnets_le (n := ⟨unicastPeer, []⟩) rfl (by decide +kernel) hrun⟩

/-! ### A storm -/

/-- Node `j` hears the local broadcasts of node `i`, and has it in its table with the unicast
mask. -/
structure Echoes (reach : ι → BacnetIpAddress → List ι) (n : Network ι) (i j : ι) : Prop where
  reaches : j ∈ reach i (n.nodes i).bip.broadcast
  member : (n.nodes j).bbmdBdtMemberMaskIsUnicast (n.nodes i).bip.address = true

/-- A Forwarded-NPDU leaves the tables. -/
theorem receive_forwarded_state (b : Bbmd) {d : Datagram}
    (hf : d.function = some .forwardedNpdu) :
    (b.receive d).state = { b with functionCode := BvlcFunction.forwardedNpdu.code } := by
  rw [b.receive_of_function hf, Bbmd.handleFunction]
  repeat' split
  all_goals rfl

/-- It is sent on, as it is, if it comes from a member with the unicast mask. -/
theorem echo_sent (b : Bbmd) {d : Datagram} {bipSrc : BacnetIpAddress} {npdu : List UInt8}
    (hfit : 10 + npdu.length ≤ maxMpdu) (hd : d.payload = bvlcEncodeForwardedNpdu maxMpdu bipSrc npdu)
    (hself : bipSrc ≠ b.bip.address) (hmember : b.bbmdBdtMemberMaskIsUnicast d.source = true) :
    d.function = some .forwardedNpdu ∧ (b.bip.broadcast, d.payload) ∈ (b.receive d).sent := by
  have hd' := hd
  rw [bvlcEncodeForwardedNpdu, if_pos hfit] at hd'
  have hlen : (bvlcEncodeAddress bipSrc ++ npdu).length = 6 + npdu.length := by simp
  obtain ⟨hf, hbytes, hrest⟩ := Datagram.function_of_payload hd' (by omega)
  have hpayload : d.bytes = d.payload := by
    rw [hd']
    exact Datagram.bytes_of_payload hd' (by omega)
  have hlong : d.bytes.length - 4 ≥ 6 := by omega
  refine ⟨hf, ?_⟩
  rw [← hpayload, b.receive_of_function hf, Bbmd.handleFunction]
  have hmember' : Bbmd.bbmdBdtMemberMaskIsUnicast
      { b with functionCode := BvlcFunction.forwardedNpdu.code } d.source = true := hmember
  simp only [bvlcDecodeForwardedNpdu, hlong, if_true, bvlcDecodeAddress_of_holds hrest.left,
    bbmdAddressMatchSelf_iff, hself, if_false, hmember', slice_mtu, List.singleton_append]
  exact List.mem_cons_self

/-- The event is the arrival of the message. -/
def Delivers (payload : List UInt8) (n : Network ι) (e : NetworkEvent ι) : Prop :=
  ∃ k p, e = .deliver k ∧ n.inFlight[k]? = some p ∧ p.payload = payload

omit [DecidableEq ι] in
theorem Echoes.congr {n n' : Network ι} {i j : ι} (h : Echoes reach n i j)
    (hsame : ∀ l, (n'.nodes l).bip = (n.nodes l).bip ∧ (n'.nodes l).bdt = (n.nodes l).bdt) :
    Echoes reach n' i j := by
  refine ⟨?_, ?_⟩
  · rw [(hsame i).1]
    exact h.reaches
  · have hmember := h.member
    unfold Bbmd.bbmdBdtMemberMaskIsUnicast at hmember ⊢
    rw [(hsame i).1, (hsame j).1, (hsame j).2]
    exact hmember

/-- The step lemma: when the message arrives, a copy of it is on its way back, and the nodes stay
where they are, with the tables that they have. -/
theorem step_echo {n : Network ι} {i j : ι} (hij : Echoes reach n i j) (hji : Echoes reach n j i)
    {bipSrc : BacnetIpAddress} {npdu : List UInt8} (hfit : 10 + npdu.length ≤ maxMpdu)
    (hj : bipSrc ≠ (n.nodes j).bip.address) {k : Nat} {p : Packet ι} (hk : n.inFlight[k]? = some p)
    (hsender : p.sender = i) (hreceiver : p.receiver = j)
    (hpayload : p.payload = bvlcEncodeForwardedNpdu maxMpdu bipSrc npdu) :
    ∃ n₁ o, (network reach).step n (.deliver k) = some (n₁, o) ∧
      (∀ l, (n₁.nodes l).bip = (n.nodes l).bip ∧ (n₁.nodes l).bdt = (n.nodes l).bdt) ∧
      (⟨j, i, (n.nodes j).bip.broadcast, p.payload⟩ : Packet ι) ∈ n₁.inFlight := by
  have hmember : (n.nodes j).bbmdBdtMemberMaskIsUnicast (n.datagram p).source = true := by
    rw [datagram, hsender]
    exact hij.member
  obtain ⟨hf, hsent⟩ := echo_sent (n.nodes j) hfit hpayload hj hmember
  refine ⟨n.happen reach j (.receive (n.datagram p)) (n.inFlight.eraseIdx k),
    some (j, ((n.nodes j).next (.receive (n.datagram p))).2), ?_, fun l => ?_, ?_⟩
  · change (n.inFlight[k]?).map _ = _
    rw [hk, Option.map_some, hreceiver]
  · rw [happen]
    by_cases hl : l = j
    · rw [hl]
      simp only [Function.update_self, Bbmd.next, receive_forwarded_state _ hf, and_self]
    · simp only [Function.update_of_ne hl, and_self]
  · rw [happen]
    refine List.mem_append.mpr (Or.inr (List.mem_flatMap.mpr ⟨_, hsent, ?_⟩))
    exact List.mem_map.mpr ⟨i, hji.reaches, rfl⟩

/-- **Two peers that echo each other never stop.** A message that one of them forwards to the
other is delivered any number of times, although nothing else is sent. -/
theorem storm_of_echoes {n : Network ι} {i j : ι} (hij : Echoes reach n i j)
    (hji : Echoes reach n j i) {bipSrc : BacnetIpAddress} {npdu : List UInt8}
    (hfit : 10 + npdu.length ≤ maxMpdu) (hi : bipSrc ≠ (n.nodes i).bip.address)
    (hj : bipSrc ≠ (n.nodes j).bip.address) {p : Packet ι} (hp : p ∈ n.inFlight)
    (hsender : p.sender = i) (hreceiver : p.receiver = j)
    (hpayload : p.payload = bvlcEncodeForwardedNpdu maxMpdu bipSrc npdu) (m : Nat) :
    ∃ es n' os, (network reach).run n es = some (n', os) ∧ es.countP (·.isDeliver) = m ∧
      es.countP (·.originates) = 0 ∧ (network reach).All (Delivers p.payload) n es := by
  induction m generalizing n i j p with
  | zero => exact ⟨[], n, [], rfl, rfl, rfl, trivial⟩
  | succ m ih =>
      obtain ⟨k, hk⟩ := List.mem_iff_getElem?.mp hp
      obtain ⟨n₁, o, hstep, hsame, hback⟩ :=
        step_echo hij hji hfit hj hk hsender hreceiver hpayload
      have hi₁ : bipSrc ≠ (n₁.nodes i).bip.address := by
        rw [(hsame i).1]
        exact hi
      have hj₁ : bipSrc ≠ (n₁.nodes j).bip.address := by
        rw [(hsame j).1]
        exact hj
      -- from there the two nodes have changed their parts
      obtain ⟨es, n', os, hrun, hdelivered, hquiet, hall⟩ :=
        ih (hji.congr hsame) (hij.congr hsame) hj₁ hi₁ hback rfl rfl hpayload
      have hcons := (Machine.run_cons (network reach) (q := (n', _ :: os))).mpr
        ⟨_, hstep, os, hrun, rfl⟩
      refine ⟨.deliver k :: es, n', _, hcons, ?_, ?_, ⟨k, p, rfl, hk, rfl⟩, fun r hr => ?_⟩
      · rw [List.countP_cons, hdelivered]
        rfl
      · rw [List.countP_cons, hquiet]
        rfl
      · cases hstep.symm.trans hr
        exact hall

end Storm

/-- The two BBMDs on one subnet, and a message that one of them has forwarded to it. -/
def peers : Network Bool where
  nodes := unicastPeer
  inFlight := [⟨false, true, lanBip.broadcast,
    bvlcEncodeForwardedNpdu maxMpdu remoteNode [1, 0]⟩]

theorem storm_of_echoes_peers : ∃ es n' os,
    (network fun _ _ => [false, true]).run peers es = some (n', os) ∧
      es.countP (·.isDeliver) = 1000 ∧ es.countP (·.originates) = 0 ∧
      (network fun _ _ => [false, true]).All
        (Delivers (bvlcEncodeForwardedNpdu maxMpdu remoteNode [1, 0])) peers es := by
  refine storm_of_echoes (n := peers) (i := false) (j := true) ⟨?_, ?_⟩ ⟨?_, ?_⟩
    (show 10 + ([1, 0] : List UInt8).length ≤ maxMpdu by decide) ?_ ?_
    (List.mem_singleton_self _) rfl rfl rfl 1000
  all_goals decide +kernel

end Bacnet
