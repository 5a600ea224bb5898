import Bacnet.Bbmd

/-!
# Bacnet.Management

The **broadcast distribution table as others see it**. Only a Write-Broadcast-Distribution-
Table message or the device itself changes the table, so what is written by one message can
be read by another, whatever happens in between (`readBdt_after_write`).
-/

namespace Bacnet

open Bacnet.Lib

/-! ### Writing -/

/-- The answer to a write. -/
theorem sent_writeBdt (b : Bbmd) {d : Datagram}
    (hf : d.function = some .writeBroadcastDistributionTable) :
    (b.receive d).sent = Bbmd.bvlcSendResult d.source
      (if 10 ≤ d.bytes.length - 4 ∧ d.bytes.length - 4 ≤ 1280 then .successfulCompletion
      else .writeBroadcastDistributionTableNak) := by
  rw [b.receive_of_function hf, Bbmd.handleFunction]
  by_cases hfit : d.bytes.length - 4 ≤ 1280
  · obtain ⟨hlen, -⟩ := members_decodeWrite_eq (d.mtu.shift 4) hfit b.bdt
    simp only [hlen]
    congr 1
    by_cases hone : 10 ≤ d.bytes.length - 4
    · rw [if_pos (by omega), if_pos ⟨hone, hfit⟩]
    · rw [if_neg (by omega), if_neg fun h => hone h.1]
  · have hlong := decodeWrite_long (d.mtu.shift 4) (Nat.lt_of_not_le hfit) b.bdt
    simp only [hlong, if_neg fun h : _ ∧ _ => hfit h.2]
    rfl

/-- **Every write is answered**, and the answer tells whether the octets behind the header
are one to 128 entries long. A message with more is ignored, and one with less than an
entry, which is refused like it, empties the table. -/
theorem writeBdt_answered (b : Bbmd) {d : Datagram}
    (hf : d.function = some .writeBroadcastDistributionTable) :
    (b.receive d).sent = Bbmd.bvlcSendResult d.source
        (if 10 ≤ d.bytes.length - 4 ∧ d.bytes.length - 4 ≤ 1280 then .successfulCompletion
        else .writeBroadcastDistributionTableNak) ∧
      members (b.receive d).state.bdt =
        if d.bytes.length - 4 ≤ 1280 then
          (List.range ((d.bytes.length - 4) / 10)).map fun i =>
            bvlcDecodeBroadcastDistributionTableEntry (d.mtu.shift (4 + i * 10))
        else members b.bdt := by
  refine ⟨sent_writeBdt b hf, ?_⟩
  rw [b.receive_of_function hf, Bbmd.handleFunction]
  by_cases hfit : d.bytes.length - 4 ≤ 1280
  · obtain ⟨-, hmembers⟩ := members_decodeWrite_eq (d.mtu.shift 4) hfit b.bdt
    simp only [Mem.shift_shift] at hmembers
    rw [if_pos hfit]
    exact hmembers
  · rw [decodeWrite_long (d.mtu.shift 4) (Nat.lt_of_not_le hfit) b.bdt, if_neg hfit]

/-- A message with one entry and a part of another. -/
theorem writeBdt_answered_partial :
    members ((Bbmd.init lanBip).receive ⟨remoteNode,
      bvlcEncodeHeader .writeBroadcastDistributionTable 16 ++
        [9, 9, 9, 9, 0xBA, 0xC0, 255, 255, 255, 255, 8, 8]⟩).state.bdt =
      [⟨true, remoteNode, unicastMask⟩] :=
  (writeBdt_answered (Bbmd.init lanBip) (d := ⟨remoteNode,
    bvlcEncodeHeader .writeBroadcastDistributionTable 16 ++
      [9, 9, 9, 9, 0xBA, 0xC0, 255, 255, 255, 255, 8, 8]⟩) (by decide)).2.trans (by decide)

/-! ### Keeping -/

/-- The events that write the table. -/
def BbmdEvent.WritesBdt : BbmdEvent → Prop
  | .receive d => d.function = some .writeBroadcastDistributionTable
  | .appendEntry _ => True
  | .clearBdt => True
  | _ => False

theorem receive_bdt (b : Bbmd) {d : Datagram}
    (hf : d.function ≠ some .writeBroadcastDistributionTable) :
    (b.receive d).state.bdt = b.bdt := by
  cases hd : d.function with
  | none =>
      obtain ⟨functionCode, hnone⟩ := b.receive_of_none hd
      rw [hnone]
  | some f =>
      rw [b.receive_of_function hd]
      cases f with
      | writeBroadcastDistributionTable => exact absurd hd hf
      | _ =>
          simp only [Bbmd.handleFunction]
          repeat' split
          all_goals rfl

theorem next_bdt (b : Bbmd) {e : BbmdEvent} (h : ¬ e.WritesBdt) : (b.next e).1.bdt = b.bdt := by
  cases e with
  | receive d => exact receive_bdt b h
  | appendEntry bdtNew => exact absurd trivial h
  | clearBdt => exact absurd trivial h
  | _ => rfl

theorem run_bdt {b b' : Bbmd} {es : List BbmdEvent} {os : List BbmdOutput}
    (hes : ∀ e ∈ es, ¬ e.WritesBdt) (hrun : bbmd.run b es = some (b', os)) : b'.bdt = b.bdt := by
  refine Machine.run_invariant (M := bbmd) (P := fun _ e => ¬ e.WritesBdt)
    (I := fun s => s.bdt = b.bdt) ?_ rfl (Machine.All.of_mem hes b) hrun
  intro s e s' o hs he hstep
  obtain rfl : (s.next e).1 = s' := congrArg Prod.fst (Option.some.inj hstep)
  rw [next_bdt s he, hs]

/-! ### Reading -/

/-- A message with the members of a table. -/
theorem encodeEntries_members (messageType : BvlcFunction)
    (bdt : Table maxBbmdEntries BroadcastDistributionTableEntry) :
    ∃ length, encodeEntries messageType (·.valid) bvlcEncodeBroadcastDistributionTableEntry maxMpdu
      bdt.cells = bvlcEncodeHeader messageType length ++
        (members bdt).flatMap bvlcEncodeBroadcastDistributionTableEntry := by
  have hcount : bdt.cells.countP (·.valid) ≤ 128 := List.countP_le_length.trans_eq bdt.size
  have hmax : maxMpdu = 1506 := rfl
  exact ⟨_, encodeEntries_eq (by omega) (by omega)⟩

theorem length_members (bdt : Table maxBbmdEntries BroadcastDistributionTableEntry) :
    ((members bdt).flatMap bvlcEncodeBroadcastDistributionTableEntry).length =
        (members bdt).length * 10 ∧
      (members bdt).length ≤ 128 :=
  ⟨length_flatMap_encode length_bvlcEncodeBroadcastDistributionTableEntry _,
    length_members_le bdt⟩

/-- **Every read is answered** with the members, in their order. -/
theorem readBdt_answered (b : Bbmd) {d : Datagram}
    (hf : d.function = some .readBroadcastDistTable) :
    ∃ length, (b.receive d).sent = [(d.source,
      bvlcEncodeHeader .readBroadcastDistTableAck length ++
        (members b.bdt).flatMap bvlcEncodeBroadcastDistributionTableEntry)] := by
  obtain ⟨length, hack⟩ := encodeEntries_members .readBroadcastDistTableAck b.bdt
  refine ⟨length, ?_⟩
  rw [b.receive_of_function hf, Bbmd.handleFunction]
  have hne : bvlcEncodeReadBroadcastDistributionTableAck maxMpdu b.bdt ≠ [] := by
    rw [bvlcEncodeReadBroadcastDistributionTableAck, hack]
    exact List.cons_ne_nil _ _
  rw [← hack]
  exact if_pos hne

/-- A table that is written as another device encodes it. -/
theorem receive_write (b : Bbmd) {bdt : Table maxBbmdEntries BroadcastDistributionTableEntry}
    (hbdt : members bdt ≠ []) {w : Datagram}
    (hw : w.payload = bvlcEncodeWriteBroadcastDistributionTable maxMpdu bdt) :
    (b.receive w).sent = Bbmd.bvlcSendResult w.source .successfulCompletion ∧
      members (b.receive w).state.bdt = members bdt := by
  obtain ⟨length, hmessage⟩ := encodeEntries_members .writeBroadcastDistributionTable bdt
  obtain ⟨hoctets, hcount⟩ := length_members bdt
  have hone : 0 < (members bdt).length := List.length_pos_iff.mpr hbdt
  have hmax : maxMpdu = 1506 := rfl
  obtain ⟨hfunction, hbytes, hrest⟩ := Datagram.function_of_payload (hw.trans hmessage) (by omega)
  refine ⟨?_, ?_⟩
  · rw [sent_writeBdt b hfunction, if_pos (by omega)]
  · rw [b.receive_of_function hfunction, Bbmd.handleFunction, hbytes, hoctets,
      Nat.add_sub_cancel_left]
    exact (members_decodeWrite (fun x hx => valid_of_mem_members hx) hcount hrest b.bdt).2

/-- **What is written is read.** A table that a client writes to a BBMD is what every
client reads from it, whatever happens to the BBMD in between, as long as the table is not
written again. -/
theorem readBdt_after_write {b b' : Bbmd}
    {bdt : Table maxBbmdEntries BroadcastDistributionTableEntry} (hbdt : members bdt ≠ [])
    {w d : Datagram} (hw : w.payload = bvlcEncodeWriteBroadcastDistributionTable maxMpdu bdt)
    {es : List BbmdEvent} {os : List BbmdOutput} (hes : ∀ e ∈ es, ¬ e.WritesBdt)
    (hrun : bbmd.run b (.receive w :: es) = some (b', os))
    (hd : d.function = some .readBroadcastDistTable) :
    os.head?.map (·.sent) = some (Bbmd.bvlcSendResult w.source .successfulCompletion) ∧
      ∃ ack, (b'.receive d).sent = [(d.source, ack)] ∧
        ∀ reply : Datagram, reply.payload = ack →
          ∀ t : Table maxBbmdEntries BroadcastDistributionTableEntry,
            members (bvlcDecodeReadBroadcastDistributionTableAck (reply.mtu.shift 4)
              (reply.bytes.length - 4) t).2 = members bdt := by
  obtain ⟨hack, hwritten⟩ := receive_write b hbdt hw
  obtain ⟨r, hr, os', hos', hos⟩ := (bbmd.run_cons).mp hrun
  obtain rfl : b.next (.receive w) = r := Option.some.inj hr
  have hkept : members b'.bdt = members bdt := by
    rw [run_bdt hes hos']
    exact hwritten
  obtain ⟨length, hsent⟩ := readBdt_answered b' hd
  refine ⟨?_, _, hsent, fun reply hreply t => ?_⟩
  · rw [show os = _ from hos, List.head?_cons, Option.map_some]
    exact congrArg some hack
  · obtain ⟨hoctets, hcount⟩ := length_members bdt
    have hone : 0 < (members bdt).length := List.length_pos_iff.mpr hbdt
    have hmax : maxMpdu = 1506 := rfl
    rw [hkept] at hreply
    obtain ⟨-, hbytes, hrest⟩ := Datagram.function_of_payload hreply (by omega)
    rw [hbytes, hoctets, Nat.add_sub_cancel_left, bvlcDecodeReadBroadcastDistributionTableAck,
      if_pos (by omega)]
    have hvalid : ∀ x ∈ members bdt, x.valid = true := fun x hx => valid_of_mem_members hx
    exact (decodeTable_encoded length_bvlcEncodeBroadcastDistributionTableEntry (fun _ => rfl)
      hvalid (fun x hx m => bvlcDecodeBroadcastDistributionTableEntry_of_holds (hvalid x hx)) hrest
      hcount t).2

/-- A table with one peer, which stays when a minute passes. -/
def onePeer : Table maxBbmdEntries BroadcastDistributionTableEntry :=
  ((Bbmd.init lanBip).next (.appendEntry ⟨true, remoteNode, unicastMask⟩)).1.bdt

theorem readBdt_after_write_onePeer : ∃ ack,
    ((((Bbmd.init lanBip).next (.receive ⟨remoteNode,
      bvlcEncodeWriteBroadcastDistributionTable maxMpdu onePeer⟩)).1.next
        (.maintenanceTimer 60)).1.receive
      ⟨remoteNode, bvlcEncodeReadBroadcastDistributionTable maxMpdu⟩).sent = [(remoteNode, ack)] :=
  have hread := (readBdt_after_write (b := Bbmd.init lanBip)
    (show members onePeer ≠ [] by decide +kernel)
    (w := ⟨remoteNode, bvlcEncodeWriteBroadcastDistributionTable maxMpdu onePeer⟩) rfl
    (List.forall_mem_singleton.mpr (show ¬ (BbmdEvent.maintenanceTimer 60).WritesBdt from id)) rfl
    (d := ⟨remoteNode, bvlcEncodeReadBroadcastDistributionTable maxMpdu⟩) (by decide)).2
  hread.imp fun _ h => h.1

end Bacnet
