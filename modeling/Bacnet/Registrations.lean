import Bacnet.Bbmd

/-!
# Bacnet.Registrations

Who is a **foreign device** of a BBMD. What a run of the device leaves in its table can be
told from the datagrams alone: an acknowledged Register-Foreign-Device grants its sender a
lease of the time-to-live and 30 seconds, an acknowledged Delete-Foreign-Device-Table-Entry
releases one, and the timer lets time elapse (`leaseOp`). The table refines these leases
step by step (`lease_step`), hence over every run.
-/

namespace Bacnet

open Bacnet.Lib

/-! ### What a datagram asks of the table -/

namespace Datagram

/-- The time-to-live of a registration. -/
def registration? (d : Datagram) : Option UInt16 :=
  if d.function = some .registerForeignDevice then
    bvlcDecodeRegisterForeignDevice (d.mtu.shift 4) (d.bytes.length - 4)
  else none

/-- The address to delete. -/
def deletion? (d : Datagram) : Option BacnetIpAddress :=
  if d.function = some .deleteForeignDeviceTableEntry then
    bvlcDecodeDeleteForeignDevice (d.mtu.shift 4) (d.bytes.length - 4)
  else none

end Datagram

/-- The term of a lease. -/
def leaseTerm (ttlSeconds : UInt16) : Nat := min (ttlSeconds.toNat + 30) 65535

/-- What an event does to the leases: a request does something when it is acknowledged. -/
def leaseOp : BbmdEvent × BbmdOutput → Option (LeaseOp BacnetIpAddress)
  | (.receive d, o) =>
    if o.sent = Bbmd.bvlcSendResult d.source .successfulCompletion then
      match d.registration? with
      | some ttlSeconds => some (.grant d.source (leaseTerm ttlSeconds))
      | none => d.deletion?.map .release
    else none
  | (.maintenanceTimer seconds, _) => some (.elapse seconds.toNat)
  | _ => none

theorem bvlcSendResult_inj {addr : BacnetIpAddress} {c c' : BvlcResultCode} :
    Bbmd.bvlcSendResult addr c = Bbmd.bvlcSendResult addr c' ↔ c = c' := by
  constructor
  · intro h
    have hoctets : bvlcEncodeResult maxMpdu c.value = bvlcEncodeResult maxMpdu c'.value := by
      simpa [Bbmd.bvlcSendResult] using h
    have hvalue : encodeUnsigned16 c.value = encodeUnsigned16 c'.value :=
      List.append_cancel_left (show bvlcEncodeHeader .result 6 ++ _ = _ ++ _ from hoctets)
    have hsame := congrArg ofBe hvalue
    rw [ofBe_encodeUnsigned16, ofBe_encodeUnsigned16] at hsame
    exact BvlcResultCode.value_inj (UInt16.toNat_inj.mp hsame)
  · exact congrArg _

/-! ### One step -/

section Step

variable {b : Bbmd} {d : Datagram} {ttlSeconds : UInt16} {addr : BacnetIpAddress}

/-- A registration. -/
theorem receive_registration (h : d.registration? = some ttlSeconds) :
    b.receive d =
      match bvlcForeignDeviceTableEntryAdd b.fdt d.source ttlSeconds with
      | some fdt =>
        ⟨{ b with functionCode := 5, fdt := fdt },
          Bbmd.bvlcSendResult d.source .successfulCompletion, none⟩
      | none =>
        ⟨{ b with functionCode := 5 }, Bbmd.bvlcSendResult d.source .registerForeignDeviceNak,
          none⟩ := by
  unfold Datagram.registration? at h
  split at h
  · rename_i hf
    rw [b.receive_of_function hf, Bbmd.handleFunction, h]
    cases hadd : bvlcForeignDeviceTableEntryAdd b.fdt d.source ttlSeconds with
    | some fdt =>
        simp only [hadd]
        rfl
    | none =>
        simp only [hadd]
        rfl
  · cases h

/-- A deletion. -/
theorem receive_deletion (h : d.deletion? = some addr) :
    b.receive d =
      match bvlcForeignDeviceTableEntryDelete b.fdt addr with
      | some fdt =>
        ⟨{ b with functionCode := 8, fdt := fdt },
          Bbmd.bvlcSendResult d.source .successfulCompletion, none⟩
      | none =>
        ⟨{ b with functionCode := 8 },
          Bbmd.bvlcSendResult d.source .deleteForeignDeviceTableEntryNak, none⟩ := by
  unfold Datagram.deletion? at h
  split at h
  · rename_i hf
    rw [b.receive_of_function hf, Bbmd.handleFunction, h]
    cases hdel : bvlcForeignDeviceTableEntryDelete b.fdt addr with
    | some fdt =>
        simp only [hdel]
        rfl
    | none =>
        simp only [hdel]
        rfl
  · cases h

/-- No other datagram touches the table. -/
theorem receive_fdt (hreg : d.registration? = none) (hdel : d.deletion? = none) :
    (b.receive d).state.fdt = b.fdt := by
  cases hf : d.function with
  | none =>
      obtain ⟨functionCode, hnone⟩ := b.receive_of_none hf
      rw [hnone]
  | some f =>
      rw [b.receive_of_function hf]
      cases f with
      | registerForeignDevice =>
          rw [Datagram.registration?, if_pos hf] at hreg
          simp only [Bbmd.handleFunction, hreg]
      | deleteForeignDeviceTableEntry =>
          rw [Datagram.deletion?, if_pos hf] at hdel
          simp only [Bbmd.handleFunction, hdel]
      | _ =>
          simp only [Bbmd.handleFunction]
          repeat' split
          all_goals rfl

end Step

/-- **The table refines the leases.** An event does to the table what it does to the
leases, and the table stays well-formed. -/
theorem lease_step {b : Bbmd} (h : FdtWf b.fdt) (e : BbmdEvent) :
    FdtWf (b.next e).1.fdt ∧
      remaining (b.next e).1.fdt =
        Leases.run (remaining b.fdt) (leaseOp (e, (b.next e).2)).toList := by
  cases e with
  | receive d =>
      cases hreg : d.registration? with
      | some ttlSeconds =>
          cases hadd : bvlcForeignDeviceTableEntryAdd b.fdt d.source ttlSeconds with
          | some fdt =>
              simp only [Bbmd.next, leaseOp, receive_registration hreg, hadd, hreg, if_true]
              exact ⟨h.add hadd, h.remaining_add hadd⟩
          | none =>
              simp only [Bbmd.next, leaseOp, receive_registration hreg, hadd, bvlcSendResult_inj,
                reduceCtorEq, if_false]
              exact ⟨h, rfl⟩
      | none =>
          cases hdel : d.deletion? with
          | some addr =>
              cases hentry : bvlcForeignDeviceTableEntryDelete b.fdt addr with
              | some fdt =>
                  simp only [Bbmd.next, leaseOp, receive_deletion hdel, hentry, hreg, hdel, if_true]
                  exact ⟨h.delete hentry, h.remaining_delete hentry⟩
              | none =>
                  simp only [Bbmd.next, leaseOp, receive_deletion hdel, hentry,
                    bvlcSendResult_inj, reduceCtorEq, if_false]
                  exact ⟨h, rfl⟩
          | none =>
              have hop : leaseOp (.receive d, (b.next (.receive d)).2) = none := by
                simp only [leaseOp, hreg, hdel, Option.map_none, ite_self]
              have hfdt : (b.next (.receive d)).1.fdt = b.fdt := receive_fdt hreg hdel
              rw [hop, hfdt]
              exact ⟨h, rfl⟩
  | maintenanceTimer seconds =>
      exact ⟨h.maintenanceTimer seconds, h.remaining_maintenanceTimer seconds⟩
  | _ => exact ⟨h, rfl⟩

/-! ### Runs -/

theorem fdtWf_init (bip : BipConfig) :
    FdtWf (Bbmd.init bip).fdt ∧ remaining (Bbmd.init bip).fdt = Leases.empty := by
  have hinvalid : ∀ i, ((Bbmd.init bip).fdt.get i).valid = false := by
    intro i
    simp [Bbmd.init]
  have hwf : FdtWf (Bbmd.init bip).fdt := by
    constructor
    · intro i j hi
      rw [hinvalid i] at hi
      cases hi
    · intro i hi
      rw [hinvalid i] at hi
      cases hi
  refine ⟨hwf, ?_⟩
  funext addr
  refine eq_of_pos_iff fun r hr => ?_
  rw [hwf.remaining_iff hr]
  refine iff_of_false (fun hentry => ?_) (Nat.ne_of_lt hr)
  obtain ⟨i, hi, -⟩ := hentry
  rw [hinvalid i] at hi
  cases hi

/-- What a run does to the leases. -/
def leaseHistory (es : List BbmdEvent) (os : List BbmdOutput) : List (LeaseOp BacnetIpAddress) :=
  (es.zip os).filterMap leaseOp

/-- The table after a run. -/
theorem remaining_run {bip : BipConfig} {es : List BbmdEvent} {os : List BbmdOutput} {b : Bbmd}
    (hrun : bbmd.run (Bbmd.init bip) es = some (b, os)) :
    FdtWf b.fdt ∧ remaining b.fdt = Leases.run Leases.empty (leaseHistory es os) := by
  have hall : bbmd.All (fun _ _ => True) (Bbmd.init bip) es :=
    Machine.All.of_forall (fun _ _ => trivial) _ es
  refine (Machine.run_history (motive := fun es os b => os.length = es.length ∧ FdtWf b.fdt ∧
    remaining b.fdt = Leases.run Leases.empty (leaseHistory es os))
    ⟨rfl, fdtWf_init bip⟩ ?_ hall hrun).2
  intro es os b e b' o _ ih _ hstep
  obtain ⟨hlen, hwf, hrem⟩ := ih
  obtain ⟨rfl, rfl⟩ : (b.next e).1 = b' ∧ (b.next e).2 = o :=
    Prod.mk.injEq .. ▸ Option.some.inj hstep
  obtain ⟨hwf', hrem'⟩ := lease_step hwf e
  refine ⟨by simp [hlen], hwf', ?_⟩
  rw [hrem', hrem, leaseHistory, leaseHistory, List.zip_append hlen.symm, List.filterMap_append,
    Leases.run_append]
  simp only [List.zip_cons_cons, List.zip_nil_right, List.filterMap_cons, List.filterMap_nil]
  cases leaseOp (e, (b.next e).2) <;> rfl

/-- The foreign devices that are sent to are those with time left. -/
theorem mem_fdtAddresses {b : Bbmd} (h : FdtWf b.fdt) {addr : BacnetIpAddress} :
    addr ∈ b.fdtAddresses ↔ 0 < remaining b.fdt addr := by
  rw [h.remaining_pos_iff, Bbmd.fdtAddresses, List.mem_map]
  constructor
  · intro hmem
    obtain ⟨entry, hentry, haddr⟩ := hmem
    obtain ⟨hcell, hlive⟩ := List.mem_filter.mp hentry
    obtain ⟨i, hi⟩ := Table.exists_get_of_mem hcell
    exact ⟨i, by simpa [hi] using (Bool.and_eq_true_iff.mp hlive).1, by rw [hi, haddr]⟩
  · intro hentry
    obtain ⟨i, hvalid, haddr⟩ := hentry
    refine ⟨b.fdt.get i, List.mem_filter.mpr ⟨Table.get_mem b.fdt i, ?_⟩, haddr⟩
    simpa [hvalid] using h.live i hvalid

theorem leaseOp_eq_grant {s : BbmdEvent × BbmdOutput} {addr : BacnetIpAddress} {term : Nat} :
    leaseOp s = some (.grant addr term) ↔
      ∃ d ttlSeconds, s.1 = .receive d ∧ d.source = addr ∧ d.registration? = some ttlSeconds ∧
        s.2.sent = Bbmd.bvlcSendResult addr .successfulCompletion ∧ leaseTerm ttlSeconds = term := by
  obtain ⟨e, o⟩ := s
  constructor
  · intro h
    cases e with
    | receive d =>
        simp only [leaseOp] at h
        split at h
        · rename_i hack
          split at h
          · rename_i ttlSeconds hreg
            simp only [Option.some.injEq, LeaseOp.grant.injEq] at h
            obtain ⟨rfl, hterm⟩ := h
            exact ⟨d, ttlSeconds, rfl, rfl, hreg, hack, hterm⟩
          · simp at h
        · cases h
    | maintenanceTimer seconds => simp [leaseOp] at h
    | _ => cases h
  · intro h
    obtain ⟨d, ttlSeconds, rfl, rfl, hreg, hack, rfl⟩ := h
    simp only [leaseOp, hreg]
    exact if_pos hack

/-- The last thing acknowledged about the address is its registration, and this is what the
timer has left of its term. -/
def RegisteredFor (history : List (BbmdEvent × BbmdOutput)) (addr : BacnetIpAddress)
    (left : Nat) : Prop :=
  ∃ pre d ttlSeconds o post, history = pre ++ (.receive d, o) :: post ∧ d.source = addr ∧
    d.registration? = some ttlSeconds ∧
    o.sent = Bbmd.bvlcSendResult addr .successfulCompletion ∧
    (∀ s ∈ post, ∀ op, leaseOp s = some op → ¬ op.Concerns addr) ∧
    LeaseOp.elapsed (post.filterMap leaseOp) + left = leaseTerm ttlSeconds

theorem remaining_iff_registeredFor {bip : BipConfig} {es : List BbmdEvent}
    {os : List BbmdOutput} {b : Bbmd} (hrun : bbmd.run (Bbmd.init bip) es = some (b, os))
    {addr : BacnetIpAddress} {left : Nat} (hleft : 0 < left) :
    remaining b.fdt addr = left ↔ RegisteredFor (es.zip os) addr left := by
  rw [(remaining_run hrun).2, leaseHistory, Leases.run_filterMap_iff hleft]
  constructor
  · intro h
    obtain ⟨pre, s, post, hes, hop, hpost⟩ := h
    obtain ⟨d, ttlSeconds, hd, haddr, hreg, hack, hterm⟩ := leaseOp_eq_grant.mp hop
    exact ⟨pre, d, ttlSeconds, s.2, post, by rw [hes, ← hd], haddr, hreg, hack, hpost, hterm.symm⟩
  · intro h
    obtain ⟨pre, d, ttlSeconds, o, post, hes, haddr, hreg, hack, hpost, hterm⟩ := h
    exact ⟨pre, (.receive d, o), post, hes,
      leaseOp_eq_grant.mpr ⟨d, ttlSeconds, rfl, haddr, hreg, hack, hterm.symm⟩, hpost⟩

/-- **Who is forwarded to.** After every run, a foreign device is sent what the BBMD
forwards to its foreign devices exactly when it is neither the BBMD nor the origin, is at the
global address if the BBMD is behind NAT, and its registration has not run out. -/
theorem forwarded_iff_registered {bip : BipConfig} {es : List BbmdEvent} {os : List BbmdOutput}
    {b : Bbmd} (hrun : bbmd.run (Bbmd.init bip) es = some (b, os))
    (addr bipSrc : BacnetIpAddress) (npdu : List UInt8) (original : Bool) :
    (addr, b.forwardedMtu bipSrc npdu original) ∈ b.bbmdFdtForwardNpdu bipSrc npdu original ↔
      b.forwards bipSrc addr = true ∧ ∃ left, 0 < left ∧ RegisteredFor (es.zip os) addr left := by
  have hregistered : 0 < remaining b.fdt addr ↔
      ∃ left, 0 < left ∧ RegisteredFor (es.zip os) addr left := by
    constructor
    · intro hpos
      exact ⟨_, hpos, (remaining_iff_registeredFor hrun hpos).mp rfl⟩
    · intro h
      obtain ⟨left, hleft, hreg⟩ := h
      rwa [(remaining_iff_registeredFor hrun hleft).mpr hreg]
  rw [← hregistered, ← mem_fdtAddresses (remaining_run hrun).1, Bbmd.bbmdFdtForwardNpdu,
    Bbmd.forwardTo, List.mem_map]
  constructor
  · intro h
    obtain ⟨dest, hdest, heq⟩ := h
    obtain ⟨rfl, -⟩ := Prod.mk.inj heq
    exact (List.mem_filter.mp hdest).symm
  · intro h
    exact ⟨addr, List.mem_filter.mpr h.symm, rfl⟩

/-- A registration, and the BBMD after it. -/
def firstRegistration : BbmdEvent :=
  .receive ⟨remoteNode, bvlcEncodeRegisterForeignDevice maxMpdu 60⟩

def registeredBbmd : Bbmd := ((Bbmd.init lanBip).next firstRegistration).1

theorem run_firstRegistration : bbmd.run (Bbmd.init lanBip) [firstRegistration] =
    some (registeredBbmd, [((Bbmd.init lanBip).next firstRegistration).2]) := rfl

theorem registeredFor_first : RegisteredFor
    ([firstRegistration].zip [((Bbmd.init lanBip).next firstRegistration).2]) remoteNode 90 :=
  ⟨[], _, 60, _, [], rfl, rfl, by decide, by decide +kernel, by simp, by decide⟩

theorem forwarded_iff_registered_first :
    (remoteNode, registeredBbmd.forwardedMtu lanBip.address [1, 0] true) ∈
      registeredBbmd.bbmdFdtForwardNpdu lanBip.address [1, 0] true :=
  (forwarded_iff_registered run_firstRegistration remoteNode lanBip.address [1, 0] true).mpr
    ⟨by decide, 90, by decide, registeredFor_first⟩

/-! ### What the requester is told -/

/-- The endpoint is registered. -/
def Registered (history : List (BbmdEvent × BbmdOutput)) (addr : BacnetIpAddress) : Prop :=
  ∃ left, 0 < left ∧ RegisteredFor history addr left

section Answers

variable {bip : BipConfig} {es : List BbmdEvent} {os : List BbmdOutput} {b : Bbmd} {d : Datagram}

theorem remaining_pos_iff_registered (hrun : bbmd.run (Bbmd.init bip) es = some (b, os))
    {addr : BacnetIpAddress} : 0 < remaining b.fdt addr ↔ Registered (es.zip os) addr := by
  constructor
  · intro hpos
    exact ⟨_, hpos, (remaining_iff_registeredFor hrun hpos).mp rfl⟩
  · intro h
    obtain ⟨left, hleft, hreg⟩ := h
    rwa [(remaining_iff_registeredFor hrun hleft).mpr hreg]

/-- **A registration is refused** exactly when its sender is not registered and as many
others are as the table has entries; otherwise it is acknowledged. -/
theorem registration_answered (hrun : bbmd.run (Bbmd.init bip) es = some (b, os))
    {ttlSeconds : UInt16} (hreg : d.registration? = some ttlSeconds) :
    ((b.receive d).sent = Bbmd.bvlcSendResult d.source .registerForeignDeviceNak ↔
      ¬ Registered (es.zip os) d.source ∧ ∃ others : Finset BacnetIpAddress,
        others.card = maxFdEntries ∧ ∀ addr ∈ others, Registered (es.zip os) addr) ∧
    ((b.receive d).sent = Bbmd.bvlcSendResult d.source .registerForeignDeviceNak ∨
      (b.receive d).sent = Bbmd.bvlcSendResult d.source .successfulCompletion) := by
  have hfull : bvlcForeignDeviceTableEntryAdd b.fdt d.source ttlSeconds = none ↔
      ¬ Registered (es.zip os) d.source ∧ ∃ others : Finset BacnetIpAddress,
        others.card = maxFdEntries ∧ ∀ addr ∈ others, Registered (es.zip os) addr := by
    simp only [(remaining_run hrun).1.add_eq_none_iff, ← remaining_pos_iff_registered hrun,
      Nat.pos_iff_ne_zero, not_not]
  rw [← hfull, receive_registration hreg]
  cases bvlcForeignDeviceTableEntryAdd b.fdt d.source ttlSeconds with
  | some fdt => simp [bvlcSendResult_inj]
  | none => simp

/-- After the first registration nobody else is registered. -/
theorem eq_of_registered_first {addr : BacnetIpAddress} (h : Registered
    ([firstRegistration].zip [((Bbmd.init lanBip).next firstRegistration).2]) addr) :
    addr = remoteNode := by
  obtain ⟨left, -, pre, d, ttlSeconds, o, post, hhistory, haddr, -⟩ := h
  cases pre with
  | nil =>
      cases hhistory
      exact haddr.symm
  | cons s pre => simp at hhistory

/-- Another device registers after the first one. -/
theorem registration_answered_second :
    (registeredBbmd.receive ⟨peerNode, bvlcEncodeRegisterForeignDevice maxMpdu 60⟩).sent =
      Bbmd.bvlcSendResult peerNode .successfulCompletion := by
  obtain ⟨hrefused, hanswered⟩ := registration_answered run_firstRegistration
    (d := ⟨peerNode, bvlcEncodeRegisterForeignDevice maxMpdu 60⟩)
    (show _ = some 60 by decide)
  refine hanswered.resolve_left fun hnak => ?_
  obtain ⟨-, others, hcard, hregistered⟩ := hrefused.mp hnak
  have hsub : others ⊆ {remoteNode} := fun addr haddr =>
    Finset.mem_singleton.mpr (eq_of_registered_first (hregistered addr haddr))
  have hle := Finset.card_le_card hsub
  rw [hcard, Finset.card_singleton] at hle
  exact absurd hle (by decide)

/-- **A deletion is refused** exactly when the endpoint it names is not registered; otherwise
it is acknowledged. -/
theorem deletion_answered (hrun : bbmd.run (Bbmd.init bip) es = some (b, os))
    {addr : BacnetIpAddress} (hdel : d.deletion? = some addr) :
    ((b.receive d).sent = Bbmd.bvlcSendResult d.source .deleteForeignDeviceTableEntryNak ↔
      ¬ Registered (es.zip os) addr) ∧
    ((b.receive d).sent = Bbmd.bvlcSendResult d.source .deleteForeignDeviceTableEntryNak ∨
      (b.receive d).sent = Bbmd.bvlcSendResult d.source .successfulCompletion) := by
  have hnone : bvlcForeignDeviceTableEntryDelete b.fdt addr = none ↔
      ¬ Registered (es.zip os) addr := by
    rw [(remaining_run hrun).1.delete_eq_none_iff, ← remaining_pos_iff_registered hrun,
      Nat.pos_iff_ne_zero, not_not]
  rw [← hnone, receive_deletion hdel]
  cases bvlcForeignDeviceTableEntryDelete b.fdt addr with
  | some fdt => simp [bvlcSendResult_inj]
  | none => simp

theorem deletion_answered_first :
    (registeredBbmd.receive ⟨lanBip.address,
      bvlcEncodeDeleteForeignDevice maxMpdu remoteNode⟩).sent ≠
        Bbmd.bvlcSendResult lanBip.address .deleteForeignDeviceTableEntryNak := by
  intro h
  refine (deletion_answered run_firstRegistration (d := ⟨lanBip.address,
    bvlcEncodeDeleteForeignDevice maxMpdu remoteNode⟩) (show _ = some remoteNode by decide)).1.mp h ?_
  exact ⟨90, by decide, registeredFor_first⟩

end Answers

/-- The leases are read off the valid entries. -/
theorem remaining_eq_find? {n : Nat} (fdt : Table n ForeignDeviceTableEntry)
    (addr : BacnetIpAddress) :
    remaining fdt addr =
      (((fdt.cells.filter (·.valid)).find? fun entry =>
        ! bvlcAddressDifferent entry.destAddress addr).map
          (·.ttlSecondsRemaining.toNat)).getD 0 := by
  have hfilter : (fdt.cells.filter (·.valid)).find? (fun entry =>
      ! bvlcAddressDifferent entry.destAddress addr) =
      (fdt.find? (ForeignDeviceTableEntry.isFor addr)).map fdt.get := by
    rw [Table.map_get_find?, List.find?_filter]
    congr 1
    funext entry
    rw [Bool.eq_iff_iff]
    simp
  rw [hfilter, remaining]
  cases fdt.find? (ForeignDeviceTableEntry.isFor addr) <;> rfl

theorem remaining_congr {n : Nat} {fdt fdt' : Table n ForeignDeviceTableEntry}
    (h : fdt.cells.filter (·.valid) = fdt'.cells.filter (·.valid)) :
    remaining fdt = remaining fdt' := by
  funext addr
  rw [remaining_eq_find?, remaining_eq_find?, h]

/-- The acknowledgement for a table. -/
theorem bvlcEncodeReadForeignDeviceTableAck_eq
    (fdt : Table maxFdEntries ForeignDeviceTableEntry) :
    ∃ length, bvlcEncodeReadForeignDeviceTableAck maxMpdu fdt =
      bvlcEncodeHeader .readForeignDeviceTableAck length ++
        (fdt.cells.filter (·.valid)).flatMap bvlcEncodeForeignDeviceTableEntry := by
  have hcount : fdt.cells.countP (·.valid) ≤ 128 := List.countP_le_length.trans_eq fdt.size
  have hmax : maxMpdu = 1506 := rfl
  exact ⟨_, encodeEntries_eq (by omega) (by omega)⟩

/-- The valid entries of an acknowledgement that is decoded into an empty table. -/
theorem valid_decodeReadForeignDeviceTableAck {pdu : Mem} {xs : List ForeignDeviceTableEntry}
    (hvalid : ∀ x ∈ xs, x.valid = true) (hfit : xs.length ≤ maxFdEntries)
    (hm : pdu.Holds (xs.flatMap bvlcEncodeForeignDeviceTableEntry)) (bip : BipConfig) :
    (bvlcDecodeReadForeignDeviceTableAck pdu (xs.length * 10) (Bbmd.init bip).fdt).2.cells.filter
      (·.valid) = xs := by
  unfold bvlcDecodeReadForeignDeviceTableAck
  split
  · exact (decodeTable_encoded length_bvlcEncodeForeignDeviceTableEntry (fun _ => rfl) hvalid
      (fun x hx m => bvlcDecodeForeignDeviceTableEntry_of_holds (hvalid x hx)) hm hfit _).2
  · rename_i hempty
    have hxs : xs = [] := List.eq_nil_of_length_eq_zero (by omega)
    rw [hxs]
    simp [Bbmd.init, Table.replicate]

/-- **What Read-Foreign-Device-Table tells.** The acknowledgement, decoded into an empty
table, has exactly the registrations that have not run out, each with what is left of it. -/
theorem readForeignDeviceTable_answered {bip : BipConfig} (bip' : BipConfig) {es : List BbmdEvent}
    {os : List BbmdOutput} {b : Bbmd} (hrun : bbmd.run (Bbmd.init bip) es = some (b, os))
    {d : Datagram} (hf : d.function = some .readForeignDeviceTable) :
    ∃ ack, (b.receive d).sent = [(d.source, ack)] ∧
      ∀ reply : Datagram, reply.payload = ack →
        reply.function = some .readForeignDeviceTableAck ∧
        ∀ addr left, 0 < left →
          (remaining (bvlcDecodeReadForeignDeviceTableAck (reply.mtu.shift 4)
            (reply.bytes.length - 4) (Bbmd.init bip').fdt).2 addr = left ↔
              RegisteredFor (es.zip os) addr left) := by
  obtain ⟨length, hack⟩ := bvlcEncodeReadForeignDeviceTableAck_eq b.fdt
  have hvalid : ∀ x ∈ b.fdt.cells.filter (·.valid), x.valid = true :=
    fun x hx => (List.mem_filter.mp hx).2
  have hfit : (b.fdt.cells.filter (·.valid)).length ≤ 128 :=
    (List.length_filter_le _ _).trans_eq b.fdt.size
  have hlen := length_flatMap_encode length_bvlcEncodeForeignDeviceTableEntry
    (b.fdt.cells.filter (·.valid))
  have hmax : maxMpdu = 1506 := rfl
  refine ⟨bvlcEncodeReadForeignDeviceTableAck maxMpdu b.fdt, ?_, fun reply hreply => ?_⟩
  · rw [b.receive_of_function hf, Bbmd.handleFunction]
    have hne : bvlcEncodeReadForeignDeviceTableAck maxMpdu b.fdt ≠ [] := by
      rw [hack]
      exact List.cons_ne_nil _ _
    exact if_pos hne
  · rw [hack] at hreply
    obtain ⟨hfunction, hbytes, hrest⟩ := Datagram.function_of_payload hreply (by omega)
    refine ⟨hfunction, fun addr left hleft => ?_⟩
    rw [← remaining_iff_registeredFor hrun hleft, hbytes, hlen, Nat.add_sub_cancel_left,
      remaining_congr (valid_decodeReadForeignDeviceTableAck hvalid hfit hrest bip')]

theorem readForeignDeviceTable_answered_first : ∃ ack,
    (registeredBbmd.receive ⟨remoteNode, bvlcEncodeReadForeignDeviceTable maxMpdu⟩).sent =
        [(remoteNode, ack)] ∧
      ∀ reply : Datagram, reply.payload = ack →
        remaining (bvlcDecodeReadForeignDeviceTableAck (reply.mtu.shift 4)
          (reply.bytes.length - 4) (Bbmd.init lanBip).fdt).2 remoteNode = 90 := by
  obtain ⟨ack, hsent, hack⟩ := readForeignDeviceTable_answered lanBip run_firstRegistration
    (d := ⟨remoteNode, bvlcEncodeReadForeignDeviceTable maxMpdu⟩) (by decide)
  exact ⟨ack, hsent, fun reply hreply =>
    ((hack reply hreply).2 remoteNode 90 (by decide)).mpr registeredFor_first⟩

end Bacnet
