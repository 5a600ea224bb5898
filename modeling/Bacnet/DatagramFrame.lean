import Bacnet.Invariants
import Bacnet.NegativeReplies

/-!
# Bacnet.DatagramFrame

What one datagram can change of the tracked devices and of the transaction table: the entry
of one device that waits at its source for its invoke id, and the slot of that id.

A segment ack, and any reply with the invoke id 0, frees the id 0, which stands in the slots
that are not in use. This changes nothing as long as those are idle (`Tsm.Ok`).
-/

namespace Bacnet

open Bacnet.Lib

variable {env : Env} {s s' : Sys} {o : Output}

/-! ### One message -/

/-- What a reply with the id from `src` does to an entry: it awaited the id there, and only the
status of its request and its value change. -/
structure EntryAnswered (src : BacnetAddress) (id : UInt8) (t t' : TargetDevice) : Prop where
  matched : addressMatch t.addr src = true
  addr : t'.addr = t.addr
  request : ∃ status status', t.request = some (id, status) ∧ t'.request = some (id, status')

/-- What the message with the source `src` changes. -/
structure MessageFrame (msg : Option (BacnetAddress × Apdu)) (s s' : Stack) : Prop where
  /-- The same devices are tracked. -/
  tracked : ∀ d, (s'.targets.lookup d).isSome = (s.targets.lookup d).isSome
  /-- All entries but one stay as they are. -/
  entries : ∃ d, ∀ d', d' ≠ d → s'.targets.lookup d' = s.targets.lookup d'
  answered : ∀ d t t', s.targets.lookup d = some t → s'.targets.lookup d = some t' → t' ≠ t →
    ∃ src a id, msg = some (src, a) ∧ a.repliesTo = some id ∧ EntryAnswered src id t t'
  /-- All slots but one stay as they are. -/
  slots : ∃ i, ∀ j, j ≠ i → s'.tsm.list.get j = s.tsm.list.get j
  freed : ∀ i, s'.tsm.list.get i ≠ s.tsm.list.get i →
    s'.tsm.list.get i = ⟨0, .idle⟩ ∧ ∃ src a, msg = some (src, a) ∧
      a.repliesTo = some (s.tsm.list.get i).invokeId
  counter : s'.tsm.currentInvokeId = s.tsm.currentInvokeId

theorem MessageFrame.refl (msg : Option (BacnetAddress × Apdu)) (s : Stack) :
    MessageFrame msg s s where
  tracked _ := rfl
  entries := ⟨0, fun _ _ => rfl⟩
  answered d t t' h h' hne := absurd (Option.some.inj (h'.symm.trans h)) hne
  slots := ⟨⟨0, by decide⟩, fun _ _ => rfl⟩
  freed i h := absurd rfl h
  counter := rfl

/-- A step that leaves the tracked devices and the table alone. -/
theorem MessageFrame.of_eq {msg : Option (BacnetAddress × Apdu)} {s s' : Stack}
    (ht : s'.targets = s.targets) (htsm : s'.tsm = s.tsm) : MessageFrame msg s s' := by
  have hrefl := MessageFrame.refl msg s
  exact ⟨fun d => by rw [ht], ⟨0, fun d _ => by rw [ht]⟩, by rw [ht]; exact hrefl.answered,
    ⟨⟨0, by decide⟩, fun j _ => by rw [htsm]⟩, by rw [htsm]; exact hrefl.freed, by rw [htsm]⟩

namespace Tsm

/-- Freeing an id changes at most one slot, which held it and is free after it. -/
theorem freeInvokeId_frame {t : Tsm} (ht : t.Ok) (id : UInt8) :
    (∃ i, ∀ j, j ≠ i → (t.freeInvokeId id).list.get j = t.list.get j) ∧
      (∀ i, (t.freeInvokeId id).list.get i ≠ t.list.get i →
        (t.freeInvokeId id).list.get i = ⟨0, .idle⟩ ∧ (t.list.get i).invokeId = id ∧ id ≠ 0) ∧
      (t.freeInvokeId id).currentInvokeId = t.currentInvokeId := by
  unfold freeInvokeId
  cases hf : t.findInvokeIdIndex id with
  | none => exact ⟨⟨⟨0, by decide⟩, fun _ _ => rfl⟩, fun i h => absurd rfl h, rfl⟩
  | some i =>
      have hi : (t.list.get i).invokeId = id := by simpa using Table.find?_sat hf
      refine ⟨⟨i, fun j hj => Table.get_set_ne _ (Ne.symm hj) _⟩, fun j hj => ?_, rfl⟩
      by_cases hij : i = j
      · subst hij
        rw [Table.get_set_self] at hj ⊢
        refine ⟨rfl, hi, fun h0 => hj ?_⟩
        -- a slot with the id 0 is free already
        have hid : (t.list.get i).invokeId = 0 := hi.trans h0
        have hidle := (ht.state i).mpr hid
        rw [← hid, ← hidle]
      · exact absurd (Table.get_set_ne _ hij _) hj

end Tsm

/-- A reply frees the slot of its id; what it does to the entries is left to its handler. -/
theorem MessageFrame.of_reply {src : BacnetAddress} {a : Apdu} {id : UInt8} {s s' : Stack}
    (ht : s.tsm.Ok) (hr : a.releases = some id) (htsm : s'.tsm = s.tsm.freeInvokeId id)
    (tracked : ∀ d, (s'.targets.lookup d).isSome = (s.targets.lookup d).isSome)
    (entries : ∃ d, ∀ d', d' ≠ d → s'.targets.lookup d' = s.targets.lookup d')
    (answered : ∀ d t t', s.targets.lookup d = some t → s'.targets.lookup d = some t' → t' ≠ t →
      a.repliesTo = some id ∧ EntryAnswered src id t t') :
    MessageFrame (some (src, a)) s s' := by
  obtain ⟨hslots, hfreed, hcounter⟩ := Tsm.freeInvokeId_frame ht id
  rw [← htsm] at hslots hfreed hcounter
  refine ⟨tracked, entries, fun d t t' h h' hne => ?_, hslots, fun i hne => ?_, hcounter⟩
  · obtain ⟨hreply, hentry⟩ := answered d t t' h h' hne
    exact ⟨src, a, id, rfl, hreply, hentry⟩
  · obtain ⟨hfree, hi, h0⟩ := hfreed i hne
    refine ⟨hfree, src, a, rfl, ?_⟩
    rw [hi]
    rcases repliesTo_or_segmentAck hr with hreply | ⟨hzero, -⟩
    · exact hreply
    · exact absurd hzero h0

/-- The frame of one message. -/
theorem messageFrame_of_effect {order : List DeviceId} {src : BacnetAddress} {a : Apdu}
    {s s' : Stack} (ht : s.tsm.Ok) (h : ApduEffect order src a s s') :
    MessageFrame (some (src, a)) s s' := by
  cases h with
  | none _ => exact .refl _ _
  | binding i _ _ _ => exact .of_eq rfl rfl
  | discovery device _ _ => exact .of_eq rfl rfl
  | released id hr _ =>
      refine .of_reply ht hr rfl (fun _ => rfl) ⟨0, fun _ _ => rfl⟩ fun d t t' hl hl' hne => ?_
      exact absurd (Option.some.inj (hl'.symm.trans hl)) hne
  | taken id hr f hf d tgt hd hl _ =>
      obtain ⟨tgt', hl', hawaits⟩ := findMatchingDevice_eq_some hd
      cases hl.symm.trans hl'
      obtain ⟨hmatch, status, hrequest⟩ := TargetDevice.awaits_iff.mp hawaits
      obtain ⟨r, hanswer, hset⟩ := answered_of_update hf hr
      have hreply : a.repliesTo = some id := by
        rcases repliesTo_or_segmentAck hr with hreply | ⟨-, hnone⟩
        · exact hreply
        · cases hf.symm.trans hnone
      have hself := Stack.lookup_setTarget_self s d (f tgt)
      have hother := fun {d' : DeviceId} (hne : d' ≠ d) =>
        Stack.lookup_setTarget_ne s hne (f tgt)
      refine .of_reply ht hr rfl (fun d' => ?_) ⟨d, fun d' hne => hother hne⟩
        fun d' t t' ht₁ ht₂ hne => ⟨hreply, ?_⟩
      · by_cases hd' : d' = d
        · subst hd'
          rw [hl]
          exact (Option.isSome_of_eq_some hself).trans rfl
        · exact congrArg Option.isSome (hother hd')
      · by_cases hd' : d' = d
        · subst hd'
          cases hl.symm.trans ht₁
          cases hself.symm.trans ht₂
          obtain ⟨status', hrequest', -⟩ := (hset tgt).request
          exact ⟨hmatch, (hset tgt).addr, status, status', hrequest, hrequest'⟩
        · exact absurd (Option.some.inj (ht₂.symm.trans ((hother hd').trans ht₁))) hne

/-! ### One datagram -/

/-- Whatever datagram a thread receives, in whatever state the client is. -/
theorem messageFrame_of_receive {es : List Event} {os : List Output}
    (hrun : (client env).run .init es = some (s, os)) {t : Nat} {arrival : Arrival}
    (hs : (client env).step s (.receive t arrival) = some (s', o)) :
    MessageFrame (arriving env s (.receive t arrival)) s.stack s'.stack := by
  have hwf := wf_run hrun
  have hstep := step_cases hwf.tsm hs
  cases hstep with
  | abort _ _ hth _ => exact .refl _ _
  | receive _ _ rx' stack hth heff =>
      rw [arriving_receive env arrival hth]
      cases heff with
      | nothing hdel =>
          rw [hdel]
          exact .refl _ _
      | apdu src a hdel he =>
          rw [hdel]
          exact messageFrame_of_effect hwf.tsm he

/-- The acknowledgement of a read changes the entry of its device and frees its slot. -/
theorem messageFrame_readSent :
    ∃ s os s' o, (client lan).run .init readSent = some (s, os) ∧
      (client lan).step s (.receive 0 (plainReply (presentValueAck 1 0 42))) = some (s', o) ∧
      (∃ t, s'.stack.targets.lookup 12 = some t ∧ t.request = some (1, .done)) ∧
      MessageFrame (arriving lan s (.receive 0 (plainReply (presentValueAck 1 0 42)))) s.stack
        s'.stack := by
  have hsome : ((client lan).run .init readSent).any (fun p =>
      ((client lan).step p.1 (.receive 0 (plainReply (presentValueAck 1 0 42)))).any fun r =>
        (r.1.stack.targets.lookup 12).any fun t => decide (t.request = some (1, .done))) = true := by
    decide +kernel
  obtain ⟨s, os, hrun, hp⟩ := Machine.exists_run hsome
  obtain ⟨⟨s', o⟩, hs, hp'⟩ := (Option.any_eq_true _ _).mp hp
  obtain ⟨t, hl, ht⟩ := (Option.any_eq_true _ _).mp hp'
  exact ⟨s, os, s', o, hrun, hs, ⟨t, hl, of_decide_eq_true ht⟩, messageFrame_of_receive hrun hs⟩

end Bacnet
