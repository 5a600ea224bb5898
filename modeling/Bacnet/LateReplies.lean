import Bacnet.Provenance
import Mathlib.Tactic.IntervalCases

/-!
# Bacnet.LateReplies

A network that replies to each request at most once, however late and in whatever order.
As long as a request is not replied to, its invoke id stays reserved, so no later request
gets it (`unreplied_run`): a reply that reaches a call with the call's id is the reply to
the call's own request.
-/

namespace Bacnet

open Bacnet.Lib

variable {env : Env} {s s' : Sys} {e : Event} {o : Output} {es : List Event} {os : List Output}

/-! ### The network -/

/-- The step at position `i` sent a request with this id. -/
def SendAt (env : Env) (es : List Event) (i : Nat) (id : UInt8) : Prop :=
  ∃ s t d args frame s', (client env).At .init es i s (.send t d args) (.sent id frame) s'

/-- At position `j` the message `a` arrives, a reply to a request with this id. -/
def ArrivesAt (env : Env) (es : List Event) (j : Nat) (a : Apdu) (id : UInt8) : Prop :=
  ∃ s e o s' src, (client env).At .init es j s e o s' ∧ arriving env s e = some (src, a) ∧
    a.repliesTo = some id

/-- Each request gets at most one reply: the reply that arrives at position `j` is a
ReadProperty acknowledgement, an error, a reject or an abort, it carries the id of the
request that was sent at position `origin j`, and no other reply is to that request. -/
structure RepliesOnce (env : Env) (es : List Event) (origin : Nat → Nat) : Prop where
  request : ∀ j a id, ArrivesAt env es j a id →
    a.update.isSome = true ∧ id ≠ 0 ∧ origin j < j ∧ SendAt env es (origin j) id
  once : ∀ j j' a a' id id', ArrivesAt env es j a id → ArrivesAt env es j' a' id' →
    origin j = origin j' → j = j'

theorem SendAt.append {i : Nat} {id : UInt8} (h : SendAt env es i id) (es' : List Event) :
    SendAt env (es ++ es') i id := by
  obtain ⟨s, t, d, args, frame, s', hat⟩ := h
  exact ⟨s, t, d, args, frame, s', hat.append es'⟩

theorem SendAt.of_append {es' : List Event} {i : Nat} {id : UInt8}
    (h : SendAt env (es ++ es') i id) (hi : i < es.length) : SendAt env es i id := by
  obtain ⟨s, t, d, args, frame, s', hat⟩ := h
  exact ⟨s, t, d, args, frame, s', hat.of_append hi⟩

theorem ArrivesAt.append {j : Nat} {a : Apdu} {id : UInt8} (h : ArrivesAt env es j a id)
    (es' : List Event) : ArrivesAt env (es ++ es') j a id := by
  obtain ⟨s, e, o, s', src, hat, ha, hr⟩ := h
  exact ⟨s, e, o, s', src, hat.append es', ha, hr⟩

theorem ArrivesAt.lt {j : Nat} {a : Apdu} {id : UInt8} (h : ArrivesAt env es j a id) :
    j < es.length := by
  obtain ⟨s, e, o, s', src, hat, -⟩ := h
  exact hat.lt

/-- What holds of the network in a run holds in its first part. -/
theorem RepliesOnce.of_append {origin : Nat → Nat} {es' : List Event}
    (h : RepliesOnce env (es ++ es') origin) : RepliesOnce env es origin where
  request j a id ha := by
    obtain ⟨hu, hid, hlt, hsend⟩ := h.request j a id (ha.append es')
    exact ⟨hu, hid, hlt, hsend.of_append (hlt.trans ha.lt)⟩
  once j j' a a' id id' ha ha' := h.once j j' a a' id id' (ha.append es') (ha'.append es')

/-! ### Requests that are not replied to -/

/-- The request sent at position `i` has no reply yet. -/
structure Unreplied (env : Env) (es : List Event) (origin : Nat → Nat) (i : Nat) (id : UInt8) :
    Prop where
  sent : SendAt env es i id
  ne_zero : id ≠ 0
  no_reply : ∀ j a id', ArrivesAt env es j a id' → origin j ≠ i

theorem Unreplied.of_append {origin : Nat → Nat} {es' : List Event} {i : Nat} {id : UInt8}
    (h : Unreplied env (es ++ es') origin i id) (hi : i < es.length) :
    Unreplied env es origin i id where
  sent := h.sent.of_append hi
  ne_zero := h.ne_zero
  no_reply j a id' ha := h.no_reply j a id' (ha.append es')

/-- The ids of the requests without a reply are reserved, each for one of them. -/
structure KeepsIds (env : Env) (es : List Event) (origin : Nat → Nat) (s : Sys) : Prop where
  reserved : ∀ i id, Unreplied env es origin i id → id ∈ s.stack.tsm.reserved
  apart : ∀ i i' id, Unreplied env es origin i id → Unreplied env es origin i' id → i = i'

/-- The request that a step sends is the only one at its position. -/
theorem SendAt.cases_concat {i : Nat} {id : UInt8}
    (hrun : (client env).run .init es = some (s, os))
    (hs : (client env).step s e = some (s', o)) (h : SendAt env (es ++ [e]) i id) :
    i < es.length ∨ (i = es.length ∧ ∃ frame, o = .sent id frame) := by
  obtain ⟨s₁, t, d, args, frame, s₂, hat⟩ := h
  rcases hat.cases_concat hrun hs with hold | ⟨hi, -, -, ho, -⟩
  · exact Or.inl hold.lt
  · exact Or.inr ⟨hi, frame, ho.symm⟩

/-- A step that sends no request with an id keeps the ids it does not free. -/
theorem keepsIds_of_not_sent {origin : Nat → Nat} (ih : KeepsIds env es origin s)
    (hrun : (client env).run .init es = some (s, os))
    (hs : (client env).step s e = some (s', o))
    (hno : ∀ id frame, o = .sent id frame → id = 0)
    (hfree : ∀ i id, Unreplied env es origin i id → Unreplied env (es ++ [e]) origin i id →
      id ∈ s'.stack.tsm.reserved) : KeepsIds env (es ++ [e]) origin s' := by
  have hold : ∀ i id, Unreplied env (es ++ [e]) origin i id → Unreplied env es origin i id := by
    intro i id hu
    rcases hu.sent.cases_concat hrun hs with hi | ⟨-, frame, ho⟩
    · exact hu.of_append hi
    · exact absurd (hno id frame ho) hu.ne_zero
  exact ⟨fun i id hu => hfree i id (hold i id hu) hu,
    fun i i' id hu hu' => ih.apart i i' id (hold i id hu) (hold i' id hu')⟩

theorem keepsIds_step {origin : Nat → Nat} (hnet : RepliesOnce env (es ++ [e]) origin)
    (ih : KeepsIds env es origin s) (hrun : (client env).run .init es = some (s, os))
    (hs : (client env).step s e = some (s', o)) : KeepsIds env (es ++ [e]) origin s' := by
  have hwf := wf_run hrun
  have hres := reserved_cases hwf.tsm (step_cases hwf.tsm hs)
  generalize hR : s'.stack.tsm.reserved = reserved at hres
  cases hres with
  | same hno _ =>
      refine keepsIds_of_not_sent ih hrun hs hno fun i id hu _ => ?_
      rw [hR]
      exact ih.reserved i id hu
  | sent t d args id₀ frame he ho h0 hnew =>
      -- The new id was not reserved, so it is nobody else's.
      have hcases : ∀ i id, Unreplied env (es ++ [e]) origin i id →
          Unreplied env es origin i id ∨ (i = es.length ∧ id = id₀) := by
        intro i id hu
        rcases hu.sent.cases_concat hrun hs with hi | ⟨hi, frame', ho'⟩
        · exact Or.inl (hu.of_append hi)
        · rw [ho] at ho'
          exact Or.inr ⟨hi, (Output.sent.inj ho').1.symm⟩
      have hne : ∀ i, ¬ Unreplied env es origin i id₀ := fun i hu =>
        hnew (ih.reserved i id₀ hu)
      constructor
      · intro i id hu
        rw [hR]
        rcases hcases i id hu with hold | ⟨-, rfl⟩
        · exact Finset.mem_insert_of_mem (ih.reserved i id hold)
        · exact Finset.mem_insert_self id _
      · intro i i' id hu hu'
        rcases hcases i id hu with hold | ⟨hi, hid⟩
        · rcases hcases i' id hu' with hold' | ⟨-, hid'⟩
          · exact ih.apart i i' id hold hold'
          · rw [hid'] at hold
            exact absurd hold (hne i)
        · rcases hcases i' id hu' with hold' | ⟨hi', -⟩
          · rw [hid] at hold'
            exact absurd hold' (hne i')
          · rw [hi, hi']
  | released src a id₀ ho ha hrel =>
      refine keepsIds_of_not_sent ih hrun hs (by rw [ho]; nofun) fun i id hu hu' => ?_
      rw [hR]
      refine Finset.mem_erase_of_ne_of_mem (fun heq => ?_) (ih.reserved i id hu)
      rcases repliesTo_or_segmentAck hrel with hreply | ⟨hzero, -⟩
      · -- The reply is to the one request that had its id.
        have harr : ArrivesAt env (es ++ [e]) es.length a id₀ :=
          ⟨s, e, o, s', src, Machine.At.last hrun hs, ha, hreply⟩
        obtain ⟨-, -, hlt, hsend⟩ := hnet.request _ _ _ harr
        have horigin : Unreplied env es origin (origin es.length) id := by
          refine ⟨by rw [heq]; exact hsend.of_append hlt, hu.ne_zero, fun j a' id' ha' heq' => ?_⟩
          have hj := hnet.once _ _ _ _ _ _ (ha'.append [e]) harr heq'
          exact absurd ha'.lt (by omega)
        have hi := ih.apart _ _ _ horigin hu
        exact hu'.no_reply _ _ _ harr hi
      · exact hu.ne_zero (heq.trans hzero)

/-- In every run over such a network the ids of the requests without a reply are
reserved. -/
theorem unreplied_run {origin : Nat → Nat} (hnet : RepliesOnce env es origin)
    (hrun : (client env).run .init es = some (s, os)) : KeepsIds env es origin s := by
  refine Machine.run_history
    (motive := fun es _ s => RepliesOnce env es origin → KeepsIds env es origin s)
    (P := fun _ _ => True) (fun _ => ?_) (fun es os s e s' o hrun ih _ hs hnet =>
      keepsIds_step hnet (ih hnet.of_append) hrun hs)
    (all_true es) hrun hnet
  have hnone : ∀ i id, ¬ Unreplied env [] origin i id := by
    intro i id hu
    obtain ⟨s, t, d, args, frame, s', hat⟩ := hu.sent
    exact absurd hat.lt (Nat.not_lt_zero i)
  exact ⟨fun i id hu => absurd hu (hnone i id), fun i i' id hu => absurd hu (hnone i id)⟩

/-- **No crossing over.** A reply with the id of the last request, arriving after it, is the
reply to it. -/
theorem origin_eq {origin : Nat → Nat} (hnet : RepliesOnce env es origin) {i j : Nat} {a : Apdu}
    {id : UInt8} (hsend : SendAt env es i id) (harr : ArrivesAt env es j a id)
    (hij : i < j) (hlast : ∀ k id', SendAt env es k id' → k < j → k ≤ i) : origin j = i := by
  obtain ⟨-, h0, hlt, horigin⟩ := hnet.request j a id harr
  have hle := hlast _ _ horigin hlt
  by_contra hne
  have hbefore : origin j < i := by omega
  -- The request replied to had no reply when the last one was sent, with the same id.
  obtain ⟨s, t, d, args, frame, s', hat⟩ := hsend
  obtain ⟨os, hrun⟩ := hat.before
  have hi := hat.lt
  have hsplit := List.take_append_drop i es
  have hlen : (es.take i).length = i := by
    rw [List.length_take]
    omega
  rw [← hsplit] at hnet horigin harr
  have hu : Unreplied env (es.take i) origin (origin j) id := by
    refine ⟨horigin.of_append (by omega), h0, fun j' a' id' ha' heq => ?_⟩
    have hj := hnet.once _ _ _ _ _ _ (ha'.append _) harr heq
    have hlt' := ha'.lt
    omega
  have hmem := (unreplied_run hnet.of_append hrun).reserved _ _ hu
  have hwf := wf_run hrun
  have hres := reserved_cases hwf.tsm (step_cases hwf.tsm hat.step)
  generalize s'.stack.tsm.reserved = reserved at hres
  cases hres with
  | same hno _ => exact h0 (hno id frame rfl)
  | sent t' d' args' id' frame' he ho _ hnew =>
      cases ho
      exact hnew hmem
  | released src a' id' ho _ _ => cases ho

/-! ### Calls over such a network -/

theorem CallAt.sendAt {t : Nat} {call : ReadCall} {i : Nat} (h : CallAt env es t call i) :
    SendAt env es i call.requestInvokeId := by
  obtain ⟨s, frame, s', hlast⟩ := h
  exact ⟨s, t, call.deviceId, call.args, frame, s', hlast.toAt⟩

/-- With one thread the request of the running call is the last one sent. -/
theorem CallAt.last_sendAt (hsolo : SingleThreaded es) {call : ReadCall} {i : Nat}
    (h : CallAt env es 0 call i) {k : Nat} {id : UInt8} (hk : SendAt env es k id) : k ≤ i := by
  obtain ⟨s, frame, s', hlast⟩ := h
  obtain ⟨s₁, t, d, args, frame₁, s₁', hat⟩ := hk
  have ht : t = 0 := hsolo _ (List.mem_of_getElem? hat.event)
  subst ht
  by_contra hlt
  exact hlast.none_later _ _ _ _ _ (by omega) hat ⟨d, args, id, frame₁, rfl, rfl⟩

theorem repliesTo_of_update {a : Apdu} {id : UInt8} (hr : a.releases = some id)
    (hu : a.update.isSome = true) : a.repliesTo = some id := by
  rcases repliesTo_or_segmentAck hr with h | ⟨-, hnone⟩
  · exact h
  · rw [hnone] at hu
    cases hu

theorem ReplyAt.arrivesAt {d : DeviceId} {id : UInt8} {r : Result BACnetValue} {j : Nat}
    {src : BacnetAddress} {a : Apdu} (h : ReplyAt env es d id r j src a) :
    ArrivesAt env es j a id := by
  obtain ⟨⟨s, e, o, s', tgt, hat, harr, -, -⟩, hrel, hans⟩ := h
  exact ⟨s, e, o, s', src, hat, harr,
    repliesTo_of_update hrel (Option.isSome_iff_exists.mpr (update_of_answer hans))⟩

/-- A reply with the id of the running call is the reply to the call's own request. -/
theorem origin_of_running (hsolo : SingleThreaded es) {origin : Nat → Nat}
    (hnet : RepliesOnce env es origin) {j k : Nat} (hjk : j ≤ k) {call : ReadCall} {i : Nat}
    (hcall : CallAt env (es.take k) 0 call i) (hij : i < j) {a : Apdu}
    (harr : ArrivesAt env es j a call.requestInvokeId) : origin j = i := by
  have hsend : SendAt env es i call.requestInvokeId := by
    have h := hcall.sendAt.append (es.drop k)
    rw [List.take_append_drop] at h
    exact h
  refine origin_eq hnet hsend harr hij fun n id hn hnj => ?_
  rw [← List.take_append_drop k es] at hn
  have hlen : n < (es.take k).length := by
    have hlt := harr.lt
    rw [List.length_take]
    omega
  exact hcall.last_sendAt (fun f hf => hsolo f (List.mem_of_mem_take hf)) (hn.of_append hlen)

/-- A reply changes the entry that the running call reads only if it has the call's id. -/
theorem id_of_entry_changed (hsolo : SingleThreaded es)
    (hrun : (client env).run .init es = some (s, os)) {call : ReadCall}
    (hth : s.threads 0 = .reading call) {src : BacnetAddress} {a : Apdu} {id : UInt8}
    (ha : arriving env s e = some (src, a)) (hr : a.releases = some id)
    (hs : Step env s e s' o)
    (hne : s'.stack.targets.lookup call.deviceId ≠ s.stack.targets.lookup call.deviceId) :
    id = call.requestInvokeId ∧ a.update.isSome = true := by
  obtain ⟨t, arrival, rfl⟩ := event_of_arriving ha
  obtain ⟨i, -, hown⟩ := ownAt_run (all_exclusive_of_solo hsolo hrun) hrun hth
  have hentry := entry_cases hs call.deviceId
  generalize s'.stack.targets.lookup call.deviceId = entry at hentry hne
  cases hentry with
  | same entry hl _ => exact absurd hl.symm hne
  | connected t b addr he _ _ => cases he
  | sent t args tgt id frame he _ _ => cases he
  | taken t call' tgt value he _ _ _ _ => cases he
  | replied t' arrival' src' a' id' f tgt he ha' hr' hf hm hl =>
      rw [ha] at ha'
      cases ha'
      rw [hr] at hr'
      cases hr'
      obtain ⟨tgt₁, hl₁, haw⟩ := findMatchingDevice_eq_some hm
      obtain ⟨-, status, hreq⟩ := TargetDevice.awaits_iff.mp haw
      obtain ⟨i', hat, -⟩ := requestAt_run hrun hl₁ hreq
      exact ⟨(hat.unique hown).2, by rw [hf]; rfl⟩

/-- **Late replies never cross over.** In a client of one thread, over a network that
replies to each request at most once, a result that a call extracts was said by the reply to
the request which that very call sent; and a reply that arrives during a call and frees its
slot or changes the entry of its device is the reply to that request. -/
theorem own_reply_of_solo (hsolo : SingleThreaded es) {origin : Nat → Nat}
    (hnet : RepliesOnce env es origin) :
    (∀ k s t r s', (client env).At .init es k s (.extract t) (.returned r) s' →
      ∃ call i j src a, s.threads 0 = .reading call ∧ CallAt env (es.take k) 0 call i ∧ i < j ∧
        ReplyAt env (es.take k) call.deviceId call.requestInvokeId r j src a ∧ origin j = i) ∧
    (∀ j s e o s' src a id call i, (client env).At .init es j s e o s' →
      arriving env s e = some (src, a) → a.repliesTo = some id → s.threads 0 = .reading call →
      CallAt env (es.take j) 0 call i →
      (id = call.requestInvokeId ∨
        s'.stack.targets.lookup call.deviceId ≠ s.stack.targets.lookup call.deviceId) →
      origin j = i) := by
  have hsolo' : ∀ k, SingleThreaded (es.take k) := fun k f hf =>
    hsolo f (List.mem_of_mem_take hf)
  constructor
  · intro k s t r s' hat
    obtain ⟨os, hrun⟩ := hat.before
    have ht : t = 0 := hsolo _ (List.mem_of_getElem? hat.event)
    subst ht
    cases return_cases (step_cases (wf_run hrun).tsm hat.step) with
    | unknown t d args he _ _ => cases he
    | failed t elapsed call he _ _ _ _ => cases he
    | elapsed t call he _ _ _ => cases he
    | extracted t call tgt he hth hpc hl hr =>
        cases he
        obtain ⟨i, hown⟩ := ownAt_run (all_exclusive_of_solo (hsolo' k) hrun) hrun hth
        obtain ⟨j, src, a, hij, hreply⟩ := provenance hrun hown hl hr
        have hjk : j ≤ k := by
          have hlt := hreply.lt
          rw [List.length_take] at hlt
          omega
        have harr := hreply.arrivesAt.append (es.drop k)
        rw [List.take_append_drop] at harr
        have horigin := origin_of_running hsolo hnet hjk hown.1 hij harr
        exact ⟨call, i, j, src, a, hth, hown.1, hij, hreply, horigin⟩
  · intro j s e o s' src a id call i hat ha hto hth hcall hor
    obtain ⟨os, hrun⟩ := hat.before
    have hid : id = call.requestInvokeId := by
      rcases hor with hid | hne
      · exact hid
      · exact (id_of_entry_changed (hsolo' j) hrun hth ha (releases_of_repliesTo hto)
          (step_cases (wf_run hrun).tsm hat.step) hne).1
    subst hid
    have hij : i < j := by
      obtain ⟨s₁, frame, s₁', hlast⟩ := hcall
      have hlt := hlast.lt
      rw [List.length_take] at hlt
      omega
    exact origin_of_running hsolo hnet (le_refl j) hcall hij ⟨s, e, o, s', src, hat, ha, hto⟩

/-! ### The network of `lateAckRead` -/

/-- The output says that a request went out with this id. -/
def Output.sendsId (id : UInt8) : Output → Bool
  | sent id' _ => id' == id
  | _ => false

theorem sendAt_of_run {t : Nat} {d : DeviceId} {args : ReadArgs} {id : UInt8}
    (h : ((client env).run .init (es ++ [.send t d args])).any
      (fun r => r.2.getLast?.any (Output.sendsId id)) = true) :
    SendAt env (es ++ [.send t d args]) es.length id := by
  obtain ⟨s, o, s', hat, ho⟩ := Machine.exists_at h
  unfold Output.sendsId at ho
  split at ho
  · rename_i id' frame
    rw [beq_iff_eq] at ho
    subst ho
    exact ⟨s, t, d, args, frame, s', hat⟩
  · cases ho

/-- The arrival delivers an acknowledgement of ReadProperty with this id. -/
def deliversAck (env : Env) (e : Event) (id : UInt8) (s : Sys) : Bool :=
  match arriving env s e with
  | some (_, .complexAck id' service _ _) =>
    id' == id && service == serviceConfirmedReadProperty
  | _ => false

theorem ack_of_deliversAck {id id' : UInt8} {src : BacnetAddress} {a : Apdu}
    (h : deliversAck env e id s = true) (ha : arriving env s e = some (src, a))
    (hto : a.repliesTo = some id') : id' = id ∧ a.update.isSome = true := by
  unfold deliversAck at h
  rw [ha] at h
  split at h
  · rename_i src' id₀ service request len heq
    cases heq
    rw [Bool.and_eq_true, beq_iff_eq, beq_iff_eq] at h
    cases hto
    refine ⟨h.1, ?_⟩
    simp only [Apdu.update, if_pos h.2, Option.isSome_some]
  · cases h

/-- What arrives in `lateAckRead`: an acknowledgement of the first request at position 5,
and one of the second at position 7. -/
theorem arrivesAt_lateAckRead {j : Nat} {a : Apdu} {id : UInt8}
    (h : ArrivesAt lan lateAckRead j a id) :
    ((j = 5 ∧ id = 1) ∨ (j = 7 ∧ id = 2)) ∧ a.update.isSome = true := by
  obtain ⟨s, e, o, s', src, hat, ha, hto⟩ := h
  obtain ⟨t, arrival, rfl⟩ := event_of_arriving ha
  have hev := hat.event
  have hj : j = 2 ∨ j = 5 ∨ j = 7 := by
    have hlt : j < 10 := hat.lt
    interval_cases j <;> first | decide | cases hev
  rcases hj with rfl | rfl | rfl
  · cases hev
    have hnone : ((client lan).run .init (lateAckRead.take 2)).any
        (fun r => (arriving lan r.1 (.receive 0 silence)).isNone) = true := by decide +kernel
    have hsilent := hat.of_any (p := fun s => (arriving lan s (.receive 0 silence)).isNone) hnone
    simp only [ha, Option.isNone_some, Bool.false_eq_true] at hsilent
  · cases hev
    have hack : ((client lan).run .init (lateAckRead.take 5)).any (fun r =>
        deliversAck lan (.receive 0 (lanMessage 2 (presentValueAck 1 0 41))) 1 r.1) = true := by
      decide +kernel
    obtain ⟨rfl, hu⟩ := ack_of_deliversAck (hat.of_any hack) ha hto
    exact ⟨Or.inl ⟨rfl, rfl⟩, hu⟩
  · cases hev
    have hack : ((client lan).run .init (lateAckRead.take 7)).any (fun r =>
        deliversAck lan (.receive 0 (lanMessage 2 (presentValueAck 2 0 42))) 2 r.1) = true := by
      decide +kernel
    obtain ⟨rfl, hu⟩ := ack_of_deliversAck (hat.of_any hack) ha hto
    exact ⟨Or.inr ⟨rfl, rfl⟩, hu⟩

/-- The requests that the acknowledgements of `lateAckRead` are to. -/
def lateAckOrigin (j : Nat) : Nat := if j = 5 then 1 else 4

theorem repliesOnce_lateAckRead : RepliesOnce lan lateAckRead lateAckOrigin where
  request j a id h := by
    have hfirst : SendAt lan (lateAckRead.take 1 ++ [.send 0 7 presentValue]) 1 1 :=
      sendAt_of_run (by decide +kernel)
    have hsecond : SendAt lan (lateAckRead.take 4 ++ [.send 0 7 presentValue]) 4 2 :=
      sendAt_of_run (by decide +kernel)
    obtain ⟨⟨rfl, rfl⟩ | ⟨rfl, rfl⟩, hu⟩ := arrivesAt_lateAckRead h
    · exact ⟨hu, by decide, by decide, hfirst.append (lateAckRead.drop 2)⟩
    · exact ⟨hu, by decide, by decide, hsecond.append (lateAckRead.drop 5)⟩
  once j j' a a' id id' h h' heq := by
    obtain ⟨hj, -⟩ := arrivesAt_lateAckRead h
    obtain ⟨hj', -⟩ := arrivesAt_lateAckRead h'
    rcases hj with ⟨rfl, -⟩ | ⟨rfl, -⟩ <;> rcases hj' with ⟨rfl, -⟩ | ⟨rfl, -⟩
    · rfl
    · cases heq
    · cases heq
    · rfl

theorem own_reply_lateAckRead :
    (∀ k s t r s', (client lan).At .init lateAckRead k s (.extract t) (.returned r) s' →
      ∃ call i j src a, s.threads 0 = .reading call ∧ CallAt lan (lateAckRead.take k) 0 call i ∧
        i < j ∧ ReplyAt lan (lateAckRead.take k) call.deviceId call.requestInvokeId r j src a ∧
        lateAckOrigin j = i) ∧
    (∀ j s e o s' src a id call i, (client lan).At .init lateAckRead j s e o s' →
      arriving lan s e = some (src, a) → a.repliesTo = some id → s.threads 0 = .reading call →
      CallAt lan (lateAckRead.take j) 0 call i →
      (id = call.requestInvokeId ∨
        s'.stack.targets.lookup call.deviceId ≠ s.stack.targets.lookup call.deviceId) →
      lateAckOrigin j = i) :=
  own_reply_of_solo (by decide) repliesOnce_lateAckRead

end Bacnet
