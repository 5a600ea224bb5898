import Bacnet.Invariants

/-!
# Bacnet.Slots

What a read leaves behind. A reply frees the slot of a request, and extracting empties the
request; a read that gives up after its three seconds does neither, and one that could not
send leaves its request on-going. A client of one thread whose reads all send and are all
answered is back where it was between any two of them.
-/

namespace Bacnet

open Bacnet.Lib

variable {env : Env} {s s' : Sys} {e : Event} {o : Output} {es : List Event} {os : List Output}

/-- A read of a tracked device can send its request, and is not given up while its slot is
reserved. -/
def Restores (s : Sys) (e : Event) : Prop :=
  match e with
  | .send _ d args =>
    s.stack.poisoned = false → (s.stack.targets.lookup d).isSome = true → SendReady s.stack d args
  | .poll t true =>
    ∀ call ∈ (s.threads t).call?, s.stack.tsm.invokeIdFree call.requestInvokeId = true
  | _ => True

instance (s : Sys) (e : Event) : Decidable (Restores s e) :=
  match e with
  | .send .. => inferInstanceAs (Decidable (_ → _ → SendReady _ _ _))
  | .poll _ true => inferInstanceAs (Decidable (∀ call ∈ Thread.call? _, _))
  | .poll _ false | .connect .. | .disconnect .. | .receive .. | .extract .. | .whoisStart ..
  | .whoisClose .. | .whoisDrain .. => instDecidableTrue

/-- Only the running call has a slot or a request. -/
structure Tidy (s : Sys) : Prop where
  sent : ∀ call, s.threads 0 = .reading call →
    call.requestInvokeId ≠ 0 ∧ s.stack.poisoned = false
  slot : ∀ id ∈ s.stack.tsm.reserved, ∃ call, s.threads 0 = .reading call ∧
    call.requestInvokeId = id ∧ call.pc ≠ .extracting
  request : ∀ d tgt, s.stack.targets.lookup d = some tgt → tgt.request ≠ none →
    ∃ call, s.threads 0 = .reading call ∧ call.deviceId = d

theorem tidy_init : Tidy .init where
  sent call h := by cases h
  slot id h := by
    rw [show Sys.init.stack.tsm = Tsm.init from rfl, Tsm.reserved_init] at h
    cases h
  request d tgt h := by cases h

/-- A reserved slot stays the running call's, or the call is over and has freed it. -/
theorem slot_of_running (ht : Tidy s) (h0 : e.thread = 0) (hP : Restores s e)
    (hs : Step env s e s' o) {call : ReadCall} (hth : s.threads 0 = .reading call)
    (hpc : call.pc ≠ .extracting) (hres : call.requestInvokeId ∈ s.stack.tsm.reserved) :
    ∃ c, s'.threads 0 = .reading c ∧ c.requestInvokeId = call.requestInvokeId ∧
      c.pc ≠ .extracting := by
  have hid := (ht.sent call hth).1
  have hnot : s.stack.tsm.invokeIdFree call.requestInvokeId ≠ true := fun hfree =>
    (Tsm.invokeIdFree_of_ne_zero hid).mp hfree hres
  rw [← h0] at hth ⊢
  have hnext := next_cases hs hth
  generalize s'.threads e.thread = th at hnext ⊢
  cases hnext with
  | goesOn c' hsame hne hpc' =>
      exact ⟨c', rfl, hsame.2.2.symm, fun hx => hnot (hpc' hx)⟩
  | aborted c' hc => exact ⟨c', rfl, by rw [hc], by rw [hc]; exact hpc⟩
  | failed hzero => exact absurd hzero hid
  | elapsed he _ =>
      rw [he] at hP
      exact absurd (hP call (Thread.mem_call?.mpr hth)) hnot
  | extracted he hx => exact absurd hx hpc

/-- A device with a request stays the running call's. -/
theorem request_of_running (hwf : s.Wf) (ht : Tidy s) (h0 : e.thread = 0) (hP : Restores s e)
    (hs : Step env s e s' o) {call : ReadCall} (hth : s.threads 0 = .reading call)
    {tgt' : TargetDevice} (hl' : s'.stack.targets.lookup call.deviceId = some tgt')
    (hr' : tgt'.request ≠ none) : ∃ c, s'.threads 0 = .reading c ∧ c.deviceId = call.deviceId := by
  obtain ⟨hid, hp⟩ := ht.sent call hth
  have htracked := hwf.reading 0 call hth
  rw [← h0] at hth ⊢
  have hnext := next_cases hs hth
  generalize s'.threads e.thread = th at hnext ⊢
  cases hnext with
  | goesOn c' hsame _ _ => exact ⟨c', rfl, hsame.1.symm⟩
  | aborted c' hc => exact ⟨c', rfl, by rw [hc]⟩
  | failed hzero => exact absurd hzero hid
  | elapsed he hres =>
      rw [he] at hP
      have hfree := hP call (Thread.mem_call?.mpr hth)
      exact absurd hres ((Tsm.invokeIdFree_of_ne_zero hid).mp hfree)
  | extracted he hx =>
      rw [he] at hs
      obtain ⟨tgt₁, hl₁, hr₁⟩ := cleared_of_extract hs hth hp htracked
      rw [hl'] at hl₁
      cases hl₁
      exact absurd hr₁ hr'

theorem tidy_step (hwf : s.Wf) (ht : Tidy s) (h0 : e.thread = 0) (hP : Restores s e)
    (hs : Step env s e s' o) : Tidy s' where
  sent call hth' := by
    rcases call_origin hs hth' with ⟨c, hc, hsame, -⟩ | ⟨frame, he, ho⟩
    · obtain ⟨hid, hp⟩ := ht.sent c hc
      refine ⟨by rw [← hsame.2.2]; exact hid, ?_⟩
      rcases panic_cases hs with ⟨heq, -⟩ | ⟨c', he, -, -, -⟩
      · rw [heq, hp]
      · rw [h0] at he
        rw [he] at hs
        rw [idle_of_extract hs] at hth'
        cases hth'
    · subst he ho
      cases hs with
      | send _ _ _ tgt stack _ _ hth hp hl h =>
          have hready := hP hp (by rw [hl]; rfl)
          exact ⟨h.ne_zero hwf.tsm hready, h.poisoned_eq.trans hp⟩
  slot id hid := by
    have hres := reserved_cases hwf.tsm hs
    generalize s'.stack.tsm.reserved = reserved at hres hid
    cases hres with
    | same _ _ =>
        obtain ⟨call, hth, rfl, hpc⟩ := ht.slot id hid
        exact slot_of_running ht h0 hP hs hth hpc hid
    | sent t d args id' frame he ho hid' hnew =>
        subst he ho
        replace h0 : t = 0 := h0
        subst h0
        rcases Finset.mem_insert.mp hid with rfl | hold
        · cases hs with
          | send _ _ _ tgt stack _ _ hth hp hl h =>
              exact ⟨_, Sys.threads_setThread_self s 0 _, rfl, nofun⟩
        · obtain ⟨call, hth, -, -⟩ := ht.slot id hold
          exact absurd hth (not_reading_of_send hs)
    | released src a id' ho ha hrel =>
        have hold := Finset.mem_of_mem_erase hid
        obtain ⟨call, hth, rfl, hpc⟩ := ht.slot id hold
        exact slot_of_running ht h0 hP hs hth hpc hold
  request d tgt' hl' hr' := by
    have hentry := entry_cases hs d
    have hl₀ := hl'
    rw [hl'] at hentry
    cases hentry with
    | same entry hl _ =>
        obtain ⟨call, hth, rfl⟩ := ht.request d tgt' hl hr'
        exact request_of_running hwf ht h0 hP hs hth hl₀ hr'
    | connected t b addr he hd ho => exact absurd rfl hr'
    | sent t args tgt id frame he ho hl =>
        subst he ho
        replace h0 : t = 0 := h0
        subst h0
        cases hs with
        | send _ _ _ tgt stack _ _ hth hp hl h =>
            exact ⟨_, Sys.threads_setThread_self s 0 _, rfl⟩
    | replied t arrival src a id f tgt he ha hrel hf hm hl =>
        obtain ⟨tgt₁, hl₁, haw⟩ := findMatchingDevice_eq_some hm
        obtain ⟨-, status, hr⟩ := TargetDevice.awaits_iff.mp haw
        have hne : tgt₁.request ≠ none := by
          rw [hr]
          nofun
        obtain ⟨call, hth, rfl⟩ := ht.request d tgt₁ hl₁ hne
        exact request_of_running hwf ht h0 hP hs hth hl₀ hr'
    | taken t call tgt value he hth hpc hd hl => exact absurd rfl hr'

/-- Between any two calls of a client of one thread whose reads are all sent and answered,
every slot is idle and no device has a request. -/
theorem all_idle_of_restores (hsolo : SingleThreaded es)
    (hall : (client env).All Restores .init es)
    (hrun : (client env).run .init es = some (s, os))
    (hnone : ∀ call, s.threads 0 ≠ .reading call) :
    s.stack.tsm.transactionIdleCount = maxTsmTransactions ∧
      ∀ d tgt, s.stack.targets.lookup d = some tgt → tgt.request = none := by
  obtain ⟨hwf, ht⟩ : s.Wf ∧ Tidy s := invariant_run Sys.wf_init tidy_init
    ((Machine.All.of_mem hsolo Sys.init).and hall) hrun
    fun _ _ _ _ hwf ht ⟨h0, hP⟩ hs => tidy_step hwf ht h0 hP hs
  have hempty : s.stack.tsm.reserved = ∅ := by
    refine Finset.eq_empty_of_forall_notMem fun id hid => ?_
    obtain ⟨call, hth, -, -⟩ := ht.slot id hid
    exact hnone call hth
  refine ⟨?_, fun d tgt hl => ?_⟩
  · have hsum := Tsm.transactionIdleCount_add_card hwf.tsm
    rw [hempty, Finset.card_empty] at hsum
    exact hsum
  · by_contra hr
    obtain ⟨call, hth, -⟩ := ht.request d tgt hl hr
    exact hnone call hth

/-- A read that is answered in time. -/
def restoredRead : List Event :=
  [.connect 0 (lanDevice 7 2), .send 0 7 presentValue, .receive 0 silence, .poll 0 false,
    .receive 0 (lanMessage 2 (presentValueAck 1 0 42)), .poll 0 true, .extract 0]

theorem all_idle_restoredRead :
    ∃ s os, (client lan).run .init restoredRead = some (s, os) ∧
      s.stack.tsm.transactionIdleCount = maxTsmTransactions ∧
      ∀ d tgt, s.stack.targets.lookup d = some tgt → tgt.request = none := by
  have hidle : ((client lan).run .init restoredRead).any (fun r => (r.1.threads 0).call?.isNone) =
      true := by
    decide +kernel
  obtain ⟨s, os, hrun, hth⟩ := Machine.exists_run hidle
  exact ⟨s, os, hrun, all_idle_of_restores (by decide) (by decide +kernel) hrun
    (Thread.not_reading_of_isNone hth)⟩

/-- A read that nobody answers. -/
def unansweredRead : List Event :=
  [.connect 0 (lanDevice 7 2), .send 0 7 presentValue, .receive 0 silence, .poll 0 true]

/-- It returns `ApduTimeout` with its slot still reserved and its request still on-going. -/
theorem unansweredRead_leaks :
    SingleThreaded unansweredRead ∧
      ∃ s os, (client lan).run .init unansweredRead = some (s, os) ∧
        (∀ call, s.threads 0 ≠ .reading call) ∧
        os.getLast? = some (.returned (.error .apduTimeout)) ∧
        1 ∈ s.stack.tsm.reserved ∧
        s.stack.tsm.transactionIdleCount = 254 ∧
        (s.stack.targets.lookup 7).bind (·.request) = some (1, .ongoing) := by
  have hleak : ((client lan).run .init unansweredRead).any (fun r =>
      decide ((r.1.threads 0).call?.isNone = true ∧ r.2.getLast?.any Output.isApduTimeout = true ∧
        r.1.stack.tsm.invokeIdFree 1 = false ∧ r.1.stack.tsm.transactionIdleCount = 254 ∧
        (r.1.stack.targets.lookup 7).bind (·.request) = some (1, .ongoing))) = true := by
    decide +kernel
  obtain ⟨s, os, hrun, hp⟩ := Machine.exists_run hleak
  obtain ⟨hth, hret, hfree, hcount, hreq⟩ := of_decide_eq_true hp
  obtain ⟨o, hlast, ho⟩ := (Option.any_eq_true _ _).mp hret
  rw [Output.isApduTimeout_iff] at ho
  subst ho
  have hone : (1 : UInt8) ≠ 0 := by decide
  have hreserved : 1 ∈ s.stack.tsm.reserved := by
    by_contra hnot
    rw [(Tsm.invokeIdFree_of_ne_zero hone).mpr hnot] at hfree
    cases hfree
  exact ⟨by decide, s, os, hrun, Thread.not_reading_of_isNone hth, hlast, hreserved, hcount, hreq⟩

end Bacnet
