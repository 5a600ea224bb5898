import Bacnet.History
import Bacnet.Sync

/-!
# Bacnet.Concurrent

Any number of threads that connect and read over one client. Each device has one entry
for its request and its result, whoever reads it, and any thread's receive can take
another's reply. What the steps have to leave alone for every call to come out with the
outcome of its own request is `Undisturbed`.
-/

namespace Bacnet

open Bacnet.Lib

variable {env : Env} {s s' : Sys} {e : Event} {o : Output} {es : List Event} {os : List Output}

/-! ### The condition on a step -/

/-- A poll that gives the call up after its three seconds finds the call's request
on-going, if its invoke id is reserved: the id was not given to another call after the
reply freed it. -/
def GivesUpOngoing (s : Sys) (e : Event) (call : ReadCall) : Prop :=
  match e with
  | .poll _ true =>
    call.requestInvokeId ∈ s.stack.tsm.reserved →
      (s.stack.targets.lookup call.deviceId).bind (·.request) =
        some (call.requestInvokeId, .ongoing)
  | _ => True

instance (s : Sys) (e : Event) (call : ReadCall) : Decidable (GivesUpOngoing s e call) :=
  match e with
  | .poll _ true => inferInstanceAs (Decidable (_ → _))
  | .poll _ false | .connect .. | .disconnect .. | .send .. | .receive .. | .extract ..
  | .whoisStart .. | .whoisClose .. | .whoisDrain .. => instDecidableTrue

/-- What the step has to leave alone in a thread. -/
def SparesThread (env : Env) (s : Sys) (e : Event) (t : Nat) : Prop :=
  ∀ call ∈ (s.threads t).call?, ReplyTaken env s e call ∧ e.overwrites call.deviceId = false

instance (env : Env) (s : Sys) (e : Event) (t : Nat) : Decidable (SparesThread env s e t) :=
  inferInstanceAs (Decidable (∀ call ∈ Thread.call? _, _ ∧ _))

/-- What a polling thread has to find. -/
def PollsOwn (s : Sys) (e : Event) : Prop :=
  ∀ call ∈ (s.threads e.thread).call?, PollSafe s e call ∧ GivesUpOngoing s e call

instance (s : Sys) (e : Event) : Decidable (PollsOwn s e) :=
  inferInstanceAs (Decidable (∀ call ∈ Thread.call? _, _ ∧ _))

/-- The condition on the steps of a client of `n` threads. -/
def Undisturbed (env : Env) (n : Nat) (s : Sys) (e : Event) : Prop :=
  (∀ t, t < n → SparesThread env s e t) ∧ PollsOwn s e

instance (env : Env) (n : Nat) (s : Sys) (e : Event) : Decidable (Undisturbed env n s e) :=
  inferInstanceAs (Decidable (_ ∧ _))

/-- The event is a step of `connect` or of `read_prop_at`. -/
def Event.readsOrConnects : Event → Bool
  | .connect _ _ => true
  | .send _ _ _ => true
  | .receive _ _ => true
  | .poll _ _ => true
  | .extract _ => true
  | _ => false

/-- The run is one of `n` threads that connect and read. -/
def ReadsOrConnects (n : Nat) (es : List Event) : Prop :=
  ∀ e ∈ es, e.thread < n ∧ e.readsOrConnects = true

instance (n : Nat) (es : List Event) : Decidable (ReadsOrConnects n es) :=
  inferInstanceAs (Decidable (∀ e ∈ es, _))

theorem calm_of_undisturbed {n : Nat} (hidle : ∀ t, n ≤ t → s.threads t = .idle)
    (h : Undisturbed env n s e) : Calm env s e := by
  have hspare : ∀ t call, s.threads t = .reading call →
      ReplyTaken env s e call ∧ e.overwrites call.deviceId = false := by
    intro t call hth
    have hlt : t < n := by
      by_contra hge
      rw [hidle t (by omega)] at hth
      cases hth
    exact h.1 t hlt call (Thread.mem_call?.mpr hth)
  exact ⟨fun t call hth => (hspare t call hth).1, fun t call hth => (hspare t call hth).2,
    fun call hth => (h.2 call (Thread.mem_call?.mpr hth)).1⟩

theorem Calm.exclusive (h : Calm env s e) : Exclusive s e := by
  intro t call hth u args he
  have halone := h.alone t call hth
  rw [he, Event.overwrites, beq_self_eq_true] at halone
  cases halone

/-- The conditions a run of `n` threads gives at each of its steps. -/
theorem all_calm {n : Nat} (hn : ReadsOrConnects n es)
    (hall : (client env).All (Undisturbed env n) .init es) :
    (client env).All (fun s e => Calm env s e ∧ PollsOwn s e) .init es := by
  refine hall.imp_run fun es₁ es₂ e t os hes hrun h => ⟨calm_of_undisturbed (fun u hu => ?_) h, h.2⟩
  refine idle_run (fun f hf => (hn f ?_).1) hrun hu
  rw [hes]
  exact List.mem_append_left _ hf

/-! ### The process lives on -/

/-- Without discoveries the I-Am handler is the one of `init_service_handlers`. -/
theorem iAm_step (h : s.stack.handlers.iAm ≠ some .iAmHandler) (he : e.readsOrConnects = true)
    (hs : Step env s e s' o) : s'.stack.handlers.iAm ≠ some .iAmHandler := by
  have hstack := stack_cases hs
  generalize s'.stack = stack' at hstack
  cases hstack with
  | same _ _ _ => exact h
  | connect t b stack _ hc =>
      have hinit : (stackInit env s.stack).handlers.iAm ≠ some .iAmHandler := by
        rw [stackInit]
        split
        · exact h
        · intro hiam
          cases hiam
      cases hc <;> exact hinit
  | disconnect t d _ _ => exact h
  | send t d args tgt stack id frame _ _ _ hse => cases hse <;> exact h
  | apdu t arrival src a stack _ _ _ ha => cases ha <;> exact h
  | extract t call stack _ _ _ hx => cases hx <;> exact h
  | whoisStart t subnet hwho _ =>
      rw [hwho] at he
      cases he
  | whoisClose t _ _ => exact h
  | whoisDrain t _ _ => exact h

theorem not_aborted_step (hin : InStep s) (h : s.stack.handlers.iAm ≠ some .iAmHandler)
    (hs : Step env s e s' o) : o ≠ .aborted := by
  intro ho
  cases hs with
  | abort t arrival hth ha =>
      rcases ha with hp | ⟨hiam, -⟩
      · rw [hin.lock] at hp
        cases hp
      · exact h hiam
  | connect t b stack o hth hc => rcases hc.output with rfl | ⟨r, rfl⟩ <;> cases ho
  | extract t call stack o hth hpc hx => rcases hx.output with rfl | ⟨r, rfl⟩ <;> cases ho
  | disconnect t d hth => cases ho
  | sendPoisoned t d args hth hp => cases ho
  | sendUnknown t d args hth hp hl => cases ho
  | send t d args tgt stack id frame hth hp hl h => cases ho
  | receive t arrival rx' stack hth h => cases ho
  | pollAgain t elapsed c hth hpc hres he => cases ho
  | pollFree t elapsed c hth hpc hfree => cases ho
  | pollFailed t elapsed c hth hpc hid hav => cases ho
  | pollElapsed t c hth hpc hres => cases ho
  | whoisStart t subnet hth => cases ho
  | whoisClose t rx hth => cases ho
  | whoisDrain t hth => cases ho

/-! ### Every call returns the outcome of its own request -/

/-- The result `r` that the event `e` returns after the events `es`, which led to `s`, is
the outcome of the request of the call it ends. -/
inductive OwnOutcome (env : Env) (es : List Event) (s : Sys) (e : Event)
    (r : Result BACnetValue) : Prop where
  /-- The device was never connected, and nothing was sent. -/
  | notConnected (t : Nat) (d : DeviceId) (args : ReadArgs) (he : e = .send t d args)
      (hl : s.stack.targets.lookup d = none) (hr : r = .error (.notConnectedToDevice d))
  /-- No request went out. -/
  | notSent (t : Nat) (elapsed : Bool) (call : ReadCall) (he : e = .poll t elapsed)
      (hth : s.threads t = .reading call) (hid : call.requestInvokeId = 0)
      (hr : r = .error .tsmTimeout)
  /-- The request is still on-going after three seconds. -/
  | unanswered (t : Nat) (call : ReadCall) (he : e = .poll t true)
      (hth : s.threads t = .reading call)
      (hon : (s.stack.targets.lookup call.deviceId).bind (·.request) =
        some (call.requestInvokeId, .ongoing)) (hr : r = .error .apduTimeout)
  /-- A reply to the request said so. -/
  | answered (t : Nat) (call : ReadCall) (i j : Nat) (src : BacnetAddress) (a : Apdu)
      (he : e = .extract t) (hth : s.threads t = .reading call) (hcall : CallAt env es t call i)
      (hij : i < j) (hreply : ReplyAt env es call.deviceId call.requestInvokeId r j src a)

/-- The entry of the call's device holds the call's own request: the one it sent at position
`i`, and what a reply to that said, if anything. -/
def HoldsOwn (env : Env) (es : List Event) (s : Sys) (t : Nat) (call : ReadCall) : Prop :=
  ∃ i tgt status, CallAt env es t call i ∧
    s.stack.targets.lookup call.deviceId = some tgt ∧
    tgt.request = some (call.requestInvokeId, status) ∧
    ∀ r, tgt.report = some r →
      ∃ j src a, i < j ∧ ReplyAt env es call.deviceId call.requestInvokeId r j src a

theorem holdsOwn_run (hex : (client env).All Exclusive .init es)
    (hrun : (client env).run .init es = some (s, os)) (hin : InStep s) {t : Nat} {call : ReadCall}
    (hth : s.threads t = .reading call) : HoldsOwn env es s t call := by
  obtain ⟨i, hown⟩ := ownAt_run hex hrun hth
  obtain ⟨tgt, status, hl, hr, -⟩ := hin.synced t call hth
  exact ⟨i, tgt, status, hown.1, hl, hr, fun r hrep => provenance hrun hown hl hrep⟩

theorem ownOutcome_step (hex : (client env).All Exclusive .init es)
    (hrun : (client env).run .init es = some (s, os)) (hin : InStep s)
    (hP : PollsOwn s e) {r : Result BACnetValue}
    (hs : Step env s e s' (.returned r)) : OwnOutcome env es s e r := by
  cases return_cases hs with
  | unknown t d args he hl hr => exact .notConnected t d args he hl hr
  | failed t elapsed call he hth hid hav hr => exact .notSent t elapsed call he hth hid hr
  | elapsed t call he hth hres hr =>
      subst he
      have hown := hP call (Thread.mem_call?.mpr hth)
      exact .unanswered t call rfl hth (hown.2 hres) hr
  | extracted t call tgt he hth hpc hl hr =>
      obtain ⟨i, tgt', status, hcall, hl', -, hans⟩ := holdsOwn_run hex hrun hin hth
      rw [hl] at hl'
      cases hl'
      obtain ⟨j, src, a, hij, hreply⟩ := hans r hr
      exact .answered t call i j src a he hth hcall hij hreply

/-- The calls of a client stay in step, and no step panics or ends the process. -/
theorem inStep_run {n : Nat} (hn : ReadsOrConnects n es)
    (hcalm : (client env).All (fun s e => Calm env s e ∧ PollsOwn s e)
      .init es)
    (hrun : (client env).run .init es = some (s, os)) :
    InStep s ∧ ∀ o ∈ os, o ≠ .panicked ∧ o ≠ .aborted := by
  have hev := Machine.All.of_mem (M := client env) (fun e he => (hn e he).2) Sys.init
  have hinv : (InStep s ∧ s.stack.handlers.iAm ≠ some .iAmHandler) ∧
      ∀ o ∈ os, o ≠ .panicked ∧ o ≠ .aborted := by
    refine Machine.run_history (motive := fun _ os s =>
      (InStep s ∧ s.stack.handlers.iAm ≠ some .iAmHandler) ∧
        ∀ o ∈ os, o ≠ Output.panicked ∧ o ≠ Output.aborted)
      ⟨⟨inStep_init, nofun⟩, by simp⟩ ?_ (hcalm.and hev) hrun
    intro es os s e s' o hrun ⟨⟨hin, hiam⟩, hok⟩ ⟨⟨hcalm, _⟩, he⟩ hs
    have hwf := wf_run hrun
    have hstep := step_cases hwf.tsm hs
    obtain ⟨hin', hpan⟩ := inStep_step hwf hin hcalm hstep
    refine ⟨⟨hin', iAm_step hiam he hstep⟩, fun o' ho' => ?_⟩
    rcases List.mem_append.mp ho' with ho' | ho'
    · exact hok o' ho'
    · rw [List.mem_singleton.mp ho']
      exact ⟨hpan, not_aborted_step hin hiam hstep⟩
  exact ⟨hinv.1.1, hinv.2⟩

/-- Undisturbed threads come out with the outcome of their own requests, whatever the
interleaving: every result returned is the outcome of the call's own request, the entry of a
device that is being read holds the reading call's request and nothing of another's, and no
step panics or ends the process. -/
theorem ownOutcome_of_undisturbed {n : Nat} (hn : ReadsOrConnects n es)
    (hall : (client env).All (Undisturbed env n) .init es)
    (hrun : (client env).run .init es = some (s, os)) :
    (∀ k s₁ e r s₂, (client env).At .init es k s₁ e (.returned r) s₂ →
      OwnOutcome env (es.take k) s₁ e r) ∧
    (∀ t call, s.threads t = .reading call → HoldsOwn env es s t call) ∧
    ∀ o ∈ os, o ≠ .panicked ∧ o ≠ .aborted := by
  have hcalm := all_calm hn hall
  have hex : (client env).All Exclusive .init es := hcalm.mono fun _ _ h => h.1.exclusive
  obtain ⟨hin, hok⟩ := inStep_run hn hcalm hrun
  refine ⟨fun k s₁ e r s₂ hat => ?_, fun t call hth => holdsOwn_run hex hrun hin hth, hok⟩
  obtain ⟨os₁, hrun₁⟩ := hat.before
  have hsplit : es = es.take k ++ es.drop k := (List.take_append_drop k es).symm
  have hn₁ : ReadsOrConnects n (es.take k) := fun f hf => hn f (List.mem_of_mem_take hf)
  have hP := (hcalm.at_step hat).2
  rw [hsplit] at hcalm hex
  have hin₁ := (inStep_run hn₁ hcalm.append_left hrun₁).1
  exact ownOutcome_step hex.append_left hrun₁ hin₁ hP (step_cases (wf_run hrun₁).tsm hat.step)

/-- Two threads read two devices, each taking in the other's reply. -/
def crossedReads : List Event :=
  [.connect 0 (lanDevice 7 2), .connect 1 (lanDevice 8 3), .send 0 7 presentValue,
    .send 1 8 presentValue, .receive 0 (lanMessage 3 (presentValueAck 2 0 43)), .poll 0 false,
    .receive 1 (lanMessage 2 (presentValueAck 1 0 42)), .poll 1 false, .extract 1,
    .receive 0 silence, .poll 0 false, .extract 0]

theorem ownOutcome_crossedReads :
    ∃ s os, (client lan).run .init crossedReads = some (s, os) ∧
      (∀ k s₁ e r s₂, (client lan).At .init crossedReads k s₁ e (.returned r) s₂ →
        OwnOutcome lan (crossedReads.take k) s₁ e r) ∧
      (∀ t call, s.threads t = .reading call → HoldsOwn lan crossedReads s t call) ∧
      ∀ o ∈ os, o ≠ .panicked ∧ o ≠ .aborted := by
  have hsome : ((client lan).run .init crossedReads).any (fun _ => true) = true := by
    decide +kernel
  obtain ⟨s, os, hrun, -⟩ := Machine.exists_run hsome
  exact ⟨s, os, hrun, ownOutcome_of_undisturbed (n := 2) (by decide) (by decide +kernel) hrun⟩

/-- Two threads read the same device. -/
def sharedReads : List Event :=
  [.connect 0 (lanDevice 7 2), .send 0 7 presentValue, .send 1 7 presentValue,
    .receive 0 (lanMessage 2 (presentValueAck 1 0 42)), .poll 0 false, .extract 0]

/-- The second send overwrites the request of the first call, whose reply then matches no
entry: the first call panics. -/
theorem sharedReads_panics :
    ReadsOrConnects 2 sharedReads ∧
      (∃ s os, (client lan).run .init (sharedReads.take 3) = some (s, os) ∧
        (s.stack.targets.lookup 7).bind (·.request) = some (2, .ongoing)) ∧
      ∃ s os, (client lan).run .init sharedReads = some (s, os) ∧ .panicked ∈ os := by
  have hlost : ((client lan).run .init (sharedReads.take 3)).any (fun r =>
      decide ((r.1.stack.targets.lookup 7).bind (·.request) = some (2, .ongoing))) = true := by
    decide +kernel
  have hpanic : ((client lan).run .init sharedReads).any
      (fun r => decide (.panicked ∈ r.2)) = true := by
    decide +kernel
  obtain ⟨s, os, hrun, hp⟩ := Machine.exists_run hlost
  obtain ⟨s', os', hrun', hp'⟩ := Machine.exists_run hpanic
  exact ⟨by decide, ⟨s, os, hrun, of_decide_eq_true hp⟩, s', os', hrun', of_decide_eq_true hp'⟩

end Bacnet
