import Bacnet.Invariants

/-!
# Bacnet.Sync

The two records of an outstanding request: the slot of its invoke id in the transaction
table, which any reply with the id frees, and the request in the entry of its device,
which a reply moves on only if it is of a handled kind and comes from an address that
matches. A client of one thread never panics as long as the replies that free the slot
of its call are taken by the call's device.
-/

namespace Bacnet

open Bacnet.Lib

variable {env : Env} {s s' : Sys} {e : Event} {o : Output}

/-- A reply that frees the slot of the call while its request is on-going is of a kind that
a handler takes, and the call's device is the first that matches it. -/
def ReplyTaken (env : Env) (s : Sys) (e : Event) (call : ReadCall) : Prop :=
  match e with
  | .receive _ arrival =>
    ∀ r ∈ arriving env s e, call.requestInvokeId ≠ 0 →
      r.2.releases = some call.requestInvokeId →
      (s.stack.targets.lookup call.deviceId).bind (·.request) =
        some (call.requestInvokeId, .ongoing) →
      r.2.update.isSome = true ∧
        findMatchingDevice arrival.order s.stack.targets r.1 call.requestInvokeId =
          some call.deviceId
  | _ => True

instance (env : Env) (s : Sys) (e : Event) (call : ReadCall) :
    Decidable (ReplyTaken env s e call) :=
  match e with
  | .receive .. => inferInstanceAs (Decidable (∀ r ∈ arriving env s _, _ → _ → _ → _ ∧ _))
  | .connect .. | .disconnect .. | .send .. | .poll .. | .extract .. | .whoisStart ..
  | .whoisClose .. | .whoisDrain .. => instDecidableTrue

/-- A call that could not send finds a free slot when it polls, or its request no longer
on-going. -/
def PollSafe (s : Sys) (e : Event) (call : ReadCall) : Prop :=
  match e with
  | .poll _ _ =>
    call.requestInvokeId = 0 →
      s.stack.tsm.transactionAvailable = true ∨
        (s.stack.targets.lookup call.deviceId).bind (·.request) ≠ some (0, .ongoing)
  | _ => True

instance (s : Sys) (e : Event) (call : ReadCall) : Decidable (PollSafe s e call) :=
  match e with
  | .poll .. => inferInstanceAs (Decidable (_ → _ ∨ _))
  | .connect .. | .disconnect .. | .send .. | .receive .. | .extract .. | .whoisStart ..
  | .whoisClose .. | .whoisDrain .. => instDecidableTrue

/-- The event writes a new request, or none, to the entry of the device. -/
def Event.overwrites (d : DeviceId) : Event → Bool
  | .connect _ b => b.deviceId == d
  | .send _ d' _ => d' == d
  | _ => false

/-- What a step has to leave alone in the calls that are running. -/
structure Calm (env : Env) (s : Sys) (e : Event) : Prop where
  reply : ∀ t call, s.threads t = .reading call → ReplyTaken env s e call
  alone : ∀ t call, s.threads t = .reading call → e.overwrites call.deviceId = false
  poll : ∀ call, s.threads e.thread = .reading call → PollSafe s e call

/-! ### The invariant -/

/-- The request of the call is still on-going only while its slot is reserved and the call
is not about to extract. -/
def Synced (s : Stack) (call : ReadCall) : Prop :=
  ∃ tgt status, s.targets.lookup call.deviceId = some tgt ∧
    tgt.request = some (call.requestInvokeId, status) ∧
    (status = .ongoing → call.pc ≠ .extracting ∧
      (call.requestInvokeId ≠ 0 → call.requestInvokeId ∈ s.tsm.reserved))

/-- Every running call is in step with its slot, and has its device to itself. -/
structure InStep (s : Sys) : Prop where
  lock : s.stack.poisoned = false
  synced : ∀ t call, s.threads t = .reading call → Synced s.stack call
  apart : ∀ t u call call', s.threads t = .reading call → s.threads u = .reading call' →
    call.deviceId = call'.deviceId → t = u

theorem inStep_init : InStep .init := ⟨rfl, (fun _ _ h => nomatch h), (fun _ _ _ _ h _ _ => nomatch h)⟩

/-- A call that extracts has something to report. -/
theorem Synced.report {s : Stack} {call : ReadCall} (h : Synced s call)
    (hpc : call.pc = .extracting) {tgt : TargetDevice}
    (hl : s.targets.lookup call.deviceId = some tgt) : tgt.report ≠ none := by
  obtain ⟨tgt', status, hl', hr, hst⟩ := h
  rw [hl] at hl'
  cases hl'
  have hne : status ≠ .ongoing := fun heq => (hst heq).1 hpc
  have hsome := report_isSome_iff.mpr ⟨_, status, hr, hne⟩
  rw [Option.isSome_iff_ne_none] at hsome
  exact hsome

theorem Synced.of_pc {s : Stack} {call : ReadCall} (h : Synced s call) (rx : RxState)
    {pc : ReadPc} (hpc : pc ≠ .extracting) : Synced s { call with rx, pc } := by
  obtain ⟨tgt, status, hl, hr, hst⟩ := h
  exact ⟨tgt, status, hl, hr, fun hon => ⟨hpc, (hst hon).2⟩⟩

/-- A request that went out is on-going, in a reserved slot. -/
theorem synced_sent (hwf : s.Wf) {t : Nat} {d : DeviceId} {args : ReadArgs} {id : UInt8}
    {frame : Option (BacnetIpAddress × List UInt8)}
    (hs : Step env s (.send t d args) s' (.sent id frame)) :
    Synced s'.stack ⟨d, args, id, .fresh, .receiving⟩ := by
  have hres := reserved_cases hwf.tsm hs
  have hmem : id ≠ 0 → id ∈ s'.stack.tsm.reserved := by
    intro hid
    generalize s'.stack.tsm.reserved = reserved at hres ⊢
    cases hres with
    | same hzero _ => exact absurd (hzero id frame rfl) hid
    | sent t' d' args' id' frame' _ ho _ _ =>
        cases ho
        exact Finset.mem_insert_self id _
    | released src a id' ho _ _ => cases ho
  cases hs with
  | send _ _ _ tgt stack _ _ hth hp hl h =>
      exact ⟨_, .ongoing, Stack.lookup_setTarget_self _ _ _, rfl, fun _ => ⟨nofun, hmem⟩⟩

/-- An on-going request keeps its slot, unless a reply moves it on. -/
theorem reserved_of_ongoing (hwf : s.Wf) (hs : Step env s e s' o) {call : ReadCall}
    (hP : ReplyTaken env s e call) {tgt : TargetDevice}
    (hl : s.stack.targets.lookup call.deviceId = some tgt)
    (hl' : s'.stack.targets.lookup call.deviceId = some tgt)
    (hr : tgt.request = some (call.requestInvokeId, .ongoing)) (hid : call.requestInvokeId ≠ 0)
    (hmem : call.requestInvokeId ∈ s.stack.tsm.reserved) :
    call.requestInvokeId ∈ s'.stack.tsm.reserved := by
  have hres := reserved_cases hwf.tsm hs
  generalize s'.stack.tsm.reserved = reserved at hres ⊢
  cases hres with
  | same _ _ => exact hmem
  | sent t d args id frame _ _ _ _ => exact Finset.mem_insert_of_mem hmem
  | released src a id ho ha hrel =>
      refine Finset.mem_erase_of_ne_of_mem (fun heq => ?_) hmem
      -- The slot that is freed is the call's own, so its device took the reply.
      subst heq
      obtain ⟨t, arrival, rfl⟩ := event_of_arriving ha
      have hreq : (s.stack.targets.lookup call.deviceId).bind (·.request) =
          some (call.requestInvokeId, .ongoing) := by
        rw [hl, Option.bind_some, hr]
      obtain ⟨hupd, hmatch⟩ := hP _ ha hid hrel hreq
      obtain ⟨f, hf⟩ := Option.isSome_iff_exists.mp hupd
      have hreplies := hwf.installed (hwf.tracked _ _ hl)
      have hsilent : o ≠ .aborted := by
        rw [ho]
        nofun
      obtain ⟨tgt', -, htaken⟩ := taken_of_match hs hsilent hreplies ha hrel hf hmatch
      obtain ⟨ans, -, hans⟩ := answered_of_update hf hrel
      obtain ⟨status, hr', hne, -⟩ := (hans tgt').request
      rw [hl', Option.some.injEq] at htaken
      rw [← htaken, hr, Option.some.injEq, Prod.mk.injEq] at hr'
      exact absurd hr'.2.symm hne

/-- A calm step keeps a running call in step. -/
theorem synced_keep (hwf : s.Wf) (hin : InStep s) (hcalm : Calm env s e)
    (hs : Step env s e s' o) {t : Nat} {call : ReadCall} (hth : s.threads t = .reading call)
    (hx : e ≠ .extract t) : Synced s'.stack call := by
  obtain ⟨tgt, status, hl, hr, hst⟩ := hin.synced t call hth
  have halone := hcalm.alone t call hth
  have hentry := entry_cases hs call.deviceId
  generalize hl' : s'.stack.targets.lookup call.deviceId = entry at hentry
  cases hentry with
  | same entry heq _ =>
      rw [hl] at heq
      subst heq
      refine ⟨tgt, status, hl', hr, fun hon => ⟨(hst hon).1, fun hid => ?_⟩⟩
      subst hon
      exact reserved_of_ongoing hwf hs (hcalm.reply t call hth) hl hl' hr hid ((hst rfl).2 hid)
  | connected u b addr he hd _ =>
      subst he
      rw [Event.overwrites, hd, beq_self_eq_true] at halone
      cases halone
  | sent u args tgt' id frame he _ _ =>
      subst he
      rw [Event.overwrites, beq_self_eq_true] at halone
      cases halone
  | replied u arrival src a id f tgt' he ha hrel hf hm hl₀ =>
      obtain ⟨tgt₁, hl₁, haw⟩ := findMatchingDevice_eq_some hm
      obtain ⟨-, status₁, hr₁⟩ := TargetDevice.awaits_iff.mp haw
      rw [hl] at hl₁
      cases hl₁
      rw [hr, Option.some.injEq, Prod.mk.injEq] at hr₁
      obtain ⟨ans, -, hans⟩ := answered_of_update hf hrel
      obtain ⟨status', hr', hne, -⟩ := (hans tgt').request
      exact ⟨_, status', hl', by rw [hr', ← hr₁.1], fun hon => absurd hon hne⟩
  | taken u call' tgt' value he hth' _ hd _ =>
      have htu := hin.apart t u call call' hth hth' hd.symm
      rw [he, htu] at hx
      exact absurd rfl hx

/-- A poll that finds the slot free finds the request moved on. -/
theorem synced_free {call : ReadCall} (h : Synced s.stack call) {t : Nat} {elapsed : Bool}
    (hP : PollSafe s (.poll t elapsed) call)
    (hfree : s.stack.tsm.invokeIdFree call.requestInvokeId = true) :
    Synced s.stack { call with pc := .extracting } := by
  obtain ⟨tgt, status, hl, hr, hst⟩ := h
  refine ⟨tgt, status, hl, hr, fun hon => ?_⟩
  by_cases hid : call.requestInvokeId = 0
  · rw [hid, Tsm.invokeIdFree_zero] at hfree
    rcases hP hid with hav | hno
    · rw [hfree] at hav
      cases hav
    · rw [hl, Option.bind_some, hr, hid, hon] at hno
      exact absurd rfl hno
  · have hnot := (Tsm.invokeIdFree_of_ne_zero hid).mp hfree
    exact absurd ((hst hon).2 hid) hnot

theorem synced_step (hwf : s.Wf) (hin : InStep s) (hcalm : Calm env s e)
    (hs : Step env s e s' o) {t : Nat} {call : ReadCall} (hth' : s'.threads t = .reading call) :
    Synced s'.stack call := by
  have hcall := call_cases hs hth'
  cases hcall with
  | same call hth hab =>
      refine synced_keep hwf hin hcalm hs hth fun he => ?_
      -- An extraction does not end the process, so it is another thread's.
      subst he
      obtain ⟨-, hthreads⟩ := eq_of_aborted hs (hab rfl)
      have hidle := idle_of_extract hs
      rw [hth'] at hidle
      cases hidle
  | sent d args id frame he ho =>
      subst he ho
      exact synced_sent hwf hs
  | received arrival call rx he hth hpc ho =>
      exact (synced_keep hwf hin hcalm hs hth (by rw [he]; nofun)).of_pc rx nofun
  | again elapsed call he hth hpc ho hres =>
      exact (synced_keep hwf hin hcalm hs hth (by rw [he]; nofun)).of_pc call.rx nofun
  | free elapsed call he hth hpc ho hfree =>
      subst he
      rw [stack_eq_of_poll hs]
      exact synced_free (hin.synced t call hth) (hcalm.poll call hth) hfree

theorem apart_step (hin : InStep s) (hcalm : Calm env s e) (hs : Step env s e s' o) {t u : Nat}
    {call call' : ReadCall} (ht : s'.threads t = .reading call)
    (hu : s'.threads u = .reading call') (hd : call.deviceId = call'.deviceId) : t = u := by
  rcases call_origin hs ht with ⟨c, hc, hsame, -⟩ | ⟨frame, he, -⟩
  · rcases call_origin hs hu with ⟨c', hc', hsame', -⟩ | ⟨frame', he', -⟩
    · exact hin.apart t u c c' hc hc' (hsame.1.trans (hd.trans hsame'.1.symm))
    · have halone := hcalm.alone t c hc
      rw [he', hsame.1, hd, Event.overwrites, beq_self_eq_true] at halone
      cases halone
  · rcases call_origin hs hu with ⟨c', hc', hsame', -⟩ | ⟨frame', he', -⟩
    · have halone := hcalm.alone u c' hc'
      rw [he, hsame'.1, ← hd, Event.overwrites, beq_self_eq_true] at halone
      cases halone
    · rw [he] at he'
      exact (Event.send.inj he').1

/-- Calm steps keep the calls in step, and none of them panics. -/
theorem inStep_step (hwf : s.Wf) (hin : InStep s) (hcalm : Calm env s e)
    (hs : Step env s e s' o) : InStep s' ∧ o ≠ .panicked := by
  have hpanic : s'.stack.poisoned = false ∧ o ≠ .panicked := by
    rcases panic_cases hs with ⟨heq, ho⟩ | ⟨call, -, hth, hpc, hnone⟩
    · refine ⟨heq.trans hin.lock, fun hpan => ?_⟩
      have hp := ho hpan
      rw [hin.lock] at hp
      cases hp
    · have hsync := hin.synced _ call hth
      obtain ⟨tgt, status, hl, hrest⟩ := hsync
      exact absurd (hnone tgt hl) (Synced.report ⟨tgt, status, hl, hrest⟩ hpc hl)
  exact ⟨⟨hpanic.1, fun t call => synced_step hwf hin hcalm hs,
    fun t u call call' => apart_step hin hcalm hs⟩, hpanic.2⟩

/-! ### One thread -/

/-- The condition on the steps of a client of one thread, which is calm but for its
running call. -/
def TakesReply (env : Env) (s : Sys) (e : Event) : Prop :=
  ∀ call ∈ (s.threads e.thread).call?, ReplyTaken env s e call ∧ PollSafe s e call

instance (env : Env) (s : Sys) (e : Event) : Decidable (TakesReply env s e) :=
  inferInstanceAs (Decidable (∀ call ∈ Thread.call? _, _ ∧ _))

/-- A thread that reads writes no new request. -/
theorem not_overwrites_of_reading (hs : Step env s e s' o) {call : ReadCall}
    (hth : s.threads e.thread = .reading call) (d : DeviceId) : e.overwrites d = false := by
  have hevent := event_of_reading hs hth
  cases e with
  | connect t b => rcases hevent with ⟨_, he⟩ | ⟨_, he⟩ | he <;> cases he
  | send t d' args => rcases hevent with ⟨_, he⟩ | ⟨_, he⟩ | he <;> cases he
  | disconnect t d' => rfl
  | receive t arrival => rfl
  | poll t elapsed => rfl
  | extract t => rfl
  | whoisStart t subnet => rfl
  | whoisClose t => rfl
  | whoisDrain t => rfl

theorem calm_of_takesReply (hidle : ∀ t, 1 ≤ t → s.threads t = .idle) (h0 : e.thread = 0)
    (hP : TakesReply env s e) (hs : Step env s e s' o) : Calm env s e := by
  have honly : ∀ t call, s.threads t = .reading call → t = e.thread := by
    intro t call hth
    rw [h0]
    by_contra hne
    rw [hidle t (by omega)] at hth
    cases hth
  have hcall : ∀ call, s.threads e.thread = .reading call →
      ReplyTaken env s e call ∧ PollSafe s e call :=
    fun call hth => hP call (Thread.mem_call?.mpr hth)
  refine ⟨fun t call hth => ?_, fun t call hth => ?_, fun call hth => (hcall call hth).2⟩
  · rw [honly t call hth] at hth
    exact (hcall call hth).1
  · rw [honly t call hth] at hth
    exact not_overwrites_of_reading hs hth call.deviceId

/-- Whenever the slot of the running call is found free, its request is done or failed. -/
def Moved (s : Sys) : Prop :=
  ∀ call, s.threads 0 = .reading call → call.requestInvokeId ≠ 0 →
    s.stack.tsm.invokeIdFree call.requestInvokeId = true →
    ∃ tgt status, s.stack.targets.lookup call.deviceId = some tgt ∧
      tgt.request = some (call.requestInvokeId, status) ∧
      (status = .done ∨ ∃ err, status = .error err)

theorem InStep.moved (h : InStep s) : Moved s := by
  intro call hth hid hfree
  obtain ⟨tgt, status, hl, hr, hst⟩ := h.synced 0 call hth
  refine ⟨tgt, status, hl, hr, ?_⟩
  cases status with
  | ongoing =>
      have hmem := (hst rfl).2 hid
      exact absurd hmem ((Tsm.invokeIdFree_of_ne_zero hid).mp hfree)
  | done => exact Or.inl rfl
  | error err => exact Or.inr ⟨err, rfl⟩

/-- In a client of one thread whose replies are taken by the device they are for, no call
panics, the lock of the tracked devices is never poisoned, and a slot is freed only
together with its request. -/
theorem no_panic_of_takesReply {es : List Event} {os : List Output} (hsolo : SingleThreaded es)
    (hall : (client env).All (TakesReply env) .init es)
    (hrun : (client env).run .init es = some (s, os)) :
    Moved s ∧ .panicked ∉ os ∧ s.stack.poisoned = false := by
  have hinv : InStep s ∧ .panicked ∉ os := by
    refine Machine.run_history (motive := fun es os s => SingleThreaded es →
      InStep s ∧ Output.panicked ∉ os) (fun _ => ⟨inStep_init, List.not_mem_nil⟩) ?_ hall hrun hsolo
    intro es os s e s' o hrun ih hP hs hsolo
    have hsolo' : SingleThreaded es := fun f hf => hsolo f (List.mem_append_left _ hf)
    have h0 : e.thread = 0 := hsolo e (List.mem_append_right _ (List.mem_singleton_self e))
    obtain ⟨hin, hno⟩ := ih hsolo'
    have hwf := wf_run hrun
    have hstep := step_cases hwf.tsm hs
    have hidle : ∀ t, 1 ≤ t → s.threads t = .idle := fun t ht =>
      idle_run (fun f hf => by rw [hsolo' f hf]; exact Nat.one_pos) hrun ht
    obtain ⟨hin', ho⟩ := inStep_step hwf hin (calm_of_takesReply hidle h0 hP hstep) hstep
    refine ⟨hin', fun hmem => ?_⟩
    rcases List.mem_append.mp hmem with hmem | hmem
    · exact hno hmem
    · exact ho (List.mem_singleton.mp hmem).symm
  exact ⟨hinv.1.moved, hinv.2, hinv.1.lock⟩

/-- A read that is answered by its device. -/
def answeredRead : List Event :=
  [.connect 0 (lanDevice 7 2), .send 0 7 presentValue,
    .receive 0 (lanMessage 2 (presentValueAck 1 0 42)), .poll 0 false, .extract 0]

theorem no_panic_answeredRead :
    ∃ s os, (client lan).run .init answeredRead = some (s, os) ∧ Moved s ∧ .panicked ∉ os ∧
      s.stack.poisoned = false := by
  have hsome : ((client lan).run .init answeredRead).any (fun _ => true) = true := by
    decide +kernel
  obtain ⟨s, os, hrun, -⟩ := Machine.exists_run hsome
  exact ⟨s, os, hrun, no_panic_of_takesReply (by decide) (by decide +kernel) hrun⟩

/-- The same read, met by a simple ack of WriteProperty with its invoke id from a host that
is not the device. -/
def strayAckRead : List Event :=
  [.connect 0 (lanDevice 7 2), .send 0 7 presentValue,
    .receive 0 (lanMessage 3 [0x20, 1, 15]), .poll 0 false, .extract 0]

/-- The state of `Moved` that the stray ack brings about. -/
def notMoved (s : Sys) : Bool :=
  (s.threads 0).call?.any fun call =>
    decide (call.requestInvokeId ≠ 0 ∧ s.stack.tsm.invokeIdFree call.requestInvokeId = true ∧
      (s.stack.targets.lookup call.deviceId).bind (·.request) =
        some (call.requestInvokeId, .ongoing))

theorem not_moved_of_notMoved (h : notMoved s = true) : ¬ Moved s := by
  intro hmoved
  obtain ⟨call, hcall, hp⟩ := (Option.any_eq_true _ _).mp h
  obtain ⟨hid, hfree, hreq⟩ := of_decide_eq_true hp
  obtain ⟨tgt, status, hl, hr, hst⟩ := hmoved call (Thread.mem_call?.mp hcall) hid hfree
  rw [hl, Option.bind_some, hr] at hreq
  cases hreq
  rcases hst with hst | ⟨err, hst⟩ <;> cases hst

/-- The simple ack frees the slot of a request that is still on-going. The call extracts,
panics and poisons the lock. -/
theorem strayAckRead_panics :
    SingleThreaded strayAckRead ∧
      (∃ s os, (client lan).run .init (strayAckRead.take 3) = some (s, os) ∧ ¬ Moved s) ∧
      ∃ s os, (client lan).run .init strayAckRead = some (s, os) ∧ .panicked ∈ os ∧
        s.stack.poisoned = true := by
  have hfreed : ((client lan).run .init (strayAckRead.take 3)).any
      (fun r => notMoved r.1) = true := by decide +kernel
  have hpanic : ((client lan).run .init strayAckRead).any
      (fun r => decide (.panicked ∈ r.2 ∧ r.1.stack.poisoned = true)) = true := by decide +kernel
  obtain ⟨s, os, hrun, hp⟩ := Machine.exists_run hfreed
  obtain ⟨s', os', hrun', hp'⟩ := Machine.exists_run hpanic
  exact ⟨by decide, ⟨s, os, hrun, not_moved_of_notMoved hp⟩, s', os', hrun', of_decide_eq_true hp'⟩

end Bacnet
