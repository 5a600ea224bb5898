import Bacnet.Discovery
import Bacnet.Rebinding

/-!
# Bacnet.Announcements

What `WhoIs::execute` returns. `i_am_handler` appends a record for every I-Am that it
accepts to one list of the process, whichever thread received the message, and the end of
`execute` takes the whole list. So an `execute` returns what was accepted since the list was
last taken. With no other `execute` under way that is what was accepted during the call:
between two discoveries the socket is closed, or `connect` has replaced the handler.
-/

namespace Bacnet

open Bacnet.Lib

variable {env : Env} {s s' : Sys} {e : Event} {o : Output} {es : List Event} {os : List Output}

/-! ### The record of an I-Am -/

/-- What `i_am_handler` appends for an I-Am. `none` when it cannot decode the message, and
when it panics. -/
def iAmRecord (serviceRequest : Mem) (src : BacnetAddress) : Option IAmDevice :=
  (iamDecodeServiceRequest serviceRequest).bind fun i =>
    (copyFromSlice src.mac src.macLen).bind fun macAddr =>
      (if src.net > 0 then copyFromSlice src.adr src.len
        else some (Vector.replicate 6 0)).map fun addr =>
          ⟨i.deviceId, i.maxApdu, i.vendorId, macAddr, src.net, addr⟩

/-- The record that the dispatch of an APDU appends. -/
def Apdu.record (s : Stack) (src : BacnetAddress) : Apdu → Option IAmDevice
  | iAm serviceRequest =>
    if s.dcc = .enable ∧ s.handlers.iAm = some .iAmHandler then iAmRecord serviceRequest src
    else none
  | _ => none

/-- The record of the I-Am that a step passes on to `i_am_handler`, if it accepts it. -/
def recorded (env : Env) (s : Sys) (e : Event) : Option IAmDevice :=
  (arriving env s e).bind fun p => p.2.record s.stack p.1

/-- The records of a part of a run, in order. -/
def heard (env : Env) (s : Sys) (es : List Event) : List IAmDevice :=
  (client env).collect (recorded env) s es

/-! ### One step -/

theorem iAmHandler_cases (stack : Stack) (request : Mem) (src : BacnetAddress) :
    (iAmHandler stack request src = none ∧ iAmRecord request src = none) ∨
      iAmHandler stack request src =
        some { stack with discovered := stack.discovered ++ (iAmRecord request src).toList } := by
  unfold iAmHandler iAmRecord
  cases iamDecodeServiceRequest request with
  | none => exact Or.inr (by simp)
  | some i =>
      cases copyFromSlice src.mac src.macLen with
      | none => exact Or.inl ⟨rfl, rfl⟩
      | some macAddr =>
          simp only [Option.bind_some]
          cases if src.net > 0 then copyFromSlice src.adr src.len
            else some (Vector.replicate 6 0) with
          | none => exact Or.inl ⟨rfl, rfl⟩
          | some addr => exact Or.inr rfl

theorem discovered_withMatchingDevice (order : List DeviceId) (stack : Stack)
    (src : BacnetAddress) (invokeId : UInt8) (f : TargetDevice → TargetDevice) (p : Prop)
    [Decidable p] :
    ((((if p then withMatchingDevice order stack src invokeId f else some stack).map
      (·.freeInvokeId invokeId)).getD stack)).discovered = stack.discovered := by
  cases h : (if p then withMatchingDevice order stack src invokeId f else some stack) with
  | none => rfl
  | some stack' =>
      simp only [Option.map_some, Option.getD_some, Stack.freeInvokeId]
      split at h
      · obtain ⟨-, ⟨-, rfl⟩ | ⟨d, t, -, -, rfl⟩⟩ := withMatchingDevice_cases h
        · rfl
        · rfl
      · rw [← Option.some.inj h]

/-- A dispatch appends the record of its APDU. One that ends the process appends none. -/
theorem discovered_apduHandler (order : List DeviceId) (stack : Stack) (src : BacnetAddress)
    (apdu : Mem) (n : Nat) :
    ((apduHandler order stack src apdu n).getD stack).discovered =
      stack.discovered ++ ((decodeApdu apdu n).record stack src).toList := by
  unfold apduHandler
  cases ha : decodeApdu apdu n with
  | ignored => simp [Apdu.record]
  | simpleAck id => simp [Apdu.record, Stack.freeInvokeId]
  | segmentAck => simp [Apdu.record, Stack.freeInvokeId]
  | complexAck id service request len =>
      simp only [Apdu.record, Option.toList_none, List.append_nil]
      exact discovered_withMatchingDevice order stack src id _ _
  | error id service cls code =>
      simp only [Apdu.record, Option.toList_none, List.append_nil]
      exact discovered_withMatchingDevice order stack src id _ _
  | reject id reason =>
      simp only [Apdu.record, Option.toList_none, List.append_nil]
      exact discovered_withMatchingDevice order stack src id _ _
  | abort id reason =>
      simp only [Apdu.record, Option.toList_none, List.append_nil]
      exact discovered_withMatchingDevice order stack src id _ _
  | iAm request =>
      simp only [Apdu.record]
      by_cases hdcc : stack.dcc = .enable
      · cases hi : stack.handlers.iAm with
        | none => simp [hdcc]
        | some f =>
            cases f with
            | handlerIAmBind =>
                simp only [hdcc, ne_eq, not_true_eq_false, if_false, handlerIAmBind]
                split <;> simp
            | iAmHandler =>
                simp only [hdcc, ne_eq, not_true_eq_false, if_false, and_self, if_true]
                rcases iAmHandler_cases stack request src with ⟨hnone, hrec⟩ | hsome
                · rw [hnone, hrec]
                  simp
                · rw [hsome]
                  rfl
      · simp [hdcc]

theorem discovered_receiveStep (env : Env) (stack : Stack) (rx : RxState) (arrival : Arrival) :
    (((receiveStep env stack rx arrival).map Prod.fst).getD stack).discovered =
      stack.discovered ++ ((delivered env stack.socketOpen rx arrival).bind
        fun p => p.2.record stack p.1).toList := by
  unfold receiveStep npduHandler delivered
  cases bipReceive env.bip stack.socketOpen arrival.datagram (rx.inMemory arrival.beyond) with
  | mk pduLen rx₁ =>
  simp only
  split
  · cases npduRoute rx₁.src rx₁.rxBuf pduLen with
    | mk src r =>
    cases r with
    | none => simp
    | some p =>
        obtain ⟨apdu, n⟩ := p
        have h := discovered_apduHandler arrival.order stack src apdu n
        dsimp only
        cases hr : apduHandler arrival.order stack src apdu n with
        | none =>
            rw [hr] at h
            exact h
        | some stack' =>
            rw [hr] at h
            exact h
  · simp

/-- A step that takes the list. -/
def Event.drains : Event → Bool
  | whoisDrain _ => true
  | _ => false

/-- A receive, taken apart. -/
theorem receive_inv {t : Nat} {arrival : Arrival}
    (h : (client env).step s (.receive t arrival) = some (s', o)) :
    ∃ rx next, Receives (s.threads t) rx next ∧
      (s', o) = afterReceive s t (receiveStep env s.stack rx arrival) next := by
  simp only [client, step, Event.thread] at h
  split at h
  · cases h
  · cases hth : s.threads t with
    | idle => simp [hth] at h
    | draining => simp [hth] at h
    | discovering rx =>
        simp only [hth] at h
        exact ⟨rx, _, .discovering rx, (Option.some.inj h).symm⟩
    | reading call =>
        simp only [hth] at h
        split at h
        · rename_i hpc
          exact ⟨call.rx, _, .reading call hpc, (Option.some.inj h).symm⟩
        · cases h

/-- The shared state after a receive. It stays as it was when the process ends. -/
theorem stack_of_receive {t : Nat} {arrival : Arrival}
    (h : (client env).step s (.receive t arrival) = some (s', o)) :
    ∃ rx next, Receives (s.threads t) rx next ∧
      s'.stack = ((receiveStep env s.stack rx arrival).map Prod.fst).getD s.stack := by
  obtain ⟨rx, next, hth, heq⟩ := receive_inv h
  refine ⟨rx, next, hth, ?_⟩
  rw [show s' = _ from congrArg Prod.fst heq]
  cases receiveStep env s.stack rx arrival <;> rfl

theorem SendEffect.discovered_eq {stack stack' : Stack} {d : DeviceId} {args : ReadArgs}
    {id : UInt8} {frame : Option (BacnetIpAddress × List UInt8)}
    (h : SendEffect env stack d args stack' id frame) : stack'.discovered = stack.discovered := by
  cases h <;> rfl

theorem ConnectEffect.discovered_eq {stack stack' : Stack} {b : BACnetDeviceBuilder}
    (h : ConnectEffect env stack b stack' o) : stack'.discovered = stack.discovered := by
  have hinit : (stackInit env stack).discovered = stack.discovered := by
    rw [stackInit]
    split <;> rfl
  cases h <;> exact hinit

theorem drains_iff : e.drains = true ↔ ∃ t, e = .whoisDrain t := by
  cases e <;> simp [Event.drains]

/-- A step that does not take the list appends the record of its I-Am. -/
theorem discovered_step (ht : s.stack.tsm.Ok) (hd : e.drains = false)
    (h : (client env).step s e = some (s', o)) :
    s'.stack.discovered = s.stack.discovered ++ (recorded env s e).toList := by
  by_cases hrec : ∃ t arrival, e = .receive t arrival
  · obtain ⟨t, arrival, rfl⟩ := hrec
    obtain ⟨rx, next, hth, hstack⟩ := stack_of_receive h
    rw [hstack, discovered_receiveStep, recorded, arriving_receive env arrival hth]
  · have hquiet : recorded env s e = none := by
      rw [recorded, Option.bind_eq_none_iff]
      intro p hp
      exact absurd (event_of_arriving hp) hrec
    rw [hquiet, Option.toList_none, List.append_nil]
    have hstack := stack_cases (step_cases ht h)
    generalize s'.stack = stack' at hstack
    cases hstack with
    | same _ _ _ => rfl
    | connect t b stack _ hc => exact hc.discovered_eq
    | disconnect t d _ _ => rfl
    | send t d args tgt stack id frame _ _ _ hs => exact hs.discovered_eq
    | apdu t arrival src a stack he _ _ _ => exact absurd ⟨t, arrival, he⟩ hrec
    | extract t call stack _ _ _ hx => cases hx <;> rfl
    | whoisStart t subnet _ _ => rfl
    | whoisClose t _ _ => rfl
    | whoisDrain t he _ =>
        rw [he] at hd
        cases hd

/-- One that takes it returns it. -/
theorem drain_step {t : Nat} (ht : s.stack.tsm.Ok)
    (h : (client env).step s (.whoisDrain t) = some (s', o)) :
    s.threads t = .draining ∧ o = .discovered s.stack.discovered ∧ s'.stack.discovered = [] := by
  cases step_cases ht h with
  | whoisDrain _ hth => exact ⟨hth, rfl, rfl⟩

/-! ### What an `execute` returns -/

/-- While nobody takes the list, it grows by what is heard. -/
theorem discovered_run (hwf : s.Wf) (hno : ∀ e ∈ es, e.drains = false)
    (hrun : (client env).run s es = some (s', os)) :
    s'.stack.discovered = s.stack.discovered ++ heard env s es := by
  induction es generalizing s os with
  | nil =>
      rw [Machine.run_nil, Option.some.injEq, Prod.mk.injEq] at hrun
      rw [← hrun.1]
      exact (List.append_nil _).symm
  | cons e es ih =>
      obtain ⟨r, hr, os', hos, -⟩ := (Machine.run_cons _).mp hrun
      have hstep := discovered_step hwf.tsm (hno e List.mem_cons_self) hr
      have hrest := ih (wf_step hwf hr) (fun f hf => hno f (List.mem_cons_of_mem e hf)) hos
      rw [hrest, hstep, heard, heard, Machine.collect_cons _ hr, List.append_assoc]

/-- A call of `execute` by the thread `t`: the run up to its start, the steps while it is
under way, and what it returns. -/
structure Execution (env : Env) (t : Nat) (es₁ es₂ : List Event) (s₁ s₂ s₃ : Sys)
    (devices : List IAmDevice) : Prop where
  reach : ∃ os, (client env).run .init es₁ = some (s₁, os)
  start : ∃ subnet o, (client env).step s₁ (.whoisStart t subnet) = some (s₂, o)
  during : ∃ os, (client env).run s₂ es₂ = some (s₃, os)
  own : .whoisDrain t ∉ es₂
  result : ∃ s₄, (client env).step s₃ (.whoisDrain t) = some (s₄, .discovered devices)

/-- No other `execute` takes anything that is heard during the call, and if none takes the
list at all, it is empty when the call starts. -/
def Undrained (env : Env) (s₁ s₂ : Sys) (es : List Event) : Prop :=
  (∀ a u b, es = a ++ .whoisDrain u :: b → (∀ e ∈ b, e.drains = false) → heard env s₂ a = []) ∧
    ((∀ e ∈ es, e.drains = false) → s₁.stack.discovered = [])

/-- No other `execute` is under way when the call starts, and none starts during it. -/
def Alone (s : Sys) (es : List Event) : Prop :=
  (∀ u, (s.threads u).stage = .outside) ∧ ∀ u subnet, .whoisStart u subnet ∉ es

section

variable {t : Nat} {es₁ es₂ : List Event} {s₁ s₂ s₃ : Sys} {devices : List IAmDevice}

theorem Execution.wf_start (h : Execution env t es₁ es₂ s₁ s₂ s₃ devices) : s₁.Wf ∧ s₂.Wf := by
  obtain ⟨os, hreach⟩ := h.reach
  obtain ⟨subnet, o, hstart⟩ := h.start
  have hwf := wf_run hreach
  exact ⟨hwf, wf_step hwf hstart⟩

theorem Execution.discovered_start (h : Execution env t es₁ es₂ s₁ s₂ s₃ devices) :
    s₂.stack.discovered = s₁.stack.discovered := by
  obtain ⟨subnet, o, hstart⟩ := h.start
  cases step_cases h.wf_start.1.tsm hstart with
  | whoisStart _ _ hth => rfl

theorem Execution.devices_eq (h : Execution env t es₁ es₂ s₁ s₂ s₃ devices) :
    devices = s₃.stack.discovered := by
  obtain ⟨os, hduring⟩ := h.during
  obtain ⟨s₄, hresult⟩ := h.result
  have hwf := wf_of_run h.wf_start.2 hduring
  obtain ⟨-, ho, -⟩ := drain_step hwf.tsm hresult
  exact Output.discovered.inj ho

/-- Without another drain the call returns what was there and what is heard. -/
theorem Execution.devices_of_no_drain (h : Execution env t es₁ es₂ s₁ s₂ s₃ devices)
    (hno : ∀ e ∈ es₂, e.drains = false) :
    devices = s₁.stack.discovered ++ heard env s₂ es₂ := by
  obtain ⟨os, hduring⟩ := h.during
  rw [h.devices_eq, discovered_run h.wf_start.2 hno hduring, h.discovered_start]

/-- After another drain it returns what is heard from then on. -/
theorem Execution.devices_of_drain (h : Execution env t es₁ es₂ s₁ s₂ s₃ devices)
    {a b : List Event} {u : Nat} (hsplit : es₂ = a ++ .whoisDrain u :: b)
    (hno : ∀ e ∈ b, e.drains = false) : heard env s₂ es₂ = heard env s₂ a ++ devices := by
  obtain ⟨os, hduring⟩ := h.during
  rw [hsplit] at hduring
  obtain ⟨m, hm, os', hrest, -⟩ := (Machine.run_append _).mp hduring
  obtain ⟨r, hr, os'', hb, -⟩ := (Machine.run_cons _).mp hrest
  have hwf := wf_of_run h.wf_start.2 hm
  obtain ⟨hth, -, hempty⟩ := drain_step hwf.tsm hr
  have hquiet : recorded env m.1 (.whoisDrain u) = none := rfl
  rw [h.devices_eq, discovered_run (wf_step hwf hr) hno hb, hempty, hsplit, heard,
    Machine.collect_append _ hm, Machine.collect_cons _ hr, hquiet]
  rfl

theorem exists_last_drain {es : List Event} (h : ¬ ∀ e ∈ es, e.drains = false) :
    ∃ a u b, es = a ++ .whoisDrain u :: b ∧ ∀ e ∈ b, e.drains = false := by
  induction es with
  | nil => exact absurd (fun e he => absurd he List.not_mem_nil) h
  | cons e es ih =>
      by_cases hes : ∀ f ∈ es, f.drains = false
      · have he : e.drains = true := by
          rw [← Bool.not_eq_false]
          exact fun hf => h (List.forall_mem_cons.mpr ⟨hf, hes⟩)
        obtain ⟨u, rfl⟩ := drains_iff.mp he
        exact ⟨[], u, es, rfl, hes⟩
      · obtain ⟨a, u, b, rfl, hb⟩ := ih hes
        exact ⟨e :: a, u, b, rfl, hb⟩

/-- A call returns what is heard during it exactly if it is undrained. -/
theorem Execution.devices_eq_heard_iff (h : Execution env t es₁ es₂ s₁ s₂ s₃ devices) :
    devices = heard env s₂ es₂ ↔ Undrained env s₁ s₂ es₂ := by
  constructor
  · intro heq
    refine ⟨fun a u b hsplit hno => ?_, fun hno => ?_⟩
    · have hall := h.devices_of_drain hsplit hno
      rw [← heq] at hall
      exact List.append_left_eq_self.mp hall.symm
    · have hall := h.devices_of_no_drain hno
      rw [heq] at hall
      exact List.append_left_eq_self.mp hall.symm
  · intro ⟨hdrained, hempty⟩
    by_cases hno : ∀ e ∈ es₂, e.drains = false
    · rw [h.devices_of_no_drain hno, hempty hno, List.nil_append]
    · obtain ⟨a, u, b, hsplit, hb⟩ := exists_last_drain hno
      rw [h.devices_of_drain hsplit hb, hdrained a u b hsplit hb, List.nil_append]

end

/-! ### One `execute` at a time -/

/-- While no thread receives for a discovery, no I-Am reaches `i_am_handler`; while no
thread is in a discovery at all, the list is empty. -/
structure Quiet (s : Sys) : Prop where
  deaf : (∀ u, (s.threads u).stage ≠ .receiving) → s.stack.socketOpen = true →
    s.stack.handlers.iAm ≠ some .iAmHandler
  empty : (∀ u, (s.threads u).stage = .outside) → s.stack.discovered = []

theorem quiet_init : Quiet .init where
  deaf _ h := by cases h
  empty _ := rfl

/-- Nothing is recorded while the socket is closed or the handler is another one. -/
theorem recorded_of_deaf (h : s.stack.socketOpen = true → s.stack.handlers.iAm ≠ some .iAmHandler) :
    recorded env s e = none := by
  rw [recorded, Option.bind_eq_none_iff]
  intro p hp
  obtain ⟨t, arrival, rfl⟩ := event_of_arriving hp
  have hopen : s.stack.socketOpen = true := by
    by_contra hclosed
    rw [Bool.not_eq_true] at hclosed
    have hnone : ∀ rx arrival, delivered env false rx arrival = none := fun _ _ => rfl
    unfold arriving at hp
    split at hp
    · rw [hclosed, hnone] at hp
      cases hp
    · rw [hclosed, hnone] at hp
      cases hp
    · cases hp
  obtain ⟨src, a⟩ := p
  cases a with
  | iAm request => exact if_neg fun hand => h hopen hand.2
  | ignored => rfl
  | simpleAck id => rfl
  | segmentAck => rfl
  | complexAck id service request len => rfl
  | error id service cls code => rfl
  | reject id reason => rfl
  | abort id reason => rfl

theorem quiet_step (hwf : s.Wf) (h : Quiet s) (hs : (client env).step s e = some (s', o)) :
    Quiet s' := by
  have hstep := step_cases hwf.tsm hs
  cases hset : e.setsUp with
  | false =>
      obtain ⟨hopen, hhandlers, -, hstage⟩ := shared_of_step hset hstep
      refine ⟨fun hno ho => ?_, fun hout => ?_⟩
      · rw [hopen] at ho
        rw [hhandlers]
        exact h.deaf (fun u => hstage u ▸ hno u) ho
      · have hout' : ∀ u, (s.threads u).stage = .outside := fun u => (hstage u).symm.trans (hout u)
        have hd : e.drains = false := by
          cases e <;> first | rfl | cases hset
        have hno : ∀ u, (s.threads u).stage ≠ .receiving := by
          intro u hu
          cases (hout' u).symm.trans hu
        rw [discovered_step hwf.tsm hd hs, h.empty hout', recorded_of_deaf (h.deaf hno)]
        rfl
  | true =>
      cases hstep with
      | connect t b stack o hth hc =>
          obtain ⟨hopen, hhandlers⟩ := hc.shared
          refine ⟨fun hno ho => ?_, fun hout => ?_⟩
          · rw [hopen] at ho
            rw [hhandlers]
            rw [stackInit] at ho ⊢
            split
            · rename_i hdone
              rw [if_pos hdone] at ho
              exact h.deaf hno ho
            · intro hi
              cases hi
          · rw [show ({ s with stack } : Sys).stack.discovered = _ from hc.discovered_eq]
            exact h.empty hout
      | whoisStart t subnet hth =>
          refine ⟨fun hno _ => absurd ?_ (hno t), fun hout => ?_⟩
          · rw [Sys.threads_setThread_self]
            rfl
          · have hstage := hout t
            rw [Sys.threads_setThread_self] at hstage
            cases hstage
      | whoisClose t rx hth =>
          refine ⟨fun _ ho => (by cases ho), fun hout => ?_⟩
          have hstage := hout t
          rw [Sys.threads_setThread_self] at hstage
          cases hstage
      | whoisDrain t hth =>
          refine ⟨fun hno ho => h.deaf (fun u hu => ?_) ho, fun _ => rfl⟩
          by_cases hut : u = t
          · rw [hut, hth] at hu
            cases hu
          · refine hno u ?_
            rw [Sys.threads_setThread, if_neg hut]
            exact hu
      | disconnect t d hth => cases hset
      | sendPoisoned t d args hth hp => cases hset
      | sendUnknown t d args hth hp hl => cases hset
      | send t d args tgt stack id frame hth hp hl hs => cases hset
      | receive t arrival rx' stack hth hr => cases hset
      | abort t arrival hth ha => cases hset
      | pollAgain t elapsed call hth hpc hres he => cases hset
      | pollFree t elapsed call hth hpc hfree => cases hset
      | pollFailed t elapsed call hth hpc hid hav => cases hset
      | pollElapsed t call hth hpc hres => cases hset
      | extract t call stack o hth hpc hx => cases hset

theorem quiet_run (hrun : (client env).run .init es = some (s, os)) : Quiet s :=
  Machine.run_history (motive := fun _ _ s => Quiet s) (P := fun _ _ => True) quiet_init
    (fun _ _ _ _ _ _ hrun h _ hs => quiet_step (wf_run hrun) h hs) (all_true es) hrun

/-- A thread comes into a discovery only by starting one. -/
theorem outside_step (hwf : s.Wf) {u : Nat} (h : (s.threads u).stage = .outside)
    (hno : ∀ subnet, e ≠ .whoisStart u subnet) (hs : (client env).step s e = some (s', o)) :
    (s'.threads u).stage = .outside := by
  have hstep := step_cases hwf.tsm hs
  cases hset : e.setsUp with
  | false =>
      obtain ⟨-, -, -, hstage⟩ := shared_of_step hset hstep
      rw [hstage, h]
  | true =>
      by_cases hu : u = e.thread
      · subst hu
        cases hstep with
        | connect t b stack o hth hc => exact h
        | whoisStart t subnet hth => exact absurd rfl (hno subnet)
        | whoisClose t rx hth =>
            rw [show (Event.whoisClose t).thread = t from rfl, hth] at h
            cases h
        | whoisDrain t hth =>
            rw [show (Event.whoisDrain t).thread = t from rfl, hth] at h
            cases h
        | disconnect t d hth => cases hset
        | sendPoisoned t d args hth hp => cases hset
        | sendUnknown t d args hth hp hl => cases hset
        | send t d args tgt stack id frame hth hp hl hs => cases hset
        | receive t arrival rx' stack hth hr => cases hset
        | abort t arrival hth ha => cases hset
        | pollAgain t elapsed call hth hpc hres he => cases hset
        | pollFree t elapsed call hth hpc hfree => cases hset
        | pollFailed t elapsed call hth hpc hid hav => cases hset
        | pollElapsed t call hth hpc hres => cases hset
        | extract t call stack o hth hpc hx => cases hset
      · rw [threads_of_ne hstep hu, h]

/-- A thread outside that starts no discovery does not take the list. -/
theorem no_drain_of_outside (hwf : s.Wf) {u : Nat} (h : (s.threads u).stage = .outside)
    (hno : ∀ subnet, .whoisStart u subnet ∉ es)
    (hrun : (client env).run s es = some (s', os)) : .whoisDrain u ∉ es := by
  induction es generalizing s os with
  | nil => exact List.not_mem_nil
  | cons e es ih =>
      obtain ⟨r, hr, os', hos, -⟩ := (Machine.run_cons _).mp hrun
      have hne : ∀ subnet, e ≠ .whoisStart u subnet := by
        intro subnet he
        exact hno subnet (by rw [he]; exact List.mem_cons_self)
      have hrest := ih (wf_step hwf hr) (outside_step hwf h hne hr)
        (fun subnet hmem => hno subnet (List.mem_cons_of_mem e hmem)) hos
      intro hmem
      rcases List.mem_cons.mp hmem with rfl | hmem
      · rw [(drain_step hwf.tsm hr).1] at h
        cases h
      · exact hrest hmem

theorem Execution.undrained_of_alone {t : Nat} {es₁ es₂ : List Event} {s₁ s₂ s₃ : Sys}
    {devices : List IAmDevice} (h : Execution env t es₁ es₂ s₁ s₂ s₃ devices)
    (halone : Alone s₁ es₂) : Undrained env s₁ s₂ es₂ := by
  obtain ⟨os, hreach⟩ := h.reach
  obtain ⟨subnet, o, hstart⟩ := h.start
  obtain ⟨os₂, hduring⟩ := h.during
  have hnodrain : ∀ u, .whoisDrain u ∉ es₂ := by
    intro u
    by_cases hu : u = t
    · rw [hu]
      exact h.own
    · refine no_drain_of_outside h.wf_start.2 ?_ (halone.2 u) hduring
      rw [threads_of_ne (step_cases h.wf_start.1.tsm hstart) hu]
      exact halone.1 u
  refine ⟨fun a u b hsplit _ => absurd ?_ (hnodrain u), fun _ => (quiet_run hreach).empty halone.1⟩
  rw [hsplit]
  exact List.mem_append_right a List.mem_cons_self

/-- Whatever the threads do: an `execute` returns exactly the records of the I-Ams that were
accepted during the call, each once and in order, if and only if no other `execute` drains
it. One that no other overlaps is undrained. -/
theorem execute_returns_heard {t : Nat} {es₁ es₂ : List Event} {s₁ s₂ s₃ : Sys}
    {devices : List IAmDevice} (h : Execution env t es₁ es₂ s₁ s₂ s₃ devices) :
    (devices = heard env s₂ es₂ ↔ Undrained env s₁ s₂ es₂) ∧
      (Alone s₁ es₂ → devices = heard env s₂ es₂) :=
  ⟨h.devices_eq_heard_iff, fun halone =>
    h.devices_eq_heard_iff.mpr (h.undrained_of_alone halone)⟩

/-! ### Two runs -/

/-- The records of an output that returns some. -/
def Output.devices? : Output → Option (List IAmDevice)
  | discovered devices => some devices
  | _ => none

theorem exists_execution (env : Env) (t : Nat) (subnet : Option UInt16) (es₁ es₂ : List Event)
    (hown : .whoisDrain t ∉ es₂) (p : Sys → Sys → List IAmDevice → Bool)
    (h : ((client env).run .init es₁).any (fun r₁ =>
      ((client env).step r₁.1 (.whoisStart t subnet)).any fun r₂ =>
        ((client env).run r₂.1 es₂).any fun r₃ =>
          ((client env).step r₃.1 (.whoisDrain t)).any fun r₄ =>
            r₄.2.devices?.any (p r₁.1 r₂.1)) = true) :
    ∃ s₁ s₂ s₃ devices, Execution env t es₁ es₂ s₁ s₂ s₃ devices ∧ p s₁ s₂ devices = true := by
  obtain ⟨s₁, os₁, hrun₁, h⟩ := Machine.exists_run h
  obtain ⟨⟨s₂, o⟩, hstart, h⟩ := (Option.any_eq_true _ _).mp h
  obtain ⟨s₃, os₃, hrun₃, h⟩ := Machine.exists_run h
  obtain ⟨⟨s₄, o'⟩, hdrain, h⟩ := (Option.any_eq_true _ _).mp h
  obtain ⟨devices, ho, hp⟩ := (Option.any_eq_true _ _).mp h
  refine ⟨s₁, s₂, s₃, devices, ⟨⟨os₁, hrun₁⟩, ⟨subnet, o, hstart⟩, ⟨os₃, hrun₃⟩, hown, s₄, ?_⟩, hp⟩
  rw [hdrain]
  cases o' with
  | discovered devices' =>
      cases ho
      rfl
  | _ => cases ho

/-- A discovery during which another thread connects and reads a device, and receives one of
the two I-Ams. -/
def sharedDiscovery : List Event :=
  [.receive 0 (lanMessage 3 (lanIAm 8)), .connect 1 (lanDevice 7 2), .send 1 7 presentValue,
    .receive 1 (lanMessage 4 (lanIAm 9)), .poll 1 false,
    .receive 1 (lanMessage 2 (presentValueAck 1 0 42)), .poll 1 false, .extract 1,
    .receive 0 silence, .whoisClose 0]

theorem sharedDiscovery_returns_heard :
    ∃ s₁ s₂ s₃ devices,
      Execution lan 0 [.connect 1 (lanDevice 7 2)] sharedDiscovery s₁ s₂ s₃ devices ∧
      Alone s₁ sharedDiscovery ∧ devices.map IAmDevice.deviceId = [8, 9] ∧
      (devices = heard lan s₂ sharedDiscovery ↔ Undrained lan s₁ s₂ sharedDiscovery) ∧
      devices = heard lan s₂ sharedDiscovery := by
  obtain ⟨s₁, s₂, s₃, devices, hexec, hp⟩ := exists_execution lan 0 none
    [.connect 1 (lanDevice 7 2)] sharedDiscovery (by simp [sharedDiscovery])
    (fun _ _ devices => decide (devices.map IAmDevice.deviceId = [8, 9])) (by decide +kernel)
  have halone : Alone s₁ sharedDiscovery := by
    refine ⟨fun u => ?_, by simp [sharedDiscovery]⟩
    obtain ⟨os, hreach⟩ := hexec.reach
    obtain ⟨⟨s, o⟩, hr, os', hnil, -⟩ := (Machine.run_cons _).mp hreach
    rw [Machine.run_nil, Option.some.injEq, Prod.mk.injEq] at hnil
    obtain rfl : s = s₁ := hnil.1
    cases step_cases Sys.wf_init.tsm hr with
    | connect t b stack o hth hc => rfl
  exact ⟨s₁, s₂, s₃, devices, hexec, halone, of_decide_eq_true hp,
    (execute_returns_heard hexec).1, (execute_returns_heard hexec).2 halone⟩

/-- A discovery during which another one ends. -/
def overlappedDiscovery : List Event :=
  [.receive 1 (lanMessage 3 (lanIAm 8)), .whoisClose 0, .whoisDrain 0, .whoisClose 1]

/-- The one that ends first takes what the other has heard. -/
theorem overlappedDiscovery_returns_nothing :
    ∃ s₁ s₂ s₃, Execution lan 1 [.whoisStart 0 none] overlappedDiscovery s₁ s₂ s₃ [] ∧
      (heard lan s₂ overlappedDiscovery).map IAmDevice.deviceId = [8] := by
  obtain ⟨s₁, s₂, s₃, devices, hexec, hp⟩ := exists_execution lan 1 none
    [.whoisStart 0 none] overlappedDiscovery (by simp [overlappedDiscovery])
    (fun _ s₂ devices => decide (devices = [] ∧
      (heard lan s₂ overlappedDiscovery).map IAmDevice.deviceId = [8])) (by decide +kernel)
  obtain ⟨rfl, hheard⟩ := of_decide_eq_true hp
  exact ⟨s₁, s₂, s₃, hexec, hheard⟩

end Bacnet
