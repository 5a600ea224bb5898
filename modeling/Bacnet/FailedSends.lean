import Bacnet.Progress
import Bacnet.Request

/-!
# Bacnet.FailedSends

A read for which `Send_Read_Property_Request` returns 0. `read_prop_at` does not look at the
id: it enters the request `(0, OnGoing)` for the device, receives once, and asks the
transaction table for the slot of the id 0, which is the mark of a free slot. With a free
slot, the call takes that slot's state for its own and gives up. Without one it goes on to
extract, which panics unless the one message received was a reply with the id 0 that the
device took.
-/

namespace Bacnet

open Bacnet.Lib

variable {env : Env} {s : Sys} {t : Nat} {d : DeviceId} {args : ReadArgs} {tgt : TargetDevice}

/-! ### The call without an id -/

/-- The steps of the call up to its poll. -/
def unsentSteps (t : Nat) (d : DeviceId) (args : ReadArgs) (arrival : Arrival) (elapsed : Bool) :
    List Event :=
  [.send t d args, .receive t arrival, .poll t elapsed]

/-- The entry of the device during the call. -/
def TargetDevice.unsent (tgt : TargetDevice) : TargetDevice :=
  { tgt with request := some (0, .ongoing) }

/-- The state after the first step of the call. -/
def afterUnsent (s : Sys) (t : Nat) (d : DeviceId) (args : ReadArgs) (tgt : TargetDevice)
    (tsm : Tsm) : Sys :=
  { s.setThread t (.reading ⟨d, args, 0, .fresh, .receiving⟩) with
    stack := { s.stack with tsm }.setTarget d tgt.unsent }

theorem sendReadPropertyRequest_eq_zero_iff {stack : Stack} (ht : stack.tsm.Ok) :
    (sendReadPropertyRequest env stack d args).2.1 = 0 ↔ ¬ SendReady stack d args := by
  have heff := sendReadPropertyRequest_cases env ht d args
  generalize (sendReadPropertyRequest env stack d args).1 = stack',
    (sendReadPropertyRequest env stack d args).2.1 = id,
    (sendReadPropertyRequest env stack d args).2.2 = frame at heff
  cases heff with
  | failed tsm hn _ _ => exact iff_of_true rfl hn
  | sent m dest i hready _ _ =>
    exact iff_of_false (Tsm.nextUnused_ne_zero ht hready.2.1) (not_not_intro hready)

/-- At most the id counter has moved. -/
theorem step_unsent (hwf : s.Wf) (hrun : s.aborted = false) (hidle : s.threads t = .idle)
    (hp : s.stack.poisoned = false) (hl : s.stack.targets.lookup d = some tgt)
    (hzero : (sendReadPropertyRequest env s.stack d args).2.1 = 0) :
    ∃ tsm : Tsm, tsm.list = s.stack.tsm.list ∧ tsm.Ok ∧
      (client env).step s (.send t d args) =
        some (afterUnsent s t d args tgt tsm, .sent 0 none) := by
  have heff := sendReadPropertyRequest_cases env hwf.tsm d args
  cases hsend : sendReadPropertyRequest env s.stack d args with
  | mk stack rest =>
    obtain ⟨id, frame⟩ := rest
    rw [hsend] at heff hzero
    dsimp only at heff hzero
    cases heff with
    | sent m dest i hready _ _ => exact absurd hzero (Tsm.nextUnused_ne_zero hwf.tsm hready.2.1)
    | failed tsm _ hlist hok =>
      refine ⟨tsm, hlist, hok, ?_⟩
      simp only [client, step, hrun, Bool.false_eq_true, if_false,
        show (Event.send t d args).thread = t from rfl, hidle, sendStep, afterUnsent, hp, hl, hsend]
      rfl

/-- The poll of such a call decides it: a free slot is found, and has failed, or none is. -/
theorem step_poll_zero (env : Env) (ht : s.stack.tsm.Ok) (hrun : s.aborted = false)
    {call : ReadCall} (hth : s.threads t = .reading call) (hpc : call.pc = .polling)
    (hid : call.requestInvokeId = 0) (elapsed : Bool) :
    (client env).step s (.poll t elapsed) =
      if s.stack.tsm.transactionAvailable then
        some (s.setThread t .idle, .returned (.error .tsmTimeout))
      else some (s.setThread t (.reading { call with pc := .extracting }), .silent) := by
  simp only [client, step, hrun, Bool.false_eq_true, if_false,
    show (Event.poll t elapsed).thread = t from rfl, hth, hpc, if_true, pollStep, hid]
  cases hav : s.stack.tsm.transactionAvailable with
  | true =>
    have hfree : ¬ s.stack.tsm.invokeIdFree 0 = true := by
      rw [Tsm.invokeIdFree_zero, hav]
      decide
    rw [if_neg hfree, if_pos ((Tsm.invokeIdFailed_iff ht).mpr ⟨rfl, hav⟩)]
    rfl
  | false =>
    rw [if_pos (Tsm.invokeIdFree_zero.mpr hav)]
    rfl

/-! ### What the call should do -/

/-- The message brings a value. -/
def Apdu.isAck : Apdu → Bool
  | complexAck _ _ _ _ => true
  | _ => false

/-- The entry that a reply and the extraction after it leave. -/
theorem extracted_update {a : Apdu} {f : TargetDevice → TargetDevice} (hf : a.update = some f)
    (tgt : TargetDevice) :
    (f tgt).extracted =
      { tgt with request := none, value := if a.isAck then none else tgt.value } := by
  cases a with
  | ignored => cases hf
  | iAm request => cases hf
  | simpleAck id => cases hf
  | segmentAck => cases hf
  | complexAck id service request len =>
    simp only [Apdu.update] at hf
    split at hf
    · cases hf
      rfl
    · cases hf
  | error id service cls code =>
    simp only [Apdu.update] at hf
    split at hf
    · cases hf
      rfl
    · cases hf
  | reject id reason =>
    cases hf
    rfl
  | abort id reason =>
    cases hf
    rfl

/-- The call returns an error, with no slot looked up for its own, and the entry of the
device is then what it was before. -/
structure FailsCleanly (env : Env) (s : Sys) (t : Nat) (d : DeviceId) (args : ReadArgs)
    (arrival : Arrival) (elapsed : Bool) : Prop where
  returns : ∃ rest s' os err, (rest = [] ∨ rest = [.extract t]) ∧
    (client env).run s (unsentSteps t d args arrival elapsed ++ rest) = some (s', os) ∧
    os.getLast? = some (.returned (.error err)) ∧
    s'.stack.targets.lookup d = s.stack.targets.lookup d
  takesNoSlot : ∀ s₂ os call, (client env).run s [.send t d args, .receive t arrival] =
    some (s₂, os) → s₂.threads t = .reading call →
    s₂.stack.tsm.findInvokeIdIndex call.requestInvokeId = none

/-- The table is full, and the message received is a reply with the id 0 that the device
takes and that says an error. The entry had no request, and no value that the reply
replaces. -/
def Rescued (env : Env) (s : Stack) (d : DeviceId) (tgt : TargetDevice) (arrival : Arrival) :
    Prop :=
  s.tsm.transactionAvailable = false ∧ tgt.request = none ∧
    ∃ src a err, delivered env s.socketOpen .fresh arrival = some (src, a) ∧
      a.releases = some 0 ∧ a.answer = some (.error err) ∧
      findMatchingDevice arrival.order (s.setTarget d tgt.unsent).targets src 0 = some d ∧
      (a.isAck = true → tgt.value = none)

/-! ### When it does -/

variable {tsm : Tsm}

/-- What the call is left with when its only receive has returned. -/
theorem step_receive_unsent (env : Env) (hrun : s.aborted = false) (tgt : TargetDevice)
    (args : ReadArgs) (tsm : Tsm) (arrival : Arrival) :
    (client env).step (afterUnsent s t d args tgt tsm) (.receive t arrival) =
      some (afterReceive (afterUnsent s t d args tgt tsm) t
        (receiveStep env (afterUnsent s t d args tgt tsm).stack .fresh arrival)
        fun rx => .reading ⟨d, args, 0, rx, .polling⟩) := by
  have hth : (afterUnsent s t d args tgt tsm).threads t =
      .reading ⟨d, args, 0, .fresh, .receiving⟩ := Sys.threads_setThread_self s t _
  have hab : (afterUnsent s t d args tgt tsm).aborted = false := hrun
  simp only [client, step, hab, Bool.false_eq_true, if_false,
    show (Event.receive t arrival).thread = t from rfl, hth, if_true]

/-- The entry changes in the receive only if the device takes a reply with the id 0. -/
theorem taken_of_report {stack stack' : Stack} {rx : RxState} {arrival : Arrival}
    (hl : stack.targets.lookup d = some tgt.unsent) {tgt' : TargetDevice} {r : Result BACnetValue}
    (hrecv : ReceiveEffect env stack rx arrival stack')
    (hl' : stack'.targets.lookup d = some tgt') (hr : tgt'.report = some r) :
    ∃ src a f, delivered env stack.socketOpen rx arrival = some (src, a) ∧
      a.releases = some 0 ∧ a.update = some f ∧ a.answer = some r ∧
      findMatchingDevice arrival.order stack.targets src 0 = some d ∧ tgt' = f tgt.unsent ∧
      stack'.tsm = stack.tsm.freeInvokeId 0 := by
  have hsame : ∀ s' : Stack, s'.targets.lookup d = some tgt.unsent →
      s'.targets.lookup d = some tgt' → False := by
    intro s' h h'
    cases h.symm.trans h'
    cases hr
  cases hrecv with
  | nothing _ => exact (hsame _ hl hl').elim
  | apdu src a hdel he =>
    cases he with
    | none _ => exact (hsame _ hl hl').elim
    | binding i _ _ _ => exact (hsame _ hl hl').elim
    | discovery device _ _ => exact (hsame _ hl hl').elim
    | released id _ _ => exact (hsame _ hl hl').elim
    | taken id hrel f hf d' tgt₀ hm hl₀ _ =>
      replace hl' : (stack.setTarget d' (f tgt₀)).targets.lookup d = some tgt' := hl'
      by_cases hd : d = d'
      · subst hd
        rw [Stack.lookup_setTarget_self] at hl'
        cases hl'
        cases hl.symm.trans hl₀
        obtain ⟨tgt₁, hl₁, haw⟩ := findMatchingDevice_eq_some hm
        cases hl.symm.trans hl₁
        obtain ⟨-, status, hreq⟩ := TargetDevice.awaits_iff.mp haw
        cases hreq
        obtain ⟨r', hans, hset⟩ := answered_of_update hf hrel
        cases hr.symm.trans (hset tgt.unsent).report
        exact ⟨src, a, f, hdel, hrel, hf, hans, hm, rfl, rfl⟩
      · rw [Stack.lookup_setTarget_ne _ hd] at hl'
        exact (hsame _ hl hl').elim

/-- The state in which the call polls. -/
def beforePoll (s : Sys) (t : Nat) (d : DeviceId) (args : ReadArgs) (stack : Stack)
    (rx : RxState) : Sys :=
  { s.setThread t (.reading ⟨d, args, 0, rx, .polling⟩) with stack }

theorem step_received_unsent (hrun : s.aborted = false) {arrival : Arrival} {stack : Stack}
    {rx : RxState}
    (hrecv : receiveStep env (afterUnsent s t d args tgt tsm).stack .fresh arrival =
      some (stack, rx)) :
    (client env).step (afterUnsent s t d args tgt tsm) (.receive t arrival) =
      some (beforePoll s t d args stack rx, .silent) := by
  rw [step_receive_unsent env hrun, hrecv]
  simp only [afterReceive, afterUnsent, beforePoll, Sys.setThread, Function.update_idem]

/-- The call up to its poll, with no slot free. -/
theorem run_unsentSteps (hwf : s.Wf) (hrun : s.aborted = false)
    (hsend : (client env).step s (.send t d args) =
      some (afterUnsent s t d args tgt tsm, .sent 0 none)) {arrival : Arrival} {stack : Stack}
    {rx : RxState}
    (hrecv : receiveStep env (afterUnsent s t d args tgt tsm).stack .fresh arrival =
      some (stack, rx)) (hav : stack.tsm.transactionAvailable = false) (elapsed : Bool) :
    (client env).run s (unsentSteps t d args arrival elapsed) = some
      ((beforePoll s t d args stack rx).setThread t (.reading ⟨d, args, 0, rx, .extracting⟩),
        [.sent 0 none, .silent, .silent]) := by
  have hreceive := step_received_unsent hrun hrecv
  have hok := (wf_step (wf_step hwf hsend) hreceive).tsm
  have hth : (beforePoll s t d args stack rx).threads t = .reading ⟨d, args, 0, rx, .polling⟩ :=
    Sys.threads_setThread_self s t _
  have hpoll := step_poll_zero env hok hrun hth rfl rfl elapsed
  rw [show (beforePoll s t d args stack rx).stack = stack from rfl, hav] at hpoll
  simp only [unsentSteps, Machine.run, hsend, hreceive, hpoll, Option.bind_some, Option.map_some,
    Bool.false_eq_true, if_false]

theorem step_extract_unsent (env : Env) (hrun : s.aborted = false) (args : ReadArgs)
    (stack : Stack) (rx : RxState) :
    (client env).step
      ((beforePoll s t d args stack rx).setThread t (.reading ⟨d, args, 0, rx, .extracting⟩))
      (.extract t) = some
        ({ s.setThread t .idle with stack := (extractStep stack d).1 }, (extractStep stack d).2) := by
  have hth := Sys.threads_setThread_self (beforePoll s t d args stack rx) t
    (.reading ⟨d, args, 0, rx, .extracting⟩)
  have hab : ((beforePoll s t d args stack rx).setThread t
    (.reading ⟨d, args, 0, rx, .extracting⟩)).aborted = false := hrun
  simp only [client, step, hab, Bool.false_eq_true, if_false,
    show (Event.extract t).thread = t from rfl, hth, if_true]
  simp only [beforePoll, Sys.setThread, Function.update_idem]

/-- The call fails cleanly if its one receive leaves the table full and an error to extract,
and the extraction the entry as it was. -/
theorem failsCleanly_iff_received (hwf : s.Wf) (hrun : s.aborted = false)
    (hp : s.stack.poisoned = false) (hl : s.stack.targets.lookup d = some tgt)
    (hsend : (client env).step s (.send t d args) =
      some (afterUnsent s t d args tgt tsm, .sent 0 none)) (arrival : Arrival) (elapsed : Bool) :
    FailsCleanly env s t d args arrival elapsed ↔
      ∃ stack rx tgt' err,
        receiveStep env (afterUnsent s t d args tgt tsm).stack .fresh arrival = some (stack, rx) ∧
        stack.tsm.transactionAvailable = false ∧ stack.targets.lookup d = some tgt' ∧
        tgt'.report = some (.error err) ∧ tgt'.extracted = tgt := by
  have hwf₁ := wf_step hwf hsend
  cases hrecv : receiveStep env (afterUnsent s t d args tgt tsm).stack .fresh arrival with
  | none =>
    -- the process ends
    constructor
    · rintro ⟨⟨rest, s', os, err, -, hsteps, -, -⟩, -⟩
      have hpoll : (client env).step { afterUnsent s t d args tgt tsm with aborted := true }
          (.poll t elapsed) = none := rfl
      simp only [unsentSteps, List.cons_append, Machine.run, hsend, step_receive_unsent env hrun,
        hrecv, afterReceive, Option.bind_some, hpoll, Option.bind_none, Option.map_none] at hsteps
      cases hsteps
    · rintro ⟨stack, rx, tgt', err, hsome, -⟩
      cases hsome
  | some r =>
    obtain ⟨stack, rx⟩ := r
    have hreceive := step_received_unsent hrun hrecv
    have hwf₂ := wf_step hwf₁ hreceive
    have hth : (beforePoll s t d args stack rx).threads t = .reading ⟨d, args, 0, rx, .polling⟩ :=
      Sys.threads_setThread_self s t _
    obtain ⟨tgt', hl'⟩ : ∃ tgt', stack.targets.lookup d = some tgt' := hwf₂.reading t _ hth
    have hp₂ : stack.poisoned = false := by
      rcases panic_cases (step_cases hwf₁.tsm hreceive) with ⟨heq, -⟩ | ⟨call, he, -⟩
      · exact heq.trans hp
      · cases he
    have hextract := step_extract_unsent (d := d) (t := t) env hrun args stack rx
    rw [extractStep_eq hp₂ hl'] at hextract
    constructor
    · rintro ⟨⟨rest, s', os, err, hrest, hsteps, hlast, hentry⟩, hslot⟩
      have hnone : stack.tsm.findInvokeIdIndex 0 = none := by
        refine hslot (beforePoll s t d args stack rx) [.sent 0 none, .silent] _ ?_ hth
        simp only [Machine.run, hsend, hreceive, Option.bind_some, Option.map_some]
      have hav : stack.tsm.transactionAvailable = false := by
        refine Tsm.invokeIdFree_zero.mp ?_
        rw [Tsm.invokeIdFree, hnone]
        rfl
      obtain ⟨m, hm, os', hos', hos⟩ := (Machine.run_append _).mp hsteps
      cases (run_unsentSteps hwf hrun hsend hrecv hav elapsed).symm.trans hm
      obtain rfl : os = [.sent 0 none, .silent, .silent] ++ os' := hos
      rcases hrest with rfl | rfl
      · cases hos'
        cases hlast
      · simp only [Machine.run, hextract, Option.bind_some, Option.map_some, Option.some.injEq,
          Prod.mk.injEq] at hos'
        obtain ⟨hs', rfl⟩ := hos'
        cases hr : tgt'.report with
        | none =>
          rw [hr] at hlast
          cases hlast
        | some r =>
          rw [hr] at hlast hs'
          cases hlast
          rw [← hs', hl, Stack.lookup_setTarget_self, Option.some.injEq] at hentry
          exact ⟨stack, rx, tgt', err, rfl, hav, hl', hr, hentry⟩
    · rintro ⟨stack', rx', tgt'', err, hsome, hav, hl'', hr, hext⟩
      cases hsome
      cases hl'.symm.trans hl''
      rw [hr] at hextract
      have hrest : (client env).run ((beforePoll s t d args stack rx).setThread t
          (.reading ⟨d, args, 0, rx, .extracting⟩)) [.extract t] = some
            ({ s.setThread t .idle with stack := stack.setTarget d tgt'.extracted },
              [.returned (.error err)]) := by
        simp only [Machine.run, hextract, Option.bind_some, Option.map_some]
      have hsteps : (client env).run s (unsentSteps t d args arrival elapsed ++ [.extract t]) =
          some ({ s.setThread t .idle with stack := stack.setTarget d tgt'.extracted },
            [.sent 0 none, .silent, .silent] ++ [.returned (.error err)]) :=
        (Machine.run_append _).mpr
          ⟨_, run_unsentSteps hwf hrun hsend hrecv hav elapsed, _, hrest, rfl⟩
      refine ⟨⟨_, _, _, err, Or.inr rfl, hsteps, rfl, ?_⟩, ?_⟩
      · rw [hl, Stack.lookup_setTarget_self, hext]
      · intro s₂ os call hsteps hcall
        simp only [Machine.run, hsend, hreceive, Option.bind_some, Option.map_some,
          Option.some.injEq, Prod.mk.injEq] at hsteps
        obtain ⟨rfl, -⟩ := hsteps
        cases hth.symm.trans hcall
        exact Option.isNone_iff_eq_none.mp (Tsm.invokeIdFree_zero.mpr hav)

/-- A call for which `Send_Read_Property_Request` returns 0 does what it should exactly when
it is rescued. -/
theorem failsCleanly_iff {es : List Event} {os : List Output}
    (hsteps : (client env).run .init es = some (s, os)) (hrun : s.aborted = false)
    (hidle : s.threads t = .idle) (hp : s.stack.poisoned = false)
    (hl : s.stack.targets.lookup d = some tgt)
    (hzero : (sendReadPropertyRequest env s.stack d args).2.1 = 0) (arrival : Arrival)
    (elapsed : Bool) :
    FailsCleanly env s t d args arrival elapsed ↔ Rescued env s.stack d tgt arrival := by
  have hwf := wf_run hsteps
  obtain ⟨tsm, hlist, hok, hsend⟩ := step_unsent hwf hrun hidle hp hl hzero
  have hav : tsm.transactionAvailable = s.stack.tsm.transactionAvailable := by
    rw [Tsm.transactionAvailable, hlist, Tsm.transactionAvailable]
  have hfreed : (tsm.freeInvokeId 0).transactionAvailable = tsm.transactionAvailable := by
    have h0 : 0 ∉ tsm.reserved := fun h => (Tsm.mem_reserved.mp h).1 rfl
    rw [Bool.eq_iff_iff, Tsm.transactionAvailable_iff_card (Tsm.ok_freeInvokeId hok 0),
      Tsm.transactionAvailable_iff_card hok, Tsm.reserved_freeInvokeId hok,
      Finset.erase_eq_of_notMem h0]
  have hl₁ : (afterUnsent s t d args tgt tsm).stack.targets.lookup d = some tgt.unsent :=
    Stack.lookup_setTarget_self _ _ _
  rw [failsCleanly_iff_received hwf hrun hp hl hsend]
  constructor
  · rintro ⟨stack, rx, tgt', err, hrecv, hfull, hl', hr, hext⟩
    obtain ⟨src, a, f, hdel, hrel, hf, hans, hm, rfl, htsm⟩ :=
      taken_of_report hl₁ (receiveStep_cases hrecv) hl' hr
    rw [extracted_update hf] at hext
    have hrequest : none = tgt.request := congrArg TargetDevice.request hext
    have hvalue : (if a.isAck then none else tgt.value) = tgt.value :=
      congrArg TargetDevice.value hext
    refine ⟨?_, hrequest.symm, src, a, err, hdel, hrel, hans, hm, fun hack => ?_⟩
    · rw [← hav, ← hfreed]
      exact htsm ▸ hfull
    · rw [if_pos hack] at hvalue
      exact hvalue.symm
  · rintro ⟨hfull, hrequest, src, a, err, hdel, hrel, hans, hm, hvalue⟩
    obtain ⟨f, hf⟩ := update_of_answer hans
    obtain ⟨r, hans', hset⟩ := answered_of_update hf hrel
    cases hans.symm.trans hans'
    have hp₁ : (afterUnsent s t d args tgt tsm).stack.poisoned = false := hp
    obtain ⟨rx, hrecv⟩ := receiveStep_answer hp₁ (hwf.installed (hwf.tracked d tgt hl)) hdel hrel hf
      hm hl₁
    refine ⟨_, rx, f tgt.unsent, err, hrecv, ?_, Stack.lookup_setTarget_self _ _ _,
      (hset tgt.unsent).report, ?_⟩
    · exact (hfreed.trans hav).trans hfull
    · rw [extracted_update hf]
      obtain ⟨addr, request, value⟩ := tgt
      cases hrequest
      by_cases hack : a.isAck = true
      · rw [if_pos hack]
        cases hvalue hack
        rfl
      · rw [if_neg hack]
        rfl

/-! ### A full table -/

/-- A read that nobody answers. -/
def unansweredSteps (t : Nat) (d : DeviceId) (args : ReadArgs) : List Event :=
  [.send t d args, .receive t silence, .poll t true]

/-- It leaves its slot reserved, and its request on-going. -/
theorem run_unansweredSteps (env : Env) (hwf : s.Wf) (hrun : s.aborted = false)
    (hidle : s.threads t = .idle) (hp : s.stack.poisoned = false) (hl : s.stack.targets.lookup d = some tgt)
    (hready : SendReady s.stack d args) :
    ∃ i os, (s.stack.tsm.list.get i).invokeId = 0 ∧
      (client env).run s (unansweredSteps t d args) =
        some ((s.afterSend t d args tgt i).setThread t .idle, os) := by
  obtain ⟨i, frame, hi, hsend, hwait⟩ := step_send env hwf.tsm hrun hidle hp hl hready
  have hreceive := step_receive_silence env hwait (q := silence) rfl
  have hpoll := step_poll_reserved env (s := (s.afterSend t d args tgt i).setThread t _) hwait.tsm
    hrun (Sys.threads_setThread_self (s.afterSend t d args tgt i) t
      (.reading ⟨d, args, s.stack.tsm.nextUnused, RxState.fresh.inMemory silence.beyond, .polling⟩))
    rfl hwait.reserved true
  rw [if_pos rfl, Sys.setThread_setThread] at hpoll
  refine ⟨i, [.sent s.stack.tsm.nextUnused frame, .silent, .returned (.error .apduTimeout)], hi, ?_⟩
  simp only [unansweredSteps, Machine.run, hsend, hreceive, hpoll, Option.bind_some,
    Option.map_some]

/-- Reads that nobody answers take one slot each, until the table is full. -/
theorem run_replicate_unanswered {m : UInt32} {dest : BacnetAddress}
    (hfits : UInt16.ofNat (requestLength dest args) < m.toUInt16) (n : Nat) (hwf : s.Wf)
    (hrun : s.aborted = false) (hidle : s.threads t = .idle) (hp : s.stack.poisoned = false)
    (hdcc : s.stack.dcc = .enable) (hl : s.stack.targets.lookup d = some tgt)
    (hget : s.stack.cache.addressGetByDevice d = some (m, dest))
    (hn : s.stack.tsm.reserved.card + n ≤ 255) :
    ∃ s' os, (client env).run s (List.replicate n (unansweredSteps t d args)).flatten =
        some (s', os) ∧
      s'.stack.tsm.reserved.card = s.stack.tsm.reserved.card + n ∧ s'.aborted = false ∧
      s'.threads t = .idle ∧ s'.stack.poisoned = false ∧
      s'.stack.socketOpen = s.stack.socketOpen ∧
      ∀ d', d' ≠ d → s'.stack.targets.lookup d' = s.stack.targets.lookup d' := by
  induction n generalizing s tgt with
  | zero => exact ⟨s, [], rfl, (Nat.add_zero _).symm, hrun, hidle, hp, rfl, fun _ _ => rfl⟩
  | succ n ih =>
    have hav : s.stack.tsm.transactionAvailable = true :=
      (Tsm.transactionAvailable_iff_card hwf.tsm).mpr (by omega)
    obtain ⟨i, os, hi, hread⟩ := run_unansweredSteps env hwf hrun hidle hp hl
      (show SendReady s.stack d args from ⟨hdcc, hav, m, dest, hget, hfits⟩)
    have hreserved : (s.afterSend t d args tgt i).stack.tsm.reserved =
        insert s.stack.tsm.nextUnused s.stack.tsm.reserved :=
      Tsm.reserved_reserveAt (Tsm.nextUnused_ne_zero hwf.tsm hav) hi
    have hcard : (s.afterSend t d args tgt i).stack.tsm.reserved.card =
        s.stack.tsm.reserved.card + 1 := by
      rw [hreserved, Finset.card_insert_of_notMem (Tsm.nextUnused_not_mem hwf.tsm hav)]
    obtain ⟨s', os', hrest, hcard', hrun', hidle', hp', hopen', hother⟩ :=
      ih (wf_of_run hwf hread) hrun (Sys.threads_setThread_self _ t _) hp hdcc
        (Stack.lookup_setTarget_self _ _ _) hget
        (show (s.afterSend t d args tgt i).stack.tsm.reserved.card + n ≤ 255 by omega)
    rw [Sys.stack_setThread, hcard] at hcard'
    refine ⟨s', os ++ os', ?_, by omega, hrun', hidle', hp', hopen', fun d' hd => ?_⟩
    · rw [List.replicate_succ, List.flatten_cons]
      exact (Machine.run_append _).mpr ⟨_, hread, os', hrest, rfl⟩
    · exact (hother d' hd).trans (Stack.lookup_setTarget_ne _ hd _)

/-! ### A call that fails cleanly, and one that does not -/

/-- An Error PDU with the invoke id 0 from 10.0.0.3. -/
def errorZero : Arrival := { lanMessage 3 [0x50, 0, 12, 0x91, 2, 0x91, 32] with order := [8] }

/-- Two devices are connected, and 255 reads of the first are not answered. -/
def fillingSteps : List Event :=
  [.connect 0 (lanDevice 7 2), .connect 0 (lanDevice 8 3)] ++
    (List.replicate 255 (unansweredSteps 1 7 presentValue)).flatten

theorem failsCleanly_errorZero :
    ∃ s os, (client lan).run .init fillingSteps = some (s, os) ∧
      (sendReadPropertyRequest lan s.stack 8 presentValue).2.1 = 0 ∧
      FailsCleanly lan s 1 8 presentValue errorZero false := by
  have hconnected : ((client lan).run .init
      [.connect 0 (lanDevice 7 2), .connect 0 (lanDevice 8 3)]).any (fun r =>
        decide (r.1.aborted = false ∧ r.1.stack.poisoned = false ∧ r.1.stack.socketOpen = true ∧
          r.1.stack.tsm.transactionIdleCount = 255 ∧
          r.1.stack.cache.addressGetByDevice 7 =
            some (UInt32.ofNat maxApdu, (lanDevice 7 2).build)) &&
        (r.1.stack.targets.lookup 7).isSome &&
        (r.1.stack.targets.lookup 8).any fun tgt =>
          decide (tgt.addr = (lanDevice 8 3).build ∧ tgt.request = none)) = true := by
    decide +kernel
  have hreply : (delivered lan true .fresh errorZero).any (fun p =>
      decide (p.2.releases = some 0) && p.2.answer.any (fun r => !r.toBool) && !p.2.isAck &&
        addressMatch (lanDevice 8 3).build p.1) = true := by
    decide +kernel
  obtain ⟨s₀, os₀, hrun₀, hs₀⟩ := Machine.exists_run hconnected
  simp only [Bool.and_eq_true, decide_eq_true_eq] at hs₀
  obtain ⟨⟨⟨hrunning, hp, hopen, hidle, hget⟩, h7⟩, h8⟩ := hs₀
  obtain ⟨tgt₇, hl₇⟩ := Option.isSome_iff_exists.mp h7
  obtain ⟨tgt, hl₈, htgt⟩ := (Option.any_eq_true _ _).mp h8
  obtain ⟨haddr, hrequest⟩ := of_decide_eq_true htgt
  obtain ⟨⟨src, a⟩, hdel, ha⟩ := (Option.any_eq_true _ _).mp hreply
  simp only [Bool.and_eq_true, decide_eq_true_eq, Bool.not_eq_true'] at ha
  obtain ⟨⟨⟨hrel, herr⟩, hack⟩, hmatch⟩ := ha
  have hwf₀ := wf_run hrun₀
  have hcount := Tsm.transactionIdleCount_add_card hwf₀.tsm
  obtain ⟨s, os, hreads, hcard, hrunning', hidle', hp', hopen', hother⟩ :=
    run_replicate_unanswered
      (fits_maxApdu (lanDevice 7 2).build presentValue) 255 hwf₀ hrunning
      (idle_run (n := 1) (by decide) hrun₀ (Nat.le_refl 1)) hp (dcc_run hrun₀) hl₇ hget (by omega)
  have hsteps : (client lan).run .init fillingSteps = some (s, os₀ ++ os) :=
    (Machine.run_append _).mpr ⟨_, hrun₀, os, hreads, rfl⟩
  have hwf := wf_run hsteps
  have hfull : s.stack.tsm.transactionAvailable = false := by
    rw [← Bool.not_eq_true, Tsm.transactionAvailable_iff_card hwf.tsm]
    omega
  have hl : s.stack.targets.lookup 8 = some tgt := (hother 8 (by decide)).trans hl₈
  have hzero : (sendReadPropertyRequest lan s.stack 8 presentValue).2.1 = 0 := by
    refine (sendReadPropertyRequest_eq_zero_iff hwf.tsm).mpr fun hready => ?_
    exact absurd (hfull.symm.trans hready.2.1) (by decide)
  obtain ⟨r, hans, hr⟩ := (Option.any_eq_true _ _).mp herr
  obtain ⟨err, rfl⟩ : ∃ err, r = .error err := by
    cases r with
    | error err => exact ⟨err, rfl⟩
    | ok v => cases hr
  have hfind : findMatchingDevice errorZero.order (s.stack.setTarget 8 tgt.unsent).targets src 0 =
      some 8 := by
    refine List.find?_cons_of_pos ?_
    rw [Stack.lookup_setTarget_self]
    exact TargetDevice.awaits_iff.mpr ⟨haddr ▸ hmatch, .ongoing, rfl⟩
  refine ⟨s, os₀ ++ os, hsteps, hzero,
    (failsCleanly_iff hsteps hrunning' hidle' hp' hl hzero errorZero false).mpr
      ⟨hfull, hrequest, src, a, err, ?_, hrel, hans, hfind, fun hyes => ?_⟩⟩
  · rw [hopen', hopen]
    exact hdel
  · rw [hack] at hyes
    cases hyes

/-- A read of a device that was disconnected: it gives up on the state of a free slot, and
leaves its request in the entry. -/
theorem disconnectedRead_takes_slot :
    ∃ s s' os os', (client lan).run .init [.connect 0 (lanDevice 7 2), .disconnect 0 7] =
        some (s, os) ∧
      (sendReadPropertyRequest lan s.stack 7 presentValue).2.1 = 0 ∧
      (client lan).run s (unsentSteps 0 7 presentValue silence false) = some (s', os') ∧
      (s.stack.targets.lookup 7).bind (·.request) = none ∧
      (s'.stack.targets.lookup 7).bind (·.request) = some (0, .ongoing) ∧
      ¬ FailsCleanly lan s 0 7 presentValue silence false := by
  have hpolls : ((client lan).run .init ([.connect 0 (lanDevice 7 2), .disconnect 0 7] ++
      [.send 0 7 presentValue, .receive 0 silence])).any (fun r =>
        (r.1.threads 0).call?.any fun call =>
          (r.1.stack.tsm.findInvokeIdIndex call.requestInvokeId).isSome) = true := by
    decide +kernel
  have hbefore : ((client lan).run .init [.connect 0 (lanDevice 7 2), .disconnect 0 7]).any
      (fun r => decide ((sendReadPropertyRequest lan r.1.stack 7 presentValue).2.1 = 0 ∧
        (r.1.stack.targets.lookup 7).bind (·.request) = none)) = true := by
    decide +kernel
  have hafter : ((client lan).run .init ([.connect 0 (lanDevice 7 2), .disconnect 0 7] ++
      unsentSteps 0 7 presentValue silence false)).any (fun r =>
        decide ((r.1.stack.targets.lookup 7).bind (·.request) = some (0, .ongoing))) = true := by
    decide +kernel
  obtain ⟨s₂, os₂, hrun₂, hslot⟩ := Machine.exists_run hpolls
  obtain ⟨s₃, os₃, hrun₃, hentry⟩ := Machine.exists_run hafter
  obtain ⟨m, hm, os₂', hsteps₂, -⟩ := (Machine.run_append _).mp hrun₂
  obtain ⟨m', hm', os₃', hsteps₃, -⟩ := (Machine.run_append _).mp hrun₃
  cases hm.symm.trans hm'
  rw [hm, Option.any_some] at hbefore
  obtain ⟨hzero, hrequest⟩ := of_decide_eq_true hbefore
  refine ⟨m.1, s₃, m.2, os₃', hm, hzero, hsteps₃, hrequest, of_decide_eq_true hentry, ?_⟩
  rintro ⟨-, hno⟩
  obtain ⟨call, hcall, hsome⟩ := (Option.any_eq_true _ _).mp hslot
  rw [hno s₂ os₂' call hsteps₂ (Thread.mem_call?.mp hcall)] at hsome
  cases hsome

end Bacnet
