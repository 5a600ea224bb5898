import Bacnet.UniqueMatch

/-!
# Bacnet.Progress

A read forwards: the steps of a call that sends its request, goes round while nothing
arrives, and then receives an answer that its device takes. They can all be taken, and the
call returns what the answer says.
-/

namespace Bacnet

open Bacnet.Lib

variable {env : Env} {s : Sys} {t : Nat}

/-- One round of the receive loop. -/
def round (t : Nat) (arrival : Arrival) : List Event := [.receive t arrival, .poll t false]

/-- A call that receives `arrivals` and then `arrival`, and extracts. -/
def readSteps (t : Nat) (d : DeviceId) (args : ReadArgs) (arrivals : List Arrival)
    (arrival : Arrival) (elapsed : Bool) : List Event :=
  .send t d args :: (arrivals.flatMap (round t) ++
    [.receive t arrival, .poll t elapsed, .extract t])

@[simp] theorem Sys.setThread_setThread (s : Sys) (t : Nat) (th th' : Thread) :
    (s.setThread t th).setThread t th' = s.setThread t th' := by
  simp only [Sys.setThread, Function.update_idem]

@[simp] theorem Sys.stack_setThread (s : Sys) (t : Nat) (th : Thread) :
    (s.setThread t th).stack = s.stack := rfl

@[simp] theorem Sys.aborted_setThread (s : Sys) (t : Nat) (th : Thread) :
    (s.setThread t th).aborted = s.aborted := rfl

/-- A call that waits for the reply to its request. -/
structure Waiting (s : Sys) (t : Nat) (call : ReadCall) : Prop where
  running : s.aborted = false
  reading : s.threads t = .reading call
  receiving : call.pc = .receiving
  tsm : s.stack.tsm.Ok
  reserved : call.requestInvokeId ∈ s.stack.tsm.reserved

theorem Waiting.setRx {call : ReadCall} (h : Waiting s t call) (rx : RxState) :
    Waiting (s.setThread t (.reading { call with rx })) t { call with rx } :=
  ⟨h.running, Sys.threads_setThread_self _ _ _, h.receiving, h.tsm, h.reserved⟩

/-! ### The request -/

/-- The state after a request went out, with its id in the slot `i`. -/
def Sys.afterSend (s : Sys) (t : Nat) (d : DeviceId) (args : ReadArgs) (tgt : TargetDevice)
    (i : Fin maxTsmTransactions) : Sys :=
  { s.setThread t (.reading ⟨d, args, s.stack.tsm.nextUnused, .fresh, .receiving⟩) with
    stack := { s.stack with
      tsm := s.stack.tsm.reserveAt i s.stack.tsm.nextUnused .awaitConfirmation }.setTarget
        d { tgt with request := some (s.stack.tsm.nextUnused, .ongoing) } }

/-- A request that can go out is sent. -/
theorem step_send (env : Env) (ht : s.stack.tsm.Ok) (hrun : s.aborted = false)
    (hidle : s.threads t = .idle) (hp : s.stack.poisoned = false) {d : DeviceId} {args : ReadArgs}
    {tgt : TargetDevice} (hl : s.stack.targets.lookup d = some tgt)
    (hready : SendReady s.stack d args) :
    ∃ i frame, (s.stack.tsm.list.get i).invokeId = 0 ∧
      (client env).step s (.send t d args) =
        some (s.afterSend t d args tgt i, .sent s.stack.tsm.nextUnused frame) ∧
      Waiting (s.afterSend t d args tgt i) t
        ⟨d, args, s.stack.tsm.nextUnused, .fresh, .receiving⟩ := by
  obtain ⟨i, frame, hi, hsend⟩ : ∃ i frame, (s.stack.tsm.list.get i).invokeId = 0 ∧
      sendReadPropertyRequest env s.stack d args =
        ({ s.stack with
            tsm := s.stack.tsm.reserveAt i s.stack.tsm.nextUnused .awaitConfirmation },
          s.stack.tsm.nextUnused, frame) := by
    have heff := sendReadPropertyRequest_cases env ht d args
    generalize sendReadPropertyRequest env s.stack d args = r at heff
    obtain ⟨stack, id, frame⟩ := r
    dsimp only at heff
    cases heff with
    | failed tsm hn _ _ => exact absurd hready hn
    | sent m dest i _ _ hi => exact ⟨i, _, hi, rfl⟩
  have h0 := Tsm.nextUnused_ne_zero ht hready.2.1
  have hfree := Tsm.nextUnused_free ht hready.2.1
  have hstep : (client env).step s (.send t d args) =
      some (s.afterSend t d args tgt i, .sent s.stack.tsm.nextUnused frame) := by
    simp only [client, step, hrun, Bool.false_eq_true, if_false,
      show (Event.send t d args).thread = t from rfl, hidle, sendStep, hl, hsend, Sys.afterSend, hp]
  refine ⟨i, frame, hi, hstep, hrun, Sys.threads_setThread_self s t _, rfl,
    Tsm.ok_reserveAt ht h0 hfree, ?_⟩
  exact (Tsm.reserved_reserveAt h0 hi).symm ▸ Finset.mem_insert_self _ _

/-! ### Rounds without an arrival -/

theorem inMemory_inMemory (rx : RxState) (m m' : Mem) :
    (rx.inMemory m).inMemory m' = rx.inMemory m' := by
  simp only [RxState.inMemory, RxState.mk.injEq, true_and]
  funext i
  split <;> rfl

theorem receiveStep_silence (env : Env) (stack : Stack) (rx : RxState) {q : Arrival}
    (hq : q.datagram = none) :
    receiveStep env stack rx q = some (stack, rx.inMemory q.beyond) := by
  have hnone : bipReceive env.bip stack.socketOpen q.datagram (rx.inMemory q.beyond) =
      (0, rx.inMemory q.beyond) := by
    rw [hq, bipReceive]
    split <;> rfl
  simp only [receiveStep, hnone, gt_iff_lt, Nat.lt_irrefl, if_false]

theorem step_receive_silence (env : Env) {call : ReadCall} (h : Waiting s t call) {q : Arrival}
    (hq : q.datagram = none) :
    (client env).step s (.receive t q) = some
      (s.setThread t (.reading { call with rx := call.rx.inMemory q.beyond, pc := .polling }),
        .silent) := by
  simp only [client, step, h.running, Bool.false_eq_true, if_false,
    show (Event.receive t q).thread = t from rfl, h.reading, h.receiving, if_true,
    receiveStep_silence env s.stack call.rx hq, afterReceive]
  rfl

/-- The poll of a call whose slot is reserved: it goes round, or gives up. -/
theorem step_poll_reserved (env : Env) (ht : s.stack.tsm.Ok) (hrun : s.aborted = false)
    {call : ReadCall} (hth : s.threads t = .reading call) (hpc : call.pc = .polling)
    (hres : call.requestInvokeId ∈ s.stack.tsm.reserved) (elapsed : Bool) :
    (client env).step s (.poll t elapsed) =
      if elapsed then some (s.setThread t .idle, .returned (.error .apduTimeout))
      else some (s.setThread t (.reading { call with pc := .receiving }), .silent) := by
  have hne : call.requestInvokeId ≠ 0 := (Tsm.mem_reserved.mp hres).1
  have hfree : s.stack.tsm.invokeIdFree call.requestInvokeId = false := by
    rw [← Bool.not_eq_true, Tsm.invokeIdFree_of_ne_zero hne, not_not]
    exact hres
  have hfailed : s.stack.tsm.invokeIdFailed call.requestInvokeId = false := by
    rw [← Bool.not_eq_true, Tsm.invokeIdFailed_iff ht]
    exact fun h => hne h.1
  simp only [client, step, hrun, Bool.false_eq_true, if_false,
    show (Event.poll t elapsed).thread = t from rfl, hth, hpc, if_true, pollStep, hfree, hfailed]
  cases elapsed with
  | true => rfl
  | false => rfl

/-- A round in which nothing arrives only changes what is behind the receive buffer. -/
theorem run_round (env : Env) {call : ReadCall} (h : Waiting s t call) {q : Arrival}
    (hq : q.datagram = none) :
    (client env).run s (round t q) = some
      (s.setThread t (.reading { call with rx := call.rx.inMemory q.beyond }),
        [.silent, .silent]) := by
  have hreceive := step_receive_silence env h hq
  have hpoll := step_poll_reserved env (s := s.setThread t _) h.tsm h.running
    (Sys.threads_setThread_self s t
      (.reading { call with rx := call.rx.inMemory q.beyond, pc := .polling })) rfl h.reserved false
  rw [if_neg Bool.false_ne_true, Sys.setThread_setThread] at hpoll
  simp only [round, Machine.run, hreceive, Option.bind_some, hpoll, Option.map_some]
  rw [← h.receiving]

/-- Any number of them. -/
theorem run_rounds (env : Env) {call : ReadCall} (h : Waiting s t call) {arrivals : List Arrival}
    (hq : ∀ q ∈ arrivals, q.datagram = none) :
    ∃ rx os, (client env).run s (arrivals.flatMap (round t)) =
        some (s.setThread t (.reading { call with rx }), os) ∧
      ∀ m, rx.inMemory m = call.rx.inMemory m := by
  induction arrivals generalizing s call with
  | nil =>
      refine ⟨call.rx, [], ?_, fun _ => rfl⟩
      rw [List.flatMap_nil, Machine.run_nil, ← h.reading, Sys.setThread_self]
  | cons q arrivals ih =>
      have hround := run_round env h (hq q List.mem_cons_self)
      obtain ⟨rx, os, hrest, hrx⟩ := ih (h.setRx (call.rx.inMemory q.beyond))
        fun q' hq' => hq q' (List.mem_cons_of_mem q hq')
      refine ⟨rx, [.silent, .silent] ++ os, ?_, fun m => ?_⟩
      · rw [List.flatMap_cons]
        refine (Machine.run_append _).mpr ⟨_, hround, os, ?_, rfl⟩
        rw [hrest, Sys.setThread_setThread]
      · rw [hrx, inMemory_inMemory]

/-! ### The answer -/

/-- An answer that a tracked device takes, below the call that receives it. -/
theorem receiveStep_answer {stack : Stack} (hp : stack.poisoned = false)
    (hreplies : stack.handlers.Replies) {rx : RxState} {arrival : Arrival} {src : BacnetAddress}
    {a : Apdu} {id : UInt8} {f : TargetDevice → TargetDevice} {d : DeviceId} {tgt : TargetDevice}
    (hdel : delivered env stack.socketOpen rx arrival = some (src, a))
    (hr : a.releases = some id) (hf : a.update = some f)
    (hm : findMatchingDevice arrival.order stack.targets src id = some d)
    (hl : stack.targets.lookup d = some tgt) :
    ∃ rx', receiveStep env stack rx arrival =
      some ((stack.setTarget d (f tgt)).freeInvokeId id, rx') := by
  cases hrecv : receiveStep env stack rx arrival with
  | none =>
      rcases receiveStep_eq_none hrecv with hp' | ⟨-, hno⟩
      · rw [hp] at hp'
        cases hp'
      · cases hr.symm.trans (hno src a hdel)
  | some q =>
      obtain ⟨stack', rx'⟩ := q
      refine ⟨rx', ?_⟩
      cases receiveStep_cases hrecv with
      | nothing hd =>
          rw [hdel] at hd
          cases hd
      | apdu src' a' hd he =>
          rw [hdel] at hd
          cases hd
          cases he with
          | none hno => cases hr.symm.trans hno
          | binding i hno _ _ => cases hr.symm.trans hno
          | discovery device hno _ => cases hr.symm.trans hno
          | released id' hid hno =>
              cases hr.symm.trans hid
              rcases hno hreplies with hno | hno
              · cases hf.symm.trans hno
              · cases hm.symm.trans hno
          | taken id' hid f' hf' d' tgt' hd hl' _ =>
              cases hr.symm.trans hid
              cases hm.symm.trans hd
              cases hf.symm.trans hf'
              cases hl.symm.trans hl'
              rfl

/-- An answer that the device being read takes: its slot is free after it, and its entry
says what the answer says. -/
theorem step_answer {call : ReadCall} (h : Waiting s t call) (hp : s.stack.poisoned = false)
    (hreplies : s.stack.handlers.Replies) {arrival : Arrival} {src : BacnetAddress} {a : Apdu}
    {r : Result BACnetValue}
    (hdel : delivered env s.stack.socketOpen call.rx arrival = some (src, a))
    (hr : a.releases = some call.requestInvokeId) (hans : a.answer = some r)
    (hm : findMatchingDevice arrival.order s.stack.targets src call.requestInvokeId =
      some call.deviceId) :
    ∃ s₂ rx tgt, (client env).step s (.receive t arrival) = some (s₂, .silent) ∧
      s₂.aborted = false ∧ s₂.threads t = .reading { call with rx, pc := .polling } ∧
      s₂.stack.poisoned = false ∧ s₂.stack.tsm.invokeIdFree call.requestInvokeId = true ∧
      s₂.stack.targets.lookup call.deviceId = some tgt ∧ tgt.report = some r := by
  obtain ⟨f, hf⟩ := update_of_answer hans
  obtain ⟨r', hans', hset⟩ := answered_of_update hf hr
  cases hans.symm.trans hans'
  obtain ⟨tgt, hl, -⟩ := findMatchingDevice_eq_some hm
  obtain ⟨rx, hrecv⟩ := receiveStep_answer hp hreplies hdel hr hf hm hl
  have hstep : (client env).step s (.receive t arrival) = some
      ({ s.setThread t (.reading { call with rx, pc := .polling }) with
          stack := (s.stack.setTarget call.deviceId (f tgt)).freeInvokeId call.requestInvokeId },
        .silent) := by
    simp only [client, step, h.running, Bool.false_eq_true, if_false,
      show (Event.receive t arrival).thread = t from rfl, h.reading, h.receiving, if_true,
      hrecv, afterReceive]
  have hfree : (s.stack.tsm.freeInvokeId call.requestInvokeId).invokeIdFree
      call.requestInvokeId = true := by
    rw [Tsm.invokeIdFree_of_ne_zero (Tsm.mem_reserved.mp h.reserved).1,
      Tsm.reserved_freeInvokeId h.tsm]
    exact Finset.notMem_erase _ _
  exact ⟨_, rx, f tgt, hstep, h.running, Sys.threads_setThread_self s t _, hp, hfree,
    Stack.lookup_setTarget_self _ _ _, (hset tgt).report⟩

theorem step_poll_free (env : Env) (hrun : s.aborted = false) {call : ReadCall}
    (hth : s.threads t = .reading call) (hpc : call.pc = .polling)
    (hfree : s.stack.tsm.invokeIdFree call.requestInvokeId = true) (elapsed : Bool) :
    (client env).step s (.poll t elapsed) = some
      (s.setThread t (.reading { call with pc := .extracting }), .silent) := by
  simp only [client, step, hrun, Bool.false_eq_true, if_false,
    show (Event.poll t elapsed).thread = t from rfl, hth, hpc, if_true, pollStep, hfree]

/-- The entry that an extraction leaves. -/
def TargetDevice.extracted (tgt : TargetDevice) : TargetDevice :=
  match tgt.request with
  | some (_, .done) => { tgt with request := none, value := none }
  | _ => { tgt with request := none }

/-- An extraction returns what the entry reports, and panics if it reports nothing. -/
theorem extractStep_eq {stack : Stack} (hp : stack.poisoned = false) {d : DeviceId}
    {tgt : TargetDevice} (hl : stack.targets.lookup d = some tgt) :
    extractStep stack d =
      match tgt.report with
      | some r => (stack.setTarget d tgt.extracted, .returned r)
      | none => ({ stack.setTarget d tgt.extracted with poisoned := true }, .panicked) := by
  obtain ⟨addr, request, value⟩ := tgt
  rw [extractStep, if_neg (by rw [hp]; decide)]
  simp only [hl, TargetDevice.report, TargetDevice.extracted]
  rcases request with _ | ⟨id, _ | _ | err⟩
  · rfl
  · rfl
  · rfl
  · rfl

theorem step_extract (env : Env) (hrun : s.aborted = false) {call : ReadCall}
    (hth : s.threads t = .reading call) (hpc : call.pc = .extracting)
    (hp : s.stack.poisoned = false) {tgt : TargetDevice} {r : Result BACnetValue}
    (hl : s.stack.targets.lookup call.deviceId = some tgt) (hr : tgt.report = some r) :
    (client env).step s (.extract t) = some
      ({ s.setThread t .idle with stack := s.stack.setTarget call.deviceId tgt.extracted },
        .returned r) := by
  simp only [client, step, hrun, Bool.false_eq_true, if_false,
    show (Event.extract t).thread = t from rfl, hth, hpc, if_true, extractStep_eq hp hl, hr]

/-- The rest of a call whose slot is free and whose entry says something. -/
theorem run_extract (env : Env) (hrun : s.aborted = false) {call : ReadCall}
    (hth : s.threads t = .reading call) (hpc : call.pc = .polling)
    (hp : s.stack.poisoned = false)
    (hfree : s.stack.tsm.invokeIdFree call.requestInvokeId = true) {tgt : TargetDevice}
    {r : Result BACnetValue} (hl : s.stack.targets.lookup call.deviceId = some tgt)
    (hr : tgt.report = some r) (elapsed : Bool) :
    (client env).run s [.poll t elapsed, .extract t] = some
      ({ s.setThread t .idle with stack := s.stack.setTarget call.deviceId tgt.extracted },
        [.silent, .returned r]) := by
  have hpoll := step_poll_free env hrun hth hpc hfree elapsed
  have hth' := Sys.threads_setThread_self s t (.reading { call with pc := .extracting })
  have hextract := step_extract (s := s.setThread t _) env hrun hth' rfl hp hl hr
  rw [Sys.setThread_setThread] at hextract
  simp only [Machine.run, hpoll, hextract, Option.bind_some, Option.map_some]
  rfl

/-! ### The whole call -/

/-- The answer to a request, when no other device at a matching address has its id. -/
theorem find_of_sent {s' : Sys} {d : DeviceId} {args : ReadArgs} {id : UInt8}
    {frame : Option (BacnetIpAddress × List UInt8)} {tgt : TargetDevice}
    (hdist : Distinguished s (.send t d args))
    (hs : Step env s (.send t d args) s' (.sent id frame))
    (hl : s.stack.targets.lookup d = some tgt) (order : List DeviceId) {src : BacnetAddress}
    (hmatch : addressMatch tgt.addr src = true) :
    findMatchingDevice order s'.stack.targets src id = some d := by
  have hsent : s'.stack.targets.lookup d = some { tgt with request := some (id, .ongoing) } := by
    cases hs with
    | send _ _ _ tgt' stack _ _ hth hp hl' hse =>
        cases hl.symm.trans hl'
        exact Stack.lookup_setTarget_self _ _ _
  cases hf : findMatchingDevice order s'.stack.targets src id with
  | none =>
      have hno := findMatchingDevice_eq_none.mp hf d _ hsent
      rw [TargetDevice.awaits, hmatch, Option.map_some, beq_self_eq_true] at hno
      cases hno
  | some d' =>
      obtain ⟨tgt', hl', haw⟩ := findMatchingDevice_eq_some hf
      rcases awaits_cases hs hl' haw with ⟨tgt₀, hl₀, haw₀, -⟩ | ⟨u, args', frame', tgt₀, he, -⟩
      · by_contra hne
        have hne' : d' ≠ d := fun hd => hne (by rw [hd])
        rw [not_awaits_of_distinguished hdist hs rfl rfl hl hmatch hne' hl₀] at haw₀
        cases haw₀
      · cases he
        rfl

/-- A read whose request can go out, with an id that no other device at a matching address
has in its entry, returns what its device answers. -/
theorem read_returns (ht : s.stack.tsm.Ok) (hrun : s.aborted = false)
    (hidle : s.threads t = .idle) (hp : s.stack.poisoned = false)
    (hreplies : s.stack.handlers.Replies) {d : DeviceId} {args : ReadArgs} {tgt : TargetDevice}
    (hl : s.stack.targets.lookup d = some tgt) (hready : SendReady s.stack d args)
    (hdist : Distinguished s (.send t d args)) {arrivals : List Arrival}
    (hq : ∀ q ∈ arrivals, q.datagram = none) {arrival : Arrival} {src : BacnetAddress} {a : Apdu}
    {r : Result BACnetValue} (hdel : delivered env s.stack.socketOpen .fresh arrival = some (src, a))
    (hmatch : addressMatch tgt.addr src = true) (hr : a.releases = some s.stack.tsm.nextUnused)
    (hans : a.answer = some r) (elapsed : Bool) :
    ∃ s' os, (client env).run s (readSteps t d args arrivals arrival elapsed) = some (s', os) ∧
      os.getLast? = some (.returned r) := by
  have h0 := Tsm.nextUnused_ne_zero ht hready.2.1
  obtain ⟨i, frame, -, hsend, hwait⟩ := step_send env ht hrun hidle hp hl hready
  have hm := find_of_sent hdist (step_cases ht hsend) hl arrival.order hmatch
  obtain ⟨rx, os₁, hrounds, hrx⟩ := run_rounds env hwait hq
  replace hwait := hwait.setRx rx
  have hdel' : delivered env s.stack.socketOpen rx arrival = some (src, a) := by
    rw [← hdel, delivered, delivered, hrx]
  obtain ⟨s₂, rx', tgt', hanswer, hrun₂, hth₂, hp₂, hfree, hl₂, hreport⟩ :=
    step_answer hwait hp hreplies hdel' hr hans hm
  obtain ⟨s₃, hextract⟩ : ∃ s₃, (client env).run s₂ [.poll t elapsed, .extract t] =
      some (s₃, [.silent, .returned r]) :=
    ⟨_, run_extract env hrun₂ hth₂ rfl hp₂ hfree hl₂ hreport elapsed⟩
  refine ⟨s₃, .sent s.stack.tsm.nextUnused frame :: (os₁ ++ [.silent, .silent, .returned r]),
    ?_, ?_⟩
  · refine (Machine.run_cons _).mpr ⟨_, hsend, _, (Machine.run_append _).mpr ⟨_, hrounds,
      [.silent, .silent, .returned r], ?_, rfl⟩, rfl⟩
    exact (Machine.run_cons _).mpr ⟨_, hanswer, _, hextract, rfl⟩
  · rw [← List.cons_append, List.getLast?_append]
    rfl

end Bacnet
