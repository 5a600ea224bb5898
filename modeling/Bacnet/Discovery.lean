import Bacnet.Bindings
import Bacnet.Progress
import Bacnet.Request

/-!
# Bacnet.Discovery

Discovering and reading in one program. `WhoIs::execute` empties the address cache, puts its
own handlers in place and closes the socket when it is done, while `connect` sets the stack
up once in the life of the process. So a device that is connected when a discovery starts is
lost, and a `connect` after a discovery works if it is the first.
-/

namespace Bacnet

open Bacnet.Lib

variable {env : Env} {s s' : Sys} {e : Event} {o : Output} {es : List Event} {os : List Output}

/-- A discovery starts while no device is tracked, and a `connect` sets the stack up or finds
the socket open. -/
def InOrder (s : Sys) (e : Event) : Prop :=
  match e with
  | .whoisStart _ _ => s.stack.targets.keys = []
  | .connect _ _ => s.stack.initDone = false ∨ s.stack.socketOpen = true
  | _ => True

/-! ### The socket and the handlers -/

/-- A step that opens or closes the socket, registers handlers, or takes a thread further in
a discovery. -/
def Event.setsUp : Event → Bool
  | connect _ _ => true
  | whoisStart _ _ => true
  | whoisClose _ => true
  | whoisDrain _ => true
  | _ => false

/-- How far a thread is in a discovery. -/
inductive Stage where
  | outside
  | receiving
  | draining

def Thread.stage : Thread → Stage
  | discovering _ => .receiving
  | draining => .draining
  | _ => .outside

theorem stage_setThread (s : Sys) (t u : Nat) (th : Thread)
    (h : th.stage = (s.threads t).stage) :
    ((s.setThread t th).threads u).stage = (s.threads u).stage := by
  rw [Sys.threads_setThread]
  split
  · rename_i hu
    rw [hu, h]
  · rfl

theorem Receives.stage_eq {th : Thread} {rx : RxState} {next : RxState → Thread}
    (h : Receives th rx next) (rx' : RxState) : (next rx').stage = th.stage := by
  cases h <;> rfl

/-- The other steps leave all of that alone. -/
theorem shared_of_step (hset : e.setsUp = false) (hs : Step env s e s' o) :
    s'.stack.socketOpen = s.stack.socketOpen ∧ s'.stack.handlers = s.stack.handlers ∧
      s'.stack.initDone = s.stack.initDone ∧
      ∀ u, (s'.threads u).stage = (s.threads u).stage := by
  cases hs with
  | connect t b stack o hth hc => cases hset
  | disconnect t d hth => exact ⟨rfl, rfl, rfl, fun _ => rfl⟩
  | sendPoisoned t d args hth hp => exact ⟨rfl, rfl, rfl, fun _ => rfl⟩
  | sendUnknown t d args hth hp hl => exact ⟨rfl, rfl, rfl, fun _ => rfl⟩
  | send t d args tgt stack id frame hth hp hl hs =>
      have hthread := fun u => stage_setThread s t u
        (.reading ⟨d, args, id, .fresh, .receiving⟩) (by rw [hth]; rfl)
      cases hs with
      | failed tsm _ _ _ => exact ⟨rfl, rfl, rfl, hthread⟩
      | sent m dest i _ _ _ => exact ⟨rfl, rfl, rfl, hthread⟩
  | receive t arrival rx' stack hth hr =>
      have hthread := fun u => stage_setThread s t u _ (hth.stage_eq rx')
      cases hr with
      | nothing hd => exact ⟨rfl, rfl, rfl, hthread⟩
      | apdu src a hd he => cases he <;> exact ⟨rfl, rfl, rfl, hthread⟩
  | abort t arrival hth ha => exact ⟨rfl, rfl, rfl, fun _ => rfl⟩
  | pollAgain t elapsed call hth hpc hres he =>
      exact ⟨rfl, rfl, rfl, fun u => stage_setThread s t u _ (by rw [hth]; rfl)⟩
  | pollFree t elapsed call hth hpc hfree =>
      exact ⟨rfl, rfl, rfl, fun u => stage_setThread s t u _ (by rw [hth]; rfl)⟩
  | pollFailed t elapsed call hth hpc hid hav =>
      exact ⟨rfl, rfl, rfl, fun u => stage_setThread s t u _ (by rw [hth]; rfl)⟩
  | pollElapsed t call hth hpc hres =>
      exact ⟨rfl, rfl, rfl, fun u => stage_setThread s t u _ (by rw [hth]; rfl)⟩
  | extract t call stack o hth hpc hx =>
      have hthread := fun u => stage_setThread s t u .idle (by rw [hth]; rfl)
      cases hx <;> exact ⟨rfl, rfl, rfl, hthread⟩
  | whoisStart t subnet hth => cases hset
  | whoisClose t rx hth => cases hset
  | whoisDrain t hth => cases hset

/-- A socket that is open after the one-time initialisation, and not for a discovery, has the
handlers of `connect`; a discovery that is over has closed it. -/
structure Kept (s : Sys) : Prop where
  initialised : s.stack.initDone = true → s.stack.socketOpen = true →
    (s.threads 0).stage ≠ .receiving → s.stack.handlers = .installed
  closed : (s.threads 0).stage = .draining → s.stack.socketOpen = false

theorem kept_init : Kept .init where
  initialised h := by cases h
  closed h := by cases h

theorem handlers_stackInit (env : Env) {stack : Stack}
    (h : stack.initDone = true → stack.socketOpen = true → stack.handlers = .installed)
    (hopen : (stackInit env stack).socketOpen = true) :
    (stackInit env stack).handlers = .installed := by
  rw [stackInit] at hopen ⊢
  split
  · rename_i hdone
    rw [if_pos hdone] at hopen
    exact h hdone hopen
  · rfl

theorem socketOpen_stackInit (env : Env) (stack : Stack) :
    (stackInit env stack).socketOpen = true ↔
      stack.initDone = false ∨ stack.socketOpen = true := by
  rw [stackInit]
  split
  · rename_i hdone
    simp [hdone]
  · rename_i hnot
    exact ⟨fun _ => Or.inl (Bool.eq_false_iff.mpr hnot), fun _ => rfl⟩

/-- Whatever comes of it, a `connect` sets the stack up, and leaves the socket and the
handlers at that. -/
theorem ConnectEffect.shared {stack stack' : Stack} {b : BACnetDeviceBuilder}
    (h : ConnectEffect env stack b stack' o) :
    stack'.socketOpen = (stackInit env stack).socketOpen ∧
      stack'.handlers = (stackInit env stack).handlers := by
  cases h <;> exact ⟨rfl, rfl⟩

theorem kept_step (h : Kept s) (h0 : e.thread = 0) (hs : Step env s e s' o) : Kept s' := by
  cases hset : e.setsUp with
  | false =>
      obtain ⟨hopen, hhandlers, hdone, hstage⟩ := shared_of_step hset hs
      refine ⟨fun hd ho hne => ?_, fun hdrain => ?_⟩
      · rw [hdone] at hd
        rw [hopen] at ho
        rw [hstage 0] at hne
        rw [hhandlers]
        exact h.initialised hd ho hne
      · rw [hstage 0] at hdrain
        rw [hopen]
        exact h.closed hdrain
  | true =>
      cases hs with
      | connect t b stack o hth hc =>
          replace h0 : t = 0 := h0
          subst h0
          replace hth : s.threads 0 = .idle := hth
          obtain ⟨hopen, hhandlers⟩ := hc.shared
          refine ⟨fun _ ho _ => ?_, fun hdrain => ?_⟩
          · rw [hopen] at ho
            rw [hhandlers]
            exact handlers_stackInit env
              (fun hd ho => h.initialised hd ho (by rw [hth]; nofun)) ho
          · rw [show ({ s with stack } : Sys).threads 0 = .idle from hth] at hdrain
            cases hdrain
      | whoisStart t subnet hth =>
          replace h0 : t = 0 := h0
          subst h0
          refine ⟨fun _ _ hne => ?_, fun hdrain => ?_⟩
          · exact absurd (congrArg Thread.stage (Sys.threads_setThread_self s 0 _)) hne
          · rw [Sys.threads_setThread_self] at hdrain
            cases hdrain
      | whoisClose t rx hth => exact ⟨fun _ ho _ => (by cases ho), fun _ => rfl⟩
      | whoisDrain t hth =>
          replace h0 : t = 0 := h0
          subst h0
          have hclosed : s.stack.socketOpen = false := h.closed (by rw [hth]; rfl)
          exact ⟨fun _ ho _ => absurd (hclosed.symm.trans ho) nofun, fun _ => hclosed⟩
      | disconnect t d hth => cases hset
      | sendPoisoned t d args hth hp => cases hset
      | sendUnknown t d args hth hp hl => cases hset
      | send t d args tgt stack id frame hth hp hl hs => cases hset
      | receive t arrival rx' stack hth hr => cases hset
      | abort t arrival hth ha => cases hset
      | pollAgain t elapsed call hth hpc hres he => cases hset
      | pollFree t elapsed call hth hpc hfree => cases hset
      | pollFailed t elapsed call hth hpc hid hav => cases hset
      | pollElapsed t call hth hpc hres => cases hset
      | extract t call stack o hth hpc hx => cases hset

theorem kept_run (hsolo : SingleThreaded es) (hrun : (client env).run .init es = some (s, os)) :
    Kept s :=
  (invariant_run Sys.wf_init kept_init (Machine.All.of_mem hsolo Sys.init) hrun
    fun _ _ _ _ _ h h0 hs => kept_step h h0 hs).2

/-- A discovery leaves the socket closed. -/
theorem closed_of_drain (h : Kept s) {t : Nat} (h0 : t = 0)
    (hs : Step env s (.whoisDrain t) s' o) : s'.stack.socketOpen = false := by
  subst h0
  cases hs with
  | whoisDrain _ hth => exact h.closed (by rw [hth]; rfl)

/-- A `connect` leaves the socket open if it sets the stack up or finds it open, and the
handlers for reading with it. -/
theorem shared_of_connected (h : Kept s) {t : Nat} (h0 : t = 0) {b : BACnetDeviceBuilder}
    (hs : Step env s (.connect t b) s' o) :
    (s'.stack.socketOpen = true ↔ InOrder s (.connect t b)) ∧
      (s'.stack.socketOpen = true → s'.stack.handlers = .installed) := by
  subst h0
  cases hs with
  | connect _ _ stack _ hth hc =>
      replace hth : s.threads 0 = .idle := hth
      obtain ⟨hopen, hhandlers⟩ := hc.shared
      rw [hopen, hhandlers]
      exact ⟨socketOpen_stackInit env s.stack, handlers_stackInit env
        fun hd ho => h.initialised hd ho (by rw [hth]; nofun)⟩

/-! ### Reading after a `connect` -/

theorem lookup_of_keys_nil {targets : Targets} (h : targets.keys = []) (d : DeviceId) :
    targets.lookup d = none := by
  rw [AList.lookup_eq_none, AList.mem_keys, h]
  exact List.not_mem_nil

/-- A read of the device of `b` that finds a free slot, gets an id that no other device at a
matching address has in its entry, and is answered while nothing else arrives, returns what
the answer says. -/
def Readable (env : Env) (s : Sys) (t : Nat) (b : BACnetDeviceBuilder) : Prop :=
  ∀ args arrivals arrival elapsed src a r, s.stack.tsm.transactionAvailable = true →
    Distinguished s (.send t b.deviceId args) → (∀ q ∈ arrivals, q.datagram = none) →
    delivered env true .fresh arrival = some (src, a) → addressMatch b.build src = true →
    a.releases = some s.stack.tsm.nextUnused → a.answer = some r →
    ∃ s' os, (client env).run s (readSteps t b.deviceId args arrivals arrival elapsed) =
      some (s', os) ∧ os.getLast? = some (.returned r)

theorem readable_of_connected {t : Nat} {b : BACnetDeviceBuilder} (hwf : s.Wf)
    (hsound : s.stack.cache.Sound) (hdcc : s.stack.dcc = .enable)
    (hs : (client env).step s (.connect t b) = some (s', .connected (.ok ())))
    (hopen : s'.stack.socketOpen = true) (hhandlers : s'.stack.handlers = .installed) :
    Readable env s' t b := by
  have hstep := step_cases hwf.tsm hs
  have hrun := not_aborted_of_step hs
  obtain ⟨hget, hl⟩ := bound_of_connected hsound hstep
  have hdcc' : s'.stack.dcc = .enable := (dcc_step hstep).trans hdcc
  obtain ⟨hrun', hidle, hp⟩ : s'.aborted = false ∧ s'.threads t = .idle ∧
      s'.stack.poisoned = false := by
    cases hstep with
    | connect _ _ stack _ hth hc =>
        cases hc with
        | ok m addr cache hp _ => exact ⟨hrun, hth, (stackInit_poisoned env s.stack).trans hp⟩
  intro args arrivals arrival elapsed src a r hav hdist hq hdel hmatch hr hans
  have hready : SendReady s'.stack b.deviceId args :=
    ⟨hdcc', hav, _, _, hget, fits_maxApdu b.build args⟩
  rw [← hopen] at hdel
  exact read_returns (wf_step hwf hs).tsm hrun' hidle hp
    (by rw [hhandlers]; exact ⟨rfl, rfl, rfl, rfl⟩) hl hready hdist hq hdel hmatch hr hans elapsed

/-- With one thread, a discovery leaves the devices that are connected as they were only if
there are none, and a `connect` that succeeds leaves an open socket and the handlers for
reading, so that an answering device can be read, exactly if it sets the stack up or finds
the socket open. -/
theorem readable_iff_inOrder (hsolo : SingleThreaded es) :
    (∀ i j u t subnet o u' v o' v', (client env).At .init es i u (.whoisStart t subnet) o u' →
      i < j → (client env).At .init es j v (.whoisDrain t) o' v' →
      ((∀ d tgt, u.stack.targets.lookup d = some tgt →
        v'.stack.cache.addressGetByDevice d = u.stack.cache.addressGetByDevice d ∧
        v'.stack.socketOpen = true ∧ v'.stack.handlers = u.stack.handlers) ↔
          InOrder u (.whoisStart t subnet))) ∧
    (∀ i u t b u', (client env).At .init es i u (.connect t b) (.connected (.ok ())) u' →
      ((u'.stack.socketOpen = true ∧ u'.stack.handlers = .installed ∧ Readable env u' t b) ↔
        InOrder u (.connect t b))) := by
  have hkept : ∀ {i u e o u'}, (client env).At .init es i u e o u' → Kept u ∧ e.thread = 0 := by
    intro i u e o u' hat
    obtain ⟨os, hbefore⟩ := hat.before
    exact ⟨kept_run (fun e he => hsolo e (List.mem_of_mem_take he)) hbefore,
      hsolo e (List.mem_of_getElem? hat.event)⟩
  refine ⟨?_, ?_⟩
  · intro i j u t subnet o u' v o' v' _ _ hdrain
    obtain ⟨hk, h0⟩ := hkept hdrain
    obtain ⟨os, hbefore⟩ := hdrain.before
    have hclosed := closed_of_drain hk h0 (step_cases (wf_run hbefore).tsm hdrain.step)
    constructor
    · intro hkeeps
      refine List.eq_nil_iff_forall_not_mem.mpr fun d hd => ?_
      obtain ⟨tgt, hl⟩ := Option.isSome_iff_exists.mp (AList.lookup_isSome.mpr hd)
      have hopen := (hkeeps d tgt hl).2.1
      rw [hclosed] at hopen
      cases hopen
    · intro hnone d tgt hl
      rw [lookup_of_keys_nil hnone d] at hl
      cases hl
  · intro i u t b u' hat
    obtain ⟨hk, h0⟩ := hkept hat
    replace h0 : t = 0 := h0
    obtain ⟨os, hbefore⟩ := hat.before
    have hwf := wf_run hbefore
    obtain ⟨hopen, hhandlers⟩ := shared_of_connected hk h0 (step_cases hwf.tsm hat.step)
    rw [← hopen]
    refine ⟨fun h => h.1, fun ho => ⟨ho, hhandlers ho, ?_⟩⟩
    exact readable_of_connected hwf (sound_run hbefore) (dcc_run hbefore) hat.step ho
      (hhandlers ho)

/-- Two discoveries, and then two devices are connected and one of them read. -/
def discoveredFirst : List Event :=
  [.whoisStart 0 none, .receive 0 silence, .whoisClose 0, .whoisDrain 0, .whoisStart 0 (some 5),
    .whoisClose 0, .whoisDrain 0, .connect 0 (lanDevice 7 2), .connect 0 (lanDevice 8 3),
    .send 0 7 presentValue, .receive 0 (lanMessage 2 (presentValueAck 1 0 42)), .poll 0 false,
    .extract 0]

theorem readable_discoveredFirst :
    ((client lan).run .init discoveredFirst).any (fun r => r.2.getLast?.any (Output.isUint 42)) =
      true ∧
    (∀ i j u t subnet o u' v o' v',
      (client lan).At .init discoveredFirst i u (.whoisStart t subnet) o u' →
      i < j → (client lan).At .init discoveredFirst j v (.whoisDrain t) o' v' →
      ((∀ d tgt, u.stack.targets.lookup d = some tgt →
        v'.stack.cache.addressGetByDevice d = u.stack.cache.addressGetByDevice d ∧
        v'.stack.socketOpen = true ∧ v'.stack.handlers = u.stack.handlers) ↔
          InOrder u (.whoisStart t subnet))) ∧
    (∀ i u t b u',
      (client lan).At .init discoveredFirst i u (.connect t b) (.connected (.ok ())) u' →
      ((u'.stack.socketOpen = true ∧ u'.stack.handlers = .installed ∧ Readable lan u' t b) ↔
        InOrder u (.connect t b))) :=
  ⟨by decide +kernel, readable_iff_inOrder (by decide +kernel)⟩

/-! ### A discovery in between -/

/-- A discovery while a device is connected. -/
def discoveredLater : List Event :=
  [.connect 0 (lanDevice 7 2), .whoisStart 0 none, .whoisClose 0, .whoisDrain 0]

/-- The device is connected again, and read. -/
def reconnectedRead : List Event :=
  [.connect 0 (lanDevice 7 2), .send 0 7 presentValue, .receive 0 silence, .poll 0 true]

/-- The output says that a device is connected. -/
def Output.isConnected : Output → Bool
  | connected (.ok ()) => true
  | _ => false

/-- The request of the output was not sent to anyone. -/
def Output.isUnsent : Output → Bool
  | sent _ none => true
  | _ => false

/-- After the discovery the device is tracked, and not bound. Another `connect` succeeds, and
the read after it sends nothing: the socket stays closed. -/
theorem discoveredLater_unbinds :
    ∃ s os s' os', SingleThreaded (discoveredLater ++ reconnectedRead) ∧
      (client lan).run .init discoveredLater = some (s, os) ∧
      os[0]?.any Output.isConnected = true ∧ s.stack.targets.keys = [7] ∧
      s.stack.cache.addressGetByDevice 7 = none ∧ s.stack.socketOpen = false ∧
      (client lan).run s reconnectedRead = some (s', os') ∧
      os'[0]?.any Output.isConnected = true ∧ s'.stack.socketOpen = false ∧
      os'[1]?.any Output.isUnsent = true ∧ os'[3]?.any Output.isApduTimeout = true := by
  have htest : ((client lan).run .init discoveredLater).any (fun r =>
      decide (r.2[0]?.any Output.isConnected = true ∧ r.1.stack.targets.keys = [7] ∧
        r.1.stack.cache.addressGetByDevice 7 = none ∧ r.1.stack.socketOpen = false) &&
      ((client lan).run r.1 reconnectedRead).any (fun q =>
        decide (q.2[0]?.any Output.isConnected = true ∧ q.1.stack.socketOpen = false ∧
          q.2[1]?.any Output.isUnsent = true ∧ q.2[3]?.any Output.isApduTimeout = true))) =
      true := by
    decide +kernel
  obtain ⟨s, os, hrun, hp⟩ := Machine.exists_run htest
  rw [Bool.and_eq_true, decide_eq_true_eq] at hp
  obtain ⟨⟨hconn, htracked, hunbound, hclosed⟩, hp⟩ := hp
  obtain ⟨s', os', hrun', hq⟩ := Machine.exists_run hp
  obtain ⟨hconn', hclosed', hunsent, htimeout⟩ := of_decide_eq_true hq
  exact ⟨s, os, s', os', by decide +kernel, hrun, hconn, htracked, hunbound, hclosed, hrun',
    hconn', hclosed', hunsent, htimeout⟩

end Bacnet
