import Bacnet.Bindings
import Bacnet.Request
import Bacnet.UniqueMatch

/-!
# Bacnet.Rebinding

The address of a connected device is kept twice: the address cache has the one requests are
sent to, the map of tracked devices the one replies are matched against. An I-Am rewrites
the first and leaves the second, so they stay the same as long as every I-Am that names a
tracked device comes from where the device is tracked. A reply from there is then matched
against the right device unless another one at that address still has the id in its entry.
-/

namespace Bacnet

open Bacnet.Lib

variable {env : Env} {s s' s₀ : Sys} {e : Event} {o : Output} {es es₀ : List Event}
  {os os₀ : List Output}

/-- A step of a call of `read_prop_at`. -/
def Event.reads : Event → Bool
  | send _ _ _ => true
  | receive _ _ => true
  | poll _ _ => true
  | extract _ => true
  | _ => false

/-! ### The two copies -/

/-- A binding serves a device that is tracked at `addr`: requests go where the replies are
expected from, and all of them fit. -/
def Serves (p : UInt32 × BacnetAddress) (addr : BacnetAddress) : Prop :=
  addressMatch p.2 addr = true ∧ Fits p.2 p.1

instance (p : UInt32 × BacnetAddress) (addr : BacnetAddress) : Decidable (Serves p addr) :=
  inferInstanceAs (Decidable (_ ∧ _))

/-- Every tracked device has a binding that serves it. -/
def Agrees (s : Stack) : Prop :=
  ∀ d tgt, s.targets.lookup d = some tgt →
    ∃ p, s.cache.addressGetByDevice d = some p ∧ Serves p tgt.addr

instance (s : Stack) : Decidable (Agrees s) :=
  haveI := List.decidableBAll (α := DeviceId)
  decidable_of_iff
    (∀ d ∈ s.targets.keys, ∀ tgt ∈ s.targets.lookup d,
      ∃ p ∈ s.cache.addressGetByDevice d, Serves p tgt.addr) (by
    constructor
    · intro h d tgt hl
      exact h d (AList.lookup_isSome.mp (by rw [hl]; rfl)) tgt hl
    · intro h d _ tgt hl
      exact h d tgt hl)

/-- The I-Am that a step passes on to `handler_i_am_bind`, with its source. -/
def announced (env : Env) (s : Sys) (e : Event) : Option (BacnetAddress × IAm) :=
  if s.stack.handlers.iAm = some .handlerIAmBind then
    match arriving env s e with
    | some (src, .iAm request) => (iamDecodeServiceRequest request).map fun i => (src, i)
    | _ => none
  else none

/-- An I-Am that names a tracked device serves it. -/
def Genuine (env : Env) (s : Sys) (e : Event) : Prop :=
  ∀ r ∈ announced env s e, ∀ tgt ∈ s.stack.targets.lookup r.2.deviceId,
    Serves (r.2.maxApdu, r.1) tgt.addr

instance (s : Sys) (e : Event) : Decidable (Genuine env s e) :=
  inferInstanceAs (Decidable (∀ r ∈ announced env s e, ∀ tgt ∈ _, _))

/-! ### One step -/

/-- Only an I-Am changes the cache while the client reads. -/
theorem cache_of_reads (hreads : e.reads = true) (hs : Step env s e s' o) :
    s'.stack.cache = s.stack.cache ∨ ∃ src i, announced env s e = some (src, i) ∧
      s'.stack.cache = s.stack.cache.addressAddBinding i.deviceId i.maxApdu src := by
  have hstack := stack_cases hs
  generalize s'.stack = stack' at hstack
  cases hstack with
  | same _ _ _ => exact Or.inl rfl
  | connect t b stack he _ =>
      rw [he] at hreads
      cases hreads
  | disconnect t d he _ =>
      rw [he] at hreads
      cases hreads
  | send t d args tgt stack id frame _ _ _ hs => cases hs <;> exact Or.inl rfl
  | apdu t arrival src a stack _ _ harr he =>
      cases he with
      | none _ => exact Or.inl rfl
      | binding i _ hb hi =>
          obtain ⟨request, ha, hdec⟩ := hi
          refine Or.inr ⟨src, i, ?_, rfl⟩
          rw [announced, if_pos hb, harr, ha]
          exact congrArg (Option.map fun i => (src, i)) hdec
      | discovery device _ _ => exact Or.inl rfl
      | released id _ _ => exact Or.inl rfl
      | taken id _ f _ d t _ _ _ => exact Or.inl rfl
  | extract t call stack _ _ _ hx => cases hx <;> exact Or.inl rfl
  | whoisStart t subnet he _ =>
      rw [he] at hreads
      cases hreads
  | whoisClose t he _ => exact Or.inl rfl
  | whoisDrain t he _ => exact Or.inl rfl

/-- Nothing but a `connect` changes where a device is tracked. -/
theorem addr_of_reads (hreads : e.reads = true) (hs : Step env s e s' o) (d : DeviceId) :
    (s'.stack.targets.lookup d).map TargetDevice.addr =
      (s.stack.targets.lookup d).map TargetDevice.addr := by
  have hentry := entry_cases hs d
  generalize s'.stack.targets.lookup d = entry at hentry
  cases hentry with
  | same entry hl _ => rw [hl]
  | connected t b addr he _ _ =>
      rw [he] at hreads
      cases hreads
  | sent t args tgt id frame _ _ hl => rw [hl, Option.map_some, Option.map_some]
  | replied t arrival src a id f tgt _ _ hr hf _ hl =>
      obtain ⟨r, -, hans⟩ := answered_of_update hf hr
      rw [hl, Option.map_some, Option.map_some, (hans tgt).addr]
  | taken t call tgt value _ _ _ _ hl => rw [hl, Option.map_some, Option.map_some]

theorem agrees_step (h : Agrees s.stack) (hreads : e.reads = true) (hgen : Genuine env s e)
    (hs : Step env s e s' o) : Agrees s'.stack := by
  intro d tgt' hl'
  have haddr := addr_of_reads hreads hs d
  rw [hl', Option.map_some, eq_comm, Option.map_eq_some_iff] at haddr
  obtain ⟨tgt, hl, htgt⟩ := haddr
  obtain ⟨p, hget, hserves⟩ := h d tgt hl
  rw [← htgt]
  rcases cache_of_reads hreads hs with heq | ⟨src, i, hann, heq⟩
  · exact ⟨p, by rw [heq, hget], hserves⟩
  · rw [heq]
    by_cases hd : d = i.deviceId
    · subst hd
      have hcached := AddressCache.cached_of_addressGetByDevice hget
      exact ⟨_, AddressCache.addressGetByDevice_addressAddBinding_self hcached,
        hgen _ hann tgt hl⟩
    · exact ⟨p, by rw [AddressCache.addressGetByDevice_addressAddBinding_ne hd, hget], hserves⟩

/-- A request is sent to where its device is tracked, if a slot is free. -/
theorem sent_of_agrees (ht : s.stack.tsm.Ok) (hdcc : s.stack.dcc = .enable)
    (h : Agrees s.stack) {t : Nat} {d : DeviceId} {args : ReadArgs} {id : UInt8}
    {frame : Option (BacnetIpAddress × List UInt8)} {tgt : TargetDevice}
    (hs : Step env s (.send t d args) s' (.sent id frame))
    (hl : s.stack.targets.lookup d = some tgt) :
    (id = 0 ∧ s.stack.tsm.transactionAvailable = false) ∨
      (id ≠ 0 ∧ frame =
        bvlcSendPdu env.bip s.stack.socketOpen tgt.addr (requestPdu tgt.addr id args)) := by
  obtain ⟨p, hget, hmatch, hfits⟩ := h d tgt hl
  cases hs with
  | send _ _ _ tgt' stack _ _ hth hp hl' hse =>
      cases hse with
      | failed tsm hn _ _ =>
          refine Or.inl ⟨rfl, ?_⟩
          rw [← Bool.not_eq_true]
          exact fun hav => hn ⟨hdcc, hav, p.1, p.2, hget, hfits args⟩
      | sent m dest i hready hg _ =>
          rw [hget] at hg
          cases hg
          exact Or.inr ⟨Tsm.nextUnused_ne_zero ht hready.2.1, frame_of_match hmatch _ _ _ _⟩

/-- A reply that says `r` completes the request of the device that it matches. -/
theorem completes_of_awaits (hwf : s.Wf) (hu : UniqueMatch s.stack.targets) {t : Nat}
    {arrival : Arrival} {src : BacnetAddress} {a : Apdu} {id : UInt8} {r : Result BACnetValue}
    {d : DeviceId} {tgt : TargetDevice} (hs : Step env s (.receive t arrival) s' o)
    (hp : s.stack.poisoned = false)
    (harr : arriving env s (.receive t arrival) = some (src, a)) (hr : a.releases = some id)
    (hans : a.answer = some r) (hl : s.stack.targets.lookup d = some tgt)
    (haw : tgt.awaits src id = true) :
    ∃ tgt', s'.stack.targets.lookup d = some tgt' ∧ tgt'.report = some r := by
  have hreplies := hwf.installed (hwf.tracked d tgt hl)
  have ho : o ≠ .aborted := not_aborted_of_releases hs hp harr hr
  obtain ⟨f, hf⟩ := update_of_answer hans
  have hm := findMatchingDevice_of_unique hu arrival.order hl haw
  obtain ⟨tgt₁, -, hafter⟩ := taken_of_match hs ho hreplies harr hr hf hm
  obtain ⟨r', hans', hset⟩ := answered_of_update hf hr
  rw [hans] at hans'
  cases hans'
  exact ⟨f tgt₁, hafter, (hset tgt₁).report⟩

/-! ### Runs -/

theorem agrees_run (hwf : s₀.Wf) (hagree : Agrees s₀.stack) (hreads : ∀ e ∈ es, e.reads = true)
    (hall : (client env).All (Genuine env) s₀ es)
    (hrun : (client env).run s₀ es = some (s, os)) :
    s.Wf ∧ Agrees s.stack ∧ s.stack.dcc = s₀.stack.dcc ∧
      ∀ d, (s.stack.targets.lookup d).map TargetDevice.addr =
        (s₀.stack.targets.lookup d).map TargetDevice.addr := by
  refine invariant_run
    (I := fun s => Agrees s.stack ∧ s.stack.dcc = s₀.stack.dcc ∧
      ∀ d, (s.stack.targets.lookup d).map TargetDevice.addr =
        (s₀.stack.targets.lookup d).map TargetDevice.addr)
    hwf ⟨hagree, rfl, fun _ => rfl⟩ ((Machine.All.of_mem hreads s₀).and hall) hrun ?_
  intro s e s' o _ ⟨h, hdcc, haddr⟩ ⟨hreads, hgen⟩ hs
  exact ⟨agrees_step h hreads hgen hs, (dcc_step hs).trans hdcc,
    fun d => (addr_of_reads hreads hs d).trans (haddr d)⟩

/-- Every request of the run is sent to where its device is tracked, unless no slot is
free. -/
def SentToTracked (env : Env) (s₀ : Sys) (es : List Event) : Prop :=
  ∀ i u t d args id frame u' tgt,
    (client env).At s₀ es i u (.send t d args) (.sent id frame) u' →
    u.stack.targets.lookup d = some tgt →
    (id = 0 ∧ u.stack.tsm.transactionAvailable = false) ∨
      (id ≠ 0 ∧ frame =
        bvlcSendPdu env.bip u.stack.socketOpen tgt.addr (requestPdu tgt.addr id args))

/-- A reply from where the request `id` of a device was sent to completes it, while it is
the request of the device. -/
def RepliesComplete (env : Env) (s₀ : Sys) (es : List Event) : Prop :=
  ∀ i j u t d args id frame u' p v t' arrival o v' src a r tgt status,
    (client env).At s₀ es i u (.send t d args) (.sent id frame) u' → i < j →
    u.stack.cache.addressGetByDevice d = some p →
    (client env).At s₀ es j v (.receive t' arrival) o v' → v.stack.poisoned = false →
    arriving env v (.receive t' arrival) = some (src, a) → addressMatch p.2 src = true →
    a.releases = some id → a.answer = some r →
    v.stack.targets.lookup d = some tgt → tgt.request = some (id, status) →
    ∃ tgt', v'.stack.targets.lookup d = some tgt' ∧ tgt'.report = some r

/-- While the client reads, from a state in which every tracked device has a binding that
serves it: as long as every I-Am that names a tracked device serves it, they all keep such a
binding and requests go where the devices are tracked. As long as no request is sent with an
id that another device there has in its entry, a reply from there completes the request. -/
theorem agrees_of_genuine (hreach : (client env).run .init es₀ = some (s₀, os₀))
    (hagree : Agrees s₀.stack) (hunique : UniqueMatch s₀.stack.targets)
    (hreads : ∀ e ∈ es, e.reads = true) (hall : (client env).All (Genuine env) s₀ es)
    (hids : (client env).All Distinguished s₀ es)
    (hrun : (client env).run s₀ es = some (s, os)) :
    Agrees s.stack ∧ SentToTracked env s₀ es ∧ RepliesComplete env s₀ es := by
  have hwf₀ := wf_run hreach
  -- What is known of the state that a step of the run is taken in.
  have hbefore : ∀ {i u e o u'}, (client env).At s₀ es i u e o u' →
      (u.Wf ∧ Agrees u.stack ∧ u.stack.dcc = s₀.stack.dcc ∧
        ∀ d, (u.stack.targets.lookup d).map TargetDevice.addr =
          (s₀.stack.targets.lookup d).map TargetDevice.addr) ∧ UniqueMatch u.stack.targets := by
    intro i u e o u' hat
    obtain ⟨os₁, hos₁⟩ := hat.before
    rw [← List.take_append_drop i es] at hall hids
    exact ⟨agrees_run hwf₀ hagree (fun e he => hreads e (List.mem_of_mem_take he))
      hall.append_left hos₁, uniqueMatch_run hwf₀ hunique hids.append_left hos₁⟩
  refine ⟨(agrees_run hwf₀ hagree hreads hall hrun).2.1, ?_, ?_⟩
  · intro i u t d args id frame u' tgt hat hl
    obtain ⟨⟨hwf, hu, hdcc, -⟩, -⟩ := hbefore hat
    exact sent_of_agrees hwf.tsm (hdcc.trans (dcc_run hreach)) hu
      (step_cases hwf.tsm hat.step) hl
  · intro i j u t d args id frame u' p v t' arrival o v' src a r tgt status hsend _ hget hrecv hp
      harr hmatch hr hans hl hreq
    obtain ⟨⟨hwfu, hu, -, haddru⟩, -⟩ := hbefore hsend
    obtain ⟨⟨hwf, -, -, haddr⟩, huv⟩ := hbefore hrecv
    -- The device is tracked where it was when the request was sent.
    have hsame := (haddr d).trans (haddru d).symm
    rw [hl, Option.map_some, eq_comm, Option.map_eq_some_iff] at hsame
    obtain ⟨tgtu, hlu, htgt⟩ := hsame
    obtain ⟨q, hgetq, hserves⟩ := hu d tgtu hlu
    rw [hget] at hgetq
    cases hgetq
    have hsrc := addressMatch_trans (addressMatch_symm hserves.1) hmatch
    rw [htgt] at hsrc
    exact completes_of_awaits hwf huv (step_cases hwf.tsm hrecv.step) hp harr hr hans hl
      (TargetDevice.awaits_iff.mpr ⟨hsrc, status, hreq⟩)

/-- An I-Am of the device `deviceId`, which takes APDUs of 1476 octets. -/
def lanIAm (deviceId : UInt8) : List UInt8 :=
  [0x10, 0, 0xc4, 0x02, 0, 0, deviceId, 0x22, 0x05, 0xc4, 0x91, 0x03, 0x21, 15]

/-- A read during which the device announces itself, and another device somewhere else. -/
def announcedRead : List Event :=
  [.send 0 7 presentValue, .receive 0 (lanMessage 2 (lanIAm 7)), .poll 0 false,
    .receive 0 (lanMessage 66 (lanIAm 8)), .poll 0 false,
    .receive 0 (lanMessage 2 (presentValueAck 1 0 42)), .poll 0 false, .extract 0]

theorem agrees_announcedRead :
    ∃ s₀ os₀ s os, (client lan).run .init [.connect 0 (lanDevice 7 2)] = some (s₀, os₀) ∧
      (client lan).run s₀ announcedRead = some (s, os) ∧
      Agrees s.stack ∧ SentToTracked lan s₀ announcedRead ∧
      RepliesComplete lan s₀ announcedRead := by
  have hsome : ((client lan).run .init ([.connect 0 (lanDevice 7 2)] ++ announcedRead)).any
      (fun _ => true) = true := by
    decide +kernel
  have hagrees : ((client lan).run .init [.connect 0 (lanDevice 7 2)]).any
      (fun r => decide (Agrees r.1.stack)) = true := by
    decide +kernel
  have hall : (client lan).All (Genuine lan) .init
      ([.connect 0 (lanDevice 7 2)] ++ announcedRead) := by
    decide +kernel
  have hids : (client lan).All Distinguished .init
      ([.connect 0 (lanDevice 7 2)] ++ announcedRead) := by
    decide +kernel
  obtain ⟨s₀, os₀, hrun₀, hp⟩ := Machine.exists_run hagrees
  obtain ⟨s, os', hrun', -⟩ := Machine.exists_run hsome
  obtain ⟨m, hm, os, hrun, -⟩ := (Machine.run_append _).mp hrun'
  rw [hrun₀] at hm
  cases hm
  have hgen := hall.append_right hrun₀
  have hunique := uniqueMatch_run Sys.wf_init uniqueMatch_init hids.append_left hrun₀
  exact ⟨s₀, os₀, s, os, hrun₀, hrun, agrees_of_genuine hrun₀ (of_decide_eq_true hp) hunique
    (by decide +kernel) hgen (hids.append_right hrun₀) hrun⟩

/-! ### An I-Am from somewhere else -/

/-- The client reads a device twice. Before the first answer, 10.0.0.66 announces itself as
the device. -/
def redirectedReads : List Event :=
  [.send 0 7 presentValue, .receive 0 (lanMessage 66 (lanIAm 7)), .poll 0 false,
    .receive 0 (lanMessage 2 (presentValueAck 1 0 42)), .poll 0 false, .extract 0,
    .send 0 7 presentValue, .receive 0 (lanMessage 66 (presentValueAck 2 0 43)), .poll 0 false,
    .extract 0]

/-- The request of the output went to 10.0.0.`host`. -/
def Output.sentToHost (host : UInt8) : Output → Bool
  | sent _ (some (endpoint, _)) => decide (endpoint.address = (lanDevice 7 host).ip)
  | _ => false

/-- The second request goes to 10.0.0.66, and the answer from there makes the client
panic. -/
theorem redirectedReads_panics :
    ∃ s₀ os₀ s os, (client lan).run .init [.connect 0 (lanDevice 7 2)] = some (s₀, os₀) ∧
      Agrees s₀.stack ∧ (∀ e ∈ redirectedReads, e.reads = true) ∧
      (client lan).run s₀ redirectedReads = some (s, os) ∧ ¬ Agrees s.stack ∧
      os[6]?.any (Output.sentToHost 66) = true ∧ Output.panicked ∈ os := by
  have hagrees : ((client lan).run .init [.connect 0 (lanDevice 7 2)]).any (fun r =>
      decide (Agrees r.1.stack) && ((client lan).run r.1 redirectedReads).any (fun q =>
        decide (¬ Agrees q.1.stack) && (q.2[6]?.any (Output.sentToHost 66) &&
          decide (Output.panicked ∈ q.2)))) = true := by
    decide +kernel
  obtain ⟨s₀, os₀, hrun₀, hp⟩ := Machine.exists_run hagrees
  rw [Bool.and_eq_true, decide_eq_true_eq] at hp
  obtain ⟨hagree, hp⟩ := hp
  obtain ⟨s, os, hrun, hq⟩ := Machine.exists_run hp
  simp only [Bool.and_eq_true, decide_eq_true_eq] at hq
  exact ⟨s₀, os₀, s, os, hrun₀, hagree, by decide +kernel, hrun, hq.1, hq.2.1, hq.2.2⟩

end Bacnet
