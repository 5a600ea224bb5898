import Bacnet.Bindings

/-!
# Bacnet.Capacity

How many devices can be connected at a time. The map of tracked devices grows without a
bound, the address cache has 255 entries. A `connect` that needs an entry when there is
none takes that of a connected device, which stays tracked and is not bound any more.
-/

namespace Bacnet

open Bacnet.Lib

variable {env : Env} {s s' : Sys} {e : Event} {o : Output} {es : List Event} {os : List Output}

/-- A step that connects or disconnects. -/
def Event.connects : Event → Bool
  | connect _ _ => true
  | disconnect _ _ => true
  | _ => false

/-- The step connects the device, or disconnects it. -/
def Rebinds (d : DeviceId) (e : Event) (o : Output) : Prop :=
  (∃ t b, e = .connect t b ∧ b.deviceId = d ∧ o = .connected (.ok ())) ∨
    ∃ t, e = .disconnect t d

/-- The device of `b` is connected, and was last connected with `b`. -/
def ConnectedWith (env : Env) (es : List Event) (b : BACnetDeviceBuilder) : Prop :=
  ∃ i u t o u', (client env).Latest (Rebinds b.deviceId) .init es i u (.connect t b) o u'

/-- A `connect` finds an entry of its device in the cache, or a free one. -/
def HasRoom (s : Sys) (e : Event) : Prop :=
  match e with
  | .connect _ b => s.stack.cache.Cached b.deviceId ∨ s.stack.cache.HasFree
  | _ => True

instance (c : AddressCache) (d : DeviceId) : Decidable (c.Cached d) :=
  decidable_of_iff ((c.findDevice d).isSome = true)
    (by rw [Option.isSome_iff_ne_none, ne_eq, AddressCache.findDevice_eq_none, not_not])

instance (c : AddressCache) : Decidable c.HasFree :=
  decidable_of_iff (c.findFree.isSome = true)
    (by rw [Option.isSome_iff_ne_none, ne_eq, AddressCache.findFree_eq_none, not_not])

instance (s : Sys) (e : Event) : Decidable (HasRoom s e) :=
  match e with
  | .connect .. => inferInstanceAs (Decidable (_ ∨ _))
  | .disconnect .. | .send .. | .receive .. | .poll .. | .extract .. | .whoisStart ..
  | .whoisClose .. | .whoisDrain .. => instDecidableTrue

/-! ### One step -/

/-- With room, only the step that connects or disconnects a device changes anything about
it. -/
theorem keeps_of_not_rebinds (h : s.stack.cache.Sound) (hp : s.stack.poisoned = false)
    (hconn : e.connects = true) (hroom : HasRoom s e) (hs : Step env s e s' o) {d : DeviceId}
    (hno : ¬ Rebinds d e o) :
    s'.stack.cache.addressGetByDevice d = s.stack.cache.addressGetByDevice d ∧
      s'.stack.targets.lookup d = s.stack.targets.lookup d := by
  cases hs with
  | connect t b stack o hth hc =>
      have hkeeps := connectCache_keeps (d := d) h hroom
      cases hc with
      | ok m addr cache _ hr =>
          have hne : d ≠ b.deviceId := fun hd => hno (Or.inl ⟨t, b, rfl, hd.symm, rfl⟩)
          rw [hr] at hkeeps
          refine ⟨hkeeps fun hd => absurd hd hne, ?_⟩
          rw [Stack.lookup_setTarget_ne _ hne]
          simp only [connecting, stackInit_targets]
      | failed cache hr =>
          rw [hr] at hkeeps
          refine ⟨hkeeps fun _ => rfl, ?_⟩
          simp only [connecting, stackInit_targets]
      | panicked cache hp' _ =>
          rw [hp] at hp'
          cases hp'
  | disconnect t d' hth =>
      have hne : d ≠ d' := fun hd => hno (Or.inr ⟨t, by rw [hd]⟩)
      exact ⟨AddressCache.addressGetByDevice_addressRemoveDevice_ne hne, rfl⟩
  | sendPoisoned t d' args hth hp' => cases hconn
  | sendUnknown t d' args hth hp' hl => cases hconn
  | send t d' args tgt stack id frame hth hp' hl hs => cases hconn
  | receive t arrival rx' stack hth hr => cases hconn
  | abort t arrival hth ha => cases hconn
  | pollAgain t elapsed call hth hpc hres he => cases hconn
  | pollFree t elapsed call hth hpc hfree => cases hconn
  | pollFailed t elapsed call hth hpc hid hav => cases hconn
  | pollElapsed t call hth hpc hres => cases hconn
  | extract t call stack o hth hpc hx => cases hconn
  | whoisStart t subnet hth => cases hconn
  | whoisClose t rx hth => cases hconn
  | whoisDrain t hth => cases hconn

/-- Connecting poisons nothing. -/
theorem not_poisoned_of_connects (hp : s.stack.poisoned = false) (hconn : e.connects = true)
    (hs : Step env s e s' o) : s'.stack.poisoned = false := by
  rcases panic_cases hs with ⟨heq, -⟩ | ⟨call, he, -⟩
  · rw [heq, hp]
  · rw [he] at hconn
    cases hconn

/-! ### Runs -/

/-- The device of `b` is bound, and tracked, at the address of `b`. -/
def BoundAs (s : Stack) (b : BACnetDeviceBuilder) : Prop :=
  s.cache.addressGetByDevice b.deviceId = some (UInt32.ofNat maxApdu, b.build) ∧
    ∃ tgt, s.targets.lookup b.deviceId = some tgt ∧ tgt.addr = b.build

theorem boundAs_step (hwf : s.Wf) (h : s.stack.cache.Sound) (hp : s.stack.poisoned = false)
    (hconn : e.connects = true) (hroom : HasRoom s e)
    (hrun : (client env).run .init es = some (s, os))
    (hbound : ∀ b, ConnectedWith env es b → BoundAs s.stack b)
    (hs : (client env).step s e = some (s', o)) {b : BACnetDeviceBuilder}
    (hc : ConnectedWith env (es ++ [e]) b) : BoundAs s'.stack b := by
  have hstep := step_cases hwf.tsm hs
  obtain ⟨i, u, t, p, u', hlatest⟩ := hc
  rcases hlatest.cases_concat hrun hs with ⟨hold, hno⟩ | ⟨-, he, ho, -⟩
  · obtain ⟨hget, hlookup⟩ := keeps_of_not_rebinds h hp hconn hroom hstep hno
    obtain ⟨hbind, tgt, hl, haddr⟩ := hbound b ⟨i, u, t, p, u', hold⟩
    exact ⟨hget.trans hbind, tgt, hlookup.trans hl, haddr⟩
  · rcases hlatest.holds with ⟨t', b', -, -, hok⟩ | ⟨t', hdisc⟩
    · rw [← he, ← ho, hok] at hstep
      obtain ⟨hget, hl⟩ := bound_of_connected h hstep
      exact ⟨hget, _, hl, rfl⟩
    · cases hdisc

theorem boundAs_run (hes : ∀ e ∈ es, e.connects = true)
    (hall : (client env).All HasRoom .init es)
    (hrun : (client env).run .init es = some (s, os)) :
    s.stack.poisoned = false ∧ ∀ b, ConnectedWith env es b → BoundAs s.stack b := by
  refine Machine.run_history
    (motive := fun es _ s => s.stack.poisoned = false ∧
      ∀ b, ConnectedWith env es b → BoundAs s.stack b) ?_ ?_
    ((Machine.All.of_mem hes Sys.init).and hall) hrun
  · refine ⟨rfl, fun b hc => ?_⟩
    obtain ⟨i, u, t, o, u', hlatest⟩ := hc
    exact absurd hlatest.lt (Nat.not_lt_zero i)
  · intro es os s e s' o hrun ⟨hp, hbound⟩ ⟨hconn, hroom⟩ hs
    have hwf := wf_run hrun
    exact ⟨not_poisoned_of_connects hp hconn (step_cases hwf.tsm hs),
      fun b hc => boundAs_step hwf (sound_run hrun) hp hconn hroom hrun hbound hs hc⟩

/-- As long as every `connect` finds an entry for its device, every connected device stays
bound to the address that its own `connect` supplied, which is the one it is tracked at; and
no step changes anything about a device that it does not connect or disconnect. -/
theorem bound_of_hasRoom (hes : ∀ e ∈ es, e.connects = true)
    (hall : (client env).All HasRoom .init es)
    (hrun : (client env).run .init es = some (s, os)) :
    (∀ b, ConnectedWith env es b → BoundAs s.stack b) ∧
    (∀ i u e o u', (client env).At .init es i u e o u' → ∀ d, ¬ Rebinds d e o →
      u'.stack.cache.addressGetByDevice d = u.stack.cache.addressGetByDevice d ∧
      u'.stack.targets.lookup d = u.stack.targets.lookup d) := by
  refine ⟨(boundAs_run hes hall hrun).2, fun i u e o u' hat d hno => ?_⟩
  obtain ⟨os₁, hbefore⟩ := hat.before
  have hsplit : es = es.take i ++ es.drop i := (List.take_append_drop i es).symm
  have hpre : (client env).All HasRoom .init (es.take i) := by
    rw [hsplit] at hall
    exact hall.append_left
  have hp := (boundAs_run (fun e he => hes e (List.mem_of_mem_take he)) hpre hbefore).1
  have hconn := hes e (List.mem_of_getElem? hat.event)
  exact keeps_of_not_rebinds (sound_run hbefore) hp hconn (hall.at_step hat)
    (step_cases (wf_run hbefore).tsm hat.step) hno

/-- Three devices, one of them connected twice and one disconnected. -/
def threeConnects : List Event :=
  [.connect 0 (lanDevice 7 2), .connect 0 (lanDevice 8 3), .connect 0 (lanDevice 7 4),
    .disconnect 0 8, .connect 0 (lanDevice 9 5)]

theorem bound_threeConnects :
    ∃ s os, (client lan).run .init threeConnects = some (s, os) ∧
      (∀ b, ConnectedWith lan threeConnects b → BoundAs s.stack b) ∧
      (∀ i u e o u', (client lan).At .init threeConnects i u e o u' → ∀ d, ¬ Rebinds d e o →
        u'.stack.cache.addressGetByDevice d = u.stack.cache.addressGetByDevice d ∧
        u'.stack.targets.lookup d = u.stack.targets.lookup d) := by
  have hsome : ((client lan).run .init threeConnects).any (fun _ => true) = true := by
    decide +kernel
  obtain ⟨s, os, hrun, -⟩ := Machine.exists_run hsome
  exact ⟨s, os, hrun, bound_of_hasRoom (by decide) (by decide +kernel) hrun⟩

/-! ### A device too many -/

/-- The devices are connected one after the other. -/
def connectAll (bs : List BACnetDeviceBuilder) : List Event := bs.map (.connect 0)

/-- A `connect` that finds its device succeeds. -/
theorem step_connect_found (env : Env) {t : Nat} {b : BACnetDeviceBuilder}
    {p : UInt32 × BacnetAddress} {c' : AddressCache} (hrun : s.aborted = false)
    (hidle : s.threads t = .idle) (hp : s.stack.poisoned = false)
    (hr : connectCache s.stack.cache b = (some p, c')) :
    ∃ stack, (client env).step s (.connect t b) = some ({ s with stack }, .connected (.ok ())) ∧
      stack.poisoned = false ∧ stack.cache = c' := by
  have hc := connect_cases env s.stack b
  have hstep : (client env).step s (.connect t b) =
      some ({ s with stack := (connect env s.stack b).1 }, (connect env s.stack b).2) := by
    simp only [client, step, hrun, Bool.false_eq_true, if_false,
      show (Event.connect t b).thread = t from rfl, hidle]
  rw [hstep]
  generalize connect env s.stack b = q at hc
  obtain ⟨stack, o⟩ := q
  dsimp only at hc ⊢
  cases hc with
  | ok m addr cache _ hr' =>
      cases hr.symm.trans hr'
      exact ⟨_, rfl, (stackInit_poisoned env s.stack).trans hp, rfl⟩
  | failed cache hr' => cases hr.symm.trans hr'
  | panicked cache hp' _ => cases hp.symm.trans hp'

/-- A `connect` of another device succeeds, whether or not there is room for it. -/
theorem step_connect (env : Env) (hrun : s.aborted = false) (hidle : s.threads 0 = .idle)
    (hp : s.stack.poisoned = false) (h : s.stack.cache.Sound) (hplain : s.stack.cache.Plain)
    {b : BACnetDeviceBuilder} (hown : b.deviceId ≠ 0xFFFFFFFF) :
    ∃ stack, (client env).step s (.connect 0 b) = some ({ s with stack }, .connected (.ok ())) ∧
      stack.poisoned = false ∧ stack.cache.Plain := by
  obtain ⟨p, c', hr⟩ := connectCache_of_plain h hplain hown
  obtain ⟨stack, hstep, hp', hcache⟩ := step_connect_found env hrun hidle hp hr
  have hplain' := plain_connectCache hplain b
  rw [hr] at hplain'
  exact ⟨stack, hstep, hp', hcache ▸ hplain'⟩

/-- All of them are connected at the end. -/
theorem run_connectAll (env : Env) {bs : List BACnetDeviceBuilder}
    (hdistinct : (bs.map BACnetDeviceBuilder.deviceId).Nodup)
    (hown : ∀ b ∈ bs, b.deviceId ≠ 0xFFFFFFFF) :
    ∃ s os, (client env).run .init (connectAll bs) = some (s, os) ∧ s.aborted = false ∧
      s.threads 0 = .idle ∧ s.stack.poisoned = false ∧ s.stack.cache.Plain ∧
      (∀ o ∈ os, o = .connected (.ok ())) ∧ ∀ b ∈ bs, ConnectedWith env (connectAll bs) b := by
  induction bs using List.reverseRecOn with
  | nil => exact ⟨_, _, rfl, rfl, rfl, rfl, AddressCache.plain_init, by simp, by simp⟩
  | append_singleton bs b ih =>
      rw [List.map_append, List.nodup_append] at hdistinct
      obtain ⟨hnodup, -, hnew⟩ := hdistinct
      obtain ⟨s, os, hrun, hrunning, hidle, hp, hplain, hok, hconn⟩ :=
        ih hnodup fun b hb => hown b (List.mem_append_left _ hb)
      obtain ⟨stack, hstep, hp', hplain'⟩ := step_connect env hrunning hidle hp (sound_run hrun)
        hplain (hown b (List.mem_append_right _ List.mem_cons_self))
      have hes : connectAll (bs ++ [b]) = connectAll bs ++ [.connect 0 b] := List.map_append
      rw [hes]
      refine ⟨_, _, (Machine.run_concat _).mpr ⟨_, hrun, _, hstep, rfl⟩, hrunning, hidle, hp',
        hplain', fun o ho => ?_, fun b' hb' => ?_⟩
      · rcases List.mem_append.mp ho with ho | ho
        · exact hok o ho
        · exact List.mem_singleton.mp ho
      · rcases List.mem_append.mp hb' with hold | hlast
        · obtain ⟨i, u, t, o, u', hlatest⟩ := hconn b' hold
          refine ⟨i, u, t, o, u', hlatest.keep hrun hstep ?_⟩
          rintro (⟨t', b₀, he, hid, -⟩ | ⟨t', he⟩)
          · cases he
            exact hnew _ (List.mem_map_of_mem hold) _
              (List.mem_map_of_mem List.mem_cons_self) hid.symm
          · cases he
        · rw [List.mem_singleton] at hlast
          subst hlast
          exact ⟨_, _, _, _, _, Machine.Latest.new hrun hstep (Or.inl ⟨0, _, rfl, rfl, rfl⟩)⟩

/-- Of more than 255 devices that are connected, one is not bound. -/
theorem not_bound_of_many (env : Env) {bs : List BACnetDeviceBuilder}
    (hdistinct : (bs.map BACnetDeviceBuilder.deviceId).Nodup)
    (hown : ∀ b ∈ bs, b.deviceId ≠ 0xFFFFFFFF) (hmany : maxAddressCache < bs.length) :
    ∃ s os, (client env).run .init (connectAll bs) = some (s, os) ∧
      (∀ o ∈ os, o = .connected (.ok ())) ∧
      ∃ b, ConnectedWith env (connectAll bs) b ∧ ¬ BoundAs s.stack b := by
  obtain ⟨s, os, hrun, -, -, -, -, hok, hconn⟩ := run_connectAll env hdistinct hown
  refine ⟨s, os, hrun, hok, ?_⟩
  by_contra hall
  push Not at hall
  have hcached : ∀ d ∈ (bs.map BACnetDeviceBuilder.deviceId).toFinset,
      s.stack.cache.Cached d := by
    intro d hd
    obtain ⟨b, hb, rfl⟩ := List.mem_map.mp (List.mem_toFinset.mp hd)
    exact AddressCache.cached_of_addressGetByDevice (hall b (hconn b hb)).1
  have hcard := AddressCache.card_le_of_cached hcached
  rw [List.toFinset_card_of_nodup hdistinct, List.length_map] at hcard
  omega

/-- The devices 0 to 255. -/
def manyDevices : List BACnetDeviceBuilder :=
  (List.range 256).map fun i => lanDevice (UInt32.ofNat i) 2

/-- Every one of them is connected, and one of them is not bound. -/
theorem manyDevices_unbound :
    ∃ s os, (client lan).run .init (connectAll manyDevices) = some (s, os) ∧
      (∀ o ∈ os, o = .connected (.ok ())) ∧
      ∃ b, ConnectedWith lan (connectAll manyDevices) b ∧ ¬ BoundAs s.stack b := by
  have hids : manyDevices.map BACnetDeviceBuilder.deviceId = (List.range 256).map UInt32.ofNat := by
    rw [manyDevices, List.map_map]
    rfl
  have hnat : ∀ i ∈ List.range 256, (UInt32.ofNat i).toNat = i := by
    intro i hi
    exact Nat.mod_eq_of_lt (Nat.lt_trans (List.mem_range.mp hi) (by decide))
  refine not_bound_of_many lan ?_ ?_ (by simp [manyDevices])
  · rw [hids]
    refine List.Nodup.map_on (fun i hi j hj heq => ?_) List.nodup_range
    rw [← hnat i hi, heq, hnat j hj]
  · intro b hb heq
    have hmem := List.mem_map_of_mem (f := BACnetDeviceBuilder.deviceId) hb
    rw [hids, heq] at hmem
    obtain ⟨i, hi, heq⟩ := List.mem_map.mp hmem
    have hlt := List.mem_range.mp hi
    rw [← hnat i hi, heq] at hlt
    exact absurd hlt (by decide)

end Bacnet
