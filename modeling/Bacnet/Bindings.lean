import Bacnet.History

/-!
# Bacnet.Bindings

What a `connect` makes of the address cache. It calls `address_add` and then
`address_bind_request`; when the second answers, the device is bound to the address the
caller gave, whatever became of the others. On a cache with room nothing becomes of them.
-/

namespace Bacnet

open Bacnet.Lib

variable {env : Env} {s s' : Sys} {e : Event} {o : Output}

/-! ### The cache in every reachable state -/

/-- An I-Am carries 22 bits of device instance. -/
theorem iAm_deviceId_ne {request : Mem} {i : IAm}
    (h : iamDecodeServiceRequest request = some i) : i.deviceId ≠ 0xFFFFFFFF := by
  have hinst : ∀ apdu : Mem, (decodeObjectId apdu).2 ≠ 0xFFFFFFFF := by
    intro apdu heq
    have hle : decodeUnsigned32 apdu &&& 0x3FFFFF ≤ 0x3FFFFF := Nat.and_le_right
    have hnat : (decodeUnsigned32 apdu &&& 0x3FFFFF) % 2 ^ 32 = 0xFFFFFFFF :=
      congrArg UInt32.toNat heq
    omega
  unfold iamDecodeServiceRequest at h
  dsimp only at h
  repeat' split at h
  case isFalse.isFalse.isFalse.isFalse.isFalse.isFalse.isFalse =>
    rw [← Option.some.inj h]
    exact hinst _
  all_goals cases h

theorem sound_step (h : s.stack.cache.Sound) (hs : Step env s e s' o) :
    s'.stack.cache.Sound := by
  have hstack := stack_cases hs
  generalize s'.stack = stack' at hstack
  cases hstack with
  | same _ _ _ => exact h
  | connect t b stack _ hc =>
      have hcache : (connectCache s.stack.cache b).2.Sound :=
        AddressCache.sound_addressBindRequest (AddressCache.sound_addressAdd h _ _ _) _
      cases hc with
      | ok m addr cache _ hr =>
          rw [hr] at hcache
          exact hcache
      | failed cache hr =>
          rw [hr] at hcache
          exact hcache
      | panicked cache _ hr =>
          rw [hr] at hcache
          exact hcache
  | disconnect t d _ _ => exact AddressCache.sound_addressRemoveDevice h d
  | send t d args tgt stack id frame _ _ _ hs => cases hs <;> exact h
  | apdu t arrival src a stack _ _ _ he =>
      cases he with
      | binding i _ _ hi =>
          obtain ⟨request, -, hdec⟩ := hi
          exact AddressCache.sound_addressAddBinding h (iAm_deviceId_ne hdec) _ _
      | none _ => exact h
      | discovery device _ _ => exact h
      | released id _ _ => exact h
      | taken id _ f _ d t _ _ _ => exact h
  | extract t call stack _ _ _ hx => cases hx <;> exact h
  | whoisStart t subnet _ _ => exact AddressCache.sound_addressInit h env.cacheFile
  | whoisClose t _ _ => exact h
  | whoisDrain t _ _ => exact h

theorem sound_run {es : List Event} {os : List Output}
    (hrun : (client env).run .init es = some (s, os)) : s.stack.cache.Sound :=
  (invariant_run (I := fun s => s.stack.cache.Sound) Sys.wf_init AddressCache.sound_init
    (all_true es) hrun fun _ _ _ _ _ h _ hs => sound_step h hs).2

/-! ### `connect` -/

/-- When the bind request answers, it answers with what the caller gave. -/
theorem connectCache_bound {c c' : AddressCache} {b : BACnetDeviceBuilder}
    {p : UInt32 × BacnetAddress} (h : c.Sound) (hr : connectCache c b = (some p, c')) :
    p = (UInt32.ofNat maxApdu, b.build) ∧ c'.addressGetByDevice b.deviceId = some p := by
  have hget : (c.addressAdd b.deviceId (UInt32.ofNat maxApdu) b.build).addressGetByDevice
      b.deviceId = some p := by
    rw [← AddressCache.addressBindRequest_fst]
    exact congrArg Prod.fst hr
  have hcached := AddressCache.cached_of_addressGetByDevice hget
  have hafter : c'.addressGetByDevice b.deviceId = some p := by
    rw [← hget, ← AddressCache.addressGetByDevice_addressBindRequest hcached b.deviceId]
    exact congrArg (·.2.addressGetByDevice b.deviceId) hr.symm
  refine ⟨?_, hafter⟩
  rcases AddressCache.addressAdd_cases c b.deviceId (UInt32.ofNat maxApdu) b.build with
    ⟨hown, heq⟩ | ⟨-, htarget, heq⟩ | ⟨-, i, e, htarget, he, hbind, hm, ha, heq⟩
  · rw [heq, ← hown, AddressCache.addressGetByDevice_own h] at hget
    cases hget
  · rw [heq] at hget
    cases htarget with
    | full hnone _ _ =>
        rw [AddressCache.addressGetByDevice, hnone] at hget
        cases hget
  · rw [heq, htarget.getByDevice_setEntry he, hbind, hm, ha] at hget
    exact (Option.some.inj hget).symm

theorem plain_connectCache {c : AddressCache} (h : c.Plain) (b : BACnetDeviceBuilder) :
    (connectCache c b).2.Plain :=
  AddressCache.plain_addressBindRequest (AddressCache.plain_addressAdd h _ _ _) _

/-- A cache that only has entries of connected devices always binds another one. -/
theorem connectCache_of_plain {c : AddressCache} {b : BACnetDeviceBuilder} (h : c.Sound)
    (hplain : c.Plain) (hown : b.deviceId ≠ 0xFFFFFFFF) :
    ∃ p c', connectCache c b = (some p, c') := by
  have hget : ∃ p, (c.addressAdd b.deviceId (UInt32.ofNat maxApdu) b.build).addressGetByDevice
      b.deviceId = some p := by
    rcases AddressCache.addressAdd_cases c b.deviceId (UInt32.ofNat maxApdu) b.build with
      ⟨heq, -⟩ | ⟨-, htarget, -⟩ | ⟨-, i, e, htarget, he, hbind, -, -, heq⟩
    · rw [h.own] at heq
      exact absurd heq.symm hown
    · cases htarget with
      | full _ hfull hnone =>
          obtain ⟨j, hj⟩ := AddressCache.exists_addressRemoveOldest hplain hfull
          cases hnone.symm.trans hj
    · rw [heq, htarget.getByDevice_setEntry he, hbind]
      exact ⟨_, rfl⟩
  obtain ⟨p, hp⟩ := hget
  rw [← AddressCache.addressBindRequest_fst] at hp
  exact ⟨p, _, Prod.ext hp rfl⟩

/-- On a cache with room a `connect` changes no binding, unless it binds its own device. -/
theorem connectCache_keeps {c : AddressCache} {b : BACnetDeviceBuilder} (h : c.Sound)
    (hroom : c.Cached b.deviceId ∨ c.HasFree) {d : DeviceId}
    (hd : d = b.deviceId → (connectCache c b).1 = none) :
    (connectCache c b).2.addressGetByDevice d = c.addressGetByDevice d := by
  have hsound := AddressCache.sound_addressAdd h b.deviceId (UInt32.ofNat maxApdu) b.build
  by_cases hown : c.ownDeviceId = b.deviceId
  · have hadd : c.addressAdd b.deviceId (UInt32.ofNat maxApdu) b.build = c := by
      rw [AddressCache.addressAdd, if_pos hown]
    simp only [connectCache, hadd]
    by_cases hne : d = b.deviceId
    · have hnone := AddressCache.addressGetByDevice_own h
      rw [hown] at hnone
      rw [hne, hnone, AddressCache.addressGetByDevice_addressBindRequest_none hnone]
    · exact AddressCache.addressGetByDevice_addressBindRequest_ne h hroom hne
  · by_cases hne : d = b.deviceId
    · have hnone := hd hne
      rw [connectCache, AddressCache.addressBindRequest_fst,
        AddressCache.addressGetByDevice_addressAdd_self hown hroom] at hnone
      cases hnone
    · have hcached := AddressCache.cached_addressAdd (m := UInt32.ofNat maxApdu) (a := b.build)
        hown hroom
      rw [connectCache, AddressCache.addressGetByDevice_addressBindRequest hcached,
        AddressCache.addressGetByDevice_addressAdd_ne hroom hne]

/-- A `connect` that succeeds leaves its device bound to the address it tracks it at, the
one the caller gave. -/
theorem bound_of_connected {t : Nat} {b : BACnetDeviceBuilder} (h : s.stack.cache.Sound)
    (hs : Step env s (.connect t b) s' (.connected (.ok ()))) :
    s'.stack.cache.addressGetByDevice b.deviceId = some (UInt32.ofNat maxApdu, b.build) ∧
      s'.stack.targets.lookup b.deviceId = some (freshTarget b.build) := by
  cases hs with
  | connect _ _ stack _ hth hc =>
      cases hc with
      | ok m addr cache hp hr =>
          obtain ⟨hp, hget⟩ := connectCache_bound h hr
          rw [hp] at hget
          cases hp
          exact ⟨hget, Stack.lookup_setTarget_self _ _ _⟩

end Bacnet
