import Bacnet.Connections

/-!
# Bacnet.Reconnection

Connecting, disconnecting and connecting a device again. The device is bound and tracked as
after the first `connect`; if it had no entry in the cache before, nothing at all is
different.
-/

namespace Bacnet

open Bacnet.Lib

variable {env : Env} {c : AddressCache} {b : BACnetDeviceBuilder}

/-! ### What a `connect` finds -/

/-- A device that has no entry after a `connect` found no place in the cache. -/
theorem connectCache_of_not_cached (hc : ¬ (connectCache c b).2.Cached b.deviceId) :
    connectCache c b = (none, c) := by
  have hset : ∀ (c : AddressCache) i e, AddressCache.Holds e b.deviceId →
      (c.setEntry i e).Cached b.deviceId := by
    intro c i e he
    refine ⟨i, ?_⟩
    simp only [AddressCache.setEntry, Table.get_set_self]
    exact he
  have hbind : ∀ c : AddressCache, ¬ (c.addressBindRequest b.deviceId).2.Cached b.deviceId →
      c.addressBindRequest b.deviceId = (none, c) ∧ ¬ c.Cached b.deviceId := by
    intro c hno
    rcases AddressCache.addressBindRequest_cases c b.deviceId with
      ⟨hc, -, heq⟩ | ⟨i, hi, -, heq⟩ | ⟨hc, -, heq | ⟨i, e, he, -, heq⟩⟩
    · rw [heq] at hno
      exact absurd hc hno
    · rw [heq] at hno
      exact absurd (hset c i _ (AddressCache.holds_boundEntry.mpr
        (AddressCache.holds_of_findDevice hi))) hno
    · exact ⟨heq, hc⟩
    · rw [heq] at hno
      exact absurd (hset c i e he) hno
  obtain ⟨heq, hno⟩ := hbind _ hc
  rcases AddressCache.addressAdd_cases c b.deviceId (UInt32.ofNat maxApdu) b.build with
    ⟨-, hadd⟩ | ⟨-, -, hadd⟩ | ⟨-, i, e, -, he, -, -, -, hadd⟩
  · rw [hadd] at heq
    rw [connectCache, hadd, heq]
  · rw [hadd] at heq
    rw [connectCache, hadd, heq]
  · rw [hadd] at hno
    exact absurd (hset c i e he) hno

/-- Another device that has an entry after a `connect` was found. -/
theorem connectCache_of_cached (hsound : c.Sound) (h : c.Settled) (hown : b.deviceId ≠ 0xFFFFFFFF)
    (hc : (connectCache c b).2.Cached b.deviceId) :
    (connectCache c b).1 = some (UInt32.ofNat maxApdu, b.build) ∧
      (connectCache c b).2.addressGetByDevice b.deviceId =
        some (UInt32.ofNat maxApdu, b.build) := by
  have hsome := (AddressCache.isSome_getByDevice_iff (AddressCache.sound_addressBindRequest
    (AddressCache.sound_addressAdd hsound _ _ _) _) (settled_connectCache hsound h b)).mpr
      ⟨hc, hown⟩
  cases hr : connectCache c b with
  | mk found cache =>
    cases found with
    | none =>
      have hnone := (connectCache_none hsound h (congrArg Prod.fst hr)).2
      rw [connectCache] at hnone
      rw [hnone] at hsome
      cases hsome
    | some p =>
      obtain ⟨rfl, hget⟩ := connectCache_bound hsound hr
      exact ⟨rfl, hget⟩

/-- Taking the device out and connecting it again gives back what a `connect` gave. -/
theorem connectCache_again (hsound : c.Sound) (h : c.Settled) (b : BACnetDeviceBuilder) :
    (connectCache ((connectCache c b).2.addressRemoveDevice b.deviceId) b).1 =
        (connectCache c b).1 ∧
      ∀ d, (connectCache ((connectCache c b).2.addressRemoveDevice b.deviceId) b).2.addressGetByDevice
        d = (connectCache c b).2.addressGetByDevice d := by
  have hsettled := settled_connectCache hsound h b
  have hsound₁ : (connectCache c b).2.Sound :=
    AddressCache.sound_addressBindRequest (AddressCache.sound_addressAdd hsound _ _ _) _
  by_cases hc : (connectCache c b).2.Cached b.deviceId
  · have hsound₂ := AddressCache.sound_addressRemoveDevice hsound₁ b.deviceId
    have hsettled₂ := AddressCache.settled_addressRemoveDevice hsettled b.deviceId
    have hfree := AddressCache.hasFree_addressRemoveDevice hc
    have hother : ∀ d, d ≠ b.deviceId →
        (connectCache ((connectCache c b).2.addressRemoveDevice b.deviceId) b).2.addressGetByDevice
          d = (connectCache c b).2.addressGetByDevice d := by
      intro d hd
      rw [connectCache_keeps hsound₂ (Or.inr hfree) fun heq => absurd heq hd,
        AddressCache.addressGetByDevice_addressRemoveDevice_ne hd]
    by_cases hown : b.deviceId = 0xFFFFFFFF
    · have hnone := connectCache_own hsound hown
      have hnone₂ := connectCache_own hsound₂ hown
      refine ⟨hnone₂.trans hnone.symm, fun d => ?_⟩
      by_cases hd : d = b.deviceId
      · rw [hd, (connectCache_none hsound h hnone).2, (connectCache_none hsound₂ hsettled₂ hnone₂).2]
      · exact hother d hd
    · have hcached : (connectCache ((connectCache c b).2.addressRemoveDevice b.deviceId)
          b).2.Cached b.deviceId := by
        by_contra hno
        have heq := connectCache_of_not_cached hno
        have hadd := AddressCache.addressGetByDevice_addressAdd_self (m := UInt32.ofNat maxApdu)
          (a := b.build) (show ((connectCache c b).2.addressRemoveDevice b.deviceId).ownDeviceId ≠
            b.deviceId by rw [hsound₂.own]; exact Ne.symm hown) (Or.inr hfree)
        have hfst := congrArg Prod.fst heq
        rw [connectCache, AddressCache.addressBindRequest_fst, hadd] at hfst
        cases hfst
      obtain ⟨hfound, hget⟩ := connectCache_of_cached hsound h hown hc
      obtain ⟨hfound₂, hget₂⟩ := connectCache_of_cached hsound₂ hsettled₂ hown hcached
      refine ⟨hfound₂.trans hfound.symm, fun d => ?_⟩
      by_cases hd : d = b.deviceId
      · rw [hd, hget, hget₂]
      · exact hother d hd
  · have heq := connectCache_of_not_cached hc
    have hremove : c.addressRemoveDevice b.deviceId = c := by
      have hno : ¬ c.Cached b.deviceId := by
        rw [heq] at hc
        exact hc
      rw [AddressCache.addressRemoveDevice, AddressCache.findDevice_eq_none.mpr hno]
    rw [heq, hremove, heq]
    exact ⟨rfl, fun _ => rfl⟩

/-! ### A device without an entry -/

namespace AddressCache

variable {d : DeviceId} {i : Fin maxAddressCache} {e : AddressCacheEntry}

theorem setEntry_setEntry (c : AddressCache) (i : Fin maxAddressCache)
    (e e' : AddressCacheEntry) : (c.setEntry i e).setEntry i e' = c.setEntry i e' := by
  rw [setEntry, setEntry, setEntry, Table.set_set]

theorem findDevice_setEntry_new (hc : ¬ c.Cached d) (he : Holds e d) :
    (c.setEntry i e).findDevice d = some i := by
  refine Table.find?_set_new (findDevice_eq_none.mpr hc) ?_
  rw [he.1, he.2, beq_self_eq_true, Bool.and_self]

/-- The place that a new device takes is the first free one, or on a full cache any: freed
again, it is the first free one. -/
theorem find?_set_freed {p : AddressCacheEntry → Bool}
    (hi : c.entries.find? p = some i ∨ c.entries.find? p = none)
    (hp : p { e with flags := .none } = true) :
    (c.setEntry i { e with flags := .none }).entries.find? p = some i := by
  rcases hi with hfound | hnone
  · exact Table.find?_set_found hfound hp
  · exact Table.find?_set_new hnone hp

/-- What `address_add` does for a device without an entry. -/
theorem addressAdd_new (hown : c.ownDeviceId ≠ d) (hc : ¬ c.Cached d) (m : UInt32)
    (a : BacnetAddress) :
    (¬ c.HasFree ∧ c.addressRemoveOldest = none ∧ c.addressAdd d m a = c) ∨
      ∃ i, (c.findFree = some i ∨ c.findFree = none) ∧
        c.addressAdd d m a = c.setEntry i (newEntry d m a) := by
  simp only [addressAdd, if_neg hown, findDevice_eq_none.mpr hc]
  split
  · rename_i i hi
    exact Or.inr ⟨i, Or.inl hi, rfl⟩
  · rename_i hnone
    split
    · rename_i i _
      exact Or.inr ⟨i, Or.inr hnone, rfl⟩
    · rename_i hold
      exact Or.inl ⟨findFree_eq_none.mp hnone, hold, rfl⟩

theorem addressAdd_of_findFree (hown : c.ownDeviceId ≠ d) (hc : ¬ c.Cached d)
    (hi : c.findFree = some i) (m : UInt32) (a : BacnetAddress) :
    c.addressAdd d m a = c.setEntry i (newEntry d m a) := by
  simp only [addressAdd, if_neg hown, findDevice_eq_none.mpr hc, hi]

/-- An entry that `address_bind_request` may take. -/
def bindable (e : AddressCacheEntry) : Bool := ! e.flags.inUse && ! e.flags.reserved

/-- What `address_bind_request` does for a device without an entry. -/
theorem addressBindRequest_new (hc : ¬ c.Cached d) :
    c.addressBindRequest d = (none, c) ∨
      ∃ i, (c.entries.find? bindable = some i ∨ c.entries.find? bindable = none) ∧
        c.addressBindRequest d = (none, c.setEntry i (bindReqEntry (c.entries.get i) d)) := by
  simp only [addressBindRequest, findDevice_eq_none.mpr hc]
  split
  · rename_i i hi
    exact Or.inr ⟨i, Or.inl hi, rfl⟩
  · rename_i hnone
    split
    · rename_i i _
      exact Or.inr ⟨i, Or.inr hnone, rfl⟩
    · exact Or.inl rfl

theorem addressBindRequest_of_find (hc : ¬ c.Cached d) (hi : c.entries.find? bindable = some i) :
    c.addressBindRequest d = (none, c.setEntry i (bindReqEntry (c.entries.get i) d)) := by
  have hfree : (c.entries.find? fun e => ! e.flags.inUse && ! e.flags.reserved) = some i := hi
  simp only [addressBindRequest, findDevice_eq_none.mpr hc, hfree]

/-- A bind request for an entry that was just added changes nothing. -/
theorem addressBindRequest_newEntry (hc : ¬ c.Cached d) (m : UInt32) (a : BacnetAddress) :
    (c.setEntry i (newEntry d m a)).addressBindRequest d =
      (some (m, a), c.setEntry i (newEntry d m a)) := by
  have hget : (c.setEntry i (newEntry d m a)).entries.get i = newEntry d m a :=
    Table.get_set_self _ _ _
  simp only [addressBindRequest, findDevice_setEntry_new hc (holds_newEntry d m a), hget]
  rw [if_neg (show ¬ (newEntry d m a).flags.bindReq = true from Bool.false_ne_true),
    show boundEntry (newEntry d m a) = newEntry d m a from rfl, setEntry_setEntry]
  rfl

/-- Taking out a device that was just entered. -/
theorem addressRemoveDevice_setEntry (h : (c.setEntry i e).Settled) (hc : ¬ c.Cached d)
    (he : Holds e d) :
    (c.setEntry i e).addressRemoveDevice d = c.setEntry i { e with flags := .none } := by
  rw [addressRemoveDevice_eq h (findDevice_setEntry_new hc he), setEntry_setEntry]
  simp only [setEntry, Table.get_set_self]

end AddressCache

/-- For a device without an entry, the second `connect` takes the entry that the first one
took. -/
theorem connectCache_again_eq (hsound : c.Sound) (h : c.Settled) (hc : ¬ c.Cached b.deviceId) :
    connectCache ((connectCache c b).2.addressRemoveDevice b.deviceId) b = connectCache c b := by
  have hsettled := settled_connectCache hsound h b
  have hremove : c.addressRemoveDevice b.deviceId = c := by
    rw [AddressCache.addressRemoveDevice, AddressCache.findDevice_eq_none.mpr hc]
  by_cases hown : c.ownDeviceId = b.deviceId
  · -- the client itself: only the bind request enters it
    have hconnect : ∀ c' : AddressCache, c'.ownDeviceId = b.deviceId →
        connectCache c' b = c'.addressBindRequest b.deviceId := by
      intro c' hown'
      rw [connectCache, AddressCache.addressAdd, if_pos hown']
    rw [hconnect c hown] at hsettled ⊢
    rcases AddressCache.addressBindRequest_new hc with heq | ⟨i, hi, heq⟩
    · rw [heq, hremove, hconnect c hown, heq]
    · have he := AddressCache.holds_bindReqEntry (c.entries.get i) b.deviceId
      rw [heq] at hsettled ⊢
      have hnot := AddressCache.not_cached_addressRemoveDevice (d := b.deviceId) hsettled
      rw [AddressCache.addressRemoveDevice_setEntry hsettled hc he] at hnot ⊢
      rw [hconnect (c.setEntry i _) hown,
        AddressCache.addressBindRequest_of_find hnot (AddressCache.find?_set_freed hi rfl),
        AddressCache.setEntry_setEntry]
      simp only [AddressCache.setEntry, Table.get_set_self]
      rfl
  · rcases AddressCache.addressAdd_new hown hc (UInt32.ofNat maxApdu) b.build with
      ⟨hfull, hold, heq⟩ | ⟨i, hi, heq⟩
    · have hnone : connectCache c b = (none, c) := by
        rw [connectCache, heq, addressBindRequest_full hc hfull hold]
      rw [hnone, hremove, hnone]
    · have he := AddressCache.holds_newEntry b.deviceId (UInt32.ofNat maxApdu) b.build
      have hconnect : connectCache c b = (some (UInt32.ofNat maxApdu, b.build),
          c.setEntry i (AddressCache.newEntry b.deviceId (UInt32.ofNat maxApdu) b.build)) := by
        rw [connectCache, heq, AddressCache.addressBindRequest_newEntry hc]
      rw [hconnect] at hsettled ⊢
      have hnot := AddressCache.not_cached_addressRemoveDevice (d := b.deviceId) hsettled
      rw [AddressCache.addressRemoveDevice_setEntry hsettled hc he] at hnot ⊢
      rw [connectCache, AddressCache.addressAdd_of_findFree (c := c.setEntry i _) hown hnot
        (AddressCache.find?_set_freed hi rfl), AddressCache.addressBindRequest_newEntry hnot,
        AddressCache.setEntry_setEntry]

theorem initDone_stackInit (env : Env) (s : Stack) : (stackInit env s).initDone = true := by
  rw [stackInit]
  split
  · rename_i hdone
    exact hdone
  · rfl

theorem stackInit_of_initDone {s : Stack} (h : s.initDone = true) : stackInit env s = s := by
  rw [stackInit, if_pos h]

theorem connect_eq (env : Env) (s : Stack) (b : BACnetDeviceBuilder) :
    connect env s b =
      match (connectCache s.cache b).1 with
      | some p =>
        if s.poisoned then (connecting env s (connectCache s.cache b).2, .panicked)
        else ((connecting env s (connectCache s.cache b).2).setTarget b.deviceId (freshTarget p.2),
          .connected (.ok ()))
      | none => (connecting env s (connectCache s.cache b).2,
          .connected (.error .failedToBindToDevice)) := by
  simp only [connect, stackInit_cache]
  rw [show (s.cache.addressAdd b.deviceId (UInt32.ofNat maxApdu) b.build).addressBindRequest
    b.deviceId = connectCache s.cache b from rfl]
  cases hr : (connectCache s.cache b).1 with
  | none => rfl
  | some p =>
    rw [← stackInit_poisoned env s]
    rfl

theorem connect_fst_cache (env : Env) (s : Stack) (b : BACnetDeviceBuilder) :
    (connect env s b).1.cache = (connectCache s.cache b).2 := by
  rw [connect_eq]
  split
  · split
    · rfl
    · rfl
  · rfl

theorem connect_fst_initDone (env : Env) (s : Stack) (b : BACnetDeviceBuilder) :
    (connect env s b).1.initDone = true := by
  rw [connect_eq]
  split
  · split
    · exact initDone_stackInit env s
    · exact initDone_stackInit env s
  · exact initDone_stackInit env s

theorem connect_fst_poisoned (env : Env) (s : Stack) (b : BACnetDeviceBuilder) :
    (connect env s b).1.poisoned = s.poisoned := by
  rw [connect_eq]
  split
  · split
    · exact stackInit_poisoned env s
    · exact stackInit_poisoned env s
  · exact stackInit_poisoned env s

/-- After a `connect`, disconnecting the device and connecting it again changes the cache at
most: not what is bound in it, and if the device had no entry before, nothing. -/
theorem connect_again (env : Env) {s : Stack} (hsound : s.cache.Sound) (h : s.cache.Settled)
    (b : BACnetDeviceBuilder) :
    ∃ cache, connect env (disconnect (connect env s b).1 b.deviceId) b =
        ({ (connect env s b).1 with cache }, (connect env s b).2) ∧
      (∀ d, cache.addressGetByDevice d = (connect env s b).1.cache.addressGetByDevice d) ∧
      (¬ s.cache.Cached b.deviceId → cache = (connect env s b).1.cache) := by
  obtain ⟨hfst, hget⟩ := connectCache_again hsound h b
  have hcache := connect_fst_cache env s b
  refine ⟨_, ?_, fun d => (hget d).trans (by rw [hcache]), fun hc => ?_⟩
  · have hconnecting : ∀ cache, connecting env (disconnect (connect env s b).1 b.deviceId) cache =
        { (connect env s b).1 with cache } := by
      intro cache
      have hdone : (disconnect (connect env s b).1 b.deviceId).initDone = true :=
        connect_fst_initDone env s b
      rw [connecting, stackInit_of_initDone hdone]
      rfl
    have hpoisoned : (disconnect (connect env s b).1 b.deviceId).poisoned = s.poisoned :=
      connect_fst_poisoned env s b
    have hremoved : (disconnect (connect env s b).1 b.deviceId).cache =
        (connectCache s.cache b).2.addressRemoveDevice b.deviceId := by
      rw [← hcache]
      rfl
    rw [connect_eq env (disconnect (connect env s b).1 b.deviceId), hconnecting, hpoisoned,
      hremoved, hfst]
    have heq := connect_eq env s b
    cases hr : (connectCache s.cache b).1 with
    | none =>
      simp only [hr] at heq ⊢
      rw [heq]
    | some p =>
      simp only [hr] at heq ⊢
      by_cases hp : s.poisoned = true
      · simp only [if_pos hp] at heq ⊢
        rw [heq]
      · simp only [if_neg hp] at heq ⊢
        rw [heq]
        -- the device is tracked already, as it is tracked again
        simp only [Stack.setTarget, AList.insert_insert]
  · rw [connectCache_again_eq hsound h hc, hcache]

end Bacnet
