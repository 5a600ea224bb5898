import Bacnet.CacheFile
import Bacnet.Capacity

/-!
# Bacnet.Connections

Being connected is recorded twice: the device is in the map of tracked devices, and it is
bound in the address cache. `connect` enters it in both. `disconnect` only takes it out of
the cache, and so does `connect` with another device's entry when the cache is full; the
set-up of a discovery replaces the cache as a whole. `KeepsBoth` is when a step keeps the two
records of one device the same: it asks for nothing more, so a step that does not meet it
makes them differ.
-/

namespace Bacnet

open Bacnet.Lib

variable {env : Env} {s s' : Sys} {e : Event} {o : Output} {es : List Event} {os : List Output}

/-! ### The entries of the cache -/

namespace AddressCache

/-- A device has one entry at most, no device but the client itself has one that waits for a
binding, and no entry is protected. -/
structure Settled (c : AddressCache) : Prop where
  unique : c.Ok
  bound : ∀ i d, Holds (c.entries.get i) d → (c.entries.get i).flags.bindReq = true →
    d = 0xFFFFFFFF
  top : c.topProtectedEntry = 0

variable {c : AddressCache} {d : DeviceId}

theorem settled_of_not_inUse (h : ∀ i, (c.entries.get i).flags.inUse = false)
    (htop : c.topProtectedEntry = 0) : c.Settled := by
  have hno : ∀ i d, ¬ Holds (c.entries.get i) d := by
    intro i d hold
    have hused := hold.1
    rw [h i] at hused
    cases hused
  exact ⟨fun i _ d hi _ => absurd hi (hno i d), fun i d hi _ => absurd hi (hno i d), htop⟩

theorem settled_init : init.Settled :=
  settled_of_not_inUse (fun i => by rw [init, Table.get_replicate]; rfl) rfl

/-- A write keeps the entries settled if the entry is that of a device without another. -/
theorem settled_setEntry (h : c.Settled) {i : Fin maxAddressCache} {e : AddressCacheEntry}
    (hunique : ∀ j d, Holds e d → Holds (c.entries.get j) d → j = i)
    (hbound : ∀ d, Holds e d → e.flags.bindReq = true → d = 0xFFFFFFFF) :
    (c.setEntry i e).Settled where
  unique j k d hj hk := by
    simp only [setEntry, Table.get_set] at hj hk
    split at hj
    · rename_i hij
      split at hk
      · rename_i hik
        exact hij.symm.trans hik
      · exact hij.symm.trans (hunique k d hj hk).symm
    · split at hk
      · rename_i hik
        exact (hunique j d hk hj).trans hik
      · exact h.unique j k d hj hk
  bound j d hj hb := by
    simp only [setEntry, Table.get_set] at hj hb
    split at hj
    · rename_i hij
      rw [if_pos hij] at hb
      exact hbound d hj hb
    · rename_i hij
      rw [if_neg hij] at hb
      exact h.bound j d hj hb
  top := h.top

/-- An entry that stays that of its device. -/
theorem settled_setEntry_same (h : c.Settled) {i : Fin maxAddressCache} {e : AddressCacheEntry}
    (hsame : ∀ d, Holds e d → Holds (c.entries.get i) d)
    (hreq : e.flags.bindReq = true → (c.entries.get i).flags.bindReq = true) :
    (c.setEntry i e).Settled :=
  settled_setEntry h (fun j d he hj => h.unique j i d hj (hsame d he))
    fun d he hb => h.bound i d (hsame d he) (hreq hb)

/-- The only entry of a device. -/
theorem settled_setEntry_target (h : c.Settled) {i : Fin maxAddressCache} {e : AddressCacheEntry}
    (ht : AddTarget c d (some i)) (he : Holds e d)
    (hbound : e.flags.bindReq = true → d = 0xFFFFFFFF) : (c.setEntry i e).Settled := by
  refine settled_setEntry h (fun j d' he' hj => ?_) fun d' he' hb => ?_
  · cases he'.unique he
    cases ht with
    | own hi => exact h.unique j i d hj (holds_of_findDevice hi)
    | free hnone _ => exact absurd ⟨j, hj⟩ (findDevice_eq_none.mp hnone)
    | evict hnone _ _ => exact absurd ⟨j, hj⟩ (findDevice_eq_none.mp hnone)
  · cases he'.unique he
    exact hbound hb

theorem settled_addressAdd (h : c.Settled) (d : DeviceId) (m : UInt32) (a : BacnetAddress) :
    (c.addressAdd d m a).Settled := by
  rcases addressAdd_cases c d m a with ⟨-, heq⟩ | ⟨-, -, heq⟩ | ⟨-, i, e, ht, he, hb, -, -, heq⟩
  · rwa [heq]
  · rwa [heq]
  · rw [heq]
    refine settled_setEntry_target h ht he fun hreq => ?_
    rw [hb] at hreq
    cases hreq

theorem bindReq_boundEntry (e : AddressCacheEntry) :
    (boundEntry e).flags.bindReq = e.flags.bindReq := by
  rw [boundEntry]
  split <;> rfl

/-- A bind request for a device in the cache. -/
theorem settled_addressBindRequest_cached (h : c.Settled) (hc : c.Cached d) :
    (c.addressBindRequest d).2.Settled := by
  rcases addressBindRequest_cases c d with ⟨-, -, heq⟩ | ⟨i, -, -, heq⟩ | ⟨hno, -⟩
  · rwa [heq]
  · rw [heq]
    exact settled_setEntry_same h (fun _ => holds_boundEntry.mp)
      fun hb => (bindReq_boundEntry _).symm.trans hb
  · exact absurd hc hno

/-- One for the client's own id. -/
theorem settled_addressBindRequest_own (h : c.Settled) :
    (c.addressBindRequest 0xFFFFFFFF).2.Settled := by
  by_cases hc : c.Cached 0xFFFFFFFF
  · exact settled_addressBindRequest_cached h hc
  · rcases addressBindRequest_cases c 0xFFFFFFFF with ⟨hc', -⟩ | ⟨i, hi, -⟩ | ⟨-, -, heq | h'⟩
    · exact absurd hc' hc
    · exact absurd (cached_of_findDevice hi) hc
    · rwa [heq]
    · obtain ⟨i, e, he, -, heq⟩ := h'
      rw [heq]
      refine settled_setEntry h (fun j d' he' hj => ?_) fun d' he' _ => he'.unique he
      cases he'.unique he
      exact absurd ⟨j, hj⟩ hc

theorem addressRemoveDevice_eq (h : c.Settled) {i : Fin maxAddressCache}
    (hi : c.findDevice d = some i) :
    c.addressRemoveDevice d = c.setEntry i { c.entries.get i with flags := .none } := by
  simp only [addressRemoveDevice, hi, setEntry, h.top, Nat.not_lt_zero, if_false]

theorem settled_addressRemoveDevice (h : c.Settled) (d : DeviceId) :
    (c.addressRemoveDevice d).Settled := by
  cases hi : c.findDevice d with
  | none =>
    rw [addressRemoveDevice, hi]
    exact h
  | some i =>
    rw [addressRemoveDevice_eq h hi]
    exact settled_setEntry_same h (fun _ hold => absurd hold.1 Bool.false_ne_true)
      fun hb => absurd hb Bool.false_ne_true

theorem settled_addressAddBinding (h : c.Settled) (d : DeviceId) (m : UInt32) (a : BacnetAddress) :
    (c.addressAddBinding d m a).Settled := by
  rw [addressAddBinding]
  split
  · exact settled_setEntry_same h (fun _ => id) fun hb => absurd hb Bool.false_ne_true
  · exact h

theorem settled_addressSetDeviceTtl (h : c.Settled) (d : DeviceId) (timeOut : Nat)
    (staticFlag : Bool) : (c.addressSetDeviceTtl d timeOut staticFlag).Settled := by
  rw [addressSetDeviceTtl]
  split
  · rename_i i hi
    dsimp only
    split
    · exact settled_setEntry_same h (fun _ => id) id
    · split
      · exact settled_setEntry_same h (fun _ => id) id
      · exact settled_setEntry_same h (fun _ => id) id
  · exact h

theorem settled_addressInit (c : AddressCache) (file : List CacheFileLine) :
    (c.addressInit file).Settled := by
  have hfile : ∀ (file : List CacheFileLine) (c : AddressCache), c.Settled →
      (addressFileInit c file).Settled := by
    intro file
    induction file with
    | nil => exact fun c hc => hc
    | cons l file ih =>
      intro c hc
      exact ih _ (settled_addressSetDeviceTtl (settled_addressAdd hc _ _ _) _ _ _)
  refine hfile file _ (settled_of_not_inUse (fun i => ?_) rfl)
  simp only [Table.get_map]
  rfl

/-! ### Which devices are bound -/

/-- The devices with an entry are bound, the client itself apart. -/
theorem isSome_getByDevice_iff (hsound : c.Sound) (h : c.Settled) :
    (c.addressGetByDevice d).isSome = true ↔ c.Cached d ∧ d ≠ 0xFFFFFFFF := by
  constructor
  · intro hsome
    obtain ⟨p, hp⟩ := Option.isSome_iff_exists.mp hsome
    refine ⟨cached_of_addressGetByDevice hp, fun hd => ?_⟩
    have hnone := addressGetByDevice_own hsound
    rw [hsound.own, ← hd, hp] at hnone
    cases hnone
  · rintro ⟨hc, hd⟩
    obtain ⟨i, hi⟩ := findDevice_of_cached hc
    have hb : ¬ (c.entries.get i).flags.bindReq = true :=
      fun hb => hd (h.bound i d (holds_of_findDevice hi) hb)
    rw [addressGetByDevice, hi]
    simp only [if_neg hb]
    rfl

theorem cached_addressAddBinding {d' : DeviceId} {m : UInt32} {a : BacnetAddress} :
    (c.addressAddBinding d m a).Cached d' ↔ c.Cached d' := by
  rw [addressAddBinding]
  split
  · rename_i i hi
    have hentry : ∀ j, Holds ((c.setEntry i (rebound (c.entries.get i) m a)).entries.get j) d' ↔
        Holds (c.entries.get j) d' := by
      intro j
      simp only [setEntry, Table.get_set]
      split
      · rename_i hij
        rw [hij]
        exact Iff.rfl
      · exact Iff.rfl
    exact exists_congr hentry
  · exact Iff.rfl

/-- A device whose entry is overwritten has no other. -/
theorem not_cached_setEntry (h : c.Settled) {i : Fin maxAddressCache} {e : AddressCacheEntry}
    (hi : Holds (c.entries.get i) d) (he : ¬ Holds e d) : ¬ (c.setEntry i e).Cached d := by
  rintro ⟨j, hj⟩
  simp only [setEntry, Table.get_set] at hj
  split at hj
  · exact he hj
  · rename_i hij
    exact hij (h.unique i j d hi hj)

theorem addressGetByDevice_of_not_cached (h : ¬ c.Cached d) : c.addressGetByDevice d = none := by
  rw [addressGetByDevice, findDevice_eq_none.mpr h]

theorem not_cached_addressRemoveDevice (h : c.Settled) : ¬ (c.addressRemoveDevice d).Cached d := by
  cases hi : c.findDevice d with
  | none =>
    rw [addressRemoveDevice, hi]
    exact findDevice_eq_none.mp hi
  | some i =>
    rw [addressRemoveDevice_eq h hi]
    exact not_cached_setEntry h (holds_of_findDevice hi) fun he => absurd he.1 Bool.false_ne_true

theorem addressGetByDevice_addressRemoveDevice_self (h : c.Settled) :
    (c.addressRemoveDevice d).addressGetByDevice d = none :=
  addressGetByDevice_of_not_cached (not_cached_addressRemoveDevice h)

theorem hasFree_addressRemoveDevice (hc : c.Cached d) : (c.addressRemoveDevice d).HasFree := by
  obtain ⟨i, hi⟩ := findDevice_of_cached hc
  simp only [addressRemoveDevice, hi]
  refine ⟨i, ?_⟩
  simp only [setEntry, Table.get_set_self]
  rfl

end AddressCache

/-! ### `connect` and the cache -/

/-- A `connect` of `d` finds no entry to take: it is the client itself, or the cache is full of
static entries. -/
def NoPlace (c : AddressCache) (d : DeviceId) : Prop :=
  d = 0xFFFFFFFF ∨ (¬ c.Cached d ∧ ¬ c.HasFree ∧ c.addressRemoveOldest = none)

/-- A `connect` of `d` takes the entry of `d'`. -/
def TakesEntry (c : AddressCache) (d d' : DeviceId) : Prop :=
  ¬ c.Cached d ∧ ¬ c.HasFree ∧
    ∃ i ∈ c.addressRemoveOldest, AddressCache.Holds (c.entries.get i) d'

variable {c : AddressCache} {b : BACnetDeviceBuilder}

/-- On a full cache without an entry to take, a bind request does nothing. -/
theorem addressBindRequest_full {d : DeviceId} (hc : ¬ c.Cached d) (hfull : ¬ c.HasFree)
    (hold : c.addressRemoveOldest = none) : c.addressBindRequest d = (none, c) := by
  have hnone : (c.entries.find? fun e => ! e.flags.inUse && ! e.flags.reserved) = none := by
    rw [Table.find?_eq_none]
    intro i
    cases hu : (c.entries.get i).flags.inUse with
    | true => rfl
    | false => exact absurd ⟨i, hu⟩ hfull
  simp only [AddressCache.addressBindRequest, AddressCache.findDevice_eq_none.mpr hc, hnone, hold]

theorem settled_connectCache (hsound : c.Sound) (h : c.Settled) (b : BACnetDeviceBuilder) :
    (connectCache c b).2.Settled := by
  have hadd := AddressCache.settled_addressAdd h b.deviceId (UInt32.ofNat maxApdu) b.build
  rcases AddressCache.addressAdd_cases c b.deviceId (UInt32.ofNat maxApdu) b.build with
    ⟨hown, -⟩ | ⟨-, ht, heq⟩ | ⟨-, i, e, ht, he, -, -, -, heq⟩
  · rw [hsound.own] at hown
    rw [connectCache]
    generalize c.addressAdd b.deviceId (UInt32.ofNat maxApdu) b.build = c' at hadd ⊢
    rw [← hown]
    exact AddressCache.settled_addressBindRequest_own hadd
  · cases ht with
    | full hnone hfull hold =>
      rw [connectCache, heq,
        addressBindRequest_full (AddressCache.findDevice_eq_none.mp hnone) hfull hold]
      exact h
  · refine AddressCache.settled_addressBindRequest_cached hadd ?_
    rw [heq]
    refine ⟨i, ?_⟩
    simp only [AddressCache.setEntry, Table.get_set_self]
    exact he

/-- A `connect` without an entry to take does nothing either. -/
theorem connectCache_full (hc : ¬ c.Cached b.deviceId) (hfull : ¬ c.HasFree)
    (hold : c.addressRemoveOldest = none) : connectCache c b = (none, c) := by
  rcases AddressCache.addressAdd_cases c b.deviceId (UInt32.ofNat maxApdu) b.build with
    ⟨-, heq⟩ | ⟨-, -, heq⟩ | ⟨-, i, e, ht, -, -, -, -, -⟩
  · rw [connectCache, heq, addressBindRequest_full hc hfull hold]
  · rw [connectCache, heq, addressBindRequest_full hc hfull hold]
  · cases ht with
    | own hi => exact absurd (AddressCache.cached_of_findDevice hi) hc
    | free _ hi => exact absurd ⟨i, AddressCache.not_inUse_of_findFree hi⟩ hfull
    | evict _ _ hi =>
      rw [hold] at hi
      cases hi

/-- On a full cache a `connect` writes the oldest entry. -/
theorem connectCache_oldest (hc : ¬ c.Cached b.deviceId) (hfull : ¬ c.HasFree)
    {i : Fin maxAddressCache} (hold : c.addressRemoveOldest = some i) :
    ∃ e, AddressCache.Holds e b.deviceId ∧
      ∀ d, (connectCache c b).2.addressGetByDevice d = (c.setEntry i e).addressGetByDevice d := by
  have hfind := AddressCache.findDevice_eq_none.mpr hc
  rcases AddressCache.addressAdd_cases c b.deviceId (UInt32.ofNat maxApdu) b.build with
    ⟨-, heq⟩ | ⟨-, ht, heq⟩ | ⟨-, j, e, ht, he, -, -, -, heq⟩
  · -- the client's own id: the bind request takes the entry
    have hfree : (c.entries.find? fun e => ! e.flags.inUse && ! e.flags.reserved) = none := by
      rw [Table.find?_eq_none]
      intro j
      cases hu : (c.entries.get j).flags.inUse with
      | true => rfl
      | false => exact absurd ⟨j, hu⟩ hfull
    refine ⟨_, AddressCache.holds_bindReqEntry (c.entries.get i) _, fun d => ?_⟩
    simp only [connectCache, heq, AddressCache.addressBindRequest, hfind, hfree, hold]
  · cases ht with
    | full _ _ hnone =>
      rw [hold] at hnone
      cases hnone
  · have hij : j = i := by
      cases ht with
      | own hi => exact absurd (AddressCache.cached_of_findDevice hi) hc
      | free _ hi => exact absurd ⟨j, AddressCache.not_inUse_of_findFree hi⟩ hfull
      | evict _ _ hi =>
        rw [hold] at hi
        exact (Option.some.inj hi).symm
    refine ⟨e, he, fun d => ?_⟩
    rw [connectCache, AddressCache.addressGetByDevice_addressBindRequest, heq, hij]
    rw [heq]
    refine ⟨j, ?_⟩
    simp only [AddressCache.setEntry, Table.get_set_self]
    exact he

/-- Another device is not bound any more when its entry is taken, -/
theorem connectCache_takes (h : c.Settled) {d : DeviceId} (hne : d ≠ b.deviceId)
    (htakes : TakesEntry c b.deviceId d) : (connectCache c b).2.addressGetByDevice d = none := by
  obtain ⟨hc, hfull, i, hold, hholds⟩ := htakes
  obtain ⟨e, he, hget⟩ := connectCache_oldest hc hfull hold
  rw [hget]
  exact AddressCache.addressGetByDevice_of_not_cached
    (AddressCache.not_cached_setEntry h hholds fun hd => hne (hd.unique he))

/-- and keeps its binding otherwise. -/
theorem connectCache_spares (hsound : c.Sound) {d : DeviceId} (hne : d ≠ b.deviceId)
    (hspares : ¬ TakesEntry c b.deviceId d) :
    (connectCache c b).2.addressGetByDevice d = c.addressGetByDevice d := by
  by_cases hroom : c.Cached b.deviceId ∨ c.HasFree
  · exact connectCache_keeps hsound hroom fun hd => absurd hd hne
  · obtain ⟨hc, hfull⟩ := not_or.mp hroom
    cases hold : c.addressRemoveOldest with
    | some i =>
      obtain ⟨e, he, hget⟩ := connectCache_oldest hc hfull hold
      rw [hget]
      exact AddressCache.addressGetByDevice_setEntry_ne
        (fun hholds => hspares ⟨hc, hfull, i, hold, hholds⟩) fun hd => hne (hd.unique he)
    | none => rw [connectCache_full hc hfull hold]

/-- A device that a `connect` does not find was not bound before, and is not after. -/
theorem connectCache_none (hsound : c.Sound) (h : c.Settled)
    (hnone : (connectCache c b).1 = none) :
    c.addressGetByDevice b.deviceId = none ∧
      (connectCache c b).2.addressGetByDevice b.deviceId = none := by
  rw [connectCache, AddressCache.addressBindRequest_fst] at hnone
  refine ⟨?_, AddressCache.addressGetByDevice_addressBindRequest_none hnone⟩
  rw [← Option.not_isSome_iff_eq_none, AddressCache.isSome_getByDevice_iff hsound h]
  rintro ⟨hc, hown⟩
  rw [AddressCache.addressGetByDevice_addressAdd_self (by rw [hsound.own]; exact hown.symm)
    (Or.inl hc)] at hnone
  cases hnone

/-- The client does not find itself. -/
theorem connectCache_own (hsound : c.Sound) (hown : b.deviceId = 0xFFFFFFFF) :
    (connectCache c b).1 = none := by
  have hadd := AddressCache.sound_addressAdd hsound b.deviceId (UInt32.ofNat maxApdu) b.build
  rw [connectCache, AddressCache.addressBindRequest_fst, hown]
  have hnone := AddressCache.addressGetByDevice_own hadd
  rwa [hadd.own, hown] at hnone

/-- A `connect` binds its device exactly when there is a place for it. -/
theorem isSome_connectCache_self (hsound : c.Sound) (h : c.Settled) :
    ((connectCache c b).2.addressGetByDevice b.deviceId).isSome = true ↔
      ¬ NoPlace c b.deviceId := by
  constructor
  · rintro hsome (hown | ⟨hc, hfull, hold⟩)
    · rw [(connectCache_none hsound h (connectCache_own hsound hown)).2] at hsome
      cases hsome
    · rw [connectCache_full hc hfull hold, AddressCache.addressGetByDevice_of_not_cached hc] at hsome
      cases hsome
  · intro hplace
    rw [NoPlace, not_or] at hplace
    obtain ⟨hown, hplace⟩ := hplace
    have hadd := AddressCache.settled_addressAdd h b.deviceId (UInt32.ofNat maxApdu) b.build
    have hsoundAdd := AddressCache.sound_addressAdd hsound b.deviceId (UInt32.ofNat maxApdu) b.build
    have hcached : (c.addressAdd b.deviceId (UInt32.ofNat maxApdu) b.build).Cached b.deviceId := by
      rcases AddressCache.addressAdd_cases c b.deviceId (UInt32.ofNat maxApdu) b.build with
        ⟨heq, -⟩ | ⟨-, ht, -⟩ | ⟨-, i, e, -, he, -, -, -, heq⟩
      · rw [hsound.own] at heq
        exact absurd heq.symm hown
      · cases ht with
        | full hnone hfull hold =>
          exact absurd ⟨AddressCache.findDevice_eq_none.mp hnone, hfull, hold⟩ hplace
      · rw [heq]
        refine ⟨i, ?_⟩
        simp only [AddressCache.setEntry, Table.get_set_self]
        exact he
    rw [connectCache, AddressCache.addressGetByDevice_addressBindRequest hcached,
      AddressCache.isSome_getByDevice_iff hsoundAdd hadd]
    exact ⟨hcached, hown⟩

/-! ### The two records -/

/-- The device is tracked exactly when it is bound. -/
def ConsistentAt (d : DeviceId) (s : Stack) : Prop :=
  (s.targets.lookup d).isSome = (s.cache.addressGetByDevice d).isSome

instance (d : DeviceId) (s : Stack) : Decidable (ConsistentAt d s) :=
  inferInstanceAs (Decidable (_ = _))

/-- The step keeps to both records of the device. A `connect` of it that would panic finds it
tracked, or has no place for it; one of another device does not take its entry; it is not
disconnected while it is tracked; and a discovery finds it tracked exactly when the cache file
names it. -/
def KeepsBoth (env : Env) (d : DeviceId) (s : Sys) (e : Event) : Prop :=
  match e with
  | .connect _ b =>
    if d = b.deviceId then
      s.stack.poisoned = true → (s.stack.targets.lookup d).isSome = true ∨ NoPlace s.stack.cache d
    else
      (s.stack.cache.addressGetByDevice d).isSome = true → ¬ TakesEntry s.stack.cache b.deviceId d
  | .disconnect _ d' => d = d' → s.stack.targets.lookup d = none
  | .whoisStart _ _ => (s.stack.targets.lookup d).isSome = true ↔
      d ∈ AddressCache.fileDevices env.cacheFile
  | _ => True

instance (c : AddressCache) (d : DeviceId) : Decidable (NoPlace c d) :=
  inferInstanceAs (Decidable (_ ∨ _))

instance (c : AddressCache) (d d' : DeviceId) : Decidable (TakesEntry c d d') :=
  inferInstanceAs (Decidable (_ ∧ _ ∧ ∃ i ∈ c.addressRemoveOldest, _ ∧ _))

instance (env : Env) (d : DeviceId) (s : Sys) (e : Event) : Decidable (KeepsBoth env d s e) :=
  match e with
  | .connect _ b => inferInstanceAs (Decidable (if d = b.deviceId then _ → _ else _ → _))
  | .disconnect _ _ => inferInstanceAs (Decidable (_ → _))
  | .whoisStart _ _ => inferInstanceAs (Decidable (_ ↔ _))
  | .send .. | .receive .. | .poll .. | .extract .. | .whoisClose .. | .whoisDrain .. =>
    instDecidableTrue

theorem settled_step (hsound : s.stack.cache.Sound) (h : s.stack.cache.Settled)
    (hs : Step env s e s' o) : s'.stack.cache.Settled := by
  have hstack := stack_cases hs
  generalize s'.stack = stack' at hstack
  cases hstack with
  | same _ _ _ => exact h
  | connect t b stack _ hc =>
    have hcache := settled_connectCache hsound h b
    cases hc with
    | ok m addr cache _ hr =>
      rw [hr] at hcache
      exact hcache
    | failed cache hr =>
      rw [hr] at hcache
      exact hcache
    | panicked cache _ hr =>
      rw [hr] at hcache
      exact hcache
  | disconnect t d _ _ => exact AddressCache.settled_addressRemoveDevice h d
  | send t d args tgt stack id frame _ _ _ hs => cases hs <;> exact h
  | apdu t arrival src a stack _ _ _ he =>
    cases he with
    | binding i _ _ _ => exact AddressCache.settled_addressAddBinding h _ _ _
    | none _ => exact h
    | discovery device _ _ => exact h
    | released id _ _ => exact h
    | taken id _ f _ d t _ _ _ => exact h
  | extract t call stack _ _ _ hx => cases hx <;> exact h
  | whoisStart t subnet _ _ => exact AddressCache.settled_addressInit _ _
  | whoisClose t _ _ => exact h
  | whoisDrain t _ _ => exact h

theorem settled_run (hrun : (client env).run .init es = some (s, os)) :
    s.stack.cache.Settled :=
  (invariant_run (I := fun s => s.stack.cache.Sound ∧ s.stack.cache.Settled) Sys.wf_init
    ⟨AddressCache.sound_init, AddressCache.settled_init⟩ (all_true es) hrun
    fun _ _ _ _ _ h _ hs => ⟨sound_step h.1 hs, settled_step h.1 h.2 hs⟩).2.2

/-- Whether a device is tracked changes when it is connected, and at no other step. -/
theorem isSome_lookup_step (hs : Step env s e s' o) {d : DeviceId}
    (hno : ∀ t b, e = .connect t b → b.deviceId = d → o ≠ .connected (.ok ())) :
    (s'.stack.targets.lookup d).isSome = (s.stack.targets.lookup d).isSome := by
  have heff := entry_cases hs d
  generalize s'.stack.targets.lookup d = entry at heff
  cases heff with
  | same _ h _ => rw [h]
  | connected t b addr he hd ho => exact absurd ho (hno t b he hd)
  | sent t args tgt id frame _ _ hl => rw [hl]; rfl
  | replied t arrival src a id f tgt _ _ _ _ _ hl => rw [hl]; rfl
  | taken t call tgt value _ _ _ _ hl => rw [hl]; rfl

/-- The I-Am of a device binds it anew if it is bound, and nothing else. -/
theorem isSome_addressAddBinding (hsound : c.Sound) (h : c.Settled) {i : DeviceId}
    (hi : i ≠ 0xFFFFFFFF) (m : UInt32) (a : BacnetAddress) (d : DeviceId) :
    ((c.addressAddBinding i m a).addressGetByDevice d).isSome = (c.addressGetByDevice d).isSome := by
  have hsound' := AddressCache.sound_addressAddBinding hsound hi m a
  have h' := AddressCache.settled_addressAddBinding h i m a
  rw [Bool.eq_iff_iff, AddressCache.isSome_getByDevice_iff hsound' h',
    AddressCache.isSome_getByDevice_iff hsound h, AddressCache.cached_addressAddBinding]

theorem not_bound_of_noPlace {d : DeviceId} (hsound : c.Sound) (h : NoPlace c d) :
    c.addressGetByDevice d = none := by
  rcases h with hown | ⟨hc, -⟩
  · have hnone := AddressCache.addressGetByDevice_own hsound
    rwa [hsound.own, ← hown] at hnone
  · exact AddressCache.addressGetByDevice_of_not_cached hc

theorem cache_of_connect {t : Nat} (hs : Step env s (.connect t b) s' o) :
    s'.stack.cache = (connectCache s.stack.cache b).2 := by
  cases hs with
  | connect _ _ stack _ hth hc =>
    cases hc with
    | ok m addr cache hp hr => exact (congrArg Prod.snd hr).symm
    | failed cache hr => exact (congrArg Prod.snd hr).symm
    | panicked cache hp hr => exact hr.symm

/-- A `connect` and the records of its own device. -/
theorem consistentAt_connect_self {t : Nat} (hsound : s.stack.cache.Sound)
    (hsettled : s.stack.cache.Settled) (h : ConsistentAt b.deviceId s.stack)
    (hs : Step env s (.connect t b) s' o) :
    KeepsBoth env b.deviceId s (.connect t b) ↔ ConsistentAt b.deviceId s'.stack := by
  have hbound := isSome_connectCache_self (b := b) hsound hsettled
  have hcache := cache_of_connect hs
  rw [ConsistentAt] at h ⊢
  simp only [KeepsBoth, if_true]
  by_cases hplace : NoPlace s.stack.cache b.deviceId
  · -- it is not found, and stays as little tracked as it is bound
    have hafter : (connectCache s.stack.cache b).2.addressGetByDevice b.deviceId = none := by
      rw [← Option.not_isSome_iff_eq_none, hbound, not_not]
      exact hplace
    rw [not_bound_of_noPlace hsound hplace] at h
    rw [hcache, hafter]
    cases hs with
    | connect _ _ stack _ hth hc =>
      cases hc with
      | ok m addr cache hp hr =>
        have hget := (connectCache_bound hsound hr).2
        rw [hr, hget] at hafter
        cases hafter
      | failed cache hr =>
        simp only [connecting, stackInit_targets]
        exact ⟨fun _ => h, fun _ _ => .inr hplace⟩
      | panicked cache hp hr =>
        simp only [connecting, stackInit_targets]
        exact ⟨fun _ => h, fun _ _ => .inr hplace⟩
  · have hafter := hbound.mpr hplace
    rw [hcache, hafter]
    cases hs with
    | connect _ _ stack _ hth hc =>
      cases hc with
      | ok m addr cache hp hr =>
        rw [Stack.lookup_setTarget_self, hp]
        simp
      | failed cache hr =>
        have hnone := (connectCache_none hsound hsettled (congrArg Prod.fst hr)).2
        rw [hnone] at hafter
        cases hafter
      | panicked cache hp hr =>
        simp only [connecting, stackInit_targets, hp, hplace]
        simp

/-- A `connect` and the records of another device. -/
theorem consistentAt_connect_ne {t : Nat} {d : DeviceId} (hsound : s.stack.cache.Sound)
    (hsettled : s.stack.cache.Settled) (h : ConsistentAt d s.stack) (hne : d ≠ b.deviceId)
    (hs : Step env s (.connect t b) s' o) :
    KeepsBoth env d s (.connect t b) ↔ ConsistentAt d s'.stack := by
  have hsame := isSome_lookup_step hs (d := d) fun t' b' he hd _ => by
    cases he
    exact hne hd.symm
  rw [ConsistentAt] at h
  rw [ConsistentAt, hsame, h, cache_of_connect hs]
  simp only [KeepsBoth, if_neg hne]
  by_cases htakes : TakesEntry s.stack.cache b.deviceId d
  · rw [connectCache_takes hsettled hne htakes]
    simp [htakes]
  · rw [connectCache_spares hsound hne htakes]
    simp [htakes]

/-- The steps that leave the devices bound that are. -/
theorem isSome_getByDevice_step (hsound : s.stack.cache.Sound) (hsettled : s.stack.cache.Settled)
    (hconnect : ∀ t b, e ≠ .connect t b) (hdisconnect : ∀ t d, e ≠ .disconnect t d)
    (hwhois : ∀ t subnet, e ≠ .whoisStart t subnet) (hs : Step env s e s' o) (d : DeviceId) :
    (s'.stack.cache.addressGetByDevice d).isSome = (s.stack.cache.addressGetByDevice d).isSome := by
  have hstack := stack_cases hs
  generalize s'.stack = stack' at hstack
  cases hstack with
  | same _ _ _ => rfl
  | connect t b stack he _ => exact absurd he (hconnect t b)
  | disconnect t d' he _ => exact absurd he (hdisconnect t d')
  | send t d' args tgt stack id frame _ _ _ hs => cases hs <;> rfl
  | apdu t arrival src a stack _ _ _ he =>
    cases he with
    | binding i _ _ hi =>
      obtain ⟨request, -, hdec⟩ := hi
      exact isSome_addressAddBinding hsound hsettled (iAm_deviceId_ne hdec) _ _ d
    | none _ => rfl
    | discovery device _ _ => rfl
    | released id _ _ => rfl
    | taken id _ f _ d' tgt _ _ _ => rfl
  | extract t call stack _ _ _ hx => cases hx <;> rfl
  | whoisStart t subnet he _ => exact absurd he (hwhois t subnet)
  | whoisClose t _ _ => rfl
  | whoisDrain t _ _ => rfl

/-- A step keeps the two records of a device the same exactly when it meets the condition. -/
theorem consistentAt_step {d : DeviceId} (hsound : s.stack.cache.Sound)
    (hsettled : s.stack.cache.Settled) (h : ConsistentAt d s.stack) (hs : Step env s e s' o) :
    KeepsBoth env d s e ↔ ConsistentAt d s'.stack := by
  by_cases hconnect : ∃ t b, e = .connect t b
  · obtain ⟨t, b, rfl⟩ := hconnect
    by_cases hd : d = b.deviceId
    · subst hd
      exact consistentAt_connect_self hsound hsettled h hs
    · exact consistentAt_connect_ne hsound hsettled h hd hs
  · have hsame := isSome_lookup_step hs (d := d) fun t b he _ => absurd ⟨t, b, he⟩ hconnect
    rw [ConsistentAt] at h
    rw [ConsistentAt, hsame]
    cases e with
    | connect t b => exact absurd ⟨t, b, rfl⟩ hconnect
    | disconnect t d' =>
      have hcache : s'.stack.cache = s.stack.cache.addressRemoveDevice d' := by
        cases hs
        rfl
      rw [hcache]
      by_cases hd : d = d'
      · subst hd
        rw [AddressCache.addressGetByDevice_addressRemoveDevice_self hsettled]
        simp [KeepsBoth]
      · rw [h, AddressCache.addressGetByDevice_addressRemoveDevice_ne hd]
        simp [KeepsBoth, hd]
    | whoisStart t subnet =>
      have hcache : s'.stack.cache = s.stack.cache.addressInit env.cacheFile := by
        cases hs
        rfl
      rw [hcache, Bool.eq_iff_iff, AddressCache.isSome_getByDevice_addressInit hsound]
      rfl
    | _ =>
      rw [isSome_getByDevice_step hsound hsettled (fun _ _ he => by cases he)
        (fun _ _ he => by cases he) (fun _ _ he => by cases he) hs d]
      exact ⟨fun _ => h, fun _ => trivial⟩

theorem consistentAt_init (d : DeviceId) : ConsistentAt d Sys.init.stack := by
  have hget : AddressCache.init.addressGetByDevice d = none := by
    refine AddressCache.addressGetByDevice_of_not_cached ?_
    rintro ⟨i, hi, -⟩
    rw [AddressCache.init, Table.get_replicate] at hi
    exact absurd hi Bool.false_ne_true
  exact (congrArg Option.isSome hget).symm

/-- The two records of a device are the same all along a run exactly when all its steps meet the
condition. -/
theorem consistentAt_run_iff {d : DeviceId} (hrun : (client env).run .init es = some (s, os)) :
    (client env).All (KeepsBoth env d) .init es ↔
      ∀ n u us, (client env).run .init (es.take n) = some (u, us) → ConsistentAt d u.stack := by
  refine Machine.all_iff_invariant (I := fun s => ConsistentAt d s.stack)
    (J := fun s => s.Wf ∧ s.stack.cache.Sound ∧ s.stack.cache.Settled) ?_ ?_
    ⟨Sys.wf_init, AddressCache.sound_init, AddressCache.settled_init⟩ (consistentAt_init d) hrun
  · rintro s e s' o ⟨hwf, hsound, hsettled⟩ hs
    have hstep := step_cases hwf.tsm hs
    exact ⟨wf_step hwf hs, sound_step hsound hstep, settled_step hsound hsettled hstep⟩
  · rintro s e s' o ⟨hwf, hsound, hsettled⟩ h hs
    exact consistentAt_step hsound hsettled h (step_cases hwf.tsm hs)

/-! ### From a disconnect on -/

/-- The last step that connected or disconnected the device was a `disconnect`, and was taken in
the state `u`. -/
def DisconnectedIn (env : Env) (es : List Event) (d : DeviceId) (u : Sys) : Prop :=
  ∃ i t o u', (client env).Latest (Rebinds d) .init es i u (.disconnect t d) o u'

theorem disconnected_concat {t : Nat} {d : DeviceId}
    (hrun : (client env).run .init es = some (s, os))
    (hs : (client env).step s (.disconnect t d) = some (s', o)) :
    DisconnectedIn env (es ++ [.disconnect t d]) d s :=
  ⟨_, _, _, _, Machine.Latest.new hrun hs (Or.inr ⟨t, rfl⟩)⟩

/-- A step before or at which the device was disconnected, and not connected since, does not
change whether it is tracked. -/
theorem isSome_lookup_disconnected {d : DeviceId} {u : Sys}
    (hrun : (client env).run .init es = some (s, os))
    (hs : (client env).step s e = some (s', o)) (hdisc : DisconnectedIn env (es ++ [e]) d u) :
    (s'.stack.targets.lookup d).isSome = (s.stack.targets.lookup d).isSome ∧
      (DisconnectedIn env es d u ∨ u = s) := by
  have hstep := step_cases (wf_run hrun).tsm hs
  obtain ⟨i, t, p, u', hlatest⟩ := hdisc
  rcases hlatest.cases_concat hrun hs with ⟨hold, hno⟩ | ⟨hu, he, -, -⟩
  · exact ⟨isSome_lookup_step hstep fun t b he hd ho => hno (.inl ⟨t, b, he, hd, ho⟩),
      .inl ⟨i, t, p, u', hold⟩⟩
  · refine ⟨isSome_lookup_step hstep fun t' b hconn _ => ?_, .inr hu⟩
    cases he.trans hconn

/-- A device is tracked as it was when it was disconnected, until it is connected again. -/
theorem isSome_lookup_of_disconnected (hrun : (client env).run .init es = some (s, os))
    {d : DeviceId} {u : Sys} (hdisc : DisconnectedIn env es d u) :
    (s.stack.targets.lookup d).isSome = (u.stack.targets.lookup d).isSome := by
  refine Machine.run_history
    (motive := fun es _ s => DisconnectedIn env es d u →
      (s.stack.targets.lookup d).isSome = (u.stack.targets.lookup d).isSome) ?_ ?_
    (all_true es) hrun hdisc
  · rintro ⟨i, t, o, u', hlatest⟩
    exact absurd hlatest.toAt.lt (Nat.not_lt_zero i)
  · intro es os s e s' o hrun ih _ hs hdisc
    obtain ⟨hsame, hold | rfl⟩ := isSome_lookup_disconnected hrun hs hdisc
    · exact hsame.trans (ih hold)
    · exact hsame

end Bacnet
