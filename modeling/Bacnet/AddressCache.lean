import Bacnet.Address
import Bacnet.Lib.Table

/-!
# Bacnet.AddressCache

The address cache (`address.c`): 255 entries that bind a device id to an address and to
the size of the largest APDU the device takes. Adding an entry reuses the device's own,
then a free one, and on a full cache evicts the entry nearest to expiry.

To its readers the cache is the partial map `addressGetByDevice`; the lemmas say what
each operation does to that map.
-/

namespace Bacnet

open Bacnet.Lib

/-- `MAX_ADDRESS_CACHE`. -/
abbrev maxAddressCache : Nat := 255

abbrev DeviceId := UInt32

/-- The `BAC_ADDR_*` bits of an entry. -/
structure AddressFlags where
  inUse : Bool
  bindReq : Bool
  static : Bool
  shortTtl : Bool
  reserved : Bool
  deriving DecidableEq

namespace AddressFlags

/-- No flag set. -/
def none : AddressFlags := ⟨false, false, false, false, false⟩

end AddressFlags

def bacAddrLongTime : Nat := 86400
def bacAddrShortTime : Nat := 3600
def bacAddrForever : Nat := 0xFFFFFFFF

/-- `struct Address_Cache_Entry`. -/
structure AddressCacheEntry where
  flags : AddressFlags
  deviceId : DeviceId
  maxApdu : UInt32
  address : BacnetAddress
  timeToLive : Nat
  deriving DecidableEq

/-- `Address_Cache` with `Top_Protected_Entry` and `Own_Device_ID`. -/
structure AddressCache where
  entries : Table maxAddressCache AddressCacheEntry
  topProtectedEntry : Nat
  ownDeviceId : DeviceId
  deriving DecidableEq

namespace AddressCache

def init : AddressCache :=
  ⟨Table.replicate maxAddressCache ⟨.none, 0, 0, .default, 0⟩, 0, 0xFFFFFFFF⟩

/-! ### The code -/

/-- The search that most operations start with: the first entry in use for the device. -/
def findDevice (c : AddressCache) (deviceId : DeviceId) : Option (Fin maxAddressCache) :=
  c.entries.find? fun e => e.flags.inUse && e.deviceId == deviceId

def setEntry (c : AddressCache) (i : Fin maxAddressCache) (e : AddressCacheEntry) :
    AddressCache :=
  { c with entries := c.entries.set i e }

/-- `address_remove_device`. -/
def addressRemoveDevice (c : AddressCache) (deviceId : DeviceId) : AddressCache :=
  match c.findDevice deviceId with
  | some i =>
    { c.setEntry i { c.entries.get i with flags := .none } with
      topProtectedEntry :=
        if i.val < c.topProtectedEntry then c.topProtectedEntry - 1 else c.topProtectedEntry }
  | none => c

/-- One pass of `address_remove_oldest` from position `top` on: the last of the entries
that pass the test and live the shortest. -/
def oldest (c : AddressCache) (top : Nat) (p : AddressFlags → Bool) :
    Option (Fin maxAddressCache) :=
  ((List.finRange maxAddressCache).foldl
    (fun (best : Nat × Option (Fin maxAddressCache)) i =>
      let e := c.entries.get i
      if top ≤ i.val ∧ p e.flags ∧ e.timeToLive ≤ best.1 then (e.timeToLive, some i) else best)
    (bacAddrForever - 1, none)).2

/-- `address_remove_oldest`: bound entries first, then those with a bind request. The
reserved mark it leaves on the entry is overwritten by both callers. -/
def addressRemoveOldest (c : AddressCache) : Option (Fin maxAddressCache) :=
  if c.topProtectedEntry > maxAddressCache - 1 then none
  else
    (c.oldest c.topProtectedEntry fun f => f.inUse && ! f.bindReq && ! f.static) <|>
      (c.oldest 0 fun f => f.inUse && f.bindReq && ! f.static)

/-- `address_set_device_TTL`. -/
def addressSetDeviceTtl (c : AddressCache) (deviceId : DeviceId) (timeOut : Nat)
    (staticFlag : Bool) : AddressCache :=
  match c.findDevice deviceId with
  | some i =>
    let e := c.entries.get i
    c.setEntry i
      (if e.flags.bindReq then { e with timeToLive := timeOut }
      else if staticFlag then
        { e with flags := { e.flags with static := true }, timeToLive := bacAddrForever }
      else { e with flags := { e.flags with static := false }, timeToLive := timeOut })
  | none => c

/-- `address_get_by_device`: the maximum APDU and the address, when bound. -/
def addressGetByDevice (c : AddressCache) (deviceId : DeviceId) :
    Option (UInt32 × BacnetAddress) :=
  match c.findDevice deviceId with
  | some i =>
    let e := c.entries.get i
    if e.flags.bindReq then none else some (e.maxApdu, e.address)
  | none => none

/-- What `address_add` writes to an entry it takes for a device. -/
def newEntry (deviceId : DeviceId) (maxApdu : UInt32) (src : BacnetAddress) :
    AddressCacheEntry :=
  ⟨{ AddressFlags.none with inUse := true }, deviceId, maxApdu, src, bacAddrShortTime⟩

/-- What `address_add` makes of an entry the device has already. -/
def updatedEntry (e : AddressCacheEntry) (maxApdu : UInt32) (src : BacnetAddress) :
    AddressCacheEntry :=
  { e with
    address := src
    maxApdu
    timeToLive :=
      if e.flags.bindReq then bacAddrLongTime
      else if e.flags.static then bacAddrForever
      else if e.flags.shortTtl then bacAddrShortTime
      else bacAddrLongTime
    flags := { e.flags with bindReq := false } }

/-- A free entry, as `address_add` looks for one. -/
def findFree (c : AddressCache) : Option (Fin maxAddressCache) :=
  c.entries.find? fun e => ! e.flags.inUse

/-- `address_add`. -/
def addressAdd (c : AddressCache) (deviceId : DeviceId) (maxApdu : UInt32)
    (src : BacnetAddress) : AddressCache :=
  if c.ownDeviceId = deviceId then c
  else
    match c.findDevice deviceId with
    | some i => c.setEntry i (updatedEntry (c.entries.get i) maxApdu src)
    | none =>
      match c.findFree with
      | some i => c.setEntry i (newEntry deviceId maxApdu src)
      | none =>
        match c.addressRemoveOldest with
        | some i => c.setEntry i (newEntry deviceId maxApdu src)
        | none => c

/-- What `address_device_bind_request` makes of an entry that is bound already. -/
def boundEntry (e : AddressCacheEntry) : AddressCacheEntry :=
  if e.flags.shortTtl then
    { e with flags := { e.flags with shortTtl := false }, timeToLive := bacAddrLongTime }
  else e

/-- What `address_device_bind_request` makes of an entry it takes to wait for a binding.
The old address and maximum APDU stay in it. -/
def bindReqEntry (e : AddressCacheEntry) (deviceId : DeviceId) : AddressCacheEntry :=
  { e with
    flags := { AddressFlags.none with inUse := true, bindReq := true }
    deviceId
    timeToLive := bacAddrShortTime }

/-- `address_bind_request`: what it returns for a device that is bound, and the cache
after. -/
def addressBindRequest (c : AddressCache) (deviceId : DeviceId) :
    Option (UInt32 × BacnetAddress) × AddressCache :=
  match c.findDevice deviceId with
  | some i =>
    let e := c.entries.get i
    if e.flags.bindReq then (none, c)
    else (some (e.maxApdu, e.address), c.setEntry i (boundEntry e))
  | none =>
    match c.entries.find? fun e => ! e.flags.inUse && ! e.flags.reserved with
    | some i => (none, c.setEntry i (bindReqEntry (c.entries.get i) deviceId))
    | none =>
      match c.addressRemoveOldest with
      | some i => (none, c.setEntry i (bindReqEntry (c.entries.get i) deviceId))
      | none => (none, c)

/-- What `address_add_binding` writes to the entry of the device. -/
def rebound (e : AddressCacheEntry) (maxApdu : UInt32) (src : BacnetAddress) :
    AddressCacheEntry :=
  { e with
    address := src
    maxApdu
    flags := { e.flags with bindReq := false }
    timeToLive := if e.flags.static then e.timeToLive else bacAddrLongTime }

/-- `address_add_binding`. -/
def addressAddBinding (c : AddressCache) (deviceId : DeviceId) (maxApdu : UInt32)
    (src : BacnetAddress) : AddressCache :=
  match c.findDevice deviceId with
  | some i => c.setEntry i (rebound (c.entries.get i) maxApdu src)
  | none => c

/-- A line of the address cache file, as parsed. -/
structure CacheFileLine where
  deviceId : DeviceId
  maxApdu : UInt32
  src : BacnetAddress

/-- `address_file_init`. -/
def addressFileInit (c : AddressCache) (file : List CacheFileLine) : AddressCache :=
  file.foldl
    (fun c l => (c.addressAdd l.deviceId l.maxApdu l.src).addressSetDeviceTtl l.deviceId 0 true) c

/-- `address_init`. -/
def addressInit (c : AddressCache) (file : List CacheFileLine) : AddressCache :=
  addressFileInit
    { c with
      topProtectedEntry := 0
      entries := c.entries.map fun e => { e with flags := .none } } file

/-! ### The map from device ids to bindings -/

/-- The entry is the one of the device. -/
def Holds (e : AddressCacheEntry) (deviceId : DeviceId) : Prop :=
  e.flags.inUse = true ∧ e.deviceId = deviceId

/-- A device has one entry at most. -/
def Ok (c : AddressCache) : Prop :=
  ∀ i j deviceId, Holds (c.entries.get i) deviceId → Holds (c.entries.get j) deviceId → i = j

/-- The device has an entry, bound or not. -/
def Cached (c : AddressCache) (deviceId : DeviceId) : Prop :=
  ∃ i, Holds (c.entries.get i) deviceId

/-- An entry is free. -/
def HasFree (c : AddressCache) : Prop := ∃ i, (c.entries.get i).flags.inUse = false

theorem findDevice_eq_none {c : AddressCache} {d : DeviceId} :
    c.findDevice d = none ↔ ¬ c.Cached d := by
  simp [findDevice, Table.find?_eq_none, Cached, Holds]

theorem holds_of_findDevice {c : AddressCache} {d : DeviceId} {i : Fin maxAddressCache}
    (h : c.findDevice d = some i) : Holds (c.entries.get i) d := by
  simpa [Holds] using Table.find?_sat h

theorem cached_of_findDevice {c : AddressCache} {d : DeviceId} {i : Fin maxAddressCache}
    (h : c.findDevice d = some i) : c.Cached d :=
  ⟨i, holds_of_findDevice h⟩

theorem findDevice_of_cached {c : AddressCache} {d : DeviceId} (h : c.Cached d) :
    ∃ i, c.findDevice d = some i := by
  obtain ⟨i, hi⟩ := h
  exact Table.exists_find? (i := i) (by simpa [Holds] using hi)

theorem findFree_eq_none {c : AddressCache} : c.findFree = none ↔ ¬ c.HasFree := by
  simp [findFree, Table.find?_eq_none, HasFree]

theorem not_inUse_of_findFree {c : AddressCache} {i : Fin maxAddressCache}
    (h : c.findFree = some i) : (c.entries.get i).flags.inUse = false := by
  simpa using Table.find?_sat h

theorem Holds.unique {e : AddressCacheEntry} {d d' : DeviceId} (h : Holds e d)
    (h' : Holds e d') : d = d' :=
  h.2.symm.trans h'.2

/-- A write to an entry that is another device's, before and after, does not change a
device's binding. -/
theorem addressGetByDevice_setEntry_ne {c : AddressCache} {i : Fin maxAddressCache}
    {e : AddressCacheEntry} {d : DeviceId} (hold : ¬ Holds (c.entries.get i) d)
    (hnew : ¬ Holds e d) : (c.setEntry i e).addressGetByDevice d = c.addressGetByDevice d := by
  have hp : ∀ e : AddressCacheEntry, ¬ Holds e d → (e.flags.inUse && e.deviceId == d) = false := by
    intro e he
    simpa [Holds] using he
  have hfind : (c.setEntry i e).findDevice d = c.findDevice d :=
    Table.find?_set_of_not (hp _ hold) (hp _ hnew)
  rw [addressGetByDevice, addressGetByDevice, hfind]
  cases hf : c.findDevice d with
  | none => rfl
  | some j =>
      have hij : i ≠ j := by
        intro hij
        rw [hij] at hold
        exact hold (holds_of_findDevice hf)
      simp only [setEntry, Table.get_set_ne _ hij]

/-- A write to the device's own entry decides its binding. -/
theorem addressGetByDevice_setEntry_found {c : AddressCache} {i : Fin maxAddressCache}
    {e : AddressCacheEntry} {d : DeviceId} (hf : c.findDevice d = some i) (hnew : Holds e d) :
    (c.setEntry i e).addressGetByDevice d =
      if e.flags.bindReq then none else some (e.maxApdu, e.address) := by
  have hfind : (c.setEntry i e).findDevice d = some i :=
    Table.find?_set_found hf (by simpa [Holds] using hnew)
  rw [addressGetByDevice, hfind]
  simp [setEntry]

/-- So does a write that gives a device without an entry its first one. -/
theorem addressGetByDevice_setEntry_new {c : AddressCache} {i : Fin maxAddressCache}
    {e : AddressCacheEntry} {d : DeviceId} (hf : c.findDevice d = none) (hnew : Holds e d) :
    (c.setEntry i e).addressGetByDevice d =
      if e.flags.bindReq then none else some (e.maxApdu, e.address) := by
  have hfind : (c.setEntry i e).findDevice d = some i :=
    Table.find?_set_new hf (by simpa [Holds] using hnew)
  rw [addressGetByDevice, hfind]
  simp [setEntry]

/-! ### What the operations write -/

theorem holds_newEntry (d : DeviceId) (m : UInt32) (a : BacnetAddress) :
    Holds (newEntry d m a) d :=
  ⟨rfl, rfl⟩

theorem holds_bindReqEntry (e : AddressCacheEntry) (d : DeviceId) :
    Holds (bindReqEntry e d) d :=
  ⟨rfl, rfl⟩

theorem holds_updatedEntry {e : AddressCacheEntry} {d : DeviceId} (h : Holds e d) (m : UInt32)
    (a : BacnetAddress) : Holds (updatedEntry e m a) d :=
  h

theorem holds_rebound {e : AddressCacheEntry} {d : DeviceId} (h : Holds e d) (m : UInt32)
    (a : BacnetAddress) : Holds (rebound e m a) d :=
  h

theorem holds_boundEntry {e : AddressCacheEntry} {d : DeviceId} :
    Holds (boundEntry e) d ↔ Holds e d := by
  rw [boundEntry]
  split <;> rfl

/-- The three places `address_add` can write to. -/
inductive AddTarget (c : AddressCache) (d : DeviceId) : Option (Fin maxAddressCache) → Prop where
  | own {i} (h : c.findDevice d = some i) : AddTarget c d (some i)
  | free {i} (h : c.findDevice d = none) (hi : c.findFree = some i) : AddTarget c d (some i)
  | evict {i} (h : c.findDevice d = none) (hfull : ¬ c.HasFree)
      (hi : c.addressRemoveOldest = some i) : AddTarget c d (some i)
  | full (h : c.findDevice d = none) (hfull : ¬ c.HasFree) (ho : c.addressRemoveOldest = none) :
      AddTarget c d none

/-- What `address_add` does, once: it leaves the cache alone, or writes one entry of the
device. -/
theorem addressAdd_cases (c : AddressCache) (d : DeviceId) (m : UInt32) (a : BacnetAddress) :
    (c.ownDeviceId = d ∧ c.addressAdd d m a = c) ∨
    (c.ownDeviceId ≠ d ∧ AddTarget c d none ∧ c.addressAdd d m a = c) ∨
    (c.ownDeviceId ≠ d ∧ ∃ i e, AddTarget c d (some i) ∧ Holds e d ∧ e.flags.bindReq = false ∧
      e.maxApdu = m ∧ e.address = a ∧ c.addressAdd d m a = c.setEntry i e) := by
  rw [addressAdd]
  split
  · rename_i hown
    exact Or.inl ⟨hown, rfl⟩
  · rename_i hown
    refine Or.inr ?_
    split
    · rename_i i hi
      exact Or.inr ⟨hown, i, _, .own hi, holds_updatedEntry (holds_of_findDevice hi) m a, rfl, rfl,
        rfl, rfl⟩
    · rename_i hnone
      split
      · rename_i i hi
        exact Or.inr ⟨hown, i, _, .free hnone hi, holds_newEntry d m a, rfl, rfl, rfl, rfl⟩
      · rename_i hfree
        have hfull := findFree_eq_none.mp hfree
        split
        · rename_i i hi
          exact Or.inr ⟨hown, i, _, .evict hnone hfull hi, holds_newEntry d m a, rfl, rfl, rfl, rfl⟩
        · rename_i ho
          exact Or.inl ⟨hown, .full hnone hfull ho, rfl⟩

/-- What `address_bind_request` does, once. -/
theorem addressBindRequest_cases (c : AddressCache) (d : DeviceId) :
    (c.Cached d ∧ c.addressGetByDevice d = none ∧ c.addressBindRequest d = (none, c)) ∨
    (∃ i, c.findDevice d = some i ∧
      c.addressGetByDevice d = some ((c.entries.get i).maxApdu, (c.entries.get i).address) ∧
      c.addressBindRequest d =
        (c.addressGetByDevice d, c.setEntry i (boundEntry (c.entries.get i)))) ∨
    (¬ c.Cached d ∧ c.addressGetByDevice d = none ∧
      (c.addressBindRequest d = (none, c) ∨
        ∃ i e, Holds e d ∧ e.flags.bindReq = true ∧
          c.addressBindRequest d = (none, c.setEntry i e))) := by
  cases hf : c.findDevice d with
  | some i =>
      have hcached := cached_of_findDevice hf
      simp only [addressBindRequest, addressGetByDevice, hf]
      split
      · exact Or.inl ⟨hcached, rfl, rfl⟩
      · exact Or.inr (Or.inl ⟨i, rfl, rfl, rfl⟩)
  | none =>
      refine Or.inr (Or.inr ⟨findDevice_eq_none.mp hf, ?_, ?_⟩)
      · simp only [addressGetByDevice, hf]
      · simp only [addressBindRequest, hf]
        split
        · rename_i i _
          exact Or.inr ⟨i, _, holds_bindReqEntry _ d, rfl, rfl⟩
        · split
          · rename_i i _
            exact Or.inr ⟨i, _, holds_bindReqEntry _ d, rfl, rfl⟩
          · exact Or.inl rfl

/-! ### What the operations do to the bindings -/

/-- The entry `address_add` takes on a cache with room is not another device's. -/
theorem AddTarget.not_holds {c : AddressCache} {d d' : DeviceId} {i : Fin maxAddressCache}
    (h : AddTarget c d (some i)) (hroom : c.Cached d ∨ c.HasFree) (hne : d' ≠ d) :
    ¬ Holds (c.entries.get i) d' := by
  intro hd'
  cases h with
  | own h => exact hne (hd'.unique (holds_of_findDevice h))
  | free _ hi =>
      have := not_inUse_of_findFree hi
      rw [hd'.1] at this
      exact absurd this (by decide)
  | evict h hfull _ =>
      rcases hroom with hc | hf
      · exact findDevice_eq_none.mp h hc
      · exact hfull hf

theorem AddTarget.getByDevice_setEntry {c : AddressCache} {d : DeviceId}
    {i : Fin maxAddressCache} (h : AddTarget c d (some i)) {e : AddressCacheEntry}
    (he : Holds e d) :
    (c.setEntry i e).addressGetByDevice d =
      if e.flags.bindReq then none else some (e.maxApdu, e.address) := by
  cases h with
  | own h => exact addressGetByDevice_setEntry_found h he
  | free h _ => exact addressGetByDevice_setEntry_new h he
  | evict h _ _ => exact addressGetByDevice_setEntry_new h he

/-- A cache with room takes the binding it is given. -/
theorem addressGetByDevice_addressAdd_self {c : AddressCache} {d : DeviceId} {m : UInt32}
    {a : BacnetAddress} (hown : c.ownDeviceId ≠ d) (hroom : c.Cached d ∨ c.HasFree) :
    (c.addressAdd d m a).addressGetByDevice d = some (m, a) := by
  rcases addressAdd_cases c d m a with ⟨h, -⟩ | ⟨-, h, -⟩ | ⟨-, i, e, ht, he, hb, hm, ha, heq⟩
  · exact absurd h hown
  · cases h with
    | full h hfull _ =>
        rcases hroom with hc | hf
        · exact absurd hc (findDevice_eq_none.mp h)
        · exact absurd hf hfull
  · rw [heq, ht.getByDevice_setEntry he, hb, hm, ha]
    rfl

/-- and touches no other. -/
theorem addressGetByDevice_addressAdd_ne {c : AddressCache} {d d' : DeviceId} {m : UInt32}
    {a : BacnetAddress} (hroom : c.Cached d ∨ c.HasFree) (hne : d' ≠ d) :
    (c.addressAdd d m a).addressGetByDevice d' = c.addressGetByDevice d' := by
  rcases addressAdd_cases c d m a with ⟨-, heq⟩ | ⟨-, -, heq⟩ | ⟨-, i, e, ht, he, -, -, -, heq⟩
  · rw [heq]
  · rw [heq]
  · rw [heq]
    exact addressGetByDevice_setEntry_ne (ht.not_holds hroom hne) fun h => hne (h.unique he)

theorem cached_of_addressGetByDevice {c : AddressCache} {d : DeviceId}
    {p : UInt32 × BacnetAddress} (h : c.addressGetByDevice d = some p) : c.Cached d := by
  by_contra hnone
  rw [addressGetByDevice, findDevice_eq_none.mpr hnone] at h
  cases h

theorem cached_addressAdd {c : AddressCache} {d : DeviceId} {m : UInt32} {a : BacnetAddress}
    (hown : c.ownDeviceId ≠ d) (hroom : c.Cached d ∨ c.HasFree) : (c.addressAdd d m a).Cached d :=
  cached_of_addressGetByDevice (addressGetByDevice_addressAdd_self hown hroom)

/-- A bind request answers with the binding there is. -/
theorem addressBindRequest_fst (c : AddressCache) (d : DeviceId) :
    (c.addressBindRequest d).1 = c.addressGetByDevice d := by
  rcases addressBindRequest_cases c d with
    ⟨-, hg, heq⟩ | ⟨i, -, -, heq⟩ | ⟨-, hg, heq | ⟨i, e, -, -, heq⟩⟩
  · rw [heq, hg]
  · rw [heq]
  · rw [heq, hg]
  · rw [heq, hg]

/-- A bind request for a device in the cache changes no binding. -/
theorem addressGetByDevice_addressBindRequest {c : AddressCache} {d : DeviceId}
    (hc : c.Cached d) (d' : DeviceId) :
    (c.addressBindRequest d).2.addressGetByDevice d' = c.addressGetByDevice d' := by
  rcases addressBindRequest_cases c d with ⟨-, -, heq⟩ | ⟨i, hi, hg, heq⟩ | ⟨hnc, -, -⟩
  · rw [heq]
  · rw [heq]
    have hold := holds_of_findDevice hi
    by_cases hdd : d' = d
    · subst hdd
      rw [addressGetByDevice_setEntry_found hi (holds_boundEntry.mpr hold), hg]
      have hbind : (c.entries.get i).flags.bindReq = false := by
        rw [addressGetByDevice, hi] at hg
        by_contra hb
        simp [Bool.not_eq_false] at hb
        simp [hb] at hg
      have hflag : (boundEntry (c.entries.get i)).flags.bindReq = false := by
        rw [boundEntry]
        split <;> exact hbind
      have hval : ((boundEntry (c.entries.get i)).maxApdu, (boundEntry (c.entries.get i)).address) =
          ((c.entries.get i).maxApdu, (c.entries.get i).address) := by
        rw [boundEntry]
        split <;> rfl
      rw [hflag, hval]
      rfl
    · exact addressGetByDevice_setEntry_ne (fun h => hdd (h.unique hold))
        fun h => hdd ((holds_boundEntry.mp h).unique hold)
  · exact absurd hc hnc

/-- An I-Am rewrites the binding of the device it names, if that has an entry. -/
theorem addressGetByDevice_addressAddBinding_self {c : AddressCache} {d : DeviceId} {m : UInt32}
    {a : BacnetAddress} (hc : c.Cached d) :
    (c.addressAddBinding d m a).addressGetByDevice d = some (m, a) := by
  obtain ⟨i, hi⟩ := findDevice_of_cached hc
  simp only [addressAddBinding, hi]
  exact addressGetByDevice_setEntry_found hi (holds_rebound (holds_of_findDevice hi) m a)

theorem addressGetByDevice_addressAddBinding_ne {c : AddressCache} {d d' : DeviceId} {m : UInt32}
    {a : BacnetAddress} (hne : d' ≠ d) :
    (c.addressAddBinding d m a).addressGetByDevice d' = c.addressGetByDevice d' := by
  cases hi : c.findDevice d with
  | none => simp only [addressAddBinding, hi]
  | some i =>
      simp only [addressAddBinding, hi]
      have hold := holds_of_findDevice hi
      exact addressGetByDevice_setEntry_ne (fun h => hne (h.unique hold))
        fun h => hne (h.unique (holds_rebound hold m a))

theorem addressGetByDevice_addressRemoveDevice_ne {c : AddressCache} {d d' : DeviceId}
    (hne : d' ≠ d) :
    (c.addressRemoveDevice d).addressGetByDevice d' = c.addressGetByDevice d' := by
  cases hi : c.findDevice d with
  | none => simp only [addressRemoveDevice, hi]
  | some i =>
      simp only [addressRemoveDevice, hi]
      exact addressGetByDevice_setEntry_ne (c := c) (i := i)
        (e := { c.entries.get i with flags := .none })
        (fun h => hne (h.unique (holds_of_findDevice hi)))
        fun h => absurd h.1 (by simp [AddressFlags.none])

/-! ### What holds of every entry -/

/-- The mark of `address_remove_oldest` is gone from the entry, and the client's own id is
never bound. -/
def SoundEntry (e : AddressCacheEntry) : Prop :=
  e.flags.reserved = false ∧ (Holds e 0xFFFFFFFF → e.flags.bindReq = true)

structure Sound (c : AddressCache) : Prop where
  own : c.ownDeviceId = 0xFFFFFFFF
  entry : ∀ i, SoundEntry (c.entries.get i)

theorem soundEntry_of_not_inUse {e : AddressCacheEntry} (hr : e.flags.reserved = false)
    (hu : e.flags.inUse = false) : SoundEntry e := by
  refine ⟨hr, fun h => ?_⟩
  have hused := h.1
  rw [hu] at hused
  cases hused

theorem soundEntry_of_ne {e : AddressCacheEntry} {d : DeviceId} (hr : e.flags.reserved = false)
    (he : Holds e d) (hd : d ≠ 0xFFFFFFFF) : SoundEntry e :=
  ⟨hr, fun h => absurd (he.unique h) hd⟩

theorem sound_init : init.Sound where
  own := rfl
  entry i := by
    simp only [init, Table.get_replicate]
    exact soundEntry_of_not_inUse rfl rfl

theorem sound_setEntry {c : AddressCache} (h : c.Sound) (i : Fin maxAddressCache)
    {e : AddressCacheEntry} (he : SoundEntry e) : (c.setEntry i e).Sound where
  own := h.own
  entry j := by
    simp only [setEntry, Table.get_set]
    split
    · exact he
    · exact h.entry j

theorem sound_addressAdd {c : AddressCache} (h : c.Sound) (d : DeviceId) (m : UInt32)
    (a : BacnetAddress) : (c.addressAdd d m a).Sound := by
  rw [addressAdd]
  split
  · exact h
  · rename_i hown
    rw [h.own] at hown
    have hnew : SoundEntry (newEntry d m a) :=
      soundEntry_of_ne rfl (holds_newEntry d m a) (Ne.symm hown)
    split
    · rename_i i hi
      refine sound_setEntry h i (soundEntry_of_ne (h.entry i).1 ?_ (Ne.symm hown))
      exact holds_updatedEntry (holds_of_findDevice hi) m a
    · split
      · exact sound_setEntry h _ hnew
      · split
        · exact sound_setEntry h _ hnew
        · exact h

theorem soundEntry_boundEntry {e : AddressCacheEntry} (h : SoundEntry e) :
    SoundEntry (boundEntry e) := by
  rw [boundEntry]
  split
  · exact h
  · exact h

theorem sound_addressBindRequest {c : AddressCache} (h : c.Sound) (d : DeviceId) :
    (c.addressBindRequest d).2.Sound := by
  have hreq : ∀ e, SoundEntry (bindReqEntry e d) := fun e => ⟨rfl, fun _ => rfl⟩
  rw [addressBindRequest]
  split
  · rename_i i hi
    dsimp only
    split
    · exact h
    · exact sound_setEntry h i (soundEntry_boundEntry (h.entry i))
  · split
    · exact sound_setEntry h _ (hreq _)
    · split
      · exact sound_setEntry h _ (hreq _)
      · exact h

theorem sound_addressRemoveDevice {c : AddressCache} (h : c.Sound) (d : DeviceId) :
    (c.addressRemoveDevice d).Sound := by
  rw [addressRemoveDevice]
  split
  · rename_i i hi
    have hset := sound_setEntry h i (e := { c.entries.get i with flags := .none })
      (soundEntry_of_not_inUse rfl rfl)
    exact ⟨hset.own, hset.entry⟩
  · exact h

theorem sound_addressAddBinding {c : AddressCache} (h : c.Sound) {d : DeviceId}
    (hd : d ≠ 0xFFFFFFFF) (m : UInt32) (a : BacnetAddress) : (c.addressAddBinding d m a).Sound := by
  rw [addressAddBinding]
  split
  · rename_i i hi
    refine sound_setEntry h i (soundEntry_of_ne (h.entry i).1 ?_ hd)
    exact holds_rebound (holds_of_findDevice hi) m a
  · exact h

theorem sound_addressSetDeviceTtl {c : AddressCache} (h : c.Sound) (d : DeviceId) (timeOut : Nat)
    (staticFlag : Bool) : (c.addressSetDeviceTtl d timeOut staticFlag).Sound := by
  rw [addressSetDeviceTtl]
  split
  · rename_i i hi
    have he := h.entry i
    refine sound_setEntry h i ?_
    dsimp only
    split
    · exact he
    · split
      · exact he
      · exact he
  · exact h

theorem sound_addressInit {c : AddressCache} (h : c.Sound) (file : List CacheFileLine) :
    (c.addressInit file).Sound := by
  have hfile : ∀ (file : List CacheFileLine) (c : AddressCache), c.Sound →
      (addressFileInit c file).Sound := by
    intro file
    induction file with
    | nil => exact fun c hc => hc
    | cons l file ih =>
        intro c hc
        exact ih _ (sound_addressSetDeviceTtl (sound_addressAdd hc _ _ _) _ _ _)
  refine hfile file _ ⟨h.own, fun i => ?_⟩
  simp only [Table.get_map]
  exact soundEntry_of_not_inUse rfl rfl

/-- The client's own id has no binding. -/
theorem addressGetByDevice_own {c : AddressCache} (h : c.Sound) :
    c.addressGetByDevice c.ownDeviceId = none := by
  rw [addressGetByDevice]
  split
  · rename_i i hi
    have hold := holds_of_findDevice hi
    rw [h.own] at hold
    simp only [(h.entry i).2 hold, if_true]
  · rfl

/-- A bind request in a cache with room changes no other binding. -/
theorem addressGetByDevice_addressBindRequest_ne {c : AddressCache} (h : c.Sound)
    {d d' : DeviceId} (hroom : c.Cached d ∨ c.HasFree) (hne : d' ≠ d) :
    (c.addressBindRequest d).2.addressGetByDevice d' = c.addressGetByDevice d' := by
  by_cases hc : c.Cached d
  · exact addressGetByDevice_addressBindRequest hc d'
  · obtain ⟨i, hi⟩ := hroom.resolve_left hc
    rw [addressBindRequest, findDevice_eq_none.mpr hc]
    obtain ⟨j, hj⟩ := Table.exists_find? (t := c.entries) (i := i)
      (p := fun e => ! e.flags.inUse && ! e.flags.reserved) (by simp [hi, (h.entry i).1])
    simp only [hj]
    have hfree : (c.entries.get j).flags.inUse = false := by
      have hsat := Table.find?_sat hj
      simp only [Bool.and_eq_true, Bool.not_eq_eq_eq_not, Bool.not_true] at hsat
      exact hsat.1
    refine addressGetByDevice_setEntry_ne (fun hold => ?_) fun hnew => ?_
    · rw [hold.1] at hfree
      cases hfree
    · exact hne (hnew.unique (holds_bindReqEntry _ d))

/-- A device that a bind request does not find is not bound after it either. -/
theorem addressGetByDevice_addressBindRequest_none {c : AddressCache} {d : DeviceId}
    (hnone : c.addressGetByDevice d = none) :
    (c.addressBindRequest d).2.addressGetByDevice d = none := by
  rcases addressBindRequest_cases c d with
    ⟨-, -, heq⟩ | ⟨i, -, hg, -⟩ | ⟨hc, -, heq | ⟨i, e, he, hb, heq⟩⟩
  · rw [heq, hnone]
  · rw [hnone] at hg
    cases hg
  · rw [heq, hnone]
  · rw [heq, addressGetByDevice_setEntry_new (findDevice_eq_none.mpr hc) he, hb]
    rfl

/-! ### Eviction -/

/-- An entry that can be evicted, if it is in use. -/
def PlainEntry (e : AddressCacheEntry) : Prop :=
  e.flags.static = false ∧ e.timeToLive ≤ bacAddrLongTime

/-- A cache whose entries all come from adding devices and from bind requests: none is
static or protected. -/
structure Plain (c : AddressCache) : Prop where
  top : c.topProtectedEntry = 0
  entry : ∀ i, PlainEntry (c.entries.get i)

theorem plain_init : init.Plain where
  top := rfl
  entry i := by
    simp only [init, Table.get_replicate]
    exact ⟨rfl, Nat.zero_le _⟩

theorem plain_setEntry {c : AddressCache} (h : c.Plain) (i : Fin maxAddressCache)
    {e : AddressCacheEntry} (he : PlainEntry e) : (c.setEntry i e).Plain where
  top := h.top
  entry j := by
    simp only [setEntry, Table.get_set]
    split
    · exact he
    · exact h.entry j

theorem plainEntry_newEntry (d : DeviceId) (m : UInt32) (a : BacnetAddress) :
    PlainEntry (newEntry d m a) := by
  refine ⟨rfl, ?_⟩
  simp only [newEntry]
  decide

theorem plainEntry_updatedEntry {e : AddressCacheEntry} (h : PlainEntry e) (m : UInt32)
    (a : BacnetAddress) : PlainEntry (updatedEntry e m a) := by
  refine ⟨h.1, ?_⟩
  simp only [updatedEntry, h.1, Bool.false_eq_true, if_false]
  split
  · decide
  · split <;> decide

theorem plainEntry_boundEntry {e : AddressCacheEntry} (h : PlainEntry e) :
    PlainEntry (boundEntry e) := by
  rw [boundEntry]
  split
  · exact ⟨h.1, Nat.le_refl _⟩
  · exact h

theorem plainEntry_bindReqEntry (e : AddressCacheEntry) (d : DeviceId) :
    PlainEntry (bindReqEntry e d) := by
  refine ⟨rfl, ?_⟩
  simp only [bindReqEntry]
  decide

theorem plain_addressAdd {c : AddressCache} (h : c.Plain) (d : DeviceId) (m : UInt32)
    (a : BacnetAddress) : (c.addressAdd d m a).Plain := by
  have hnew := plainEntry_newEntry d m a
  rw [addressAdd]
  split
  · exact h
  · split
    · rename_i i _
      exact plain_setEntry h i (plainEntry_updatedEntry (h.entry i) m a)
    · split
      · exact plain_setEntry h _ hnew
      · split
        · exact plain_setEntry h _ hnew
        · exact h

theorem plain_addressBindRequest {c : AddressCache} (h : c.Plain) (d : DeviceId) :
    (c.addressBindRequest d).2.Plain := by
  rw [addressBindRequest]
  split
  · rename_i i _
    dsimp only
    split
    · exact h
    · exact plain_setEntry h i (plainEntry_boundEntry (h.entry i))
  · split
    · exact plain_setEntry h _ (plainEntry_bindReqEntry _ d)
    · split
      · exact plain_setEntry h _ (plainEntry_bindReqEntry _ d)
      · exact h

/-- A pass that meets an entry it may take finds one. -/
theorem exists_oldest {c : AddressCache} {top : Nat} {p : AddressFlags → Bool}
    {i : Fin maxAddressCache} (htop : top ≤ i.val) (hp : p (c.entries.get i).flags = true)
    (ht : (c.entries.get i).timeToLive ≤ bacAddrForever - 1) : ∃ j, c.oldest top p = some j := by
  -- Once there is a candidate there stays one, and up to then the bound is the first one.
  have hfold : ∀ (l : List (Fin maxAddressCache)) (best : Nat × Option (Fin maxAddressCache)),
      best.2.isSome = true ∨ (best.1 = bacAddrForever - 1 ∧ i ∈ l) →
      (l.foldl (fun best i =>
        let e := c.entries.get i
        if top ≤ i.val ∧ p e.flags ∧ e.timeToLive ≤ best.1 then (e.timeToLive, some i)
        else best) best).2.isSome = true := by
    intro l
    induction l with
    | nil =>
        intro best h
        rcases h with h | ⟨-, h⟩
        · exact h
        · cases h
    | cons k l ih =>
        intro best h
        rw [List.foldl_cons]
        refine ih _ ?_
        dsimp only
        split
        · exact Or.inl rfl
        · rename_i hk
          rcases h with h | ⟨hbest, h⟩
          · exact Or.inl h
          · rcases List.mem_cons.mp h with rfl | h
            · exact absurd ⟨htop, hp, hbest ▸ ht⟩ hk
            · exact Or.inr ⟨hbest, h⟩
  exact Option.isSome_iff_exists.mp (hfold _ _ (Or.inr ⟨rfl, List.mem_finRange i⟩))

/-- A full cache of such entries always gives one up. -/
theorem exists_addressRemoveOldest {c : AddressCache} (h : c.Plain) (hfull : ¬ c.HasFree) :
    ∃ j, c.addressRemoveOldest = some j := by
  have hused : (c.entries.get 0).flags.inUse = true := by
    by_contra hfree
    exact hfull ⟨0, Bool.not_eq_true _ ▸ hfree⟩
  obtain ⟨hstatic, hlive⟩ := h.entry 0
  have hforever : (c.entries.get 0).timeToLive ≤ bacAddrForever - 1 :=
    Nat.le_trans hlive (by decide)
  rw [addressRemoveOldest, h.top, if_neg (by decide)]
  cases hfirst : c.oldest 0 fun f => f.inUse && ! f.bindReq && ! f.static with
  | some j => exact ⟨j, rfl⟩
  | none =>
      cases hbind : (c.entries.get 0).flags.bindReq with
      | false =>
          obtain ⟨j, hj⟩ := exists_oldest (c := c) (i := 0)
            (p := fun f => f.inUse && ! f.bindReq && ! f.static) (Nat.zero_le _)
            (by simp only [hused, hbind, hstatic, Bool.not_false, Bool.and_self]) hforever
          cases hfirst.symm.trans hj
      | true =>
          exact exists_oldest (c := c) (i := 0)
            (p := fun f => f.inUse && f.bindReq && ! f.static) (Nat.zero_le _)
            (by simp only [hused, hbind, hstatic, Bool.not_false, Bool.and_self]) hforever

/-- A cache has an entry for 255 devices at most. -/
theorem card_le_of_cached {c : AddressCache} {ds : Finset DeviceId}
    (h : ∀ d ∈ ds, c.Cached d) : ds.card ≤ maxAddressCache := by
  choose! i hi using h
  have hinj : Set.InjOn i ds := by
    intro d hd d' hd' heq
    have hold := hi d hd
    rw [heq] at hold
    exact hold.unique (hi d' hd')
  calc ds.card ≤ (Finset.univ : Finset (Fin maxAddressCache)).card :=
        Finset.card_le_card_of_injOn i (fun _ _ => Finset.mem_univ _) hinj
    _ = maxAddressCache := Finset.card_fin _

end AddressCache

end Bacnet
