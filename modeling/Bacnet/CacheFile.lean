import Bacnet.AddressCache

/-!
# Bacnet.CacheFile

Which devices `address_init` leaves in the address cache: those that the cache file names, as
many as there are entries. The entries of the file are static, so that none of them makes room
for a later one.
-/

namespace Bacnet

open Bacnet.Lib

namespace AddressCache

/-- The devices a cache file names, the client itself apart: the first 255 of them. -/
def fileDevices (file : List CacheFileLine) : List DeviceId :=
  ((file.map (·.deviceId)).filter (· ≠ 0xFFFFFFFF)).eraseDups.take maxAddressCache

variable {c : AddressCache} {d : DeviceId} {ds : List DeviceId} {i : Fin maxAddressCache}
  {e : AddressCacheEntry}

/-- Of the first `n` different elements, one more is the last, or none. -/
theorem take_eraseDups_concat {α : Type} [DecidableEq α] (n : Nat) (xs : List α) (x : α) :
    (xs ++ [x]).eraseDups.take n =
      if x ∈ xs.eraseDups.take n ∨ (xs.eraseDups.take n).length = n then xs.eraseDups.take n
      else xs.eraseDups.take n ++ [x] := by
  rw [List.eraseDups_append]
  by_cases hmem : x ∈ xs
  · -- among the first `n`, or behind them
    have hnone : [x].removeAll xs = [] := by simp [List.removeAll, hmem]
    rw [hnone, List.eraseDups_nil, List.append_nil, if_pos]
    by_cases hroom : xs.eraseDups.length ≤ n
    · rw [List.take_of_length_le hroom, List.mem_eraseDups]
      exact .inl hmem
    · rw [List.length_take]
      omega
  · have hnew : ([x].removeAll xs).eraseDups = [x] := by
      simp [List.removeAll, hmem, List.eraseDups_cons]
    have hnot : x ∉ xs.eraseDups.take n := by
      intro hin
      exact hmem (List.mem_eraseDups.mp (List.mem_of_mem_take hin))
    rw [hnew]
    by_cases hroom : xs.eraseDups.length < n
    · have hlength : (xs.eraseDups ++ [x]).length ≤ n := by
        rw [List.length_append]
        exact hroom
      rw [List.take_of_length_le (Nat.le_of_lt hroom)] at hnot
      rw [List.take_of_length_le (Nat.le_of_lt hroom), List.take_of_length_le hlength, if_neg]
      rw [not_or]
      exact ⟨hnot, Nat.ne_of_lt hroom⟩
    · rw [List.take_append_of_le_length (Nat.le_of_not_lt hroom), if_pos]
      rw [List.length_take]
      omega

/-- A line adds its device if it is new and there is room. -/
theorem fileDevices_concat (file : List CacheFileLine) (l : CacheFileLine) :
    fileDevices (file ++ [l]) =
      if l.deviceId = 0xFFFFFFFF ∨ l.deviceId ∈ fileDevices file ∨
          (fileDevices file).length = maxAddressCache then
        fileDevices file
      else fileDevices file ++ [l.deviceId] := by
  rw [fileDevices, List.map_append, List.filter_append, List.map_singleton]
  by_cases hown : l.deviceId = 0xFFFFFFFF
  · rw [if_pos (.inl hown), List.filter_cons_of_neg (by simpa using hown), List.filter_nil,
      List.append_nil, fileDevices]
  · rw [List.filter_cons_of_pos (by simpa using hown), List.filter_nil, take_eraseDups_concat]
    simp only [hown, false_or]
    rfl

/-! ### A cache with the devices of a file -/

/-- The cache has the devices of the list, each bound by a static entry. -/
structure Loads (c : AddressCache) (ds : List DeviceId) : Prop where
  own : c.ownDeviceId = 0xFFFFFFFF
  others : 0xFFFFFFFF ∉ ds
  cached : ∀ d, c.Cached d ↔ d ∈ ds
  static : ∀ i, (c.entries.get i).flags.inUse = true →
    (c.entries.get i).flags.static = true ∧ (c.entries.get i).flags.bindReq = false
  count : c.entries.count (·.flags.inUse) = ds.length

/-- Static entries are not the oldest. -/
theorem oldest_eq_none {top : Nat} {p : AddressFlags → Bool}
    (h : ∀ i, p (c.entries.get i).flags = false) : c.oldest top p = none := by
  have hfold : ∀ (is : List (Fin maxAddressCache)) (best : Nat × Option (Fin maxAddressCache)),
      is.foldl (fun best i =>
        let e := c.entries.get i
        if top ≤ i.val ∧ p e.flags ∧ e.timeToLive ≤ best.1 then (e.timeToLive, some i)
        else best) best = best := by
    intro is best
    induction is with
    | nil => rfl
    | cons i is ih =>
      rw [List.foldl_cons, if_neg (by simp [h i])]
      exact ih
  rw [oldest, hfold]

theorem Loads.addressRemoveOldest (h : Loads c ds) : c.addressRemoveOldest = none := by
  have hstatic : ∀ i, (c.entries.get i).flags.inUse = true →
      (c.entries.get i).flags.static = true := fun i hi => (h.static i hi).1
  rw [AddressCache.addressRemoveOldest]
  split
  · rfl
  · rw [oldest_eq_none, oldest_eq_none]
    · rfl
    · intro i
      cases hu : (c.entries.get i).flags.inUse with
      | false => rfl
      | true => simp [hstatic i hu]
    · intro i
      cases hu : (c.entries.get i).flags.inUse with
      | false => rfl
      | true => simp [hstatic i hu]

/-- There is a free entry as long as there are fewer devices than entries. -/
theorem Loads.findFree_eq_none_iff (h : Loads c ds) :
    c.findFree = none ↔ ds.length = maxAddressCache := by
  rw [← h.count, Table.count_eq_size, findFree, Table.find?_eq_none]
  simp

/-- The entry of a device is written anew. -/
theorem Loads.setEntry_same (h : Loads c ds) (hi : Holds (c.entries.get i) d) (he : Holds e d)
    (hs : e.flags.static = true) (hb : e.flags.bindReq = false) : Loads (c.setEntry i e) ds where
  own := h.own
  others := h.others
  cached d' := by
    rw [← h.cached d']
    refine exists_congr fun j => ?_
    rw [setEntry, Table.get_set]
    split
    · rename_i hij
      rw [← hij]
      exact ⟨fun hd' => hd'.unique he ▸ hi, fun hd' => hd'.unique hi ▸ he⟩
    · rfl
  static j := by
    rw [setEntry, Table.get_set]
    split
    · exact fun _ => ⟨hs, hb⟩
    · exact h.static j
  count := by
    rw [← h.count]
    exact Table.count_set_same (by rw [hi.1, he.1])

/-- A free entry is given to another device. -/
theorem Loads.setEntry_new (h : Loads c ds) (hi : (c.entries.get i).flags.inUse = false)
    (he : Holds e d) (hs : e.flags.static = true) (hb : e.flags.bindReq = false)
    (hd : d ≠ 0xFFFFFFFF) : Loads (c.setEntry i e) (ds ++ [d]) where
  own := h.own
  others := by
    rw [List.mem_append, List.mem_singleton, not_or]
    exact ⟨h.others, Ne.symm hd⟩
  cached d' := by
    rw [List.mem_append, List.mem_singleton, ← h.cached d']
    constructor
    · rintro ⟨j, hj⟩
      rw [setEntry, Table.get_set] at hj
      split at hj
      · exact .inr (hj.unique he)
      · exact .inl ⟨j, hj⟩
    · rintro (⟨j, hj⟩ | rfl)
      · refine ⟨j, ?_⟩
        have hij : i ≠ j := by
          rintro rfl
          rw [hj.1] at hi
          cases hi
        rwa [setEntry, Table.get_set_ne _ hij]
      · exact ⟨i, by rwa [setEntry, Table.get_set_self]⟩
  static j := by
    rw [setEntry, Table.get_set]
    split
    · exact fun _ => ⟨hs, hb⟩
    · exact h.static j
  count := by
    rw [List.length_append, List.length_singleton, ← h.count]
    exact Table.count_set_new hi he.1

/-! ### One line, and the file -/

/-- What `address_set_device_TTL` makes static. -/
theorem addressSetDeviceTtl_setEntry {d : DeviceId}
    (hf : (c.setEntry i e).findDevice d = some i) (hb : e.flags.bindReq = false) :
    (c.setEntry i e).addressSetDeviceTtl d 0 true =
      c.setEntry i
        { e with flags := { e.flags with static := true }, timeToLive := bacAddrForever } := by
  rw [addressSetDeviceTtl, hf]
  simp [setEntry, hb, Table.set_set]

/-- `address_file_init` at one line. -/
theorem Loads.line (h : Loads c ds) (l : CacheFileLine) :
    Loads ((c.addressAdd l.deviceId l.maxApdu l.src).addressSetDeviceTtl l.deviceId 0 true)
      (if l.deviceId = 0xFFFFFFFF ∨ l.deviceId ∈ ds ∨ ds.length = maxAddressCache then ds
      else ds ++ [l.deviceId]) := by
  by_cases hmem : l.deviceId ∈ ds
  · have hown : l.deviceId ≠ 0xFFFFFFFF := by
      rintro hown
      rw [hown] at hmem
      exact h.others hmem
    obtain ⟨i, hi⟩ := findDevice_of_cached ((h.cached _).mpr hmem)
    have hold := holds_of_findDevice hi
    have hnew := holds_updatedEntry hold l.maxApdu l.src
    have hfind : (c.setEntry i (updatedEntry (c.entries.get i) l.maxApdu l.src)).findDevice
        l.deviceId = some i := Table.find?_set_found hi (by simpa [Holds] using hnew)
    rw [if_pos (.inr (.inl hmem)), addressAdd, if_neg (by rw [h.own]; exact Ne.symm hown), hi]
    simp only
    rw [addressSetDeviceTtl_setEntry hfind rfl]
    exact h.setEntry_same hold hnew rfl rfl
  · have hnone := findDevice_eq_none.mpr fun hc => hmem ((h.cached _).mp hc)
    have hnothing : c.addressSetDeviceTtl l.deviceId 0 true = c := by
      rw [addressSetDeviceTtl, hnone]
    by_cases hown : l.deviceId = 0xFFFFFFFF
    · rwa [if_pos (.inl hown), addressAdd, if_pos (by rw [h.own, hown]), hnothing]
    · rw [addressAdd, if_neg (by rw [h.own]; exact Ne.symm hown), hnone]
      cases hfree : c.findFree with
      | none =>
        simp only [h.addressRemoveOldest, hnothing]
        rwa [if_pos (.inr (.inr (h.findFree_eq_none_iff.mp hfree)))]
      | some i =>
        have hroom : ds.length ≠ maxAddressCache := by
          intro hfull
          rw [h.findFree_eq_none_iff.mpr hfull] at hfree
          cases hfree
        have hfind : (c.setEntry i (newEntry l.deviceId l.maxApdu l.src)).findDevice
            l.deviceId = some i :=
          Table.find?_set_new hnone (by simp [newEntry])
        simp only
        rw [if_neg (by simp [hown, hmem, hroom]), addressSetDeviceTtl_setEntry hfind rfl]
        exact h.setEntry_new (not_inUse_of_findFree hfree)
          (holds_newEntry l.deviceId l.maxApdu l.src) rfl rfl hown

theorem loads_addressFileInit (h : Loads c []) (file : List CacheFileLine) :
    Loads (c.addressFileInit file) (fileDevices file) := by
  induction file using List.reverseRecOn with
  | nil => exact h
  | append_singleton file l ih =>
    rw [addressFileInit, List.foldl_append, fileDevices_concat]
    exact ih.line l

/-- **What a discovery loads.** After `address_init` the bound devices are those of the cache
file. -/
theorem isSome_getByDevice_addressInit (hsound : c.Sound) (file : List CacheFileLine) :
    ((c.addressInit file).addressGetByDevice d).isSome = true ↔ d ∈ fileDevices file := by
  have hempty : Loads
      { c with
        topProtectedEntry := 0
        entries := c.entries.map fun e => { e with flags := .none } } [] := by
    have hnot : ∀ i, ((c.entries.map fun e => { e with flags := .none }).get i).flags.inUse =
        false := by
      intro i
      rw [Table.get_map]
      rfl
    refine ⟨hsound.own, List.not_mem_nil, fun d' => ?_, fun i hi => ?_, ?_⟩
    · simp only [List.not_mem_nil, iff_false]
      rintro ⟨i, hi⟩
      exact absurd hi.1 (by rw [hnot i]; exact Bool.false_ne_true)
    · rw [hnot i] at hi
      cases hi
    · exact Table.count_eq_zero.mpr hnot
  have hloads := loads_addressFileInit hempty file
  rw [addressInit, ← hloads.cached d]
  constructor
  · intro hsome
    obtain ⟨p, hp⟩ := Option.isSome_iff_exists.mp hsome
    exact cached_of_addressGetByDevice hp
  · intro hc
    obtain ⟨i, hi⟩ := findDevice_of_cached hc
    rw [addressGetByDevice, hi]
    simp only [(hloads.static i (holds_of_findDevice hi).1).2]
    rfl

end AddressCache

end Bacnet
