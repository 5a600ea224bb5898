import Bacnet.Bindings
import Bacnet.NetworkMessage

/-!
# Bacnet.CachedAddresses

The addresses in the address cache. A property that the builder's addresses, the lines of
the cache file and the sources of delivered messages have is one that every cached address
has, in every state the client reaches. One such property is that the address fits.
-/

namespace Bacnet

open Bacnet.Lib

variable {env : Env} {s s' : Sys} {e : Event} {o : Output} {P : BacnetAddress → Prop}

/-! ### The operations -/

namespace AddressCache

/-- Every address in the cache has the property, in use or not. -/
def Addresses (P : BacnetAddress → Prop) (c : AddressCache) : Prop :=
  ∀ i, P (c.entries.get i).address

variable {c : AddressCache}

theorem addresses_init (hdefault : P .default) : init.Addresses P := by
  intro i
  rw [init, Table.get_replicate]
  exact hdefault

theorem addresses_setEntry (h : c.Addresses P) (i : Fin maxAddressCache) {e : AddressCacheEntry}
    (he : P e.address) : (c.setEntry i e).Addresses P := by
  intro j
  simp only [setEntry, Table.get_set]
  split
  · exact he
  · exact h j

theorem addresses_addressAdd (h : c.Addresses P) (d : DeviceId) (m : UInt32) {a : BacnetAddress}
    (ha : P a) : (c.addressAdd d m a).Addresses P := by
  rcases addressAdd_cases c d m a with ⟨-, heq⟩ | ⟨-, -, heq⟩ | ⟨-, i, e, -, -, -, -, haddr, heq⟩
  · rwa [heq]
  · rwa [heq]
  · rw [heq]
    exact addresses_setEntry h i (haddr ▸ ha)

theorem address_boundEntry (e : AddressCacheEntry) : (boundEntry e).address = e.address := by
  rw [boundEntry]
  split <;> rfl

theorem addresses_addressBindRequest (h : c.Addresses P) (d : DeviceId) :
    (c.addressBindRequest d).2.Addresses P := by
  rw [addressBindRequest]
  split
  · rename_i i hi
    dsimp only
    split
    · exact h
    · exact addresses_setEntry h i ((address_boundEntry _).symm ▸ h i)
  · split
    · exact addresses_setEntry h _ (h _)
    · split
      · exact addresses_setEntry h _ (h _)
      · exact h

theorem addresses_addressRemoveDevice (h : c.Addresses P) (d : DeviceId) :
    (c.addressRemoveDevice d).Addresses P := by
  rw [addressRemoveDevice]
  split
  · rename_i i hi
    exact addresses_setEntry h i (e := { c.entries.get i with flags := .none }) (h i)
  · exact h

theorem addresses_addressAddBinding (h : c.Addresses P) (d : DeviceId) (m : UInt32)
    {a : BacnetAddress} (ha : P a) : (c.addressAddBinding d m a).Addresses P := by
  rw [addressAddBinding]
  split
  · exact addresses_setEntry h _ ha
  · exact h

theorem addresses_addressSetDeviceTtl (h : c.Addresses P) (d : DeviceId) (timeOut : Nat)
    (staticFlag : Bool) : (c.addressSetDeviceTtl d timeOut staticFlag).Addresses P := by
  rw [addressSetDeviceTtl]
  split
  · rename_i i hi
    refine addresses_setEntry h i ?_
    dsimp only
    split
    · exact h i
    · split
      · exact h i
      · exact h i
  · exact h

theorem addresses_addressInit (h : c.Addresses P) {file : List CacheFileLine}
    (hlines : ∀ l ∈ file, P l.src) : (c.addressInit file).Addresses P := by
  have hfile : ∀ (file : List CacheFileLine) (c : AddressCache), (∀ l ∈ file, P l.src) →
      c.Addresses P → (addressFileInit c file).Addresses P := by
    intro file
    induction file with
    | nil => exact fun c _ hc => hc
    | cons l file ih =>
      intro c hlines hc
      refine ih _ (fun l' hl' => hlines l' (List.mem_cons_of_mem l hl')) ?_
      exact addresses_addressSetDeviceTtl
        (addresses_addressAdd hc _ _ (hlines l List.mem_cons_self)) _ _ _
  refine hfile file _ hlines fun i => ?_
  simp only [Table.get_map]
  exact h i

theorem addresses_getByDevice (h : c.Addresses P) {d : DeviceId} {m : UInt32} {a : BacnetAddress}
    (hget : c.addressGetByDevice d = some (m, a)) : P a := by
  rw [addressGetByDevice] at hget
  split at hget
  · dsimp only at hget
    split at hget
    · cases hget
    · cases hget
      exact h _
  · cases hget

end AddressCache

/-! ### The client -/

/-- Where the addresses in the cache come from have the property. -/
structure AddressSources (env : Env) (P : BacnetAddress → Prop) : Prop where
  default : P .default
  build : ∀ b : BACnetDeviceBuilder, P b.build
  file : ∀ l ∈ env.cacheFile, P l.src
  delivered : ∀ socketOpen rx arrival src a,
    delivered env socketOpen rx arrival = some (src, a) → P src

theorem delivered_of_arriving {src : BacnetAddress} {a : Apdu}
    (h : arriving env s e = some (src, a)) :
    ∃ rx arrival, delivered env s.stack.socketOpen rx arrival = some (src, a) := by
  unfold arriving at h
  split at h
  · exact ⟨_, _, h⟩
  · exact ⟨_, _, h⟩
  · cases h

theorem addresses_step (hP : AddressSources env P) (h : s.stack.cache.Addresses P)
    (hs : Step env s e s' o) : s'.stack.cache.Addresses P := by
  have hstack := stack_cases hs
  generalize s'.stack = stack' at hstack
  cases hstack with
  | same _ _ _ => exact h
  | connect t b stack _ hc =>
    have hcache : (connectCache s.stack.cache b).2.Addresses P :=
      AddressCache.addresses_addressBindRequest
        (AddressCache.addresses_addressAdd h _ _ (hP.build b)) _
    cases hc with
    | ok m addr cache _ hr =>
      rw [hr] at hcache
      exact hcache
    | failed cache hr =>
      rw [hr] at hcache
      exact hcache
    | panicked cache _ hr =>
      rw [hr] at hcache
      exact hcache
  | disconnect t d _ _ => exact AddressCache.addresses_addressRemoveDevice h d
  | send t d args tgt stack id frame _ _ _ hs => cases hs <;> exact h
  | apdu t arrival src a stack _ _ ha he =>
    cases he with
    | binding i _ _ hi =>
      obtain ⟨rx, arrival', hdel⟩ := delivered_of_arriving ha
      exact AddressCache.addresses_addressAddBinding h _ _ (hP.delivered _ _ _ _ _ hdel)
    | none _ => exact h
    | discovery device _ _ => exact h
    | released id _ _ => exact h
    | taken id _ f _ d t _ _ _ => exact h
  | extract t call stack _ _ _ hx => cases hx <;> exact h
  | whoisStart t subnet _ _ => exact AddressCache.addresses_addressInit h hP.file
  | whoisClose t _ _ => exact h
  | whoisDrain t _ _ => exact h

theorem addresses_run (hP : AddressSources env P) {es : List Event} {os : List Output}
    (hrun : (client env).run .init es = some (s, os)) : s.stack.cache.Addresses P :=
  (invariant_run (I := fun s => s.stack.cache.Addresses P) Sys.wf_init
    (AddressCache.addresses_init hP.default) (all_true es) hrun
    fun _ _ _ _ _ h _ hs => addresses_step hP h hs).2

/-! ### The sources of messages -/

theorem bvlcBbmdEnabledHandler_source {cfg : BipConfig} {addr : BacnetIpAddress} {mtu : Mem}
    {mtuLen : Nat} {src : BacnetAddress} {offset : Nat}
    (h : bvlcBbmdEnabledHandler cfg addr mtu mtuLen = some (src, offset)) :
    ∃ ip, src = bvlcIpAddressToBacnetLocal ip := by
  unfold bvlcBbmdEnabledHandler at h
  dsimp only at h
  split at h
  · cases h
  · split at h
    · split_ifs at h
      cases h
      exact ⟨_, rfl⟩
    · split_ifs at h
      cases h
      exact ⟨_, rfl⟩
    · split_ifs at h
      cases h
      exact ⟨_, rfl⟩
    · cases h

/-- What `bip_receive` hands back when it returns a length. -/
theorem bipReceive_cases (cfg : BipConfig) (socketOpen : Bool) (arrival : Option Datagram)
    (rx : RxState) :
    (bipReceive cfg socketOpen arrival rx).1 = 0 ∨
      ∃ d src offset, arrival = some d ∧
        bvlcBbmdEnabledHandler cfg d.source
          (eraseMargin (d.payload.take maxMpdu).length
            (storeReceived (d.payload.take maxMpdu) rx.rxBuf))
          (d.payload.take maxMpdu).length = some (src, offset) ∧
        bipReceive cfg socketOpen arrival rx =
          ((d.payload.take maxMpdu).length - offset,
            ⟨src, shiftNpdu offset ((d.payload.take maxMpdu).length - offset)
              (eraseMargin (d.payload.take maxMpdu).length
                (storeReceived (d.payload.take maxMpdu) rx.rxBuf))⟩) := by
  unfold bipReceive
  split
  · exact Or.inl rfl
  · cases arrival with
    | none => exact Or.inl rfl
    | some d =>
      dsimp only
      split
      · exact Or.inl rfl
      · split
        · exact Or.inl rfl
        · cases hb : bvlcBbmdEnabledHandler cfg d.source
              (eraseMargin (d.payload.take maxMpdu).length
                (storeReceived (d.payload.take maxMpdu) rx.rxBuf))
              (d.payload.take maxMpdu).length with
          | none => exact Or.inl rfl
          | some r => exact Or.inr ⟨d, r.1, r.2, rfl, hb, rfl⟩

/-- A source that `bip_receive` hands back is a UDP endpoint. -/
theorem bipReceive_source (cfg : BipConfig) (socketOpen : Bool) (arrival : Option Datagram)
    (rx : RxState) (h : (bipReceive cfg socketOpen arrival rx).1 > 0) :
    ∃ ip, (bipReceive cfg socketOpen arrival rx).2.src = bvlcIpAddressToBacnetLocal ip := by
  rcases bipReceive_cases cfg socketOpen arrival rx with h0 | ⟨d, src, offset, -, hb, heq⟩
  · omega
  · rw [heq]
    exact bvlcBbmdEnabledHandler_source hb

/-- A specifier that is accepted fits, and leaves the MAC alone. -/
theorem decodeSpecifier_some {npdu : Mem} {pduLen len n : Nat} {addr addr' : BacnetAddress}
    (h : decodeSpecifier npdu pduLen len addr = (some n, addr')) :
    addr'.mac = addr.mac ∧ addr'.macLen = addr.macLen ∧
      (addr.len.toNat ≤ maxMacLen → addr'.len.toNat ≤ maxMacLen) := by
  unfold decodeSpecifier at h
  dsimp only at h
  split at h
  · split at h
    · split at h
      · cases h
      · rename_i hfit
        cases h
        exact ⟨rfl, rfl, fun _ => Nat.le_of_not_lt fun hlt => hfit (Or.inl hlt)⟩
    · rename_i hzero
      cases h
      exact ⟨rfl, rfl, fun _ => by rw [not_not.mp hzero]; exact Nat.zero_le _⟩
  · cases h
    exact ⟨rfl, rfl, id⟩

theorem bacnetNpduDecode_source {npdu : Mem} {pduLen n : Nat} {src : BacnetAddress}
    (h : (bacnetNpduDecode npdu pduLen src).offset = some n) :
    (bacnetNpduDecode npdu pduLen src).src.mac = src.mac ∧
      (bacnetNpduDecode npdu pduLen src).src.macLen = src.macLen ∧
      (src.len.toNat ≤ maxMacLen →
        (bacnetNpduDecode npdu pduLen src).src.len.toNat ≤ maxMacLen) := by
  unfold bacnetNpduDecode at h ⊢
  split
  · exact ⟨rfl, rfl, id⟩
  · rename_i hlen
    rw [if_neg hlen] at h
    dsimp only at h ⊢
    generalize (if npdu 1 &&& 0x20 ≠ 0 then decodeSpecifier npdu pduLen 2 .default
      else (some 2, .default)) = r at h ⊢
    obtain ⟨len, dest⟩ := r
    cases len with
    | none => cases h
    | some len =>
      dsimp only at h ⊢
      by_cases hbit : npdu 1 &&& 0x08 ≠ 0
      · simp only [if_pos hbit] at h ⊢
        cases hspec : decodeSpecifier npdu pduLen len src with
        | mk len' src' =>
          rw [hspec] at h
          cases len' with
          | none => cases h
          | some len' => exact decodeSpecifier_some hspec
      · rw [if_neg hbit]
        exact ⟨rfl, rfl, fun _ => Nat.zero_le _⟩

theorem npduRoute_source {src src' : BacnetAddress} {pdu : Mem} {pduLen : Nat} {p : Mem × Nat}
    (h : npduRoute src pdu pduLen = (src', some p)) :
    src'.mac = src.mac ∧ src'.macLen = src.macLen ∧
      (src.len.toNat ≤ maxMacLen → src'.len.toNat ≤ maxMacLen) := by
  unfold npduRoute at h
  dsimp only at h
  split at h
  · cases h
  · split at h
    · cases h
    · split at h
      · cases h
      · split at h
        · cases h
        · rename_i n hoffset
          split at h
          · cases h
            exact bacnetNpduDecode_source hoffset
          · cases h

/-- The source of a delivered message is a UDP endpoint, behind which a network may be named. -/
theorem delivered_source {socketOpen : Bool} {rx : RxState} {arrival : Arrival}
    {src : BacnetAddress} {a : Apdu} (h : delivered env socketOpen rx arrival = some (src, a)) :
    ∃ ip, src.mac = (bvlcIpAddressToBacnetLocal ip).mac ∧ src.macLen = 6 ∧
      src.len.toNat ≤ maxMacLen := by
  unfold delivered at h
  have hsource := bipReceive_source env.bip socketOpen arrival.datagram
    (rx.inMemory arrival.beyond)
  generalize bipReceive env.bip socketOpen arrival.datagram (rx.inMemory arrival.beyond) = r
    at h hsource
  obtain ⟨pduLen, rx'⟩ := r
  dsimp only at h hsource
  split at h
  · rename_i hpos
    obtain ⟨ip, hip⟩ := hsource hpos
    split at h
    · rename_i src' apdu apduLen hroute
      cases h
      obtain ⟨hmac, hmacLen, hlen⟩ := npduRoute_source hroute
      rw [hip] at hmac hmacLen hlen
      exact ⟨ip, hmac, hmacLen, hlen (Nat.zero_le _)⟩
    · cases h
  · cases h

/-! ### Lengths -/

/-- The addresses in the cache file fit. `address_mac_from_ascii` writes one octet or six. -/
def Env.FileFits (env : Env) : Prop := ∀ l ∈ env.cacheFile, l.src.len.toNat ≤ maxMacLen

theorem addressSources_fit (hfile : env.FileFits) :
    AddressSources env fun a => a.len.toNat ≤ maxMacLen where
  default := Nat.zero_le _
  build _ := (by decide : (1 : UInt8).toNat ≤ maxMacLen)
  file := hfile
  delivered _ _ _ _ _ h := (delivered_source h).choose_spec.2.2

/-- The address of a bound device can be written into a message. -/
theorem addressFits_run (hfile : env.FileFits) {es : List Event} {os : List Output}
    (hrun : (client env).run .init es = some (s, os)) {d : DeviceId} {m : UInt32}
    {dest : BacnetAddress} (hget : s.stack.cache.addressGetByDevice d = some (m, dest)) :
    AddressFits dest := fun _ =>
  AddressCache.addresses_getByDevice (addresses_run (addressSources_fit hfile) hrun) hget

end Bacnet
