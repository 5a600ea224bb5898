import Bacnet.EpicsReads
import Mathlib.Data.Set.Function

/-!
# Bacnet.EpicsComplete

When `epics` is complete and loses nothing: each entry of the object-list but the device is read and
has its map, and each map has the properties that were read, one by one.
-/

namespace Bacnet

open Scan

/-! ### Maps under the texts of their properties -/

/-- What is in a map under texts is what an entry put there, or what was there before. -/
theorem lookup_foldl_insert {name : UInt32 → String} (es : List (Σ _ : UInt32, BACnetValue))
    (named : NamedMap) (text : String) :
    (∀ v, (es.foldl (fun named p => named.insert (name p.1) p.2) named).lookup text = some v →
      (∃ e ∈ es, name e.1 = text ∧ e.2 = v) ∨ named.lookup text = some v) ∧
    ((∃ e ∈ es, name e.1 = text) ∨ (named.lookup text).isSome →
      ((es.foldl (fun named p => named.insert (name p.1) p.2) named).lookup text).isSome) := by
  induction es generalizing named with
  | nil => simp
  | cons e es ih =>
    obtain ⟨hfrom, hto⟩ := ih (named.insert (name e.1) e.2)
    constructor
    · intro v hv
      rcases hfrom v hv with ⟨e', he', htext⟩ | hinsert
      · exact .inl ⟨e', List.mem_cons_of_mem _ he', htext⟩
      · by_cases heq : text = name e.1
        · subst heq
          rw [AList.lookup_insert] at hinsert
          exact .inl ⟨e, List.mem_cons_self, rfl, Option.some.inj hinsert⟩
        · rw [AList.lookup_insert_ne heq] at hinsert
          exact .inr hinsert
    · intro hsome
      apply hto
      by_cases heq : text = name e.1
      · right
        rw [heq, AList.lookup_insert]
        rfl
      · rw [AList.lookup_insert_ne heq]
        rcases hsome with ⟨e', he', htext⟩ | hnamed
        · rcases List.mem_cons.mp he' with rfl | he'
          · exact absurd htext.symm heq
          · exact .inl ⟨e', he', htext⟩
        · exact .inr hnamed

variable {σ : Type} {scan : Scan σ} {d : Responses} {deviceId : UInt32}

/-- A value under a text is that of a property with the text. -/
theorem exists_of_lookup_rekey {m : PropertyMap} {text : String} {v : BACnetValue}
    (h : (scan.rekey m).lookup text = some v) :
    ∃ p, m.lookup p = some v ∧ scan.bactextPropertyName p = text := by
  rw [rekey] at h
  rcases (lookup_foldl_insert m.entries ∅ text).1 v h with ⟨e, he, htext, rfl⟩ | hempty
  · exact ⟨e.1, AList.mem_lookup_iff.mpr he, htext⟩
  · rw [AList.lookup_empty] at hempty
    cases hempty

/-- The text of each property is in the map. -/
theorem lookup_rekey_isSome {m : PropertyMap} {p : UInt32} {v : BACnetValue}
    (h : m.lookup p = some v) : ((scan.rekey m).lookup (scan.bactextPropertyName p)).isSome := by
  rw [rekey]
  exact (lookup_foldl_insert m.entries ∅ _).2 (.inl ⟨⟨p, v⟩, AList.mem_lookup_iff.mp h, rfl⟩)

namespace Responses

variable (d) (object : UInt32 × UInt32)

/-- No two properties reported of the object have one text. -/
def TextsDiffer : Prop :=
  Set.InjOn bactextPropertyName {p | p ∈ d.properties object}

/-- The map is that of the object: it has the properties reported of it, no two of them under one
text, and nothing else. -/
structure Kept (named : NamedMap) : Prop where
  differ : d.TextsDiffer object
  lookup : ∀ text v, named.lookup text = some v ↔
    ∃ p, bactextPropertyName p = text ∧ (d.properties object).lookup p = some v

end Responses

theorem lookup_rekey {object : UInt32 × UInt32}
    (hname : scan.bactextPropertyName = bactextPropertyName) (hdiffer : d.TextsDiffer object)
    {text : String} {v : BACnetValue} :
    (scan.rekey (d.properties object)).lookup text = some v ↔
      ∃ p, bactextPropertyName p = text ∧ (d.properties object).lookup p = some v := by
  constructor
  · intro h
    obtain ⟨p, hp, htext⟩ := exists_of_lookup_rekey h
    exact ⟨p, by rw [← htext, hname], hp⟩
  · rintro ⟨q, rfl, hq⟩
    have hsome : ((scan.rekey (d.properties object)).lookup (scan.bactextPropertyName q)).isSome :=
      lookup_rekey_isSome hq
    rw [hname] at hsome
    obtain ⟨w, hw⟩ := Option.isSome_iff_exists.mp hsome
    obtain ⟨p, hp, htext⟩ := exists_of_lookup_rekey hw
    rw [hname] at htext
    have hmem : ∀ {p v}, (d.properties object).lookup p = some v → p ∈ d.properties object := by
      intro p v hp
      rw [← AList.lookup_isSome, hp]
      rfl
    have heq : p = q := hdiffer (hmem hp) (hmem hq) htext
    rw [hw, ← hp, heq, hq]

theorem kept_rekey_iff {object : UInt32 × UInt32}
    (hname : scan.bactextPropertyName = bactextPropertyName) :
    d.Kept object (scan.rekey (d.properties object)) ↔ d.TextsDiffer object :=
  ⟨fun h => h.differ, fun hdiffer => ⟨hdiffer, fun _ _ => lookup_rekey hname hdiffer⟩⟩

/-- Only a Binary Lighting Output and a Staging can have two properties with one text. -/
theorem textsDiffer_of_type {object : UInt32 × UInt32} (h55 : object.1 ≠ 55)
    (h60 : object.1 ≠ 60) : d.TextsDiffer object := by
  refine Set.InjOn.mono ?_ (bactextPropertyName_injOn h55 h60)
  intro p hp
  have hreported : (d.reported object p).isSome := by
    rw [← lookup_properties, AList.lookup_isSome]
    exact hp
  rw [Responses.reported] at hreported
  rw [Set.mem_ofPred_eq, List.mem_append]
  by_contra hno
  rw [not_or] at hno
  simp [hno.1, hno.2] at hreported

/-! ### The object-list -/

/-- The device answers each index of its object-list with an object identifier, and index 0 with
the length. -/
structure Responses.Serves (d : Responses) (deviceId : UInt32) (objects : List (UInt32 × UInt32)) :
    Prop where
  length : ∃ n : UInt64, d.objectAt deviceId 0 = .ok (.uint n) ∧ n.toNat = objects.length
  entry : ∀ i object, objects[i]? = some object →
    d.objectAt deviceId (i + 1) = .ok (.objectId object.1 object.2)

variable {objects : List (UInt32 × UInt32)}

theorem Responses.Serves.listLength (h : d.Serves deviceId objects) :
    ∃ n : UInt64, d.listLength deviceId = .ok n ∧ n.toNat = objects.length := by
  obtain ⟨n, hzero, hn⟩ := h.length
  refine ⟨n, ?_, hn⟩
  rw [Responses.listLength, hzero]
  rfl

/-- The walk from an entry on collects the entries from there. -/
theorem walk_from (h : d.Serves deviceId objects) (before after : List (UInt32 × UInt32))
    (hsplit : objects = before ++ after) (found : List (UInt32 × UInt32)) :
    (List.range' (before.length + 1) after.length).foldlM (d.walkTurn deviceId) found =
      .ok (found ++ after) := by
  induction after generalizing before found with
  | nil => simp [pure, Except.pure]
  | cons object after ih =>
    have hentry := h.entry before.length object (by rw [hsplit]; simp)
    have hnext := ih (before ++ [object]) (by rw [hsplit, List.append_assoc]; rfl)
      (found ++ [object])
    rw [List.length_cons, List.range'_succ, List.foldlM_cons, Responses.walkTurn, hentry]
    rw [List.length_append, List.append_assoc] at hnext
    exact hnext

/-- `epics` finds all entries but the first. -/
theorem walk_eq_tail (h : d.Serves deviceId objects) {n : UInt64}
    (hn : n.toNat = objects.length) : d.walk deviceId n = .ok objects.tail := by
  rw [Responses.walk, hn]
  cases hobjects : objects with
  | nil => rfl
  | cons object rest => exact walk_from h [object] rest hobjects []

/-! ### Lists of which the first is left out -/

section

variable {α : Type} [DecidableEq α] {R : α → α → Prop} {dev : α} {xs : List α}

theorem filter_ne_of_not_mem {ys : List α} (h : dev ∉ ys) : ys.filter (· ≠ dev) = ys := by
  rw [List.filter_eq_self]
  intro y hy
  have hne : y ≠ dev := by
    rintro rfl
    exact h hy
  simpa using hne

theorem filter_ne_cons {ys : List α} (h : dev ∉ ys) : (dev :: ys).filter (· ≠ dev) = ys := by
  rw [List.filter_cons_of_neg (by simp), filter_ne_of_not_mem h]

/-- The entries other than `dev` are as many as those after the first only when `dev` is there
once. -/
theorem split_of_length_eq (h : (xs.filter (· ≠ dev)).length = xs.tail.length) :
    xs = [] ∨ ∃ before after, xs = before ++ dev :: after ∧ dev ∉ before ++ after := by
  by_cases hmem : dev ∈ xs
  · right
    obtain ⟨before, after, hxs, hbefore⟩ := List.eq_append_cons_of_mem hmem
    refine ⟨before, after, hxs, ?_⟩
    have hlength : (after.filter (· ≠ dev)).length = after.length := by
      rw [hxs, List.filter_append, filter_ne_of_not_mem hbefore, List.filter_cons_of_neg (by simp),
        List.length_append, List.length_tail, List.length_append, List.length_cons] at h
      omega
    have hafter : dev ∉ after := by
      intro hin
      simpa using (List.length_filter_eq_length_iff.mp hlength) dev hin
    rw [List.mem_append, not_or]
    exact ⟨hbefore, hafter⟩
  · left
    rw [filter_ne_of_not_mem hmem, List.length_tail] at h
    exact List.length_eq_zero_iff.mp (by omega)

end

/-! ### What is read of an object -/

/-- Each object type has a name. -/
theorem objectName_required (t : UInt32) : 77 ∈ (propertyListSpecial t).required :=
  propertyListSpecial_induction (P := fun _ l => 77 ∈ l.required)
    (fun _ => by decide) (by decide +kernel) t

theorem propertyReads_ne_nil (d : Responses) (object : UInt32 × UInt32) :
    d.propertyReads object ≠ [] := by
  intro hnil
  have hname : (⟨object.1, object.2, 77, bacnetArrayAll⟩ : ReadArgs) ∈ d.propertyReads object :=
    List.mem_append_left _ (List.mem_flatMap.mpr
      ⟨77, objectName_required object.1, List.mem_singleton.mpr rfl⟩)
  rw [hnil] at hname
  exact absurd hname List.not_mem_nil

/-- `read_properties` reads the object it is called for. -/
theorem object_of_mem_propertyReads {object : UInt32 × UInt32} {args : ReadArgs}
    (h : args ∈ d.propertyReads object) : (args.objectType, args.objectInstance) = object := by
  rw [Responses.propertyReads, List.mem_append, List.mem_flatMap, List.mem_flatMap] at h
  rcases h with ⟨p, -, hargs⟩ | ⟨p, -, hargs⟩
  · rw [requiredReads] at hargs
    split at hargs
    · exact absurd hargs List.not_mem_nil
    · rw [List.mem_singleton.mp hargs]
  · rw [Responses.optionalReads, List.mem_cons] at hargs
    rcases hargs with rfl | hargs
    · rfl
    · split at hargs
      · rw [List.mem_cons] at hargs
        rcases hargs with rfl | hargs
        · rfl
        · cases hlength : d.arrayLength object p with
          | none =>
            rw [hlength] at hargs
            exact absurd hargs List.not_mem_nil
          | some n =>
            rw [hlength] at hargs
            obtain ⟨i, -, rfl⟩ := List.mem_map.mp hargs
            rfl
      · exact absurd hargs List.not_mem_nil

/-- Reads that end with those of two objects are of one object. -/
theorem eq_of_reads_eq {object object' : UInt32 × UInt32} {before before' : List ReadArgs}
    (h : before ++ d.propertyReads object = before' ++ d.propertyReads object') :
    object = object' := by
  have hne := propertyReads_ne_nil d object
  have hne' := propertyReads_ne_nil d object'
  have hlast : (d.propertyReads object).getLast hne = (d.propertyReads object').getLast hne' := by
    have hends := congrArg List.getLast? h
    rw [List.getLast?_append_of_ne_nil _ hne, List.getLast?_append_of_ne_nil _ hne',
      List.getLast?_eq_getLast_of_ne_nil hne, List.getLast?_eq_getLast_of_ne_nil hne'] at hends
    exact Option.some.inj hends
  rw [← object_of_mem_propertyReads (List.getLast_mem hne), hlast,
    object_of_mem_propertyReads (List.getLast_mem hne')]

/-- Where the entries but the first are read, and all of them but the device should be, nothing
stands before the device: it is read last before `after`, where the entry before it should be. -/
theorem eq_nil_of_reads_eq {dev : UInt32 × UInt32} {before after : List (UInt32 × UInt32)}
    {listReads listReads' : List ReadArgs} (hnot : dev ∉ before)
    (h : listReads ++ (before ++ dev :: after).tail.flatMap d.propertyReads =
      listReads' ++ (before ++ after).flatMap d.propertyReads) : before = [] := by
  rcases List.eq_nil_or_concat' before with rfl | ⟨init, last, rfl⟩
  · rfl
  · obtain ⟨rest, htail⟩ : ∃ rest,
        (init ++ [last] ++ dev :: after).tail = rest ++ dev :: after := by
      cases init <;> exact ⟨_, rfl⟩
    rw [htail] at h
    simp only [List.flatMap_append, List.flatMap_cons, List.flatMap_nil, List.append_nil,
      ← List.append_assoc, List.append_cancel_right_eq] at h
    have hlast : dev = last := eq_of_reads_eq h
    exact absurd (by simp [hlast]) hnot

/-! ### Completeness -/

/-- The result of `epics` is complete: after the device and its object-list, `epics` has read each
entry but the device, and each map is that of its object. -/
structure Responses.Complete (d : Responses) (deviceId : UInt32) (objects : List (UInt32 × UInt32))
    (e : Epics) (reads : List ReadArgs) : Prop where
  read : ∃ listReads, reads = d.propertyReads (objectDevice, deviceId) ++ (listReads ++
    (objects.filter (· ≠ (objectDevice, deviceId))).flatMap d.propertyReads)
  objectList : List.Forall₂ d.Kept (objects.filter (· ≠ (objectDevice, deviceId))) e.objectList
  device : d.Kept (objectDevice, deviceId) e.device

/-- For a device that serves an object-list, `epics` returns when its arrays and the vectors for the
entries can be allocated. -/
theorem epicsFits_iff (hserves : d.Serves deviceId objects) :
    scan.EpicsFits d deviceId ↔
      scan.FitsAll d (objectDevice, deviceId) ∧ (∀ object ∈ objects.tail, scan.FitsAll d object) ∧
      scan.Allocates (8 * objects.length) ∧
      scan.Allocates (scan.sizeOfHashMap * objects.length) := by
  obtain ⟨n, hlength, hn⟩ := hserves.listLength
  rw [EpicsFits, hlength]
  constructor
  · rintro ⟨hdevice, hall⟩
    obtain ⟨hids, hobjects⟩ := hall n rfl
    obtain ⟨hmaps, hfits⟩ := hobjects _ (walk_eq_tail hserves hn)
    rw [hn] at hids hmaps
    exact ⟨hdevice, hfits, hids, hmaps⟩
  · rintro ⟨hdevice, hfits, hids, hmaps⟩
    refine ⟨hdevice, ?_⟩
    rintro _ ⟨⟩
    rw [walk_eq_tail hserves hn, hn]
    refine ⟨hids, ?_⟩
    rintro _ ⟨⟩
    exact ⟨hmaps, hfits⟩

theorem epicsResult_eq (hserves : d.Serves deviceId objects) :
    scan.epicsResult d deviceId =
      .ok ⟨scan.rekey (d.properties (objectDevice, deviceId)),
        objects.tail.map fun object => scan.rekey (d.properties object)⟩ := by
  obtain ⟨n, hlength, hn⟩ := hserves.listLength
  rw [epicsResult, hlength]
  simp only [bind, Except.bind, walk_eq_tail hserves hn]
  rfl

/-- What `epics` reads of a device that serves an object-list. -/
theorem epicsReads_eq (hserves : d.Serves deviceId objects) :
    ∃ listReads, d.epicsReads deviceId = d.propertyReads (objectDevice, deviceId) ++
      (listReads ++ objects.tail.flatMap d.propertyReads) := by
  obtain ⟨n, hlength, hn⟩ := hserves.listLength
  refine ⟨⟨objectDevice, deviceId, propObjectList, 0⟩ ::
    d.walkReads deviceId (List.range' 2 (n.toNat - 1)), ?_⟩
  rw [Responses.epicsReads, hlength]
  simp only [Responses.objectReads, walk_eq_tail hserves hn]
  rfl

theorem forall₂_kept_iff (hname : scan.bactextPropertyName = bactextPropertyName)
    (list : List (UInt32 × UInt32)) :
    List.Forall₂ d.Kept list (list.map fun object => scan.rekey (d.properties object)) ↔
      ∀ object ∈ list, d.TextsDiffer object := by
  rw [List.forall₂_map_right_iff, List.forall₂_same]
  exact forall₂_congr fun object _ => kept_rekey_iff hname

/-- When the maps of all entries but the first, and what is read for them, are complete. -/
theorem complete_tail_iff {e : Epics} {reads listReads : List ReadArgs}
    (hname : scan.bactextPropertyName = bactextPropertyName)
    (hdevice : e.device = scan.rekey (d.properties (objectDevice, deviceId)))
    (hmaps : e.objectList = objects.tail.map fun object => scan.rekey (d.properties object))
    (hreads : reads = d.propertyReads (objectDevice, deviceId) ++
      (listReads ++ objects.tail.flatMap d.propertyReads)) :
    d.Complete deviceId objects e reads ↔
      (∀ object ∈ objects, object.1 = 55 ∨ object.1 = 60 → d.TextsDiffer object) ∧
      (objects = [] ∨ ∃ after, objects = (objectDevice, deviceId) :: after ∧
        (objectDevice, deviceId) ∉ after) := by
  have h55 : objectDevice ≠ 55 := by decide
  have h60 : objectDevice ≠ 60 := by decide
  have hdev : d.TextsDiffer (objectDevice, deviceId) := textsDiffer_of_type h55 h60
  constructor
  · rintro ⟨⟨listReads', hread⟩, hlist, -⟩
    rw [hmaps] at hlist
    have hlength := hlist.length_eq
    rw [List.length_map] at hlength
    rcases split_of_length_eq hlength with rfl | ⟨before, after, rfl, hnot⟩
    · exact ⟨by simp, .inl rfl⟩
    · rw [List.mem_append, not_or] at hnot
      rw [List.filter_append, filter_ne_cons hnot.2, filter_ne_of_not_mem hnot.1] at hread hlist
      rw [hreads, List.append_cancel_left_eq] at hread
      have hbefore : before = [] := eq_nil_of_reads_eq hnot.1 hread
      subst hbefore
      rw [List.nil_append, List.nil_append, List.tail_cons,
        forall₂_kept_iff hname] at hlist
      refine ⟨?_, .inr ⟨after, rfl, hnot.2⟩⟩
      rintro object (- | ⟨-, hin⟩) -
      · exact hdev
      · exact hlist object hin
  · rintro ⟨htexts, hposition⟩
    have hdiffer : ∀ object ∈ objects, d.TextsDiffer object := by
      intro object hin
      by_cases htype : object.1 = 55 ∨ object.1 = 60
      · exact htexts object hin htype
      · rw [not_or] at htype
        exact textsDiffer_of_type htype.1 htype.2
    have hothers : objects.filter (· ≠ (objectDevice, deviceId)) = objects.tail := by
      rcases hposition with rfl | ⟨after, rfl, hnot⟩
      · rfl
      · exact filter_ne_cons hnot
    refine ⟨⟨listReads, ?_⟩, ?_, ?_⟩
    · rw [hothers, hreads]
    · rw [hothers, hmaps, forall₂_kept_iff hname]
      exact fun object hin => hdiffer object (List.mem_of_mem_tail hin)
    · rw [hdevice]
      exact (kept_rekey_iff hname).mpr hdev

/-- `epics` is complete exactly when nothing in it panics, the properties that share a text are not
reported of one object, and the device is the first entry of its object-list and no other. -/
theorem epics_complete_iff (platform : Platform) (hserves : d.Serves deviceId objects) :
    (∃ e reads, ((Scan.stack d.recorder platform).epics deviceId).run.run [] =
        some (.ok e, reads) ∧ d.Complete deviceId objects e reads) ↔
      ((Scan.stack d.recorder platform).FitsAll d (objectDevice, deviceId) ∧
        (∀ object ∈ objects.tail, (Scan.stack d.recorder platform).FitsAll d object) ∧
        platform.Allocates (8 * objects.length) ∧
        platform.Allocates (platform.sizeOfHashMap * objects.length)) ∧
      (∀ object ∈ objects, object.1 = 55 ∨ object.1 = 60 → d.TextsDiffer object) ∧
      (objects = [] ∨ ∃ after, objects = (objectDevice, deviceId) :: after ∧
        (objectDevice, deviceId) ∉ after) := by
  have hgives := epics_gives rfl (recorder_answeredBy d platform) deviceId [] [] rfl
  rw [epicsFits_iff hserves, epicsResult_eq hserves] at hgives
  obtain ⟨listReads, hreads⟩ := epicsReads_eq hserves
  constructor
  · rintro ⟨e, reads, hrun, hcomplete⟩
    split at hgives
    · rename_i hfits
      obtain ⟨reads₁, hrun₁, heq⟩ := hgives.1 _ rfl
      rw [hrun₁] at hrun
      cases hrun
      exact ⟨hfits, (complete_tail_iff rfl rfl rfl (heq.trans hreads)).mp hcomplete⟩
    · rw [hgives.2 rfl] at hrun
      cases hrun
  · rintro ⟨hfits, hposition⟩
    split at hgives
    · obtain ⟨reads, hrun, heq⟩ := hgives.1 _ rfl
      exact ⟨_, reads, hrun, (complete_tail_iff rfl rfl rfl (heq.trans hreads)).mpr hposition⟩
    · rename_i hno
      exact absurd hfits hno

/-! ### Two properties with one text -/

/-- A device with one object, which reports the two properties called `strike-count` if it is a
Binary Lighting Output. -/
def strikeCounts (object : UInt32 × UInt32) : Responses := fun args =>
  if args.propertyId = propObjectList then
    if args.index = 0 then .ok (.uint 2)
    else if args.index = 1 then .ok (.objectId objectDevice 5)
    else if args.index = 2 then .ok (.objectId object.1 object.2)
    else .error (.bacnetError (.error "property" 2 "invalid-array-index" 42))
  else if args.propertyId = 391 then .ok (.uint 1)
  else if args.propertyId = 392 then .ok (.uint 2)
  else if args.propertyId = 77 then .ok (.string "object")
  else .error (.bacnetError (.error "property" 2 "unknown-property" 32))

theorem strikeCounts_serves (object : UInt32 × UInt32) :
    (strikeCounts object).Serves 5 [(objectDevice, 5), object] where
  length := ⟨2, rfl, rfl⟩
  entry := by
    intro i entry hentry
    cases i with
    | zero =>
      cases hentry
      rfl
    | succ i =>
      cases i with
      | zero =>
        cases hentry
        rfl
      | succ i => simp at hentry

theorem strikeCounts_merged :
    (strikeCounts (55, 1)).Serves 5 [(objectDevice, 5), (55, 1)] ∧
    ¬ ∃ e reads, ((Scan.stack (strikeCounts (55, 1)).recorder releaseBuild).epics 5).run.run [] =
        some (.ok e, reads) ∧
      (strikeCounts (55, 1)).Complete 5 [(objectDevice, 5), (55, 1)] e reads := by
  refine ⟨strikeCounts_serves _, ?_⟩
  rintro ⟨e, reads, -, -, hkept, -⟩
  have hothers : [(objectDevice, 5), (55, 1)].filter (· ≠ (objectDevice, 5)) =
      [((55, 1) : UInt32 × UInt32)] := by decide
  rw [hothers, List.forall₂_cons_left_iff] at hkept
  obtain ⟨named, -, ⟨hdiffer, -⟩, -⟩ := hkept
  have hmem : ∀ p, ((strikeCounts (55, 1)).reported (55, 1) p).isSome →
      p ∈ (strikeCounts (55, 1)).properties (55, 1) := by
    intro p hp
    rw [← AList.lookup_isSome, lookup_properties]
    exact hp
  have heq := hdiffer (hmem 391 (by decide)) (hmem 392 (by decide)) (by decide +kernel)
  exact absurd heq (by decide)

theorem strikeCounts_complete :
    ∃ e reads, ((Scan.stack (strikeCounts (0, 1)).recorder releaseBuild).epics 5).run.run [] =
        some (.ok e, reads) ∧
      (strikeCounts (0, 1)).Complete 5 [(objectDevice, 5), (0, 1)] e reads := by
  refine (epics_complete_iff releaseBuild (strikeCounts_serves (0, 1))).mpr
    ⟨⟨by decide +kernel, ?_, by decide, by decide⟩, ?_, .inr ⟨[(0, 1)], rfl, by decide⟩⟩
  · intro object hin
    cases List.mem_singleton.mp hin
    decide +kernel
  · intro object hin htype
    rcases List.mem_cons.mp hin with rfl | hin
    · exact absurd htype (by decide)
    · cases List.mem_singleton.mp hin
      exact absurd htype (by decide)

end Bacnet
