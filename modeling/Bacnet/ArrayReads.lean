import Bacnet.Responses

/-!
# Bacnet.ArrayReads

Arrays that `read_properties` reads element by element: when they are aligned, and which properties
its map has.
-/

namespace Bacnet

/-! ### A device with recorded reads -/

/-- The reads of a device, whose state is what has been read. -/
def Responses.recorder (d : Responses) (args : ReadArgs) :
    Reads (List ReadArgs) (Result BACnetValue) :=
  fun log => some (d args, log ++ [args])

theorem recorder_answeredBy (d : Responses) (platform : Platform) :
    (Scan.stack d.recorder platform).AnsweredBy (fun log s => s = log) d := by
  intro args log s hs
  constructor
  · intro a ha
    cases ha
    exact ⟨log ++ [args], by rw [hs]; rfl, rfl⟩
  · intro h
    cases h

/-- A build without overflow checks, where 64 KiB can be allocated. -/
def releaseBuild : Platform where
  sizeOfBACnetValue := 32
  sizeOfHashMap := 48
  overflowChecks := false
  allocationLimit := 65536

/-- A device whose property 87, `priority-array`, is an array of three elements, too long for one
message. Some of them cannot be read, and no other property can. -/
def longArray (unreadable : List UInt32) : Responses := fun args =>
  if args.propertyId = 87 then
    if args.index = bacnetArrayAll then
      .error (.bacnetError (.aborted "Segmentation Not Supported" 4))
    else if args.index = 0 then .ok (.uint 3)
    else if args.index ∈ unreadable then .error .apduTimeout
    else .ok (.uint args.index.toUInt64)
  else .error (.bacnetError (.error "property" 2 "unknown-property" 32))

/-! ### Alignment -/

/-- Every element of an array of length `n` can be read at its index. -/
def Responses.AllElements (d : Responses) (object : UInt32 × UInt32) (p : UInt32) (n : UInt64) : Prop :=
  ∀ i, i < n.toNat → ∃ index : UInt32, index.toNat = i + 1 ∧ ∃ v, d.indexed object p index = .ok v

/-- `a` has exactly `n` elements, each the value read at its index. -/
def Responses.Aligned (d : Responses) (object : UInt32 × UInt32) (p : UInt32) (n : UInt64)
    (a : List BACnetValue) : Prop :=
  a.length = n.toNat ∧ ∀ i, i < n.toNat →
    ∃ index : UInt32, index.toNat = i + 1 ∧ ∃ v, a[i]? = some v ∧ d.indexed object p index = .ok v

theorem map_eq_map_some {α β : Type} {f : α → Option β} {xs : List α}
    (h : ∀ x ∈ xs, ∃ y, f x = some y) : xs.map f = (xs.filterMap f).map some := by
  induction xs with
  | nil => rfl
  | cons x xs ih =>
    obtain ⟨y, hy⟩ := h x List.mem_cons_self
    have htail := ih fun z hz => h z (List.mem_cons_of_mem _ hz)
    rw [List.map_cons, List.filterMap_cons_some hy, List.map_cons, hy, htail]

variable {d : Responses} {object : UInt32 × UInt32} {p : UInt32} {n : UInt64}

/-- The index of an element is one more than that of the turn that reads it. -/
theorem index_eq {index : UInt32} {i : Nat} (h : index.toNat = i + 1) :
    UInt32.ofNat i + 1 = index := by
  have hlt := index.toNat_lt
  apply UInt32.toNat_inj.mp
  rw [UInt32.toNat_add, UInt32.toNat_ofNat', h]
  have hone : (1 : UInt32).toNat = 1 := rfl
  omega

theorem aligned_elements_iff :
    d.Aligned object p n (d.elements object p n.toNat) ↔ d.AllElements object p n := by
  constructor
  · rintro ⟨-, h⟩ i hi
    obtain ⟨index, hindex, v, -, hv⟩ := h i hi
    exact ⟨index, hindex, v, hv⟩
  · intro h
    have hall : ∀ i ∈ List.range n.toNat,
        ∃ v, (d.indexed object p (UInt32.ofNat i + 1)).toOption = some v := by
      intro i hi
      obtain ⟨index, hindex, v, hv⟩ := h i (List.mem_range.mp hi)
      exact ⟨v, by rw [index_eq hindex, hv]; rfl⟩
    have hmap := map_eq_map_some hall
    rw [← Responses.elements] at hmap
    constructor
    · have hlength := congrArg List.length hmap
      simpa using hlength.symm
    · intro i hi
      obtain ⟨index, hindex, v, hv⟩ := h i hi
      refine ⟨index, hindex, v, ?_, hv⟩
      have hget := congrArg (fun l => l[i]?) hmap
      simp only [List.getElem?_map, List.getElem?_range hi, Option.map_some, index_eq hindex,
        hv] at hget
      cases ha : (d.elements object p n.toNat)[i]? with
      | none => simp [ha] at hget
      | some w =>
        rw [ha] at hget
        simpa [Except.toOption] using hget.symm

section

variable {σ : Type} {I : List ReadArgs → σ → Prop} {log : List ReadArgs} {s s' : σ}
  {readPropAt : ReadArgs → Reads σ (Result BACnetValue)} {platform : Platform}

/-- A run of `read_properties` returns the map of what the device reports, or panics. -/
theorem readProperties_run
    (h : (Scan.stack readPropAt platform).AnsweredBy I d)
    (hs : I log s) {m : PropertyMap}
    (hrun : ((Scan.stack readPropAt platform).readProperties object.1 object.2).run s =
      some (m, s')) :
    m = d.properties object := by
  have hgives := readProperties_gives rfl h object log s hs
  split at hgives
  · obtain ⟨s₁, hrun₁, -⟩ := hgives.1 _ rfl
    rw [hrun₁] at hrun
    cases hrun
    rfl
  · rw [hgives.2 rfl] at hrun
    cases hrun

theorem optionalValue_of_arrayLength (hn : d.arrayLength object p = some n) :
    d.optionalValue object p = some (.array (d.elements object p n.toNat)) := by
  obtain ⟨text, hwhole⟩ := segmented_iff.mp (arrayLength_eq_some_iff.mp hn).1
  rw [Responses.optionalValue, hwhole, hn]
  rfl

theorem reported_of_arrayLength (hp : p ∈ (propertyListSpecial object.1).optional)
    (hn : d.arrayLength object p = some n) :
    d.reported object p = some (.array (d.elements object p n.toNat)) := by
  rw [Responses.reported, if_pos hp, optionalValue_of_arrayLength hn]
  rfl

/-- Of an optional property that is read element by element, what is reported is aligned exactly
when each of its elements can be read. -/
theorem array_aligned_iff
    (h : (Scan.stack readPropAt platform).AnsweredBy I d)
    (hs : I log s) (hp : p ∈ (propertyListSpecial object.1).optional)
    (hn : d.arrayLength object p = some n) {m : PropertyMap}
    (hrun : ((Scan.stack readPropAt platform).readProperties object.1 object.2).run s =
      some (m, s')) :
    (∀ a, m.lookup p = some (.array a) → d.Aligned object p n a) ↔ d.AllElements object p n := by
  have hlookup : m.lookup p = some (.array (d.elements object p n.toNat)) := by
    rw [readProperties_run h hs hrun, lookup_properties, reported_of_arrayLength hp hn]
  rw [hlookup, ← aligned_elements_iff]
  constructor
  · intro hall
    exact hall _ rfl
  · intro haligned a ha
    cases ha
    exact haligned

/-- An array without its second element is reported as one of the two others. -/
theorem longArray_misaligned :
    ∃ m reads, ((Scan.stack (longArray [2]).recorder releaseBuild).readProperties 2 1).run [] =
        some (m, reads) ∧
      (longArray [2]).arrayLength (2, 1) 87 = some 3 ∧
      m.lookup 87 = some (.array [.uint 1, .uint 3]) ∧
      ¬ (longArray [2]).Aligned (2, 1) 87 3 [.uint 1, .uint 3] := by
  have hgives := readProperties_gives rfl (recorder_answeredBy (longArray [2]) releaseBuild) (2, 1)
    [] [] rfl
  rw [if_pos (by decide)] at hgives
  obtain ⟨reads, hrun, -⟩ := hgives.1 _ rfl
  refine ⟨_, reads, hrun, by decide, ?_, fun h => absurd h.1 (by decide)⟩
  rw [lookup_properties]
  rfl

theorem longArray_allElements (object : UInt32 × UInt32) :
    (longArray []).AllElements object 87 3 := by
  intro i hi
  have hcases : i = 0 ∨ i = 1 ∨ i = 2 := by
    have hthree : (3 : UInt64).toNat = 3 := rfl
    omega
  rcases hcases with rfl | rfl | rfl
  · exact ⟨1, rfl, _, rfl⟩
  · exact ⟨2, rfl, _, rfl⟩
  · exact ⟨3, rfl, _, rfl⟩

theorem longArray_aligned :
    ∃ m reads, ((Scan.stack (longArray []).recorder releaseBuild).readProperties 2 1).run [] =
        some (m, reads) ∧
      ∀ a, m.lookup 87 = some (.array a) → (longArray []).Aligned (2, 1) 87 3 a := by
  have hanswers := recorder_answeredBy (longArray []) releaseBuild
  have hgives := readProperties_gives rfl hanswers (2, 1) [] [] rfl
  rw [if_pos (by decide)] at hgives
  obtain ⟨reads, hrun, -⟩ := hgives.1 _ rfl
  have hlisted : 87 ∈ (propertyListSpecial 2).optional := by decide
  have hlength : (longArray []).arrayLength (2, 1) 87 = some 3 := by decide
  exact ⟨_, reads, hrun,
    (array_aligned_iff hanswers rfl hlisted hlength hrun).mpr (longArray_allElements _)⟩

/-! ### Completeness -/

/-- The property can be read whole, or it is a long array whose length and elements can be. -/
def Responses.Readable (d : Responses) (object : UInt32 × UInt32) (p : UInt32) : Prop :=
  (∃ v, d.whole object p = .ok v) ∨ ∃ n, d.arrayLength object p = some n ∧ d.AllElements object p n

theorem not_whole_of_arrayLength (hn : d.arrayLength object p = some n) :
    ¬ ∃ v, d.whole object p = .ok v := by
  rintro ⟨v, hv⟩
  obtain ⟨text, hwhole⟩ := segmented_iff.mp (arrayLength_eq_some_iff.mp hn).1
  rw [hwhole] at hv
  cases hv

/-- Of a required property nothing but its whole is read. -/
theorem reported_required_iff (hp : p ∈ (propertyListSpecial object.1).required)
    (hlist : p ≠ propObjectList) :
    (d.reported object p).isSome ↔ ∃ v, d.whole object p = .ok v := by
  rw [Responses.reported, if_neg (required_not_optional hp), if_pos hp, Responses.requiredValue,
    if_neg hlist]
  cases d.whole object p with
  | ok v => simp [Except.toOption]
  | error e => simp [Except.toOption]

/-- Of an optional property a long array is read, whichever elements it lacks. -/
theorem reported_optional_iff (hp : p ∈ (propertyListSpecial object.1).optional) :
    (d.reported object p).isSome ↔
      (∃ v, d.whole object p = .ok v) ∨ ∃ n, d.arrayLength object p = some n := by
  have hrequired : p ∉ (propertyListSpecial object.1).required :=
    fun h => required_not_optional h hp
  rw [Responses.reported, if_pos hp, if_neg hrequired, Responses.optionalValue, Option.or_none]
  cases d.whole object p with
  | ok v => simp
  | error e => simp [Option.isSome_iff_exists]

/-- A required property is in the map exactly when it is readable, unless it is a long array. -/
theorem required_complete_iff (hp : p ∈ (propertyListSpecial object.1).required)
    (hlist : p ≠ propObjectList) :
    ((d.reported object p).isSome ↔ d.Readable object p) ↔
      ∀ n, d.arrayLength object p = some n → ¬ d.AllElements object p n := by
  rw [reported_required_iff hp hlist, Responses.Readable]
  constructor
  · intro hiff n hn hall
    exact not_whole_of_arrayLength hn (hiff.mpr (.inr ⟨n, hn, hall⟩))
  · intro hno
    constructor
    · exact .inl
    · rintro (hv | ⟨n, hn, hall⟩)
      · exact hv
      · exact absurd hall (hno n hn)

/-- An optional property is in the map exactly when it is readable, unless it is a long array that
lacks elements. -/
theorem optional_complete_iff (hp : p ∈ (propertyListSpecial object.1).optional) :
    ((d.reported object p).isSome ↔ d.Readable object p) ↔
      ∀ n, d.arrayLength object p = some n → d.AllElements object p n := by
  rw [reported_optional_iff hp, Responses.Readable]
  constructor
  · intro hiff n hn
    rcases hiff.mp (.inr ⟨n, hn⟩) with hv | ⟨n', hn', hall⟩
    · exact absurd hv (not_whole_of_arrayLength hn)
    · rw [hn] at hn'
      cases hn'
      exact hall
  · intro hall
    constructor
    · rintro (hv | ⟨n, hn⟩)
      · exact .inl hv
      · exact .inr ⟨n, hn, hall n hn⟩
    · rintro (hv | ⟨n, hn, -⟩)
      · exact .inl hv
      · exact .inr ⟨n, hn⟩

/-- `read_properties` returns a map with exactly the readable properties of the two lists when it
does not panic, no required property is a readable long array, and no optional one is a long
array that lacks elements. -/
theorem readProperties_complete_iff
    (h : (Scan.stack readPropAt platform).AnsweredBy I d)
    (hs : I log s) (object : UInt32 × UInt32) :
    (∃ m s', ((Scan.stack readPropAt platform).readProperties object.1 object.2).run s =
        some (m, s') ∧
      ∀ p, p ∈ (propertyListSpecial object.1).required ∨
          p ∈ (propertyListSpecial object.1).optional →
        p ≠ propObjectList → (p ∈ m ↔ d.Readable object p)) ↔
      (Scan.stack readPropAt platform).FitsAll d object ∧
      (∀ p ∈ (propertyListSpecial object.1).required, p ≠ propObjectList →
        ∀ n, d.arrayLength object p = some n → ¬ d.AllElements object p n) ∧
      (∀ p ∈ (propertyListSpecial object.1).optional,
        ∀ n, d.arrayLength object p = some n → d.AllElements object p n) := by
  have hmem : ∀ p, p ∈ d.properties object ↔ (d.reported object p).isSome := by
    intro p
    rw [← lookup_properties, AList.lookup_isSome]
  have hgives := readProperties_gives rfl h object log s hs
  constructor
  · rintro ⟨m, s', hrun, hall⟩
    have hfits : (Scan.stack readPropAt platform).FitsAll d object := by
      by_contra hno
      rw [if_neg hno] at hgives
      rw [hgives.2 rfl] at hrun
      cases hrun
    rw [readProperties_run h hs hrun] at hall
    refine ⟨hfits, ?_, ?_⟩
    · intro p hp hlist
      rw [← required_complete_iff hp hlist, ← hmem]
      exact hall p (.inl hp) hlist
    · intro p hp
      rw [← optional_complete_iff hp, ← hmem]
      refine hall p (.inr hp) ?_
      rintro rfl
      exact propObjectList_not_optional _ hp
  · rintro ⟨hfits, hrequired, hoptional⟩
    rw [if_pos hfits] at hgives
    obtain ⟨s', hrun, -⟩ := hgives.1 _ rfl
    refine ⟨_, s', hrun, ?_⟩
    intro p hp hlist
    rw [hmem]
    rcases hp with hp | hp
    · exact (required_complete_iff hp hlist).mpr (hrequired p hp hlist)
    · exact (optional_complete_iff hp).mpr (hoptional p hp)

/-- The same array is in the map where it is optional, and not where it is required. -/
theorem longArray_required :
    87 ∈ (propertyListSpecial 1).required ∧ (longArray []).Readable (1, 1) 87 ∧
      ∃ m reads, ((Scan.stack (longArray []).recorder releaseBuild).readProperties 1 1).run [] =
        some (m, reads) ∧ 87 ∉ m := by
  refine ⟨by decide, .inr ⟨3, by decide, longArray_allElements _⟩, ?_⟩
  have hgives := readProperties_gives rfl (recorder_answeredBy (longArray []) releaseBuild) (1, 1)
    [] [] rfl
  rw [if_pos (by decide)] at hgives
  obtain ⟨reads, hrun, -⟩ := hgives.1 _ rfl
  refine ⟨_, reads, hrun, ?_⟩
  rw [← AList.lookup_isSome, lookup_properties]
  decide

theorem longArray_complete :
    ∃ m reads, ((Scan.stack (longArray []).recorder releaseBuild).readProperties 2 1).run [] =
        some (m, reads) ∧
      ∀ p, p ∈ (propertyListSpecial 2).required ∨ p ∈ (propertyListSpecial 2).optional →
        p ≠ propObjectList → (p ∈ m ↔ (longArray []).Readable (2, 1) p) := by
  have hrequired : ((propertyListSpecial 2).required.all fun p =>
      ((longArray []).arrayLength (2, 1) p).isNone) = true := by decide +kernel
  have hoptional : ((propertyListSpecial 2).optional.all fun p =>
      p == 87 || ((longArray []).arrayLength (2, 1) p).isNone) = true := by decide +kernel
  refine (readProperties_complete_iff (recorder_answeredBy (longArray []) releaseBuild)
    rfl (2, 1)).mpr ⟨by decide +kernel, ?_, ?_⟩
  · intro p hp _ n hn
    have hnone := List.all_eq_true.mp hrequired p hp
    rw [hn] at hnone
    cases hnone
  · intro p hp n hn
    have hcases := List.all_eq_true.mp hoptional p hp
    rw [Bool.or_eq_true, beq_iff_eq] at hcases
    rcases hcases with rfl | hnone
    · have hthree : (longArray []).arrayLength (2, 1) 87 = some 3 := by decide
      rw [hthree] at hn
      cases hn
      exact longArray_allElements _
    · rw [hn] at hnone
      cases hnone

end

end Bacnet
