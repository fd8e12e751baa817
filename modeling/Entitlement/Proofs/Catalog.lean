import Entitlement.Catalog
import Entitlement.Proofs.Json.Compact
import Mathlib.Data.List.Basic

/-!
# Records that are set aside

Each record of an export is read by itself. Whether it is kept, and as what, depends on no other
record; only the place under which it is set aside is counted from the front. So exports that are
put one behind the other load as each of them does, with the later places moved on.
-/

namespace Entitlement

open Json

namespace CatalogLoad

variable {α : Type}

/-- How the item at a place is set aside, if it cannot be read. -/
def rejection? (read : Reader α) (x : Json × Nat) : Option Rejection :=
  match read x.1 with
  | .ok _ => none
  | .error reason => some ⟨x.2, reason⟩

/-- Holds of what was loaded from some items, when each of them was read by itself. -/
structure Sorts (l : CatalogLoad α) (read : Reader α) (items : List Json) : Prop where
  /-- All that can be read is kept, in order. -/
  records : l.records = items.filterMap fun v => (read v).toOption
  /-- All else is set aside under its place, with the reason that it has by itself. -/
  rejected : ∀ i reason, ⟨i, reason⟩ ∈ l.rejected ↔ ∃ v, items[i]? = some v ∧ read v = .error reason
  ascending : (l.rejected.map (·.index)).Pairwise (· < ·)
  length : l.records.length + l.rejected.length = items.length

/-- Holds of a way to load exports, given by their bytes, that reads each record by itself. -/
structure ReadsEachAlone (read : Reader α) (wording : FaultWording)
    (load : List UInt8 → Except CatalogError (CatalogLoad α)) : Prop where
  /-- An array loads, whatever its items are. -/
  array : ∀ bytes items, parseBytes bytes = .ok (.array items) →
    ∃ l, load bytes = .ok l ∧ l.Sorts read items
  /-- The items may be any values that are given exactly by their text. -/
  written : ∀ items, Exact maxDepth (.array items) →
    ∃ l, load (Text.bytes (Json.array items).compact) = .ok l ∧ l.Sorts read items
  /-- Of two arrays, one behind the other, each loads as it does alone, but for the places. -/
  append : ∀ first second both items more, parseBytes first = .ok (.array items) →
    parseBytes second = .ok (.array more) → parseBytes both = .ok (.array (items ++ more)) →
    ∃ l m, load first = .ok l ∧ load second = .ok m ∧
      load both = .ok
        { records := l.records ++ m.records
          rejected := l.rejected ++
            m.rejected.map fun x => { x with index := items.length + x.index } }
  /-- Nothing loads from a value that is no array. -/
  notAnArray : ∀ bytes v, parseBytes bytes = .ok v → (∀ items, v ≠ .array items) →
    load bytes = .error .notAnArray
  /-- Nothing loads from what is no JSON. -/
  notJson : ∀ bytes fault, parseBytes bytes = .error fault →
    load bytes = .error (.notJson (wording fault bytes))

/-! ### Items one by one -/

variable (read : Reader α)

theorem records_ofItems : ∀ (index : Nat) (items : List Json),
    (ofItems read index items).records = items.filterMap fun v => (read v).toOption
  | _, [] => rfl
  | index, item :: items => by
    have ih := records_ofItems (index + 1) items
    cases h : read item <;> simp [ofItems, h, ih, Except.toOption]

theorem rejected_ofItems : ∀ (index : Nat) (items : List Json),
    (ofItems read index items).rejected = (items.zipIdx index).filterMap (rejection? read)
  | _, [] => rfl
  | index, item :: items => by
    have ih := rejected_ofItems (index + 1) items
    cases h : read item <;> simp [ofItems, rejection?, h, ih]

/-- Each item goes to one side or the other. -/
theorem length_ofItems : ∀ (index : Nat) (items : List Json),
    (ofItems read index items).records.length + (ofItems read index items).rejected.length =
      items.length
  | _, [] => rfl
  | index, item :: items => by
    have ih := length_ofItems (index + 1) items
    cases h : read item <;> simp [ofItems, h] <;> omega

variable {read}

theorem rejection?_eq_some_iff {x : Json × Nat} {y : Rejection} :
    rejection? read x = some y ↔ read x.1 = .error y.reason ∧ x.2 = y.index := by
  obtain ⟨i, reason⟩ := y
  cases h : read x.1 <;> simp [rejection?, h, and_comm]

theorem mem_rejected_ofItems {items : List Json} {i : Nat} {reason : RecordError} :
    ⟨i, reason⟩ ∈ (ofItems read 0 items).rejected ↔
      ∃ v, items[i]? = some v ∧ read v = .error reason := by
  rw [rejected_ofItems, List.mem_filterMap]
  constructor
  · rintro ⟨⟨v, j⟩, hmem, hreject⟩
    obtain ⟨hread, hplace⟩ := rejection?_eq_some_iff.mp hreject
    dsimp only at hread hplace
    subst hplace
    exact ⟨v, List.mem_zipIdx_iff_getElem?.mp hmem, hread⟩
  · rintro ⟨v, hv, hread⟩
    exact ⟨(v, i), List.mem_zipIdx_iff_getElem?.mpr hv, rejection?_eq_some_iff.mpr ⟨hread, rfl⟩⟩

/-- The places are those of the items, which ascend. -/
theorem rejected_ofItems_ascending (items : List Json) :
    ((ofItems read 0 items).rejected.map (·.index)).Pairwise (· < ·) := by
  have hplaces : (items.zipIdx 0).Pairwise fun x y => x.2 < y.2 := by
    rw [← List.pairwise_map, List.zipIdx_map_snd]
    exact List.pairwise_lt_range'
  rw [rejected_ofItems, List.pairwise_map]
  refine hplaces.filterMap _ ?_
  intro x y hxy r hr s hs
  rw [← (rejection?_eq_some_iff.mp hr).2, ← (rejection?_eq_some_iff.mp hs).2]
  exact hxy

/-- Where the items before have been counted makes no other difference. -/
theorem rejected_ofItems_eq_map (index : Nat) (items : List Json) :
    (ofItems read index items).rejected =
      (ofItems read 0 items).rejected.map fun x => { x with index := index + x.index } := by
  rw [rejected_ofItems, rejected_ofItems, List.zipIdx_eq_map_add, List.filterMap_map,
    List.map_filterMap]
  refine List.filterMap_congr fun x _ => ?_
  cases h : read x.1 <;> simp [rejection?, h]

theorem ofItems_append (items more : List Json) :
    ofItems read 0 (items ++ more) =
      { records := (ofItems read 0 items).records ++ (ofItems read 0 more).records
        rejected := (ofItems read 0 items).rejected ++
          (ofItems read 0 more).rejected.map fun x =>
            { x with index := items.length + x.index } } := by
  have hrecords : (ofItems read 0 (items ++ more)).records =
      (ofItems read 0 items).records ++ (ofItems read 0 more).records := by
    simp only [records_ofItems, List.filterMap_append]
  have hrejected : (ofItems read 0 (items ++ more)).rejected =
      (ofItems read 0 items).rejected ++ (ofItems read items.length more).rejected := by
    simp only [rejected_ofItems, List.zipIdx_append, List.filterMap_append, Nat.zero_add]
  rw [← rejected_ofItems_eq_map, ← hrecords, ← hrejected]

theorem ofItems_sorts (items : List Json) : (ofItems read 0 items).Sorts read items where
  records := records_ofItems read 0 items
  rejected := fun _ _ => mem_rejected_ofItems
  ascending := rejected_ofItems_ascending items
  length := length_ofItems read 0 items

/-! ### Whole exports -/

theorem ofBytes_array {wording : FaultWording} {bytes : List UInt8} {items : List Json}
    (h : parseBytes bytes = .ok (.array items)) :
    ofBytes read wording bytes = .ok (ofItems read 0 items) := by
  rw [ofBytes, h]

theorem ofBytes_readsEachAlone (read : Reader α) (wording : FaultWording) :
    ReadsEachAlone read wording (ofBytes read wording) where
  array := fun _ items h => ⟨ofItems read 0 items, ofBytes_array h, ofItems_sorts items⟩
  written := by
    intro items hexact
    have hparse : parseBytes (Text.bytes (Json.array items).compact) = .ok (.array items) :=
      (parseBytes_bytes _).trans (parse_compact hexact)
    exact ⟨ofItems read 0 items, ofBytes_array hparse, ofItems_sorts items⟩
  append := by
    intro first second both items more hfirst hsecond hboth
    refine ⟨ofItems read 0 items, ofItems read 0 more, ofBytes_array hfirst,
      ofBytes_array hsecond, ?_⟩
    rw [ofBytes_array hboth, ofItems_append]
  notAnArray := by
    intro bytes v hparse hv
    rw [ofBytes, hparse]
    cases v with
    | array items => exact absurd rfl (hv items)
    | null | bool | number | text | object => rfl
  notJson := by
    intro bytes fault hparse
    rw [ofBytes, hparse]

/-- Profiles and schemes load record by record. A record that cannot be read costs no other record
its place; only an export that is no array, or no JSON, does not load at all. -/
theorem bad_records_are_set_aside (wording : FaultWording) :
    ReadsEachAlone Profile.ofJson wording (loadProfiles wording) ∧
      ReadsEachAlone Scheme.ofJson wording (loadSchemes wording) :=
  ⟨ofBytes_readsEachAlone Profile.ofJson wording, ofBytes_readsEachAlone Scheme.ofJson wording⟩

/-- Of four records two are profiles, and none of them is a scheme. An array without its end is no
JSON, and a number is no array. -/
theorem two_profiles_among_four_records :
    let bytes := Text.bytes "[\x7b\"id\":\"p-1\"\x7d,\"p-2\",\x7b\"id\":3\x7d,\x7b\x7d]"
    let items : List Json :=
      [.object [("id", .text "p-1")], .text "p-2", .object [("id", .nat 3)], .object []]
    let cut := Text.bytes "[1, "
    let number := Text.bytes "3"
    let wording : FaultWording := fun fault _ =>
      if fault = .truncated then "too short" else "not well formed"
    parseBytes bytes = .ok (.array items) ∧ parseBytes cut = .error .truncated ∧
      parseBytes number = .ok (.nat 3) ∧
      (∃ l, loadProfiles wording bytes = .ok l ∧
        l.records = [{ id := "p-1" }, { id := "" }] ∧ l.rejected.length = 2 ∧
        (∃ reason, ⟨1, reason⟩ ∈ l.rejected) ∧ ∃ reason, ⟨2, reason⟩ ∈ l.rejected) ∧
      (∃ l, loadSchemes wording bytes = .ok l ∧ l.records = [] ∧ l.rejected.length = 4) ∧
      loadProfiles wording cut = .error (.notJson "too short") ∧
      loadProfiles wording number = .error .notAnArray := by
  intro bytes items cut number wording
  have hexact : Exact maxDepth (.array items) := by
    refine Exact.array (List.forall_mem_cons.mpr ⟨?_, List.forall_mem_cons.mpr ⟨.text _,
      List.forall_mem_cons.mpr ⟨?_, List.forall_mem_singleton.mpr ?_⟩⟩⟩)
    · exact .object (List.pairwise_singleton _ _) (List.forall_mem_singleton.mpr (.text _))
    · exact .object (List.pairwise_singleton _ _)
        (List.forall_mem_singleton.mpr (.integer (by decide) (by decide)))
    · exact .object .nil nofun
  have htext : (Json.array items).compact =
      "[\x7b\"id\":\"p-1\"\x7d,\"p-2\",\x7b\"id\":3\x7d,\x7b\x7d]" := by
    decide +kernel
  have hbytes : parseBytes bytes = .ok (.array items) :=
    (parseBytes_bytes _).trans (htext ▸ parse_compact hexact)
  have hcut : parseBytes cut = .error .truncated := (parseBytes_bytes _).trans rfl
  have hnumber : parseBytes number = .ok (.nat 3) := (parseBytes_bytes _).trans rfl
  obtain ⟨hprofiles, hschemes⟩ := bad_records_are_set_aside wording
  refine ⟨hbytes, hcut, hnumber, ?_, ?_, hprofiles.notJson cut _ hcut,
    hprofiles.notAnArray number _ hnumber fun _ h => nomatch h⟩
  · obtain ⟨l, hload, hsorts⟩ := hprofiles.array bytes items hbytes
    have hrecords : l.records = [{ id := "p-1" }, { id := "" }] :=
      hsorts.records.trans (by decide)
    have hlength := hsorts.length
    rw [hrecords] at hlength
    refine ⟨l, hload, hrecords, Nat.add_left_cancel hlength, ?_, ?_⟩
    · exact ⟨_, (hsorts.rejected 1 _).mpr ⟨.text "p-2", rfl, rfl⟩⟩
    · exact ⟨_, (hsorts.rejected 2 _).mpr ⟨.object [("id", .nat 3)], rfl, rfl⟩⟩
  · obtain ⟨l, hload, hsorts⟩ := hschemes.array bytes items hbytes
    have hrecords : l.records = [] := hsorts.records.trans (by decide)
    have hlength := hsorts.length
    rw [hrecords] at hlength
    exact ⟨l, hload, hrecords, (Nat.zero_add _).symm.trans hlength⟩

end CatalogLoad

end Entitlement
