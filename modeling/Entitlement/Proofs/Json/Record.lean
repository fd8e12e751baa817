import Entitlement.Json.Record
import Entitlement.Proofs.Steps
import Mathlib.Data.List.Forall2

/-!
# What a record is read from

A reader goes on only while nothing is wrong, so a record that was read tells that each of its parts
was: the parts that have to be there were found and read, and the others were either absent or read
as well. Whether the record was an object or an array makes no difference for what a field is.
-/

namespace Entitlement.Json

variable {α β : Type}

/-- The value of a field of a record, which is an object or the array of its fields in order. -/
def field? (key : String) (place : Nat) : Json → Option Json
  | .object members => members.lookup key
  | .array items => items[place]?
  | _ => none

/-- The items of an array. Other values have none. -/
def items : Json → List Json
  | .array items => items
  | _ => []

/-! ### Lists -/

theorem mapM_eq_ok_iff {read : Reader α} : ∀ {vs : List Json} {as : List α},
    vs.mapM read = .ok as ↔ List.Forall₂ (fun v a => read v = .ok a) vs as
  | [], as => by
    rw [List.mapM_nil, List.forall₂_nil_left_iff]
    exact ⟨fun h => (Except.ok.inj h).symm, fun h => h ▸ rfl⟩
  | v :: vs, as => by
    rw [List.mapM_cons, bind_eq_ok_iff]
    constructor
    · rintro ⟨a, ha, h⟩
      obtain ⟨rest, hrest, hpure⟩ := bind_eq_ok_iff.mp h
      cases hpure
      exact .cons ha (mapM_eq_ok_iff.mp hrest)
    · intro h
      cases h with
      | cons ha hrest =>
        exact ⟨_, ha, bind_eq_ok_iff.mpr ⟨_, mapM_eq_ok_iff.mpr hrest, rfl⟩⟩

theorem exists_item_of_readList {read : Reader α} {v : Json} {as : List α} {a : α}
    (h : readList read v = .ok as) (ha : a ∈ as) : ∃ w ∈ v.items, read w = .ok a := by
  cases v with
  | array vs =>
    have hread : List.Forall₂ (fun v a => read v = .ok a) vs as := mapM_eq_ok_iff.mp h
    clear h
    induction hread with
    | nil => exact absurd ha List.not_mem_nil
    | cons hhead _ ih =>
      rcases List.mem_cons.mp ha with rfl | hrest
      · exact ⟨_, List.mem_cons_self, hhead⟩
      · obtain ⟨w, hw, hreadw⟩ := ih hrest
        exact ⟨w, List.mem_cons_of_mem _ hw, hreadw⟩
  | null | bool | number | text | object => cases h

theorem readList_map {read : Reader α} {write : α → Json} {as : List α}
    (h : ∀ a ∈ as, read (write a) = .ok a) : readList read (.array (as.map write)) = .ok as := by
  refine mapM_eq_ok_iff.mpr (List.forall₂_map_left_iff.mpr ?_)
  exact List.forall₂_same.mpr h

/-! ### Members and items -/

theorem exists_member_of_readMember {read : Reader α} {members : List (String × Json)}
    {key : String} {a : α} (h : readMember members key read = .ok (some a)) :
    ∃ w, members.lookup key = some w ∧ read w = .ok a := by
  rw [readMember] at h
  cases hw : members.lookup key with
  | none => rw [hw] at h; cases h
  | some w =>
    rw [hw] at h
    obtain ⟨a', ha', hsome⟩ := map_eq_ok_iff.mp h
    cases hsome
    exact ⟨w, rfl, ha'⟩

theorem readMember_of_lookup {read : Reader α} {members : List (String × Json)} {key : String}
    {v : Json} {a : α} (hv : members.lookup key = some v) (ha : read v = .ok a) :
    readMember members key read = .ok (some a) := by
  rw [readMember, hv]
  dsimp only
  rw [ha]
  rfl

theorem required_eq_ok_iff {key : String} {o : Option α} {a : α} :
    required key o = .ok a ↔ o = some a := by
  constructor
  · intro h
    cases o with
    | none => cases h
    | some b => exact congrArg some (Except.ok.inj h)
  · rintro rfl
    rfl

theorem exists_item_of_readItem {read : Reader α} {shape : String} {vs : List Json} {i : Nat}
    {a : α} (h : readItem shape vs i read = .ok a) : ∃ w, vs[i]? = some w ∧ read w = .ok a := by
  rw [readItem] at h
  cases hw : vs[i]? with
  | none => rw [hw] at h; cases h
  | some w =>
    rw [hw] at h
    exact ⟨w, rfl, h⟩

theorem readItemOr_eq_ok {read : Reader α} {default : α} {vs : List Json} {i : Nat} {a : α}
    (h : readItemOr default vs i read = .ok a) :
    a = default ∨ ∃ w, vs[i]? = some w ∧ read w = .ok a := by
  rw [readItemOr] at h
  cases hw : vs[i]? with
  | none =>
    rw [hw] at h
    exact Or.inl (Except.ok.inj h).symm
  | some w =>
    rw [hw] at h
    exact Or.inr ⟨w, rfl, h⟩

/-! ### Values that are read back -/

theorem readVariant_text {variants : List (String × α)} {name : String} {a : α}
    (h : variants.lookup name = some a) : readVariant variants (.text name) = .ok a := by
  rw [readVariant]
  dsimp only
  rw [h]

theorem lt_of_readSize {v : Json} {n : Nat} (h : readSize v = .ok n) : n < 2 ^ 64 := by
  cases v with
  | number number =>
    cases number with
    | integer m =>
      rw [readSize, readNat] at h
      split_ifs at h with hm
      cases h
      omega
    | real x => cases h
  | null | bool | text | array | object => cases h

theorem readSize_nat {n : Nat} (h : n < 2 ^ 64) : readSize (.nat n) = .ok n := by
  rw [readSize, nat, readNat, if_pos (by omega), Int.toNat_natCast]

theorem readList_texts (ss : List String) : readList readText (texts ss) = .ok ss :=
  readList_map fun _ _ => rfl

end Entitlement.Json
