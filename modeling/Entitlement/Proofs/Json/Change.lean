import Entitlement.Proofs.Json.Record

/-!
# Records with one part changed

A part of a record is reached through fields and through items of arrays. Readers look at each field
by itself, so they see a change only where they read the changed field, and there they see what the
changed part is read as.
-/

namespace Entitlement.Json

variable {α : Type} {read : Reader α} {f : Json → Json}

/-- The members with the first one of a key changed. -/
def changeMember (key : String) (f : Json → Json) : List (String × Json) → List (String × Json)
  | [] => []
  | (k, v) :: members =>
    if k = key then (k, f v) :: members else (k, v) :: changeMember key f members

/-- The record with one field changed. -/
def changeField (key : String) (place : Nat) (f : Json → Json) : Json → Json
  | .object members => .object (changeMember key f members)
  | .array items => .array (items.modify place f)
  | v => v

/-- The array with one item changed. -/
def changeItem (place : Nat) (f : Json → Json) : Json → Json
  | .array items => .array (items.modify place f)
  | v => v

/-! ### Members -/

section Members

variable {key k : String}

theorem lookup_changeMember (key k : String) (f : Json → Json) : ∀ members : List (String × Json),
    (changeMember key f members).lookup k =
      if k = key then (members.lookup k).map f else members.lookup k
  | [] => by simp [changeMember]
  | (l, v) :: members => by
    have ih := lookup_changeMember key k f members
    rcases eq_or_ne l key with rfl | hl
    · -- the first member is the changed one, and no other is
      rw [changeMember, if_pos rfl, List.lookup_cons, List.lookup_cons]
      cases hk : k == l <;> simp_all
    · rw [changeMember, if_neg hl, List.lookup_cons, List.lookup_cons, ih]
      cases hk : k == l <;> simp_all

theorem readMember_changeMember_of_ne {members : List (String × Json)} (h : k ≠ key) :
    readMember (changeMember key f members) k read = readMember members k read := by
  rw [readMember, readMember, lookup_changeMember, if_neg h]

theorem readMember_changeMember {members : List (String × Json)} {a b : α}
    (h : readMember members key read = .ok (some a))
    (hf : ∀ w, read w = .ok a → read (f w) = .ok b) :
    readMember (changeMember key f members) key read = .ok (some b) := by
  obtain ⟨w, hw, ha⟩ := exists_member_of_readMember h
  refine readMember_of_lookup ?_ (hf w ha)
  rw [lookup_changeMember, if_pos rfl, hw, Option.map_some]

end Members

/-! ### Items of records -/

section Items

variable {items : List Json} {i j : Nat} {a b : α}

theorem readItem_modify_of_ne {shape : String} (h : i ≠ j) :
    readItem shape (items.modify i f) j read = readItem shape items j read := by
  rw [readItem, readItem, List.getElem?_modify_ne _ _ h]

theorem readItemOr_modify_of_ne {default : α} (h : i ≠ j) :
    readItemOr default (items.modify i f) j read = readItemOr default items j read := by
  rw [readItemOr, readItemOr, List.getElem?_modify_ne _ _ h]

@[simp] theorem checkLength_modify (fields : Nat) :
    checkLength (items.modify i f) fields = checkLength items fields := by
  rw [checkLength, checkLength, List.length_modify]

theorem getElem?_modify_of_read {w : Json} (hw : items[i]? = some w) :
    (items.modify i f)[i]? = some (f w) := by
  rw [List.getElem?_modify_eq, hw]
  rfl

theorem readItem_modify {shape : String} (h : readItem shape items i read = .ok a)
    (hf : ∀ w, read w = .ok a → read (f w) = .ok b) :
    readItem shape (items.modify i f) i read = .ok b := by
  obtain ⟨w, hw, ha⟩ := exists_item_of_readItem h
  rw [readItem, getElem?_modify_of_read hw]
  exact hf w ha

/-- The item has to be there: a default does not change. -/
theorem readItemOr_modify {default : α} (h : readItemOr default items i read = .ok a)
    (hne : a ≠ default) (hf : ∀ w, read w = .ok a → read (f w) = .ok b) :
    readItemOr default (items.modify i f) i read = .ok b := by
  obtain ⟨w, hw, ha⟩ := (readItemOr_eq_ok h).resolve_left hne
  rw [readItemOr, getElem?_modify_of_read hw]
  exact hf w ha

end Items

/-! ### Items of lists -/

theorem forall₂_modify {β : Type} {R : Json → β → Prop} {φ : β → β} {vs : List Json} {bs : List β}
    (h : List.Forall₂ R vs bs) : ∀ {i : Nat} {b : β}, bs[i]? = some b →
      (∀ w, R w b → R (f w) (φ b)) → List.Forall₂ R (vs.modify i f) (bs.modify i φ) := by
  induction h with
  | nil => intro i b hb; cases hb
  | cons hhead htail ih =>
    rintro (_ | i) b hb hf
    · obtain rfl : _ = b := by simpa using hb
      simpa using ⟨hf _ hhead, htail⟩
    · simpa using ⟨hhead, ih (by simpa using hb) hf⟩

theorem readList_changeItem {v : Json} {as : List α} {i : Nat} {a : α} {φ : α → α}
    (h : readList read v = .ok as) (ha : as[i]? = some a)
    (hf : ∀ w, read w = .ok a → read (f w) = .ok (φ a)) :
    readList read (changeItem i f v) = .ok (as.modify i φ) := by
  cases v with
  | array vs => exact mapM_eq_ok_iff.mpr (forall₂_modify (mapM_eq_ok_iff.mp h) ha hf)
  | null | bool | number | text | object => cases h

end Entitlement.Json
