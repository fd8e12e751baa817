import Entitlement.Store
import Entitlement.Proofs.Text.Bytes
import Mathlib.Data.List.Nodup

/-!
# What the stores hold

The profiles of a store ascend strictly by id, so an id names one of them. Updating the scheme
store brings in no scheme but the given one.
-/

namespace Entitlement

theorem unlessOut_eq_ok {α : Type} {outage : Option StoreError} {answer : Except StoreError α}
    {a : α} (h : unlessOut outage answer = .ok a) : answer = .ok a := by
  cases outage with
  | none => exact h
  | some e => cases h

/-! ### Profiles -/

namespace ProfileStore

/-- Holds of profiles that ascend strictly by id. -/
def Ascending (records : List Profile) : Prop :=
  records.Pairwise fun p q => p.id < q.id

variable {p q : Profile} {records : List Profile}

theorem eq_or_mem_of_mem_insert (h : q ∈ insert p records) : q = p ∨ q ∈ records := by
  induction records with
  | nil => exact Or.inl (List.mem_singleton.mp h)
  | cons r rest ih =>
    rw [insert] at h
    split_ifs at h with hlt heq
    · exact List.mem_cons.mp h
    · rcases List.mem_cons.mp h with hq | hq
      · exact Or.inl hq
      · exact Or.inr (List.mem_cons_of_mem r hq)
    · rcases List.mem_cons.mp h with rfl | hq
      · exact Or.inr List.mem_cons_self
      · rcases ih hq with rfl | hrest
        · exact Or.inl rfl
        · exact Or.inr (List.mem_cons_of_mem r hrest)

theorem Ascending.insert (p : Profile) (h : Ascending records) :
    Ascending (insert p records) := by
  induction records with
  | nil => exact List.pairwise_singleton _ _
  | cons r rest ih =>
    obtain ⟨hr, hrest⟩ := List.pairwise_cons.mp h
    rw [ProfileStore.insert]
    split_ifs with hlt heq
    -- in front of the first one
    · refine List.pairwise_cons.mpr ⟨?_, h⟩
      intro q hq
      rcases List.mem_cons.mp hq with rfl | hq
      · exact hlt
      · exact String.lt_trans hlt (hr q hq)
    -- in the place of the first one
    · refine List.pairwise_cons.mpr ⟨?_, hrest⟩
      intro q hq
      rw [heq]
      exact hr q hq
    -- somewhere behind the first one
    · refine List.pairwise_cons.mpr ⟨?_, ih hrest⟩
      intro q hq
      rcases eq_or_mem_of_mem_insert hq with rfl | hq
      · exact Text.lt_of_not_lt_of_ne hlt heq
      · exact hr q hq

theorem ascending_foldl_insert (profiles : List Profile) (h : Ascending records) :
    Ascending (profiles.foldl (fun records p => insert p records) records) := by
  induction profiles generalizing records with
  | nil => exact h
  | cons p profiles ih =>
    rw [List.foldl_cons]
    exact ih (h.insert p)

theorem ofList_ascending (profiles : List Profile) : Ascending (ofList profiles).records :=
  ascending_foldl_insert profiles List.Pairwise.nil

theorem Ascending.nodup_ids (h : Ascending records) : (records.map (·.id)).Nodup := by
  rw [List.Nodup, List.pairwise_map]
  refine List.Pairwise.imp ?_ h
  intro p q hlt heq
  rw [heq] at hlt
  exact String.lt_irrefl _ hlt

/-- An id names one profile. -/
theorem Ascending.eq_of_id_eq (h : Ascending records) (hp : p ∈ records) (hq : q ∈ records)
    (hid : p.id = q.id) : p = q :=
  List.inj_on_of_nodup_map h.nodup_ids hp hq hid

theorem all_eq_ok {s : ProfileStore} (h : s.all = .ok records) : records = s.records := by
  cases unlessOut_eq_ok h
  rfl

end ProfileStore

/-! ### Schemes -/

namespace SchemeStore

variable {scheme t : Scheme}

theorem eq_or_mem_of_replace? : ∀ {records replaced : List Scheme},
    replace? scheme records = some replaced → t ∈ replaced → t = scheme ∨ t ∈ records
  | [], _, h, _ => by cases h
  | s :: rest, replaced, h, ht => by
    rw [replace?] at h
    split_ifs at h with hid
    · cases h
      rcases List.mem_cons.mp ht with ht | ht
      · exact Or.inl ht
      · exact Or.inr (List.mem_cons_of_mem s ht)
    · obtain ⟨tail, htail, rfl⟩ := Option.map_eq_some_iff.mp h
      rcases List.mem_cons.mp ht with rfl | ht
      · exact Or.inr List.mem_cons_self
      · exact (eq_or_mem_of_replace? htail ht).imp_right (List.mem_cons_of_mem s)

/-- The schemes after an update are the given one and some from before. -/
theorem eq_or_mem_of_update {s s' : SchemeStore} (h : s.update scheme = .ok s')
    (ht : t ∈ s'.records) : t = scheme ∨ t ∈ s.records := by
  have hanswer := unlessOut_eq_ok h
  cases hreplaced : replace? scheme s.records with
  | none => rw [hreplaced] at hanswer; cases hanswer
  | some replaced =>
    rw [hreplaced] at hanswer
    cases hanswer
    exact eq_or_mem_of_replace? hreplaced ht

/-! ### Changing one scheme -/

/-- Changes the first scheme with the given id. -/
def amend (f : Scheme → Scheme) (id : String) : List Scheme → List Scheme
  | [] => []
  | t :: rest => if t.id = id then f t :: rest else t :: amend f id rest

variable {f : Scheme → Scheme} {id : String}

theorem amend_append : ∀ {before after : List Scheme}, (∀ u ∈ before, u.id ≠ id) → t.id = id →
    amend f id (before ++ t :: after) = before ++ f t :: after
  | [], after, _, ht => by rw [List.nil_append, amend, if_pos ht, List.nil_append]
  | u :: before, after, hbefore, ht => by
    obtain ⟨hu, hbefore⟩ := List.forall_mem_cons.mp hbefore
    rw [List.cons_append, amend, if_neg hu, amend_append hbefore ht, List.cons_append]

/-- The scheme that is found is the one that is changed. -/
theorem exists_append_of_find? {records : List Scheme}
    (h : records.find? (·.id = id) = some t) :
    ∃ before after, records = before ++ t :: after ∧ t.id = id ∧ (∀ u ∈ before, u.id ≠ id) ∧
      amend f id records = before ++ f t :: after := by
  obtain ⟨ht, before, after, rfl, hbefore⟩ := List.find?_eq_some_iff_append.mp h
  have ht : t.id = id := of_decide_eq_true ht
  have hbefore : ∀ u ∈ before, u.id ≠ id := fun u hu => by simpa using hbefore u hu
  exact ⟨before, after, rfl, ht, hbefore, amend_append hbefore ht⟩

/-- Putting the changed scheme back changes the scheme that it was made from. -/
theorem replace?_eq_amend : ∀ {records : List Scheme},
    records.find? (·.id = id) = some t → (f t).id = id →
      replace? (f t) records = some (amend f id records)
  | [], h, _ => by cases h
  | u :: rest, h, hft => by
    rw [List.find?_cons] at h
    rw [replace?, amend, hft]
    split_ifs with hu
    · rw [decide_eq_true hu] at h
      cases h
      rfl
    · rw [decide_eq_false hu] at h
      rw [replace?_eq_amend h hft, Option.map_some]

theorem map_amend {α : Type} {g : Scheme → α} (hg : ∀ t, g (f t) = g t) :
    ∀ records : List Scheme, (amend f id records).map g = records.map g
  | [] => rfl
  | u :: rest => by
    rw [amend]
    split_ifs with hu
    · rw [List.map_cons, List.map_cons, hg]
    · rw [List.map_cons, List.map_cons, map_amend hg rest]

/-- Changes that leave the ids alone may come in either order. -/
theorem amend_comm (hid : ∀ t, (f t).id = t.id) (a b : String) : ∀ records : List Scheme,
    amend f a (amend f b records) = amend f b (amend f a records)
  | [] => rfl
  | u :: rest => by
    by_cases hab : a = b
    · rw [hab]
    · by_cases hua : u.id = a
      · simp [amend, hid, hua, hab]
      · by_cases hub : u.id = b
        · simp [amend, hid, hub, Ne.symm hab]
        · simp [amend, hua, hub, amend_comm hid a b rest]

/-- A change that does nothing the second time may be made twice. -/
theorem amend_amend (hid : ∀ t, (f t).id = t.id) (hf : ∀ t, f (f t) = f t) (id : String) :
    ∀ records : List Scheme, amend f id (amend f id records) = amend f id records
  | [] => rfl
  | u :: rest => by
    by_cases hu : u.id = id
    · simp [amend, hid, hu, hf]
    · simp [amend, hu, amend_amend hid hf id rest]

end SchemeStore

end Entitlement
