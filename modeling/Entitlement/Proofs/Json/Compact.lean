import Entitlement.Json.Outline
import Entitlement.Proofs.Json.Token
import Entitlement.Proofs.Text.Bytes
import Mathlib.Data.List.Induction

/-!
# Compact text read back

A value on one line is split into its tokens, the tokens have its outline, and the outline has the
value. Three things can stand against it: an integer that is too long becomes a real, a real is not
always read as the one nearest to its text, and the members of an object are put in order. What has
none of these is read back from its text as it is, if it is not nested too deep.
-/

namespace Entitlement.Json

/-- Holds of a value that is given exactly by its text: its numbers are whole and fit 64 bits, the
members of its objects ascend by their keys, and at most `depth` arrays and objects are nested. -/
inductive Exact : Nat → Json → Prop where
  | null {depth : Nat} : Exact depth .null
  | bool {depth : Nat} (b : Bool) : Exact depth (.bool b)
  | integer {depth : Nat} {n : Int} (low : -2 ^ 63 ≤ n) (high : n < 2 ^ 64) :
      Exact depth (.number (.integer n))
  | text {depth : Nat} (s : String) : Exact depth (.text s)
  | array {depth : Nat} {items : List Json} (values : ∀ item ∈ items, Exact depth item) :
      Exact (depth + 1) (.array items)
  | object {depth : Nat} {members : List (String × Json)}
      (ascending : members.Pairwise fun m m' => m.1 < m'.1)
      (values : ∀ m ∈ members, Exact depth m.2) : Exact (depth + 1) (.object members)

/-! ### Members in order -/

theorem insertMember_last {key : String} {value : Json} {members : List (String × Json)}
    (h : ∀ m ∈ members, m.1 < key) :
    insertMember key value members = members ++ [(key, value)] := by
  induction members with
  | nil => rfl
  | cons m members ih =>
    rw [List.forall_mem_cons] at h
    have hne : key ≠ m.1 := fun heq => String.lt_irrefl key (heq ▸ h.1)
    rw [insertMember, if_neg (String.lt_asymm h.1), if_neg hne, ih h.2, List.cons_append]

theorem sortMembers_of_ascending {members : List (String × Json)}
    (h : members.Pairwise fun m m' => m.1 < m'.1) : sortMembers members = members := by
  induction members using List.reverseRecOn with
  | nil => rfl
  | append_singleton members m ih =>
    rw [List.pairwise_append] at h
    have hlast : ∀ m' ∈ members, m'.1 < m.1 := fun m' hm' => h.2.2 m' hm' m (by simp)
    have hinit : sortMembers members = members := ih h.1
    rw [sortMembers] at hinit ⊢
    rw [List.foldl_append, hinit]
    exact insertMember_last hlast

/-! ### Outlines of tokens -/

/-- Holds of tokens that have the given outline, whatever follows them. Each is passed in at most
two steps. -/
def Outlines (ts : List Token) (o : Outline) : Prop :=
  ∀ (fuel : Nat) (rest : List Token), 2 * ts.length ≤ fuel → outline fuel (ts ++ rest) = (o, rest)

/-- No value starts with a closing bracket. -/
theorem Outlines.exists_cons {ts : List Token} {o : Outline} (h : Outlines ts o) :
    ∃ t rest, ts = t :: rest ∧ t ≠ .closeBracket := by
  cases ts with
  | nil =>
    -- a comma alone has no value, and the fault leaves nothing behind it
    have hcomma := congrArg Prod.snd (h 1 [.comma] (by decide))
    cases hcomma
  | cons t rest =>
    refine ⟨t, rest, rfl, ?_⟩
    rintro rfl
    have hcomma := congrArg Prod.snd (h (2 * (rest.length + 1)) [.comma] (Nat.le_refl _))
    cases hcomma

/-- Holds of tokens that have the given outlines of items up to a closing bracket. -/
def OutlinesItems (ts : List Token) (os : List Outline) : Prop :=
  ∀ (fuel : Nat) (rest : List Token), 2 * ts.length + 1 ≤ fuel →
    outlineItems fuel (ts ++ .closeBracket :: rest) = (os, none, rest)

theorem Outlines.singleton {ts : List Token} {o : Outline} (h : Outlines ts o) :
    OutlinesItems ts [o] := by
  rintro (_ | fuel) rest hfuel
  · omega
  · rw [outlineItems, h fuel _ (by omega)]

theorem Outlines.cons {ts us : List Token} {o : Outline} {os : List Outline} (h : Outlines ts o)
    (hs : OutlinesItems us os) : OutlinesItems (ts ++ .comma :: us) (o :: os) := by
  rintro (_ | fuel) rest hfuel
  · omega
  · rw [List.length_append, List.length_cons] at hfuel
    rw [List.append_assoc, List.cons_append, outlineItems, h fuel _ (by omega)]
    dsimp only
    rw [hs fuel rest (by omega)]

theorem OutlinesItems.array {ts : List Token} {t : Token} {os : List Outline}
    (h : OutlinesItems (t :: ts) os) (ht : t ≠ .closeBracket) :
    Outlines (.openBracket :: (t :: ts ++ [.closeBracket])) (.array os none) := by
  rintro (_ | fuel) rest hfuel
  · simp at hfuel
  · rw [List.length_cons, List.length_append, List.length_singleton] at hfuel
    have hitems := h fuel rest (by omega)
    rw [List.cons_append, List.append_assoc, List.singleton_append, outline.eq_def]
    dsimp only [List.cons_append] at hitems ⊢
    split
    · rename_i heq
      exact absurd (List.cons.inj heq).1 ht
    · rw [hitems]

/-- Holds of tokens that have the given outlines of members up to a closing brace. -/
def OutlinesMembers (ts : List Token) (ms : List (Except Fault String × Outline)) : Prop :=
  ∀ (fuel : Nat) (rest : List Token), 2 * ts.length + 1 ≤ fuel →
    outlineMembers fuel (ts ++ .closeBrace :: rest) = (ms, none, rest)

theorem Outlines.singletonMember {key : String} {ts : List Token} {o : Outline}
    (h : Outlines ts o) :
    OutlinesMembers (.string (.ok key) none :: .colon :: ts) [(.ok key, o)] := by
  rintro (_ | fuel) rest hfuel
  · omega
  · rw [List.length_cons, List.length_cons] at hfuel
    rw [List.cons_append, List.cons_append, outlineMembers, h fuel _ (by omega)]

theorem Outlines.consMember {key : String} {ts us : List Token} {o : Outline}
    {ms : List (Except Fault String × Outline)} (h : Outlines ts o) (hs : OutlinesMembers us ms) :
    OutlinesMembers (.string (.ok key) none :: .colon :: (ts ++ .comma :: us))
      ((.ok key, o) :: ms) := by
  rintro (_ | fuel) rest hfuel
  · omega
  · simp only [List.length_cons, List.length_append] at hfuel
    rw [List.cons_append, List.cons_append, List.append_assoc, List.cons_append, outlineMembers,
      h fuel _ (by omega)]
    dsimp only
    rw [hs fuel rest (by omega)]

theorem OutlinesMembers.object {key : Except Fault String} {ts : List Token}
    {ms : List (Except Fault String × Outline)} (h : OutlinesMembers (.string key none :: ts) ms) :
    Outlines (.openBrace :: (.string key none :: ts ++ [.closeBrace])) (.object ms none) := by
  rintro (_ | fuel) rest hfuel
  · simp at hfuel
  · rw [List.length_cons, List.length_append, List.length_singleton] at hfuel
    have hmembers := h fuel rest (by omega)
    rw [List.cons_append, List.append_assoc, List.singleton_append, outline.eq_def]
    dsimp only [List.cons_append] at hmembers ⊢
    rw [hmembers]

/-! ### Values of texts -/

/-- Holds of a row of characters that is read as the given value, wherever a value may stand within
arrays and objects that leave `depth` more to be nested. -/
def ReadAs (depth : Nat) (cs : List Char) (v : Json) : Prop :=
  ∃ ts o, Spells cs ts ∧ Outlines ts o ∧ o.value depth = .ok v

/-- A token that is a value by itself. -/
theorem readAs_token {depth : Nat} {cs : List Char} {t : Token} {o : Outline} {v : Json}
    (hs : Spells cs [t]) (ho : ∀ fuel rest, outline (fuel + 1) (t :: rest) = (o, rest))
    (hv : o.value depth = .ok v) : ReadAs depth cs v := by
  refine ⟨[t], o, hs, ?_, hv⟩
  rintro (_ | fuel) rest hfuel
  · simp at hfuel
  · exact ho fuel rest

theorem readAs_null (depth : Nat) : ReadAs depth (compactChars .null) .null :=
  readAs_token (spells_token rfl fun _ _ => rfl) (fun _ _ => rfl) rfl

theorem readAs_bool (depth : Nat) (b : Bool) : ReadAs depth (compactChars (.bool b)) (.bool b) := by
  cases b with
  | true => exact readAs_token (spells_token rfl fun _ _ => rfl) (fun _ _ => rfl) rfl
  | false => exact readAs_token (spells_token rfl fun _ _ => rfl) (fun _ _ => rfl) rfl

/-- The items of an array, with commas between them. The first token is named because it must not
be the bracket that would close an empty array. -/
theorem exists_outlines_items {depth : Nat} : ∀ {items : List Json}, items ≠ [] →
    (∀ item ∈ items, ReadAs depth item.compactChars item) →
    ∃ t ts os, Spells (compactItems items) (t :: ts) ∧ t ≠ .closeBracket ∧
      OutlinesItems (t :: ts) os ∧ valuesOf depth os = .ok items
  | [], h, _ => absurd rfl h
  | [item], _, h => by
    obtain ⟨ts, o, hs, ho, hv⟩ := h item (by simp)
    obtain ⟨t, ts, rfl, ht⟩ := ho.exists_cons
    refine ⟨t, ts, [o], by rwa [compactItems], ht, ho.singleton, ?_⟩
    simp only [valuesOf, hv]
    rfl
  | item :: next :: items, _, h => by
    rw [List.forall_mem_cons] at h
    obtain ⟨ts, o, hs, ho, hv⟩ := h.1
    obtain ⟨u, us, os, hsi, -, hoi, hvi⟩ := exists_outlines_items (List.cons_ne_nil next items) h.2
    have hcomma (rest : List Text.Symbol) :
        Ends (symbols (',' :: compactItems (next :: items)) ++ rest) := ends_cons (Or.inl rfl) _
    have hspells := hs.append hcomma (hsi.cons rfl fun _ => rfl)
    have houtlines := ho.cons hoi
    obtain ⟨t, ts, rfl, ht⟩ := ho.exists_cons
    refine ⟨t, ts ++ .comma :: u :: us, o :: os, ?_, ht, houtlines, ?_⟩
    · rw [compactItems]
      · exact hspells
      · exact fun h => by cases h
    · simp only [valuesOf, hv, hvi]
      rfl

theorem Spells.member {cs : List Char} {ts : List Token} (key : String) (hs : Spells cs ts) :
    Spells (writtenText key ++ ':' :: cs) (.string (.ok key) none :: .colon :: ts) :=
  (hs.cons rfl fun _ => rfl).text_append key

/-- The members of an object, with commas between them. -/
theorem exists_outlines_members {depth : Nat} : ∀ {members : List (String × Json)}, members ≠ [] →
    (∀ m ∈ members, ReadAs depth m.2.compactChars m.2) →
    ∃ key ts ms, Spells (compactMembers members) (.string key none :: ts) ∧
      OutlinesMembers (.string key none :: ts) ms ∧ membersOf depth ms = .ok members
  | [], h, _ => absurd rfl h
  | [(key, value)], _, h => by
    obtain ⟨ts, o, hs, ho, hv⟩ := h (key, value) (by simp)
    refine ⟨.ok key, .colon :: ts, [(.ok key, o)], ?_, ho.singletonMember, ?_⟩
    · rw [compactMembers]
      exact hs.member key
    · simp only [membersOf, hv]
      rfl
  | (key, value) :: next :: members, _, h => by
    rw [List.forall_mem_cons] at h
    obtain ⟨ts, o, hs, ho, hv⟩ := h.1
    obtain ⟨_, us, ms, hsm, hom, hvm⟩ :=
      exists_outlines_members (List.cons_ne_nil next members) h.2
    have hcomma (rest : List Text.Symbol) :
        Ends (symbols (',' :: compactMembers (next :: members)) ++ rest) := ends_cons (Or.inl rfl) _
    refine ⟨.ok key, _, (.ok key, o) :: ms, ?_, ho.consMember hom, ?_⟩
    · rw [compactMembers]
      · exact (hs.member key).append hcomma (hsm.cons rfl fun _ => rfl)
      · exact fun h => by cases h
    · simp only [membersOf, hv, hvm]
      rfl

theorem spells_closed {cs : List Char} {ts : List Token} {c : Char} {t : Token} (hs : Spells cs ts)
    (hc : c = ',' ∨ c = ']' ∨ c = '}') (hgap : isGap (.char c) = false)
    (h : ∀ rest, tokenFrom (.char c) rest = (t, rest)) : Spells (cs ++ [c]) (ts ++ [t]) :=
  hs.append (fun rest => ends_cons hc rest) (spells_nil.cons hgap h)

theorem readAs_array {depth : Nat} {items : List Json}
    (h : ∀ item ∈ items, ReadAs depth item.compactChars item) :
    ReadAs (depth + 1) (compactChars (.array items)) (.array items) := by
  rw [compactChars]
  rcases eq_or_ne items [] with rfl | hne
  · refine ⟨[.openBracket, .closeBracket], .array [] none, ?_, ?_, rfl⟩
    · exact (spells_nil.cons (c := ']') rfl fun _ => rfl).cons rfl fun _ => rfl
    · rintro (_ | fuel) rest hfuel
      · simp at hfuel
      · rfl
  · obtain ⟨t, ts, os, hs, ht, hos, hv⟩ := exists_outlines_items hne h
    refine ⟨_, _, ?_, hos.array ht, ?_⟩
    · exact (spells_closed hs (by simp) rfl fun _ => rfl).cons rfl fun _ => rfl
    · simp only [Outline.value, hv]
      rfl

theorem readAs_object {depth : Nat} {members : List (String × Json)}
    (hascending : members.Pairwise fun m m' => m.1 < m'.1)
    (h : ∀ m ∈ members, ReadAs depth m.2.compactChars m.2) :
    ReadAs (depth + 1) (compactChars (.object members)) (.object members) := by
  rw [compactChars]
  rcases eq_or_ne members [] with rfl | hne
  · refine ⟨[.openBrace, .closeBrace], .object [] none, ?_, ?_, rfl⟩
    · exact (spells_nil.cons (c := '}') rfl fun _ => rfl).cons rfl fun _ => rfl
    · rintro (_ | fuel) rest hfuel
      · simp at hfuel
      · rfl
  · obtain ⟨key, ts, ms, hs, hms, hv⟩ := exists_outlines_members hne h
    refine ⟨_, _, ?_, hms.object, ?_⟩
    · exact (spells_closed hs (by simp) rfl fun _ => rfl).cons rfl fun _ => rfl
    · simp only [Outline.value, hv, bind, Except.bind, sortMembers_of_ascending hascending]
      rfl

/-- A value that is given exactly by its text is read from it within any others, and no deeper than
it is nested. -/
theorem Exact.readAs {depth : Nat} {v : Json} (h : Exact depth v) :
    ReadAs depth v.compactChars v := by
  induction h with
  | null => exact readAs_null _
  | bool b => exact readAs_bool _ b
  | integer low high =>
    rw [compactChars]
    exact readAs_token (spells_integer low high) (fun _ _ => rfl) rfl
  | text s =>
    have hspells : Spells (compactChars (.text s)) [.string (.ok s) none] := by
      simpa [compactChars] using spells_nil.text_append s
    exact readAs_token hspells (fun _ _ => rfl) rfl
  | array _ ih => exact readAs_array ih
  | object ascending _ ih => exact readAs_object ascending ih

/-- A row of characters is split into its tokens when nothing follows it. -/
theorem Spells.tokens {cs : List Char} {ts : List Token} (h : Spells cs ts) :
    Json.tokens (symbols cs) = ts := by
  have hsteps : (symbols cs).length = ts.length + (cs.length - ts.length) := by
    rw [List.length_map, Nat.add_sub_of_le h.length_le]
  have hend (steps : Nat) : tokensWithin steps [] = [] := by cases steps <;> rfl
  have hall := h.tokens_eq (cs.length - ts.length) [] (fun _ hs => nomatch hs)
  rw [List.append_nil, hend, List.append_nil] at hall
  rw [Json.tokens, hsteps, hall]

/-- What is given exactly by its text is read back from it. -/
theorem parse_compact {v : Json} (h : Exact maxDepth v) : parse v.compact = .ok v := by
  obtain ⟨ts, o, hs, ho, hv⟩ := h.readAs
  have houtline : outlineOf (symbols v.compactChars) = (o, []) := by
    rw [outlineOf, hs.tokens]
    have hwhole := ho (2 * ts.length + 2) [] (Nat.le_add_right _ _)
    rwa [List.append_nil] at hwhole
  rw [parse, compact, Text.symbolsOfText, String.toList_ofList, parseSymbols, houtline]
  simp only [bind, Except.bind, hv]
  rfl

/-- The bytes of a text spell what the text spells. -/
theorem parseBytes_bytes (s : String) : parseBytes (Text.bytes s) = parse s := by
  rw [parseBytes, parse, Text.symbolsOfBytes_bytes]

end Entitlement.Json
