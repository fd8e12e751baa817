import Entitlement.Text.Lower
import Mathlib.Data.List.Infix
import Mathlib.Data.List.TakeWhile

/-!
# Capital sigmas in a part of a text

A part of a text has the same lower case by itself as in the whole text, but for its capital sigmas.
Whether a sigma is final is decided by the nearest character on either side that is not passed over,
and that may lie outside the part. Texts that decide about all their sigmas keep their lower case
wherever they stand, and they are the only ones that are found in the lower case of every text they
are part of.
-/

namespace Entitlement.Text

variable {before after part front back cs : List Char}

/-! ### What a sigma depends on -/

/-- The nearest character that is not passed over when looking for a cased letter. -/
def neighbour? (cs : List Char) : Option Char :=
  cs.find? fun c => !isCaseIgnorable c

/-- Holds of a capital sigma that ends a word. The text in front of it is reversed. -/
def isFinal (before after : List Char) : Bool :=
  meetsCased before && !meetsCased after

theorem meetsCased_eq (cs : List Char) : meetsCased cs = (neighbour? cs).any isCased := by
  rw [meetsCased, neighbour?, List.find?_not_eq_head?_dropWhile]
  cases cs.dropWhile isCaseIgnorable <;> rfl

theorem neighbour?_append (cs ds : List Char) :
    neighbour? (cs ++ ds) = (neighbour? cs).or (neighbour? ds) :=
  List.find?_append

/-- A sigma is no character that is passed over. -/
theorem neighbour?_sigma (cs : List Char) : neighbour? ('Σ' :: cs) = some 'Σ' :=
  List.find?_cons_of_pos (by decide +kernel)

theorem meetsCased_append (h : (neighbour? cs).isSome = true) (ds : List Char) :
    meetsCased (cs ++ ds) = meetsCased cs := by
  obtain ⟨c, hc⟩ := Option.isSome_iff_exists.mp h
  rw [meetsCased_eq, meetsCased_eq, neighbour?_append, hc, Option.some_or]

theorem meetsCased_append_of_none (h : neighbour? cs = none) (ds : List Char) :
    meetsCased (cs ++ ds) = meetsCased ds := by
  rw [meetsCased_eq, meetsCased_eq, neighbour?_append, h, Option.none_or]

/-! ### Lower case in place -/

/-- The lower case of a part of a text that stands between `before`, which is reversed, and
`after`. -/
def lowerPart (before : List Char) : List Char → List Char → List Char
  | [], _ => []
  | c :: rest, after =>
    (if c = 'Σ' then [if isFinal before (rest ++ after) then 'ς' else 'σ'] else lowerChar c) ++
      lowerPart (c :: before) rest after

theorem lowerAfter_append (before part after : List Char) :
    lowerAfter before (part ++ after) =
      lowerPart before part after ++ lowerAfter (part.reverse ++ before) after := by
  induction part generalizing before with
  | nil => rfl
  | cons c rest ih =>
    rw [List.cons_append, lowerAfter, lowerPart, ih, List.append_assoc, List.reverse_cons,
      List.append_assoc, List.singleton_append]
    rfl

theorem lowerPart_nil (before part : List Char) :
    lowerPart before part [] = lowerAfter before part := by
  have h := lowerAfter_append before part []
  rw [List.append_nil, lowerAfter, List.append_nil] at h
  exact h.symm

theorem lowerPart_append (before cs ds after : List Char) :
    lowerPart before (cs ++ ds) after =
      lowerPart before cs (ds ++ after) ++ lowerPart (cs.reverse ++ before) ds after := by
  induction cs generalizing before with
  | nil => rfl
  | cons c rest ih =>
    rw [List.cons_append, lowerPart, lowerPart, ih, List.append_assoc, List.append_assoc,
      List.reverse_cons, List.append_assoc, List.singleton_append]

/-- The texts around a part count by their nearest characters only. -/
theorem lowerPart_congr {before' after' : List Char} (hbefore : neighbour? before = neighbour? before')
    (hafter : neighbour? after = neighbour? after') :
    lowerPart before part after = lowerPart before' part after' := by
  induction part generalizing before before' with
  | nil => rfl
  | cons c rest ih =>
    have hrest : neighbour? (rest ++ after) = neighbour? (rest ++ after') := by
      rw [neighbour?_append, neighbour?_append, hafter]
    have hnext : neighbour? (c :: before) = neighbour? (c :: before') := by
      rw [← List.singleton_append, ← List.singleton_append (l := before'), neighbour?_append,
        neighbour?_append, hbefore]
    have hfinal : isFinal before (rest ++ after) = isFinal before' (rest ++ after') := by
      rw [isFinal, isFinal, meetsCased_eq, meetsCased_eq, meetsCased_eq, meetsCased_eq, hbefore,
        hrest]
    rw [lowerPart, lowerPart, hfinal, ih hnext]

theorem lowerPart_of_no_sigma (h : 'Σ' ∉ part) (before after : List Char) :
    lowerPart before part after = part.flatMap lowerChar := by
  induction part generalizing before with
  | nil => rfl
  | cons c rest ih =>
    have hc : c ≠ 'Σ' := fun hc => h (hc ▸ List.mem_cons_self)
    rw [lowerPart, if_neg hc, ih fun hmem => h (List.mem_cons_of_mem c hmem), List.flatMap_cons]

/-- What surrounds a part with a sigma in it does not reach past that sigma. -/
theorem lowerPart_around_sigma (before front back after : List Char) :
    lowerPart before (front ++ 'Σ' :: back) after =
      lowerPart before front ['Σ'] ++
        (if isFinal (front.reverse ++ before) (back ++ after) then 'ς' else 'σ') ::
          lowerPart ['Σ'] back after := by
  have hfront : neighbour? ('Σ' :: back ++ after) = neighbour? ['Σ'] := by
    rw [List.cons_append, neighbour?_sigma, neighbour?_sigma]
  have hback : neighbour? ('Σ' :: (front.reverse ++ before)) = neighbour? ['Σ'] := by
    rw [neighbour?_sigma, neighbour?_sigma]
  rw [lowerPart_append, lowerPart, if_pos rfl, lowerPart_congr rfl hfront,
    lowerPart_congr hback rfl, List.singleton_append]

/-! ### Parts that keep their lower case -/

/-- Holds of a part whose sigmas are final in place just if they are in the part by itself. -/
def KeepsSigmas (before part after : List Char) : Prop :=
  ∀ front back, part = front ++ 'Σ' :: back →
    isFinal (front.reverse ++ before) (back ++ after) = isFinal front.reverse back

/-- The part is taken apart from its front on, and the piece taken off is `front`, reversed. -/
theorem lowerPart_eq_lowerAfter (front : List Char) (h : ∀ cs back, part = cs ++ 'Σ' :: back →
      isFinal (cs.reverse ++ (front ++ before)) (back ++ after) =
        isFinal (cs.reverse ++ front) back) :
    lowerPart (front ++ before) part after = lowerAfter front part := by
  induction part generalizing front with
  | nil => rfl
  | cons c rest ih =>
    have hrest : lowerPart (c :: front ++ before) rest after = lowerAfter (c :: front) rest := by
      refine ih (c :: front) fun cs back hsplit => ?_
      have hkeep := h (c :: cs) back (by rw [hsplit, List.cons_append])
      rwa [List.reverse_cons, List.append_assoc, List.append_assoc] at hkeep
    rw [lowerPart, lowerAfter, ← List.cons_append, hrest]
    by_cases hc : c = 'Σ'
    · have hkeep : isFinal (front ++ before) (rest ++ after) = isFinal front rest :=
        h [] rest (by rw [hc, List.nil_append])
      rw [hkeep, isFinal]
    · rw [if_neg hc, if_neg hc]

theorem KeepsSigmas.lowerPart_eq (h : KeepsSigmas before part after) :
    lowerPart before part after = lower part := by
  refine lowerPart_eq_lowerAfter [] fun cs back hsplit => ?_
  rw [List.nil_append, List.append_nil]
  exact h cs back hsplit

theorem lower_append (front part back : List Char) :
    lower (front ++ part ++ back) =
      lowerPart [] front (part ++ back) ++ lowerPart front.reverse part back ++
        lowerAfter (part.reverse ++ front.reverse) back := by
  rw [lower, List.append_assoc, lowerAfter_append, lowerAfter_append, List.append_nil,
    List.append_assoc]

theorem KeepsSigmas.lower_isInfix (h : KeepsSigmas front.reverse part back) :
    lower part <:+: lower (front ++ part ++ back) := by
  rw [lower_append, h.lowerPart_eq]
  exact List.infix_append _ _ _

/-- Holds of a capital sigma for which the two texts beside it, the first reversed, decide whether
it is final, whatever stands around them: a cased letter comes next, or a character comes before it
that is no cased letter or that some character follows behind the sigma. -/
def Decides (before after : List Char) : Prop :=
  meetsCased after = true ∨
    (neighbour? before).isSome = true ∧
      (meetsCased before = true → (neighbour? after).isSome = true)

/-- Holds of a text that decides of each of its capital sigmas whether it is final. -/
def IsSteady (cs : List Char) : Prop :=
  ∀ front back, cs = front ++ 'Σ' :: back → Decides front.reverse back

theorem isSome_of_meetsCased (h : meetsCased cs = true) : (neighbour? cs).isSome = true := by
  rw [meetsCased_eq] at h
  cases hc : neighbour? cs with
  | none => rw [hc] at h; cases h
  | some c => rfl

theorem Decides.isFinal_append (h : Decides before after) (cs ds : List Char) :
    isFinal (before ++ cs) (after ++ ds) = isFinal before after := by
  rw [isFinal, isFinal]
  rcases h with hcased | ⟨hbefore, hafter⟩
  · rw [meetsCased_append (isSome_of_meetsCased hcased), hcased, Bool.not_true, Bool.and_false,
      Bool.and_false]
  · rw [meetsCased_append hbefore]
    cases hmeets : meetsCased before with
    | false => rw [Bool.false_and, Bool.false_and]
    | true => rw [meetsCased_append (hafter hmeets)]

theorem IsSteady.keepsSigmas (h : IsSteady part) (before after : List Char) :
    KeepsSigmas before part after :=
  fun front back hsplit => (h front back hsplit).isFinal_append before after

/-! ### Parts that do not -/

/-- Nothing in the text is a neighbour, so no character of it is a sigma. -/
theorem not_mem_of_neighbour?_eq_none (h : neighbour? cs = none) : 'Σ' ∉ cs := by
  intro hmem
  have hignored := List.find?_eq_none.mp h 'Σ' hmem
  exact hignored (by decide +kernel)

/-- A text in which one character was replaced does not hold the text it was. -/
theorem not_isInfix_of_replaced {c d : Char} (hne : d ≠ c) (front back : List Char)
    (hbefore : c ∉ before) (hafter : c ∉ after) :
    ¬ front ++ c :: back <:+: before ++ (front ++ d :: back) ++ after := by
  intro hinfix
  have hcount := hinfix.sublist.count_le c
  simp only [List.count_append, List.count_cons_self, List.count_cons_of_ne hne,
    List.count_eq_zero_of_not_mem hbefore, List.count_eq_zero_of_not_mem hafter] at hcount
  omega

theorem lower_around_sigma (front back : List Char) :
    lower (front ++ 'Σ' :: back) =
      lowerPart [] front ['Σ'] ++
        (if isFinal front.reverse back then 'ς' else 'σ') :: lowerPart ['Σ'] back [] := by
  rw [lower, ← lowerPart_nil, lowerPart_around_sigma, List.append_nil, List.append_nil]

theorem lowerPart_letter (rest : List Char) : lowerPart [] ['a'] rest = ['a'] := rfl

theorem lowerAfter_letter (before : List Char) : lowerAfter before ['a'] = ['a'] := rfl

/-- A sigma with nothing before it to decide about it becomes final behind a letter. -/
theorem not_isInfix_behind_letter (hfront : neighbour? front.reverse = none)
    (hback : meetsCased back = false) :
    ¬ lower (front ++ 'Σ' :: back) <:+: lower (['a'] ++ (front ++ 'Σ' :: back) ++ []) := by
  have hnever : 'Σ' ∉ front := fun hmem =>
    not_mem_of_neighbour?_eq_none hfront (List.mem_reverse.mpr hmem)
  have halone : isFinal front.reverse back = false := by
    rw [isFinal, meetsCased_eq, hfront, Option.any_none, Bool.false_and]
  have hplace : isFinal (front.reverse ++ ['a']) (back ++ []) = true := by
    have hletter : meetsCased ['a'] = true := by decide +kernel
    rw [isFinal, meetsCased_append_of_none hfront, hletter, List.append_nil, hback]
    rfl
  rw [lower_around_sigma, halone, lower_append, List.reverse_singleton, lowerPart_around_sigma,
    hplace, lowerPart_of_no_sigma hnever, lowerPart_of_no_sigma hnever, lowerPart_letter,
    lowerAfter]
  exact not_isInfix_of_replaced (by decide) _ _ (by decide) (by decide)

/-- A sigma behind a cased letter, with nothing after it to decide about it, is not final in front
of another letter. -/
theorem not_isInfix_before_letter (hfront : meetsCased front.reverse = true)
    (hback : neighbour? back = none) :
    ¬ lower (front ++ 'Σ' :: back) <:+: lower ([] ++ (front ++ 'Σ' :: back) ++ ['a']) := by
  have hnever : 'Σ' ∉ back := not_mem_of_neighbour?_eq_none hback
  have halone : isFinal front.reverse back = true := by
    rw [isFinal, hfront, meetsCased_eq, hback]
    rfl
  have hplace : isFinal (front.reverse ++ []) (back ++ ['a']) = false := by
    have hletter : meetsCased ['a'] = true := by decide +kernel
    rw [isFinal, meetsCased_append_of_none hback, hletter, Bool.not_true, Bool.and_false]
  rw [lower_around_sigma, halone, lower_append, List.reverse_nil, lowerPart_around_sigma,
    hplace, lowerPart_of_no_sigma hnever, lowerPart_of_no_sigma hnever, lowerPart,
    lowerAfter_letter]
  exact not_isInfix_of_replaced (by decide) _ _ (by decide) (by decide)

/-- A text is found in the lower case of every text that it is part of just if it decides of each of
its capital sigmas whether it is final. -/
theorem isSteady_iff :
    IsSteady part ↔ ∀ front back, lower part <:+: lower (front ++ part ++ back) := by
  constructor
  · exact fun h front back => (h.keepsSigmas front.reverse back).lower_isInfix
  · intro h front back hsplit
    by_contra hopen
    obtain ⟨hback, hfront⟩ := not_or.mp hopen
    rw [Bool.not_eq_true] at hback
    rw [hsplit] at h
    rcases hbefore : neighbour? front.reverse with _ | c
    · exact not_isInfix_behind_letter hbefore hback (h ['a'] [])
    · push Not at hfront
      obtain ⟨hcased, hafter⟩ := hfront (by rw [hbefore, Option.isSome_some])
      exact not_isInfix_before_letter hcased (Option.not_isSome_iff_eq_none.mp hafter) (h [] ['a'])

end Entitlement.Text
