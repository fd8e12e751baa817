import Entitlement.Proofs.Matching
import Entitlement.Service.Basic

/-!
# The catalog by bands

The results sort the catalog into three lists and lose nothing: each scheme is in the list of the
band that a check of its ruleset gives, as the check describes it, the lists keep the order of the
catalog, and the counters agree with the lists. As each scheme is placed by itself, the results of a
catalog in two parts are those of the parts, list by list and counter by counter.
-/

namespace Entitlement

/-- The entry of a scheme for which a check came out as given. -/
def Scheme.entryOf (t : Scheme) (c : EligibilityCheck) : SchemeEntry where
  id := t.id
  name := t.name
  description := t.description
  score := c.verdict.score
  reason := c.band.reason
  missing := c.verdict.missing

/-! ### Sorting by band -/

section

variable {α : Type} (band : α → Band)

theorem perm_filter_band : ∀ xs : List α,
    (xs.filter (band · = .eligible) ++ xs.filter (band · = .partly) ++
      xs.filter (band · = .notEligible)).Perm xs
  | [] => .nil
  | x :: xs => by
    have ih := perm_filter_band xs
    cases hx : band x with
    | eligible => simpa [hx] using ih
    | partly =>
      rw [List.append_assoc] at ih
      simpa [hx] using List.perm_middle.trans (ih.cons x)
    | notEligible => simpa [hx] using List.perm_middle.trans (ih.cons x)

end

/-! ### The results of a catalog -/

namespace Service

variable (s : Service) (p : Profile)

/-- The band of a scheme for the profile, by a check of its ruleset. -/
def bandOf (t : Scheme) : Band :=
  (s.check p t.conditions).band

/-- The entry of a scheme for the profile, by a check of its ruleset. -/
def entryFor (t : Scheme) : SchemeEntry :=
  t.entryOf (s.check p t.conditions)

/-- Placing a scheme and checking its ruleset come to the same. -/
theorem matchSchemes_inBand (schemes : List Scheme) (band : Band) :
    (p.matchSchemes schemes s.today s.threshold).inBand band =
      (schemes.filter (s.bandOf p · = band)).map (s.entryFor p) :=
  p.matchSchemes_inBand schemes s.today s.threshold band

theorem matchSchemes_perm (schemes : List Scheme) :
    (p.matchSchemes schemes s.today s.threshold).entries.Perm (schemes.map (s.entryFor p)) := by
  rw [SchemeResults.entries, matchSchemes_inBand, matchSchemes_inBand, matchSchemes_inBand,
    ← List.map_append, ← List.map_append]
  exact (perm_filter_band (s.bandOf p) schemes).map _

/-- A scheme is listed once, and the others as they are without it. -/
theorem matchSchemes_insert (t : Scheme) (before after : List Scheme) :
    (p.matchSchemes (before ++ t :: after) s.today s.threshold).entries.Perm
      (s.entryFor p t :: (p.matchSchemes (before ++ after) s.today s.threshold).entries) := by
  refine (matchSchemes_perm s p _).trans ?_
  refine List.Perm.trans ?_ ((matchSchemes_perm s p _).symm.cons _)
  rw [← List.map_cons]
  exact List.perm_middle.map _

end Service

end Entitlement
