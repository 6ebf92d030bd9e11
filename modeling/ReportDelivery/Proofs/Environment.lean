import ReportDelivery.Environment
import ReportDelivery.Proofs.Text.Blank

/-! The first candidate with content.

The key and the host are each looked for in several places, in a fixed order. A place that holds
nothing but white space is passed over. -/
namespace ReportDelivery

/-- The text is the first of the candidates that has content. -/
def FirstContent (candidates : List Text) (chosen : Text) : Prop :=
  ∃ before after, candidates = before ++ chosen :: after ∧
    (∀ other ∈ before, other.hasContent = false) ∧ chosen.hasContent = true

variable {candidates : List Text} {chosen t : Text}

theorem find?_eq_some_iff_firstContent :
    candidates.find? Text.hasContent = some chosen ↔ FirstContent candidates chosen := by
  simp only [List.find?_eq_some_iff_append, FirstContent, Bool.not_eq_true']
  constructor
  · rintro ⟨hchosen, before, after, heq, hbefore⟩
    exact ⟨before, after, heq, hbefore, hchosen⟩
  · rintro ⟨before, after, heq, hbefore, hchosen⟩
    exact ⟨hchosen, before, after, heq, hbefore⟩

theorem firstContent?_eq_some : firstContent? candidates = some t ↔
    ∃ chosen, FirstContent candidates chosen ∧ chosen.strip = t := by
  rw [firstContent?, Option.map_eq_some_iff]
  exact exists_congr fun _ => and_congr_left' find?_eq_some_iff_firstContent

theorem firstContent?_eq_none :
    firstContent? candidates = none ↔ ∀ other ∈ candidates, other.hasContent = false := by
  rw [firstContent?, Option.map_eq_none_iff, List.find?_eq_none]
  simp only [Bool.not_eq_true]

theorem FirstContent.strip_ne_nil (h : FirstContent candidates chosen) : chosen.strip ≠ [] := by
  obtain ⟨_, _, -, -, hcontent⟩ := h
  rw [Ne, Text.strip_eq_nil, hcontent]
  nofun

/-- With a last candidate that has content there is always a first one. -/
theorem firstContent?_getD (candidates : List Text) {fallback : Text}
    (h : fallback.hasContent = true) :
    ∃ chosen, FirstContent (candidates ++ [fallback]) chosen ∧
      (firstContent? candidates).getD fallback.strip = chosen.strip := by
  cases hfirst : firstContent? candidates with
  | none =>
    exact ⟨fallback, ⟨candidates, [], rfl, firstContent?_eq_none.1 hfirst, h⟩, rfl⟩
  | some t =>
    obtain ⟨chosen, ⟨before, after, rfl, hbefore, hchosen⟩, rfl⟩ := firstContent?_eq_some.1 hfirst
    exact ⟨chosen, ⟨before, after ++ [fallback], by simp, hbefore, hchosen⟩, rfl⟩

end ReportDelivery
