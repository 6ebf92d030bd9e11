import ReportDelivery.Numeric.Numeral
import ReportDelivery.Text.Blank

/-! Texts with unified line ends.

A text starts as it does with unified line ends, unless it starts with a carriage return; that one
becomes a line feed. So whatever tells these two from all other code points, or does not tell them
from each other, cuts both texts at the same place. -/
namespace ReportDelivery.Text

variable {c : CodePoint} {t w : Text} {p : CodePoint → Bool}

/-- The code point is no part of a line end. -/
def Inline (c : CodePoint) : Prop := c ≠ .char '\r' ∧ c ≠ .char '\n'

instance (c : CodePoint) : Decidable (Inline c) :=
  inferInstanceAs (Decidable (c ≠ .char '\r' ∧ c ≠ .char '\n'))

theorem unifyLineEnds_cons (h : c ≠ .char '\r') (t : Text) :
    unifyLineEnds (c :: t) = c :: unifyLineEnds t := by
  rw [unifyLineEnds]
  · rintro rest rfl
    exact absurd rfl h
  · exact h

/-- How a text may start, and how it starts with unified line ends. -/
theorem unifyLineEnds_cases (t : Text) : t = [] ∨
    (∃ rest more, t = .char '\r' :: rest ∧ t.unifyLineEnds = .char '\n' :: more) ∨
    ∃ c rest, t = c :: rest ∧ c ≠ .char '\r' ∧ t.unifyLineEnds = c :: unifyLineEnds rest := by
  fun_cases unifyLineEnds t with
  | case1 => exact .inl rfl
  | case2 rest => exact .inr (.inl ⟨_, _, rfl, rfl⟩)
  | case3 rest => exact .inr (.inl ⟨_, _, rfl, rfl⟩)
  | case4 c rest _ h => exact .inr (.inr ⟨c, rest, rfl, h, rfl⟩)

theorem isEmpty_unifyLineEnds (t : Text) : t.unifyLineEnds.isEmpty = t.isEmpty := by
  rcases unifyLineEnds_cases t with rfl | ⟨rest, more, rfl, h⟩ | ⟨c, rest, rfl, -, h⟩
  · rfl
  · rw [h]
    rfl
  · rw [h]
    rfl

theorem length_unifyLineEnds_le (t : Text) : t.unifyLineEnds.length ≤ t.length := by
  fun_induction unifyLineEnds t with
  | case1 => exact Nat.le_refl _
  | case2 rest ih => exact Nat.le_succ_of_le (Nat.succ_le_succ ih)
  | case3 rest _ ih => exact Nat.succ_le_succ ih
  | case4 c rest _ _ ih => exact Nat.succ_le_succ ih

theorem head?_unifyLineEnds {c : CodePoint} (hc : Inline c) (t : Text) :
    t.unifyLineEnds.head? = some c ↔ t.head? = some c := by
  rcases unifyLineEnds_cases t with rfl | ⟨rest, more, rfl, h⟩ | ⟨d, rest, rfl, -, h⟩
  · rfl
  · rw [h]
    simp [hc.1.symm, hc.2.symm]
  · rw [h]
    rfl

theorem unifyLineEnds_append (h : .char '\r' ∉ w) (t : Text) :
    unifyLineEnds (w ++ t) = w ++ unifyLineEnds t := by
  induction w with
  | nil => rfl
  | cons c w ih =>
    rw [List.mem_cons, not_or] at h
    rw [List.cons_append, unifyLineEnds_cons (Ne.symm h.1), ih h.2, List.cons_append]

theorem unifyLineEnds_eq_append (hw : ∀ c ∈ w, Inline c) {t left : Text} :
    t.unifyLineEnds = w ++ left ↔ ∃ rest, t = w ++ rest ∧ left = unifyLineEnds rest := by
  constructor
  · intro h
    induction w generalizing t with
    | nil => exact ⟨t, rfl, h.symm⟩
    | cons d w ih =>
      obtain ⟨⟨-, hfeed⟩, hrest⟩ := List.forall_mem_cons.1 hw
      rcases unifyLineEnds_cases t with rfl | ⟨rest, more, rfl, hends⟩ | ⟨c, rest, rfl, -, hends⟩
      · cases h
      · rw [hends] at h
        exact absurd (List.cons.inj h).1.symm hfeed
      · rw [hends] at h
        obtain ⟨rfl, htail⟩ := List.cons.inj h
        obtain ⟨rest, rfl, hleft⟩ := ih hrest htail
        exact ⟨rest, rfl, hleft⟩
  · rintro ⟨rest, rfl, rfl⟩
    exact unifyLineEnds_append (fun hmem => (hw _ hmem).1 rfl) rest

theorem dropWhile_unifyLineEnds (h : p (.char '\r') = p (.char '\n')) (t : Text) :
    t.unifyLineEnds.dropWhile p = unifyLineEnds (t.dropWhile p) := by
  fun_induction unifyLineEnds t with
  | case1 => rfl
  | case2 rest ih =>
    simp only [List.dropWhile_cons, h, ih]
    split <;> rfl
  | case3 rest hrest ih =>
    simp only [List.dropWhile_cons, h, ih]
    split
    · rfl
    · rw [unifyLineEnds]
      exact hrest
  | case4 c rest _ hc ih =>
    simp only [List.dropWhile_cons, ih]
    split
    · rfl
    · exact (unifyLineEnds_cons hc rest).symm

theorem takeWhile_unifyLineEnds (hreturn : p (.char '\r') = false) (hfeed : p (.char '\n') = false)
    (t : Text) : t.unifyLineEnds.takeWhile p = t.takeWhile p := by
  fun_induction unifyLineEnds t with
  | case1 => rfl
  | case2 rest ih =>
    rw [List.takeWhile_cons_of_neg (by simp [hfeed]),
      List.takeWhile_cons_of_neg (by simp [hreturn])]
  | case3 rest hrest ih =>
    rw [List.takeWhile_cons_of_neg (by simp [hfeed]),
      List.takeWhile_cons_of_neg (by simp [hreturn])]
  | case4 c rest _ _ ih => simp only [List.takeWhile_cons, ih]

theorem splitSign_cons (hminus : c ≠ .char '-') (hplus : c ≠ .char '+') (t : Text) :
    splitSign (c :: t) = (false, c :: t) := by
  unfold splitSign
  split <;> simp_all

theorem splitSign_unifyLineEnds (t : Text) :
    splitSign t.unifyLineEnds = ((splitSign t).1, unifyLineEnds (splitSign t).2) := by
  rcases unifyLineEnds_cases t with rfl | ⟨rest, more, rfl, h⟩ | ⟨c, rest, rfl, hc, h⟩
  · rfl
  · rw [h, splitSign_cons (by decide) (by decide), splitSign_cons (by decide) (by decide), h]
  · rw [h]
    by_cases hminus : c = .char '-'
    · rw [hminus]
      rfl
    · by_cases hplus : c = .char '+'
      · rw [hplus]
        rfl
      · rw [splitSign_cons hminus hplus, splitSign_cons hminus hplus, h]

end ReportDelivery.Text
