import ReportDelivery.Text.Basic

/-! Cutting text at a separator, and putting parts together.

No part of a cut has the separator in it, and parts without it are what the joined text is cut
into. A cut of two texts with a separator between them is the cut of one and then of the other. -/
namespace ReportDelivery.Text

variable {separator c : CodePoint} {t part : Text} {parts : List Text}

theorem split_cons_same (separator : CodePoint) (t : Text) :
    split separator (separator :: t) = [] :: split separator t := by
  rw [split, if_pos rfl]

/-- A code point that is no separator goes into the first part. -/
theorem split_cons_other (h : c ≠ separator) (t : Text) :
    ∃ first rest, split separator t = first :: rest ∧
      split separator (c :: t) = (c :: first) :: rest := by
  cases hparts : split separator t with
  | nil => exact absurd hparts (split_ne_nil _ _)
  | cons first rest => exact ⟨first, rest, rfl, by rw [split, if_neg h, hparts]⟩

/-- The parts hold code points of the text, and no separator. -/
theorem mem_split (h : part ∈ split separator t) (hc : c ∈ part) : c ∈ t ∧ c ≠ separator := by
  induction t generalizing part with
  | nil =>
    rw [split, List.mem_singleton] at h
    rw [h] at hc
    cases hc
  | cons d t ih =>
    by_cases hd : d = separator
    · rw [hd, split_cons_same] at h
      rcases List.mem_cons.1 h with rfl | h
      · cases hc
      · exact (ih h hc).imp_left (List.mem_cons_of_mem _)
    · obtain ⟨first, rest, hrest, hsplit⟩ := split_cons_other hd t
      rw [hsplit] at h
      rw [hrest] at ih
      rcases List.mem_cons.1 h with rfl | h
      · rcases List.mem_cons.1 hc with rfl | hc
        · exact ⟨List.mem_cons_self, hd⟩
        · exact (ih List.mem_cons_self hc).imp_left (List.mem_cons_of_mem _)
      · exact (ih (List.mem_cons_of_mem _ h) hc).imp_left (List.mem_cons_of_mem _)

theorem separator_not_mem_split (h : part ∈ split separator t) : separator ∉ part :=
  fun hmem => (mem_split h hmem).2 rfl

theorem split_append (s t : Text) :
    split separator (s ++ separator :: t) = split separator s ++ split separator t := by
  induction s with
  | nil => rw [List.nil_append, split_cons_same, split, List.singleton_append]
  | cons c s ih =>
    rw [List.cons_append]
    by_cases hc : c = separator
    · rw [hc, split_cons_same, split_cons_same, ih, List.cons_append]
    · obtain ⟨first, rest, hrest, hsplit⟩ := split_cons_other hc s
      rw [hsplit, split, if_neg hc, ih, hrest]
      rfl

theorem split_of_not_mem (h : separator ∉ t) : split separator t = [t] := by
  induction t with
  | nil => rfl
  | cons c t ih =>
    rw [List.mem_cons, not_or] at h
    rw [split, if_neg (Ne.symm h.1), ih h.2]

theorem join_cons (between : Text) (h : parts ≠ []) :
    join between (part :: parts) = part ++ between ++ join between parts := by
  cases parts with
  | nil => exact absurd rfl h
  | cons part' parts => rfl

theorem split_join (hne : parts ≠ []) (h : ∀ part ∈ parts, separator ∉ part) :
    split separator (join [separator] parts) = parts := by
  induction parts with
  | nil => exact absurd rfl hne
  | cons part parts ih =>
    obtain ⟨hpart, hparts⟩ := List.forall_mem_cons.1 h
    by_cases hlast : parts = []
    · rw [hlast]
      exact split_of_not_mem hpart
    · rw [join_cons _ hlast, List.append_assoc, List.singleton_append, split_append,
        split_of_not_mem hpart, ih hlast hparts, List.singleton_append]

theorem mem_join {between : Text} (h : c ∈ join between parts) :
    c ∈ between ∨ ∃ part ∈ parts, c ∈ part := by
  induction parts with
  | nil => cases h
  | cons part parts ih =>
    by_cases hlast : parts = []
    · rw [hlast] at h
      exact .inr ⟨part, List.mem_cons_self, h⟩
    · rw [join_cons _ hlast, List.mem_append, List.mem_append] at h
      rcases h with (h | h) | h
      · exact .inr ⟨part, List.mem_cons_self, h⟩
      · exact .inl h
      · refine (ih h).imp_right ?_
        rintro ⟨other, hother, hc⟩
        exact ⟨other, List.mem_cons_of_mem _ hother, hc⟩

end ReportDelivery.Text
