import Mathlib.Data.List.DropRight
import ReportDelivery.Text.Blank

/-! Ends of texts, white space around them, and lines put together.

What is trimmed from a text is of the class, and what is left does not end in it. Stripping leaves
nothing exactly of text without content, and what it leaves it does not change any more. Lines
joined by line feeds are the lines of what results, if each has a character and none has a line end
in it. What the lines of any text are is said by `Cut`, without a look at how they are found. -/
namespace ReportDelivery.Text

/-! ### The end of a text -/

section
variable {p : CodePoint → Bool} {t : Text}

/-- The text is empty or ends with a code point outside the class. -/
def EndsOutside (p : CodePoint → Bool) (t : Text) : Prop := ∀ c ∈ t.getLast?, p c = false

theorem endsOutside_trimEnd (p : CodePoint → Bool) (t : Text) : EndsOutside p (trimEnd p t) := by
  intro c hc
  obtain ⟨hne, rfl⟩ := List.mem_getLast?_eq_getLast hc
  exact Bool.eq_false_iff.2 (List.rdropWhile_last_not p t hne)

theorem trimEnd_eq_self (h : EndsOutside p t) : trimEnd p t = t :=
  List.rdropWhile_eq_self_iff.2 fun hne =>
    Bool.eq_false_iff.1 (h _ (List.getLast_mem_getLast? hne))

/-- What is trimmed is of the class. -/
theorem trimEnd_append_ends (p : CodePoint → Bool) (t : Text) :
    ∃ ends, t = trimEnd p t ++ ends ∧ ∀ c ∈ ends, p c = true :=
  ⟨t.rtakeWhile p, List.rdropWhile_append_rtakeWhile.symm, fun _ => List.mem_rtakeWhile_imp⟩

theorem exists_trimEnd_append (c : CodePoint) (t : Text) :
    ∃ n, t = trimEnd (· = c) t ++ List.replicate n c := by
  obtain ⟨ends, heq, hends⟩ := trimEnd_append_ends (· = c) t
  have hsame : ends = List.replicate ends.length c :=
    List.eq_replicate_of_mem fun d hd => of_decide_eq_true (hends d hd)
  exact ⟨ends.length, hsame ▸ heq⟩

theorem mem_of_mem_trimEnd {c : CodePoint} (h : c ∈ trimEnd p t) : c ∈ t :=
  (List.rdropWhile_prefix p t).subset h

theorem trimEnd_append {ends : Text} (hends : ∀ c ∈ ends, p c = true) (h : EndsOutside p t) :
    trimEnd p (t ++ ends) = t := by
  induction ends using List.reverseRecOn with
  | nil => rw [List.append_nil, trimEnd_eq_self h]
  | append_singleton ends c ih =>
    have hlast : p c = true := hends c List.mem_concat_self
    change List.rdropWhile p (t ++ (ends ++ [c])) = t
    rw [← List.append_assoc, List.rdropWhile_concat_pos p _ c hlast]
    exact ih fun d hd => hends d (List.mem_append_left _ hd)

end

/-! ### White space -/

/-- No white space at either end. -/
structure Stripped (t : Text) : Prop where
  start : ∀ c ∈ t.head?, c.isBlank = false
  stop : EndsOutside CodePoint.isBlank t

theorem stripped_strip (t : Text) : Stripped t.strip where
  start := by
    intro c hc
    obtain ⟨ends, hends, -⟩ := trimEnd_append_ends CodePoint.isBlank (t.dropWhile CodePoint.isBlank)
    have hfirst : (t.dropWhile CodePoint.isBlank).head? = some c := by
      rw [hends]
      exact List.mem_head?_append_of_mem_head? hc
    have hnot := List.head?_dropWhile_not CodePoint.isBlank t
    rw [hfirst] at hnot
    exact hnot
  stop := endsOutside_trimEnd _ _

theorem Stripped.strip_eq {t : Text} (h : t.Stripped) : t.strip = t := by
  have hstart : t.dropWhile CodePoint.isBlank = t := by
    cases t with
    | nil => rfl
    | cons c t => exact List.dropWhile_cons_of_neg (Bool.eq_false_iff.1 (h.start c rfl))
  rw [strip, hstart, trimEnd_eq_self h.stop]

theorem length_strip_le (t : Text) : t.strip.length ≤ t.length :=
  (List.rdropWhile_prefix _ _).length_le.trans (List.dropWhile_suffix _).length_le

theorem strip_strip (t : Text) : t.strip.strip = t.strip := (stripped_strip t).strip_eq

theorem strip_eq_nil {t : Text} : t.strip = [] ↔ t.hasContent = false := by
  change List.rdropWhile CodePoint.isBlank (t.dropWhile CodePoint.isBlank) = [] ↔ _
  rw [List.rdropWhile_eq_nil_iff, hasContent, Bool.not_eq_false', List.all_eq_true]
  constructor
  · intro hrest c hc
    rw [← List.takeWhile_append_dropWhile (p := CodePoint.isBlank) (l := t)] at hc
    rcases List.mem_append.1 hc with hstart | hend
    · exact List.mem_takeWhile_imp hstart
    · exact hrest c hend
  · intro hblank c hc
    exact hblank c ((List.dropWhile_sublist _).subset hc)

theorem hasContent_of_strip_ne_nil {t : Text} (h : t.strip ≠ []) : t.hasContent = true :=
  Bool.not_eq_false _ ▸ mt strip_eq_nil.2 h

/-! ### Lines -/

/-- No line ends in the text. -/
def OneLine (t : Text) : Prop := ∀ c ∈ t, c.isLineEnd = false

instance (t : Text) : Decidable (OneLine t) :=
  inferInstanceAs (Decidable (∀ c ∈ t, c.isLineEnd = false))

theorem linesFrom_append {t : Text} (h : OneLine t) (line rest : Text) :
    linesFrom line (t ++ rest) = linesFrom (t.reverse ++ line) rest := by
  induction t generalizing line with
  | nil => rfl
  | cons c t ih =>
    obtain ⟨hc, ht⟩ := List.forall_mem_cons.1 h
    have hreturn : c ≠ .char '\r' := by
      rintro rfl
      cases hc
    rw [List.cons_append, linesFrom, if_neg (by simp [hc]), ih ht]
    · simp
    · intro after heq
      exact absurd heq hreturn

theorem lines_join {parts : List Text} (h : ∀ part ∈ parts, part ≠ [] ∧ OneLine part) :
    lines (join "\n" parts) = parts := by
  induction parts with
  | nil => rfl
  | cons part parts ih =>
    obtain ⟨⟨hne, hline⟩, hparts⟩ := List.forall_mem_cons.1 h
    cases parts with
    | nil =>
      rw [join, lines, ← List.append_nil part, linesFrom_append hline]
      simp [linesFrom, hne]
    | cons part' parts =>
      rw [join, lines, List.append_assoc, linesFrom_append hline, List.append_nil]
      · change part.reverse.reverse :: lines (join "\n" (part' :: parts)) = _
        rw [ih hparts, List.reverse_reverse]
      · exact List.cons_ne_nil part' parts

/-- What ends a line before the rest of a text: one character, or a carriage return and the line
feed after it. -/
inductive LineEnd : Text → Text → Prop
  | both (rest : Text) : LineEnd [.char '\r', .char '\n'] rest
  | one {c : CodePoint} {rest : Text} (hc : c.isLineEnd = true)
      (hlone : c = .char '\r' → rest.head? ≠ some (.char '\n')) : LineEnd [c] rest

/-- The text is made of these lines. Every line but the last has an end, and the last one is not
empty unless it has an end too. -/
inductive Cut : Text → List Text → Prop
  | nothing : Cut [] []
  | last {line : Text} (hline : OneLine line) (hne : line ≠ []) : Cut line [line]
  | next {line stop rest : Text} {lines : List Text} (hline : OneLine line)
      (hstop : LineEnd stop rest) (hrest : Cut rest lines) :
      Cut (line ++ (stop ++ rest)) (line :: lines)

theorem LineEnd.linesFrom_append {stop rest : Text} (h : LineEnd stop rest) (line : Text) :
    linesFrom line (stop ++ rest) = line.reverse :: lines rest := by
  cases h with
  | both => rfl
  | @one c _ hc hlone =>
    rw [List.singleton_append, linesFrom, if_pos hc]
    · rfl
    · rintro after rfl rfl
      exact hlone rfl rfl

theorem Cut.eq_nil {t : Text} (h : Cut t []) : t = [] := by
  cases h
  rfl

theorem Cut.oneLine {t : Text} {parts : List Text} (h : Cut t parts) :
    ∀ part ∈ parts, OneLine part := by
  induction h with
  | nothing => exact List.forall_mem_nil _
  | last hline => exact List.forall_mem_singleton.2 hline
  | next hline _ _ ih => exact List.forall_mem_cons.2 ⟨hline, ih⟩

theorem Cut.lines_eq {t : Text} {parts : List Text} (h : Cut t parts) : lines t = parts := by
  induction h with
  | nothing => rfl
  | @last line hline hne =>
    rw [lines, ← List.append_nil line, Text.linesFrom_append hline]
    simp [linesFrom, hne]
  | @next line stop rest parts hline hstop _ ih =>
    rw [lines, Text.linesFrom_append hline, hstop.linesFrom_append, ih]
    simp

/-- The part of a line that is already read belongs to the first line. -/
theorem cut_linesFrom {line : Text} (hline : OneLine line.reverse) (t : Text) :
    Cut (line.reverse ++ t) (linesFrom line t) := by
  fun_induction linesFrom line t with
  | case1 line hempty =>
    obtain rfl := List.isEmpty_iff.1 hempty
    exact .nothing
  | case2 line hempty =>
    rw [List.append_nil]
    exact .last hline (by simpa using hempty)
  | case3 line rest ih =>
    have hrest : Cut rest (linesFrom [] rest) := ih (List.forall_mem_nil _)
    exact .next hline (.both rest) hrest
  | case4 line c rest hother hend ih =>
    have hrest : Cut rest (linesFrom [] rest) := ih (List.forall_mem_nil _)
    refine .next hline (.one hend ?_) hrest
    intro hc hhead
    obtain ⟨after, rfl⟩ := List.head?_eq_some_iff.1 hhead
    exact hother after hc rfl
  | case5 line c rest hother hend ih =>
    rw [List.reverse_cons, List.append_assoc] at ih
    refine ih ?_
    intro d hd
    rcases List.mem_append.1 hd with hmem | hmem
    · exact hline d hmem
    · rw [List.mem_singleton.1 hmem]
      exact Bool.eq_false_iff.2 hend

theorem cut_iff {t : Text} {parts : List Text} : Cut t parts ↔ lines t = parts := by
  refine ⟨Cut.lines_eq, ?_⟩
  rintro rfl
  have hstart : OneLine ([] : Text).reverse := List.forall_mem_nil _
  exact cut_linesFrom hstart t

end ReportDelivery.Text
