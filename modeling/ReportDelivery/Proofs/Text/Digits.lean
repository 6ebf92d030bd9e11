import Mathlib.Tactic.Ring
import ReportDelivery.Numeric.Numeral

/-! Rows of decimal digits.

A row of digits has a value, two rows one after the other have a value that shifts the first, and
the row that `Text.ofNat` writes has the number as its value. -/
namespace ReportDelivery.Text

/-- Nothing but ASCII digits. -/
def IsDigits (t : Text) : Prop := ∀ c ∈ t, c.isDigit = true

/-- The text is not continued by a digit. -/
def NoDigit (rest : Text) : Prop := rest.takeWhile CodePoint.isDigit = []

theorem IsDigits.append {a b : Text} (ha : IsDigits a) (hb : IsDigits b) : IsDigits (a ++ b) := by
  intro c hc
  rcases List.mem_append.1 hc with h | h
  · exact ha c h
  · exact hb c h

theorem IsDigits.takeWhile_append {a rest : Text} (ha : IsDigits a) (hr : NoDigit rest) :
    (a ++ rest).takeWhile CodePoint.isDigit = a := by
  rw [List.takeWhile_append_of_pos ha, hr, List.append_nil]

theorem IsDigits.dropWhile_append {a rest : Text} (ha : IsDigits a) (hr : NoDigit rest) :
    (a ++ rest).dropWhile CodePoint.isDigit = rest := by
  have hall := List.takeWhile_append_dropWhile (p := CodePoint.isDigit) (l := a ++ rest)
  rw [ha.takeWhile_append hr] at hall
  exact List.append_cancel_left hall

theorem isDigits_replicate (n : Nat) : IsDigits (List.replicate n (.char '0')) := by
  intro c hc
  rw [List.eq_of_mem_replicate hc]
  rfl

/-! ### Values -/

theorem digitsValue_eq_foldl (t : Text) :
    digitsValue t = t.foldl (fun n c => 10 * n + c.digit?.getD 0) 0 := by
  simp only [digitsValue, ofDigits_eq_foldr, List.foldr_map, List.foldr_reverse, Nat.add_comm]

theorem digitsValue_append (a b : Text) :
    digitsValue (a ++ b) = digitsValue a * 10 ^ b.length + digitsValue b := by
  simp only [digitsValue_eq_foldl, List.foldl_append]
  generalize a.foldl (fun n c => 10 * n + c.digit?.getD 0) 0 = m
  -- The fold over `b` starts from `m` on the left and from zero on the right.
  have hfold : ∀ m n, b.foldl (fun n c => 10 * n + c.digit?.getD 0) (m + n) =
      m * 10 ^ b.length + b.foldl (fun n c => 10 * n + c.digit?.getD 0) n := by
    induction b with
    | nil => simp
    | cons c b ih =>
      intro m n
      have hstep : 10 * (m + n) + c.digit?.getD 0 = m * 10 + (10 * n + c.digit?.getD 0) := by omega
      rw [List.foldl_cons, List.foldl_cons, hstep, ih, List.length_cons, Nat.pow_succ,
        Nat.mul_assoc, Nat.mul_comm 10]
  simpa using hfold m 0

@[simp] theorem digitsValue_zeros (n : Nat) :
    digitsValue (List.replicate n (.char '0')) = 0 := by
  rw [digitsValue_eq_foldl]
  induction n with
  | zero => rfl
  | succ n ih => exact ih

theorem digitsValue_append_zeros (a : Text) (n : Nat) :
    digitsValue (a ++ List.replicate n (.char '0')) = digitsValue a * 10 ^ n := by
  simp [digitsValue_append]

theorem digitsValue_zeros_append (n : Nat) (a : Text) :
    digitsValue (List.replicate n (.char '0') ++ a) = digitsValue a := by
  simp [digitsValue_append]

theorem digit?_lt {c : CodePoint} {d : Nat} (h : c.digit? = some d) : d < 10 := by
  cases c with
  | surrogate i => cases h
  | char c =>
    simp only [CodePoint.digit?] at h
    split at h
    · next hc =>
      cases h
      have := UInt32.le_iff_toNat_le.1 hc.2
      change c.toNat ≤ 57 at this
      omega
    · cases h

theorem digitsValue_lt (t : Text) : digitsValue t < 10 ^ t.length := by
  rw [digitsValue_eq_foldl]
  have hfold : ∀ n, t.foldl (fun n c => 10 * n + c.digit?.getD 0) n < (n + 1) * 10 ^ t.length := by
    induction t with
    | nil => simp
    | cons c t ih =>
      intro n
      have hd : c.digit?.getD 0 < 10 := by
        cases h : c.digit? with
        | none => decide
        | some d => exact digit?_lt h
      rw [List.foldl_cons, List.length_cons, Nat.pow_succ]
      have hle : 10 * n + c.digit?.getD 0 + 1 ≤ (n + 1) * 10 := by omega
      calc _ < (10 * n + c.digit?.getD 0 + 1) * 10 ^ t.length := ih _
        _ ≤ (n + 1) * 10 * 10 ^ t.length := Nat.mul_le_mul_right _ hle
        _ = (n + 1) * (10 ^ t.length * 10) := by rw [Nat.mul_assoc, Nat.mul_comm 10]
  simpa using hfold 0

/-! ### The digits of a number -/

theorem isDigit_char {c : Char} (h : c.isDigit = true) :
    (CodePoint.char c).digit? = some (c.toNat - 48) := by
  have hc : '0' ≤ c ∧ c ≤ '9' := by
    simpa [Char.isDigit, Char.le_def] using h
  simp [CodePoint.digit?, hc]

theorem isDigits_ofNat (n : Nat) : IsDigits (ofNat n) := by
  intro c hc
  obtain ⟨d, hd, rfl⟩ := List.mem_map.1 hc
  have := isDigit_char (Nat.isDigit_of_mem_toDigits (by decide) (by decide) hd)
  simp [CodePoint.isDigit, this]

theorem digitsValue_ofNat (n : Nat) : digitsValue (ofNat n) = n := by
  have hfold : ∀ (cs : List Char) (m : Nat), (∀ c ∈ cs, c.isDigit = true) →
      (cs.map CodePoint.char).foldl (fun n c => 10 * n + c.digit?.getD 0) m =
        Nat.ofDigitChars 10 cs m := by
    intro cs
    induction cs with
    | nil => intro m _; rfl
    | cons c cs ih =>
      intro m h
      rw [List.map_cons, List.foldl_cons, isDigit_char (h c List.mem_cons_self),
        ih _ (fun d hd => h d (List.mem_cons_of_mem c hd)), Nat.ofDigitChars_cons]
      rfl
  rw [digitsValue_eq_foldl, ofNat, hfold _ _ fun c hc =>
    Nat.isDigit_of_mem_toDigits (by decide) (by decide) hc]
  exact Nat.ofDigitChars_toDigits (by decide) (by decide)

theorem ofNat_ne_nil (n : Nat) : ofNat n ≠ [] := by
  simp [ofNat]

theorem length_ofNat_le {n k : Nat} (hk : 0 < k) : (ofNat n).length ≤ k ↔ n < 10 ^ k := by
  rw [ofNat, List.length_map]
  exact Nat.length_toDigits_le_iff (by decide) hk

/-- Only zero is written with a leading zero. -/
theorem ofNat_head {n : Nat} (h : n ≠ 0) : (ofNat n).head? ≠ some (.char '0') := by
  intro hhead
  obtain ⟨rest, hrest⟩ : ∃ rest, ofNat n = .char '0' :: rest := by
    cases ht : ofNat n with
    | nil => exact absurd ht (ofNat_ne_nil n)
    | cons c rest =>
      rw [ht] at hhead
      cases hhead
      exact ⟨rest, rfl⟩
  -- Without the zero the number would be shorter than it is.
  have hvalue : digitsValue rest = n := by
    have := digitsValue_ofNat n
    rw [hrest, show CodePoint.char '0' :: rest = List.replicate 1 (.char '0') ++ rest from rfl,
      digitsValue_zeros_append] at this
    exact this
  have hlt := digitsValue_lt rest
  rw [hvalue] at hlt
  by_cases hk : rest.length = 0
  · rw [hk] at hlt
    omega
  · have := (length_ofNat_le (by omega)).2 hlt
    rw [hrest, List.length_cons] at this
    omega

end ReportDelivery.Text
