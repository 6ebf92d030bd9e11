import ReportDelivery.Json.Printer
import ReportDelivery.Json.Reader
import ReportDelivery.Proofs.Numeric.Rounding
import ReportDelivery.Proofs.Text.Blank
import ReportDelivery.Proofs.Text.Digits

/-! Printed numbers read back.

An integer is read as the row of digits that it is. A float is written in one of three layouts, all
of them a whole part, a fraction or an exponent; in each the digits and the exponent together say
what the shortest decimal says, so rounding finds the float again. -/
namespace ReportDelivery

/-! ### The parts of a number -/

namespace Json
open Text

/-- What may stand after a value in a document: its end, or a mark that continues the container. -/
def Follows : Text → Prop
  | [] => True
  | c :: _ => c = .char ',' ∨ c = .char ']' ∨ c = .char '\x7d'

theorem follows_nil : Follows [] := trivial

theorem follows_comma (rest : Text) : Follows (.char ',' :: rest) := .inl rfl

theorem follows_bracket (rest : Text) : Follows (.char ']' :: rest) := .inr (.inl rfl)

theorem follows_brace (rest : Text) : Follows (.char '\x7d' :: rest) := .inr (.inr rfl)

theorem Follows.noDigit {rest : Text} (h : Follows rest) : NoDigit rest := by
  cases rest with
  | nil => rfl
  | cons c rest => rcases h with rfl | rfl | rfl <;> rfl

theorem Follows.fraction {rest : Text} (h : Follows rest) : fractionDigits rest = none := by
  cases rest with
  | nil => rfl
  | cons c rest => rcases h with rfl | rfl | rfl <;> rfl

theorem Follows.exponent {rest : Text} (h : Follows rest) : exponentPart rest = none := by
  cases rest with
  | nil => rfl
  | cons c rest => rcases h with rfl | rfl | rfl <;> rfl

theorem Follows.noExponent {rest : Text} (h : Follows rest) :
    (exponentPart rest).getD (0, rest) = (0, rest) := by
  rw [h.exponent, Option.getD_none]

/-- Digits that may stand before the point: a lone zero, or digits that start with another one. -/
structure IsWhole (w : Text) : Prop where
  digits : IsDigits w
  ne_nil : w ≠ []
  head : w = [.char '0'] ∨ w.head? ≠ some (.char '0')

theorem isWhole_zero : IsWhole [.char '0'] :=
  ⟨isDigits_replicate 1, by simp, .inl rfl⟩

theorem isWhole_ofNat (n : Nat) : IsWhole (ofNat n) := by
  refine ⟨isDigits_ofNat n, ofNat_ne_nil n, ?_⟩
  by_cases h : n = 0
  · subst h
    exact .inl rfl
  · exact .inr (ofNat_head h)

theorem IsWhole.take {digits : Text} (hd : IsWhole digits)
    (hhead : digits.head? ≠ some (.char '0')) (n : Nat) : IsWhole (digits.take (n + 1)) := by
  obtain ⟨c, digits, rfl⟩ := List.exists_cons_of_ne_nil hd.ne_nil
  refine ⟨?_, by simp, .inr hhead⟩
  intro d hmem
  exact hd.digits d (List.mem_of_mem_take hmem)

theorem wholeDigits_append {w rest : Text} (hw : IsWhole w) (hr : NoDigit rest) :
    wholeDigits (w ++ rest) = w := by
  rcases hw.head with rfl | hhead
  · rfl
  · obtain ⟨c, w, rfl⟩ := List.exists_cons_of_ne_nil hw.ne_nil
    have hc : c ≠ .char '0' := by
      intro hzero
      exact hhead (by rw [hzero]; rfl)
    have htake := hw.digits.takeWhile_append hr
    unfold wholeDigits
    split
    · next heq =>
      cases heq
      exact absurd rfl hc
    · exact htake

/-- A point and digits after it. -/
theorem fractionDigits_append {f rest : Text} (hf : IsDigits f) (hne : f ≠ [])
    (hr : NoDigit rest) : fractionDigits (.char '.' :: (f ++ rest)) = some (f, rest) := by
  simp [fractionDigits, hf.takeWhile_append hr, hf.dropWhile_append hr, hne]

/-- The exponent as a float is printed with: a sign, and at least one digit. -/
theorem exponentPart_append {digits rest : Text} (hd : IsDigits digits) (hne : digits ≠ [])
    (hr : NoDigit rest) (negative : Bool) :
    exponentPart (.char 'e' :: .char (if negative then '-' else '+') :: (digits ++ rest)) =
      some (if negative then -(digitsValue digits : Int) else digitsValue digits, rest) := by
  cases negative <;>
    simp [exponentPart, splitSign, hd.takeWhile_append hr, hd.dropWhile_append hr, hne]

/-- Where an exponent stands the digits before it end, and no point stands. -/
theorem starts_of_exponentPart {t left : Text} {exponent : Int}
    (h : exponentPart t = some (exponent, left)) : NoDigit t ∧ fractionDigits t = none := by
  unfold exponentPart at h
  split at h
  · next c rest =>
    split at h
    · next hc =>
      rcases (by simpa using hc : c = 'e' ∨ c = 'E') with rfl | rfl <;> exact ⟨rfl, rfl⟩
    · cases h
  · cases h

theorem noDigit_of_head {c : CodePoint} (rest : Text) (h : c.isDigit = false) :
    NoDigit (c :: rest) := by
  simp [NoDigit, h]

variable (negative : Bool) (start : Text)

theorem unsignedNumber_whole {w rest : Text} (hw : IsWhole w) (hr : Follows rest)
    (hlimit : w.length ≤ digitLimit) :
    unsignedNumber negative start (w ++ rest) =
      .ok (.int (if negative then -(digitsValue w : Int) else digitsValue w), rest) := by
  simp [unsignedNumber, wholeDigits_append hw hr.noDigit, hw.ne_nil, hr.fraction, hr.exponent,
    Nat.not_lt.2 hlimit]

theorem unsignedNumber_fraction {w f rest : Text} (hw : IsWhole w) (hf : IsDigits f)
    (hne : f ≠ []) (hr : NoDigit rest) {exponent : Int} {left : Text}
    (he : (exponentPart rest).getD (0, rest) = (exponent, left)) :
    unsignedNumber negative start (w ++ .char '.' :: (f ++ rest)) =
      .ok (.float (.ofDecimal negative (digitsValue (w ++ f)) (exponent - f.length)), left) := by
  have hwhole : wholeDigits (w ++ .char '.' :: (f ++ rest)) = w :=
    wholeDigits_append hw (noDigit_of_head _ rfl)
  simp [unsignedNumber, hwhole, hw.ne_nil, fractionDigits_append hf hne hr, he]

theorem unsignedNumber_exponent {w rest : Text} (hw : IsWhole w) (hr : NoDigit rest)
    (hf : fractionDigits rest = none) {exponent : Int} {left : Text}
    (he : exponentPart rest = some (exponent, left)) :
    unsignedNumber negative start (w ++ rest) =
      .ok (.float (.ofDecimal negative (digitsValue w) exponent), left) := by
  simp [unsignedNumber, wholeDigits_append hw hr, hw.ne_nil, hf, he]

end Json

/-! ### The layouts of a float -/

namespace Binary64
open Text Json

/-- The digits of a number without the zeros at their end. -/
theorem exists_kept {n : Nat} (hn : n ≠ 0) :
    ∃ kept z, ofNat n = kept ++ List.replicate z (.char '0') ∧
      trimEnd (· = .char '0') (ofNat n) = kept ∧ IsWhole kept ∧ kept.head? ≠ some (.char '0') := by
  obtain ⟨z, hz⟩ := exists_trimEnd_append (.char '0') (ofNat n)
  have hne : trimEnd (· = .char '0') (ofNat n) ≠ [] := by
    intro hnil
    rw [hnil, List.nil_append] at hz
    have hvalue := digitsValue_ofNat n
    rw [hz, digitsValue_zeros] at hvalue
    exact hn hvalue.symm
  have hhead : (trimEnd (· = .char '0') (ofNat n)).head? ≠ some (.char '0') := by
    have := ofNat_head hn
    obtain ⟨c, kept, hkept⟩ := List.exists_cons_of_ne_nil hne
    rw [hz, hkept] at this
    rw [hkept]
    exact this
  have hdigits : IsDigits (trimEnd (· = .char '0') (ofNat n)) := by
    intro c hc
    exact isDigits_ofNat n c (mem_of_mem_trimEnd hc)
  exact ⟨_, z, hz, rfl, ⟨hdigits, hne, .inr hhead⟩, hhead⟩

theorem isDigits_zeros (n : Nat) : IsDigits (zeros n) := isDigits_replicate n

variable (negative : Bool) (start : Text) {rest : Text}

/-- A number with a point whose digits, before and after it, are other digits and `n` zeros. -/
theorem unsignedNumber_point {w f rest : Text} (hw : IsWhole w) (hf : IsDigits f) (hne : f ≠ [])
    (hr : NoDigit rest) {exponent : Int} {left : Text}
    (he : (exponentPart rest).getD (0, rest) = (exponent, left)) {m n : Nat} {shifted : Int}
    (hvalue : digitsValue (w ++ f) = m * tenTo n) (hshifted : exponent - f.length + n = shifted) :
    unsignedNumber negative start (w ++ .char '.' :: (f ++ rest)) =
      .ok (.float (.ofMagnitude negative (decimalMagnitude m shifted)), left) := by
  rw [unsignedNumber_fraction negative start hw hf hne hr he, ofDecimal_eq, hvalue,
    decimalMagnitude_mul, hshifted]

/-- The exponent as it is laid out. -/
theorem exponentPart_layOut (exponent : Int) (hr : Follows rest) :
    exponentPart ((if exponent < 0 then ofString "e-" else ofString "e+") ++
      (zeros (2 - (ofNat exponent.natAbs).length) ++ (ofNat exponent.natAbs ++ rest))) =
      some (exponent, rest) := by
  have hdigits : IsDigits (zeros (2 - (ofNat exponent.natAbs).length) ++ ofNat exponent.natAbs) :=
    (isDigits_replicate _).append (isDigits_ofNat _)
  have hne : zeros (2 - (ofNat exponent.natAbs).length) ++ ofNat exponent.natAbs ≠ [] := by
    simp [ofNat_ne_nil]
  have hpart := exponentPart_append hdigits hne hr.noDigit (exponent < 0)
  rw [zeros, digitsValue_zeros_append, digitsValue_ofNat, ← zeros, List.append_assoc] at hpart
  by_cases hneg : exponent < 0
  · simp only [hneg, decide_true, if_true] at hpart ⊢
    rw [show -(exponent.natAbs : Int) = exponent by omega] at hpart
    exact hpart
  · simp only [hneg, decide_false, if_false, Bool.false_eq_true] at hpart ⊢
    rw [show (exponent.natAbs : Int) = exponent by omega] at hpart
    exact hpart

section
variable {digits : Text} (hdigits : IsWhole digits) (hhead : digits.head? ≠ some (.char '0'))
  (exponent : Int)

include hdigits

/-- Zeros stand between the point and the digits. -/
theorem unsignedNumber_zeros_before (hexponent : exponent < 0) (hr : Follows rest) :
    unsignedNumber negative start
        (ofString "0." ++ zeros (-exponent - 1).toNat ++ digits ++ rest) =
      .ok (.float (.ofMagnitude negative
        (decimalMagnitude (digitsValue digits) (exponent + 1 - digits.length))), rest) := by
  have htext : ofString "0." ++ zeros (-exponent - 1).toNat ++ digits ++ rest =
      [.char '0'] ++ .char '.' :: (zeros (-exponent - 1).toNat ++ digits ++ rest) := by
    simp [ofString]
  have hvalue : digitsValue ([.char '0'] ++ (zeros (-exponent - 1).toNat ++ digits)) =
      digitsValue digits * tenTo 0 := by
    rw [← List.append_assoc, zeros, ← List.replicate_one, List.replicate_append_replicate,
      digitsValue_zeros_append, show tenTo 0 = 1 from rfl, Nat.mul_one]
  rw [htext]
  refine unsignedNumber_point negative start isWhole_zero
    ((isDigits_zeros _).append hdigits.digits) (by simp [hdigits.ne_nil]) hr.noDigit hr.noExponent
    hvalue ?_
  simp only [zeros, List.length_append, List.length_replicate]
  omega

include hhead

/-- Zeros stand between the digits and the point, and one after it. -/
theorem unsignedNumber_zeros_after (hexponent : 0 ≤ exponent)
    (hplaces : digits.length ≤ exponent.toNat + 1) (hr : Follows rest) :
    unsignedNumber negative start
        (digits ++ zeros (exponent.toNat + 1 - digits.length) ++ ofString ".0" ++ rest) =
      .ok (.float (.ofMagnitude negative
        (decimalMagnitude (digitsValue digits) (exponent + 1 - digits.length))), rest) := by
  have htext : digits ++ zeros (exponent.toNat + 1 - digits.length) ++ ofString ".0" ++ rest =
      digits ++ zeros (exponent.toNat + 1 - digits.length) ++
        .char '.' :: ([.char '0'] ++ rest) := by
    simp [ofString]
  have hwhole : IsWhole (digits ++ zeros (exponent.toNat + 1 - digits.length)) := by
    obtain ⟨c, digits, rfl⟩ := List.exists_cons_of_ne_nil hdigits.ne_nil
    exact ⟨hdigits.digits.append (isDigits_zeros _), by simp, .inr hhead⟩
  have hvalue : digitsValue (digits ++ zeros (exponent.toNat + 1 - digits.length) ++
      [.char '0']) = digitsValue digits * tenTo (exponent.toNat + 1 - digits.length + 1) := by
    rw [List.append_assoc, zeros, ← List.replicate_one, List.replicate_append_replicate,
      digitsValue_append_zeros, tenTo_eq]
  rw [htext]
  refine unsignedNumber_point negative start hwhole isWhole_zero.digits (by simp)
    hr.noDigit hr.noExponent hvalue ?_
  simp only [List.length_singleton]
  omega

/-- The point stands after the first `n + 1` digits, before whatever follows the number's digits. -/
theorem unsignedNumber_split {n : Nat} (hn : n + 1 < digits.length) {rest left : Text}
    (hr : NoDigit rest) {shift : Int}
    (he : (exponentPart rest).getD (0, rest) = (shift, left)) :
    unsignedNumber negative start
        (join (ofString ".") [digits.take (n + 1), digits.drop (n + 1)] ++ rest) =
      .ok (.float (.ofMagnitude negative
        (decimalMagnitude (digitsValue digits) (shift + n + 1 - digits.length))), left) := by
  have htext : join (ofString ".") [digits.take (n + 1), digits.drop (n + 1)] ++ rest =
      digits.take (n + 1) ++ .char '.' :: (digits.drop (n + 1) ++ rest) := by
    simp [ofString, join]
  have hvalue : digitsValue (digits.take (n + 1) ++ digits.drop (n + 1)) =
      digitsValue digits * tenTo 0 := by
    rw [List.take_append_drop, show tenTo 0 = 1 from rfl, Nat.mul_one]
  have hdrop : IsDigits (digits.drop (n + 1)) := by
    intro c hc
    exact hdigits.digits c (List.mem_of_mem_drop hc)
  have hne : digits.drop (n + 1) ≠ [] := mt List.drop_eq_nil_iff.1 (by omega)
  rw [htext]
  refine unsignedNumber_point negative start (hdigits.take hhead n) hdrop hne hr he hvalue ?_
  simp only [List.length_drop]
  omega

theorem unsignedNumber_layOut (hr : Follows rest) :
    unsignedNumber negative start (layOut digits exponent ++ rest) =
      .ok (.float (.ofMagnitude negative
        (decimalMagnitude (digitsValue digits) (exponent + 1 - digits.length))), rest) := by
  have hlen : digits.length ≠ 0 := by
    simpa using hdigits.ne_nil
  unfold layOut
  split
  · next hsmall => exact unsignedNumber_zeros_before negative start hdigits exponent hsmall.2 hr
  · split
    · next hlarge =>
      dsimp only
      split
      · next hplaces =>
        exact unsignedNumber_zeros_after negative start hdigits hhead exponent hlarge.1 hplaces hr
      · next hplaces =>
        rw [unsignedNumber_split negative start hdigits hhead (by omega) hr.noDigit hr.noExponent,
          show (0 : Int) + exponent.toNat + 1 = exponent + 1 by omega]
    · dsimp only
      have hexponent := exponentPart_layOut exponent hr
      obtain ⟨hnoDigit, hfraction⟩ := starts_of_exponentPart hexponent
      rw [List.append_assoc, List.append_assoc, List.append_assoc]
      split
      · next hone =>
        rw [unsignedNumber_exponent negative start hdigits hnoDigit hfraction hexponent,
          ofDecimal_eq, show exponent + 1 - (digits.length : Int) = exponent by omega]
      · next hone =>
        rw [unsignedNumber_split negative start hdigits hhead (n := 0) (by omega) hnoDigit
            (by rw [hexponent, Option.getD_some]),
          show exponent + (0 : Nat) + 1 = exponent + 1 by omega]

end

theorem unsignedNumber_layout (d : Decimal) (hd : d.digits ≠ 0) (hr : Follows rest) :
    unsignedNumber negative start (d.layout ++ rest) =
      .ok (.float (.ofMagnitude negative (decimalMagnitude d.digits d.exponent)), rest) := by
  obtain ⟨kept, z, hz, htrim, hkept, hhead⟩ := exists_kept hd
  have hlayout : d.layout = layOut kept (d.exponent + (ofNat d.digits).length - 1) := by
    simp only [Decimal.layout, htrim]
    split
    · exact absurd rfl hkept.ne_nil
    · rfl
  have hvalue : d.digits = digitsValue kept * tenTo z := by
    rw [← digitsValue_ofNat d.digits, hz, digitsValue_append_zeros, tenTo_eq]
  rw [hlayout, unsignedNumber_layOut negative start hkept hhead _ hr, hz, List.length_append,
    List.length_replicate, hvalue, decimalMagnitude_mul]
  congr 5
  omega

end Binary64

/-! ### Numbers among words -/

namespace Json
open Text Binary64

/-- A number starts with a digit. -/
theorem starts_of_unsignedNumber {negative : Bool} {start t : Text} {v : Value} {rest : Text}
    (h : unsignedNumber negative start t = .ok (v, rest)) :
    ∃ c more, t = c :: more ∧ c.isDigit = true := by
  have hwhole : wholeDigits t ≠ [] := by
    intro hnil
    simp [unsignedNumber, hnil, stop] at h
  cases t with
  | nil => exact absurd rfl hwhole
  | cons c more =>
    refine ⟨c, more, rfl, ?_⟩
    by_contra hc
    refine hwhole ?_
    unfold wholeDigits
    split
    · next heq =>
      cases heq
      exact absurd rfl hc
    · exact List.takeWhile_cons_of_neg hc

theorem ne_of_isDigit {c : CodePoint} (hc : c.isDigit = true) (d : Char)
    (hd : (CodePoint.char d).isDigit = false) : CodePoint.char d ≠ c := by
  rintro rfl
  rw [hd] at hc
  cases hc

theorem word_of_unsigned {t rest : Text} {v : Value}
    (h : unsignedNumber false t t = .ok (v, rest)) : word t = .ok (v, rest) := by
  obtain ⟨c, more, rfl, hc⟩ := starts_of_unsignedNumber h
  have hne := ne_of_isDigit hc
  have hnumber : number (c :: more) = unsignedNumber false (c :: more) (c :: more) := by
    unfold number
    split
    · next heq =>
      cases heq
      cases hc
    · rfl
  simp [word, after?, ofString, hne 'n' rfl, hne 't' rfl, hne 'f' rfl, hne 'N' rfl, hne 'I' rfl,
    hne '-' rfl, hnumber, h]

theorem word_of_negative {t rest : Text} {v : Value}
    (h : unsignedNumber true (.char '-' :: t) t = .ok (v, rest)) :
    word (.char '-' :: t) = .ok (v, rest) := by
  obtain ⟨c, more, rfl, hc⟩ := starts_of_unsignedNumber h
  have hne := ne_of_isDigit hc
  simp [word, after?, ofString, hne 'I' rfl, number, h]

/-- A printed integer is read as the integer. -/
theorem word_ofInt {i : Int} (hlimit : (ofNat i.natAbs).length ≤ digitLimit) {rest : Text}
    (hr : Follows rest) : word (ofInt i ++ rest) = .ok (.int i, rest) := by
  cases i with
  | ofNat n =>
    refine word_of_unsigned ?_
    rw [ofInt, unsignedNumber_whole _ _ (isWhole_ofNat n) hr hlimit, digitsValue_ofNat]
    rfl
  | negSucc n =>
    rw [ofInt, List.cons_append]
    refine word_of_negative ?_
    rw [unsignedNumber_whole _ _ (isWhole_ofNat (n + 1)) hr hlimit, digitsValue_ofNat]
    rfl

theorem unsignedNumber_magnitude (negative : Bool) (start : Text) {k : Nat}
    (hk : k < magnitudeLimit) {rest : Text} (hr : Follows rest) :
    unsignedNumber negative start
        ((if k = 0 then ofString "0.0" else (shortest k).layout) ++ rest) =
      .ok (.float (.finite negative k hk), rest) := by
  by_cases hzero : k = 0
  · subst hzero
    have htext : ofString "0.0" ++ rest = [.char '0'] ++ .char '.' :: ([.char '0'] ++ rest) := by
      simp [ofString]
    have hvalue : digitsValue ([.char '0'] ++ [.char '0']) = 0 * tenTo 0 := rfl
    rw [if_pos rfl, htext, unsignedNumber_point negative start isWhole_zero isWhole_zero.digits
      (by simp) hr.noDigit hr.noExponent hvalue rfl, decimalMagnitude_zero,
      ofMagnitude_of_lt negative hk]
  · rw [if_neg hzero, unsignedNumber_layout negative start _ (shortest_digits_ne_zero hk hzero) hr,
      decimalMagnitude_shortest hk, ofMagnitude_of_lt negative hk]

/-- A printed float is read as the float. -/
theorem word_printFloat (x : Binary64) {rest : Text} (hr : Follows rest) :
    word (printFloat x ++ rest) = .ok (.float x, rest) := by
  cases x with
  | nan => simp [printFloat, word, after?, ofString]
  | infinity negative => cases negative <;> simp [printFloat, word, after?, ofString]
  | finite negative k hk =>
    cases negative with
    | false =>
      rw [printFloat, finiteText, if_neg Bool.false_ne_true]
      exact word_of_unsigned (unsignedNumber_magnitude false _ hk hr)
    | true =>
      rw [printFloat, finiteText, if_pos rfl, List.append_assoc,
        show ofString "-" = [.char '-'] by simp [ofString], List.singleton_append]
      exact word_of_negative (unsignedNumber_magnitude true _ hk hr)

end Json
end ReportDelivery
