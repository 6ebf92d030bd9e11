import Mathlib.Data.List.Forall2
import ReportDelivery.Json.Printer
import ReportDelivery.Json.Reader

/-! Printed strings read back.

A code point is printed as itself, as a short escape, or, where it is a control character without
one, as a number. Such a number is below the surrogates, so no two parts join and each code point
comes back alone. -/
namespace ReportDelivery.Json

/-! ### Parts -/

/-- The part that a printed code point is read as. -/
inductive PartOf (c : CodePoint) : Part → Prop
  | plain : PartOf c (.plain c)
  | unit (h : c.toNat < 0x20) : PartOf c (.unit c.toNat)

theorem ofNat_toNat {c : CodePoint} (h : c.toNat < 0x20) : CodePoint.ofNat c.toNat = c := by
  cases c with
  | char c =>
    have hlt : c.toNat < 0x20 := h
    have hscalar : ¬ (0xD800 ≤ c.toNat ∧ c.toNat < 0xE000) := by omega
    have hlimit : c.toNat < 0x110000 := by omega
    simp [CodePoint.ofNat, CodePoint.toNat, hscalar, hlimit, Char.ofNat_toNat]
  | surrogate i =>
    simp only [CodePoint.toNat] at h
    omega

theorem joinParts_partOf {t : Text} {parts : List Part} (h : List.Forall₂ PartOf t parts) :
    joinParts parts = t := by
  induction h with
  | nil => rfl
  | @cons c p t parts hp hparts ih =>
    cases hp with
    | plain => rw [joinParts, ih]
    | unit hc =>
      have hhigh : isHigh c.toNat = false := by
        simp [isHigh]
        omega
      have hstep : joinParts (.unit c.toNat :: parts) = .ofNat c.toNat :: joinParts parts := by
        cases parts with
        | nil => rfl
        | cons p parts =>
          cases p with
          | plain d => rfl
          | unit n => simp [joinParts, hhigh]
      rw [hstep, ih, ofNat_toNat hc]

/-! ### Escapes -/

/-- The four digits of a control character. -/
theorem ofHex_control : ∀ n < 0x20, Text.ofHex 4 n =
    [.char '0', .char '0', .char (if n < 16 then '0' else '1'), .char (Nat.digitChar (n % 16))] := by
  decide

theorem hexDigit?_control : ∀ n < 0x20,
    (CodePoint.char (if n < 16 then '0' else '1')).hexDigit? = some (n / 16) ∧
      (CodePoint.char (Nat.digitChar (n % 16))).hexDigit? = some (n % 16) := by
  decide

theorem unit?_control {n : Nat} (hn : n < 0x20) (c : CodePoint) (rest : Text) :
    unit? (.char '0') (.char '0') (.char (if n < 16 then '0' else '1'))
      (.char (Nat.digitChar (n % 16))) (c :: rest) = some n := by
  obtain ⟨hhigh, hlow⟩ := hexDigit?_control n hn
  have hzero : (CodePoint.char '0').hexDigit? = some 0 := rfl
  simp only [unit?, List.isEmpty_cons, hzero, hhigh, hlow]
  exact congrArg some (by omega)

/-- One code point, as it is printed, is read as one part. -/
theorem stringFrom_escape (opening : Text) (done : List Part) (c d : CodePoint) (rest : Text) :
    ∃ p, PartOf c p ∧
      stringFrom opening done (escape c ++ d :: rest) =
        stringFrom opening (p :: done) (d :: rest) := by
  unfold escape
  split
  · exact ⟨_, .plain, by simp [Text.ofString, stringFrom, escaped?]⟩
  · exact ⟨_, .plain, by simp [Text.ofString, stringFrom, escaped?]⟩
  · exact ⟨_, .plain, by simp [Text.ofString, stringFrom, escaped?]⟩
  · exact ⟨_, .plain, by simp [Text.ofString, stringFrom, escaped?]⟩
  · exact ⟨_, .plain, by simp [Text.ofString, stringFrom, escaped?]⟩
  · exact ⟨_, .plain, by simp [Text.ofString, stringFrom, escaped?]⟩
  · exact ⟨_, .plain, by simp [Text.ofString, stringFrom, escaped?]⟩
  · next hquote hbackslash _ _ _ _ _ =>
    split
    · next hc =>
      refine ⟨_, .unit hc, ?_⟩
      rw [ofHex_control _ hc]
      simp [Text.ofString, stringFrom, unit?_control hc]
    · next hc =>
      refine ⟨_, .plain, ?_⟩
      rw [List.singleton_append, stringFrom, if_neg hc]
      · exact hquote
      · intro heq
        exact absurd heq hbackslash
      · intro a b c d more heq
        exact absurd heq hbackslash
      · intro e more heq
        exact absurd heq hbackslash

theorem stringFrom_flatMap (opening : Text) (done : List Part) (t rest : Text) :
    ∃ parts, List.Forall₂ PartOf t parts ∧
      stringFrom opening done (t.flatMap escape ++ .char '"' :: rest) =
        .ok (joinParts (done.reverse ++ parts), rest) := by
  induction t generalizing done with
  | nil => exact ⟨[], .nil, by simp [stringFrom]⟩
  | cons c t ih =>
    obtain ⟨d, more, hmore⟩ : ∃ d more, t.flatMap escape ++ .char '"' :: rest = d :: more :=
      List.exists_cons_of_ne_nil (by simp)
    obtain ⟨p, hp, hstep⟩ := stringFrom_escape opening done c d more
    obtain ⟨parts, hparts, hrest⟩ := ih (p :: done)
    refine ⟨p :: parts, .cons hp hparts, ?_⟩
    rw [List.flatMap_cons, List.append_assoc, hmore, hstep, ← hmore, hrest, List.reverse_cons,
      List.append_assoc, List.singleton_append]

/-- A printed string is read as the string. -/
theorem string_printed (t rest : Text) :
    string (t.flatMap escape ++ .char '"' :: rest) = .ok (t, rest) := by
  obtain ⟨parts, hparts, hread⟩ :=
    stringFrom_flatMap (.char '"' :: (t.flatMap escape ++ .char '"' :: rest)) [] t rest
  rw [string, hread, List.reverse_nil, List.nil_append, joinParts_partOf hparts]

end ReportDelivery.Json
