import ReportDelivery.Proofs.Json.Progress
import ReportDelivery.Proofs.Text.Digits
import ReportDelivery.Proofs.Text.LineEnds

/-! Line ends do not matter to JSON.

Between tokens both carriage return and line feed are blank, and within a token neither may stand.
So a text and the same text with unified line ends are read step by step alike (`Unified`): both
readings stop for the same reason, or both give the same value and leave the same text but for its
line ends. `read_unified`: the two documents are the same value, or the same is wrong with both. -/
namespace ReportDelivery.Json
open Text

/-! ### Tokens -/

/-- Two readings stop for the same reason. Where they stop may differ. -/
inductive Stop.Alike : Stop → Stop → Prop
  | at (problem : Problem) (rest rest' : Text) : Alike (.at problem rest) (.at problem rest')
  | integerTooLong (digits : Nat) : Alike (.integerTooLong digits) (.integerTooLong digits)

/-- Both readings stop for the same reason, or both give the same, and the second one leaves what
the first one leaves with unified line ends. -/
inductive Unified {α : Type} : Except Stop (α × Text) → Except Stop (α × Text) → Prop
  | ok (a : α) (rest : Text) : Unified (.ok (a, rest)) (.ok (a, rest.unifyLineEnds))
  | stop {first second : Stop} (h : first.Alike second) : Unified (.error first) (.error second)

theorem Unified.bind {α β : Type} {x y : Except Stop (α × Text)}
    {f g : α × Text → Except Stop (β × Text)} (h : Unified x y)
    (hf : ∀ a rest, x = .ok (a, rest) → Unified (f (a, rest)) (g (a, rest.unifyLineEnds))) :
    Unified (x >>= f) (y >>= g) := by
  cases h with
  | ok a rest => exact hf a rest rfl
  | stop hstop => exact .stop hstop

theorem skipBlank_unifyLineEnds (t : Text) :
    skipBlank t.unifyLineEnds = unifyLineEnds (skipBlank t) :=
  dropWhile_unifyLineEnds rfl t

theorem after?_eq_some {w : String} {t rest : Text} :
    after? w t = some rest ↔ t = ofString w ++ rest := by
  unfold after?
  dsimp only
  rw [Option.ite_none_right_eq_some, List.isPrefixOf_iff_prefix, Option.some.injEq]
  constructor
  · rintro ⟨⟨left, rfl⟩, rfl⟩
    rw [List.drop_left]
  · rintro rfl
    exact ⟨List.prefix_append _ _, List.drop_left⟩

theorem after?_unifyLineEnds {w : String} (hw : ∀ c ∈ ofString w, Inline c) (t : Text) :
    after? w t.unifyLineEnds = (after? w t).map unifyLineEnds := by
  ext left
  rw [after?_eq_some, unifyLineEnds_eq_append hw, Option.map_eq_some_iff]
  exact exists_congr fun rest => and_congr after?_eq_some.symm eq_comm

theorem keyword?_unifyLineEnds (t : Text) :
    keyword? t.unifyLineEnds = (keyword? t).map fun (v, rest) => (v, unifyLineEnds rest) := by
  have hwords : ∀ word ∈ keywords, ∀ c ∈ ofString word.1, Inline c := by
    simp only [keywords, List.forall_mem_cons]
    decide
  unfold keyword?
  generalize keywords = words at hwords
  induction words with
  | nil => rfl
  | cons word words ih =>
    obtain ⟨hword, hrest⟩ := List.forall_mem_cons.1 hwords
    rw [List.findSome?_cons, List.findSome?_cons, after?_unifyLineEnds hword, ih hrest]
    cases after? word.1 t <;> rfl

theorem wholeDigits_cons {c : CodePoint} (h : c ≠ .char '0') (t : Text) :
    wholeDigits (c :: t) = (c :: t).takeWhile CodePoint.isDigit := by
  unfold wholeDigits
  split
  · next heq =>
    cases heq
    exact absurd rfl h
  · rfl

theorem isDigits_wholeDigits (t : Text) : IsDigits (wholeDigits t) := by
  unfold wholeDigits
  split
  · exact isDigits_replicate 1
  · exact List.all_eq_true.1 List.all_takeWhile

theorem wholeDigits_unifyLineEnds (t : Text) : wholeDigits t.unifyLineEnds = wholeDigits t := by
  rcases unifyLineEnds_cases t with rfl | ⟨rest, more, rfl, h⟩ | ⟨c, rest, rfl, -, h⟩
  · rfl
  · rw [h]
    rfl
  · by_cases hzero : c = .char '0'
    · rw [h, hzero]
      rfl
    · rw [h, wholeDigits_cons hzero, wholeDigits_cons hzero, ← h, takeWhile_unifyLineEnds rfl rfl]

/-- The text after the digits. -/
theorem drop_wholeDigits (t : Text) : t.unifyLineEnds.drop (wholeDigits t).length =
    unifyLineEnds (t.drop (wholeDigits t).length) := by
  obtain ⟨rest, hrest⟩ := wholeDigits_starts t
  have hreturn : .char '\r' ∉ wholeDigits t := fun hmem => by
    cases isDigits_wholeDigits t _ hmem
  generalize wholeDigits t = w at hrest hreturn
  rw [← hrest, unifyLineEnds_append hreturn, List.drop_left, List.drop_left]

theorem fractionDigits_cons {c : CodePoint} (h : c ≠ .char '.') (t : Text) :
    fractionDigits (c :: t) = none := by
  unfold fractionDigits
  split
  · next heq =>
    cases heq
    exact absurd rfl h
  · rfl

theorem fractionDigits_unifyLineEnds (t : Text) : fractionDigits t.unifyLineEnds =
    (fractionDigits t).map fun (digits, rest) => (digits, unifyLineEnds rest) := by
  rcases unifyLineEnds_cases t with rfl | ⟨rest, more, rfl, h⟩ | ⟨c, rest, rfl, -, h⟩
  · rfl
  · rw [h]
    rfl
  · rw [h]
    by_cases hpoint : c = .char '.'
    · subst hpoint
      simp only [fractionDigits, takeWhile_unifyLineEnds (p := CodePoint.isDigit) rfl rfl,
        dropWhile_unifyLineEnds (p := CodePoint.isDigit) rfl]
      split <;> rfl
    · rw [fractionDigits_cons hpoint, fractionDigits_cons hpoint]
      rfl

theorem exponentPart_unifyLineEnds (t : Text) : exponentPart t.unifyLineEnds =
    (exponentPart t).map fun (exponent, rest) => (exponent, unifyLineEnds rest) := by
  rcases unifyLineEnds_cases t with rfl | ⟨rest, more, rfl, h⟩ | ⟨c, rest, rfl, -, h⟩
  · rfl
  · rw [h]
    rfl
  · rw [h]
    cases c with
    | surrogate i => rfl
    | char c =>
      simp only [exponentPart, splitSign_unifyLineEnds,
        takeWhile_unifyLineEnds (p := CodePoint.isDigit) rfl rfl,
        dropWhile_unifyLineEnds (p := CodePoint.isDigit) rfl]
      split
      · split <;> rfl
      · rfl

theorem unsignedNumber_unified (negative : Bool) (start start' t : Text) :
    Unified (unsignedNumber negative start t) (unsignedNumber negative start' t.unifyLineEnds) := by
  unfold unsignedNumber
  dsimp only
  rw [wholeDigits_unifyLineEnds, drop_wholeDigits, fractionDigits_unifyLineEnds,
    exponentPart_unifyLineEnds]
  generalize t.drop (wholeDigits t).length = rest
  split
  · exact .stop (.at _ _ _)
  · rcases fractionDigits rest with _ | ⟨fraction, left⟩
    · rcases exponentPart rest with _ | ⟨exponent, left⟩
      · dsimp only [Option.map_none]
        split
        · exact .stop (.integerTooLong _)
        · exact .ok _ rest
      · exact .ok _ left
    · dsimp only [Option.map_some]
      rw [exponentPart_unifyLineEnds]
      rcases exponentPart left with _ | ⟨exponent, last⟩
      · exact .ok _ left
      · exact .ok _ last

theorem number_unified (t : Text) : Unified (number t) (number t.unifyLineEnds) := by
  rcases unifyLineEnds_cases t with rfl | ⟨rest, more, rfl, h⟩ | ⟨c, rest, rfl, -, h⟩
  · exact .stop (.at _ _ _)
  · rw [h]
    exact .stop (.at _ _ _)
  · by_cases hminus : c = .char '-'
    · subst hminus
      rw [h]
      exact unsignedNumber_unified _ _ _ _
    · have hnumber (t : Text) : number (c :: t) = unsignedNumber false (c :: t) (c :: t) := by
        unfold number
        split
        · next heq =>
          cases heq
          exact absurd rfl hminus
        · rfl
      rw [h, hnumber, hnumber, ← h]
      exact unsignedNumber_unified _ _ _ _

theorem word_unified (t : Text) : Unified (word t) (word t.unifyLineEnds) := by
  rw [word_eq, word_eq, keyword?_unifyLineEnds]
  rcases keyword? t with _ | ⟨v, rest⟩
  · exact number_unified t
  · exact .ok v rest

/-! ### Strings -/

/-- The number that some hexadecimal digits write after others that write `n`. -/
def hexDigits? : (count n : Nat) → Text → Option (Nat × Text)
  | 0, n, t => some (n, t)
  | _ + 1, _, [] => none
  | count + 1, n, c :: rest => c.hexDigit?.bind fun digit => hexDigits? count (n * 16 + digit) rest

/-- Four hexadecimal digits that something follows. -/
def unitAt? (t : Text) : Option (Part × Text) :=
  (hexDigits? 4 0 t).bind fun (n, rest) => if rest.isEmpty then none else some (.unit n, rest)

/-- What is read after a backslash. -/
def escapeAt? : Text → Option (Part × Text)
  | [] => none
  | c :: rest =>
    if c = .char 'u' then unitAt? rest else (escaped? c).map fun d => (.plain (.char d), rest)

/-- What is wrong after a backslash that no part follows. -/
def escapeProblem : Text → Problem
  | [] => .unterminatedString
  | c :: _ => if c = .char 'u' then .badUnicodeEscape else .badEscape

theorem hexDigits?_unifyLineEnds (count n : Nat) (t : Text) :
    hexDigits? count n t.unifyLineEnds =
      (hexDigits? count n t).map fun (n, rest) => (n, unifyLineEnds rest) := by
  induction count generalizing n t with
  | zero => rfl
  | succ count ih =>
    rcases unifyLineEnds_cases t with rfl | ⟨rest, more, rfl, h⟩ | ⟨c, rest, rfl, -, h⟩
    · rfl
    · rw [h]
      rfl
    · rw [h, hexDigits?, hexDigits?]
      cases c.hexDigit? with
      | none => rfl
      | some digit => exact ih _ rest

theorem unitAt?_unifyLineEnds (t : Text) :
    unitAt? t.unifyLineEnds = (unitAt? t).map fun (part, rest) => (part, unifyLineEnds rest) := by
  rw [unitAt?, unitAt?, hexDigits?_unifyLineEnds]
  rcases hexDigits? 4 0 t with _ | ⟨n, rest⟩
  · rfl
  · simp only [Option.map_some, Option.bind_some, isEmpty_unifyLineEnds]
    split <;> rfl

theorem escapeAt?_unifyLineEnds (t : Text) : escapeAt? t.unifyLineEnds =
    (escapeAt? t).map fun (part, rest) => (part, unifyLineEnds rest) := by
  rcases unifyLineEnds_cases t with rfl | ⟨rest, more, rfl, h⟩ | ⟨c, rest, rfl, -, h⟩
  · rfl
  · rw [h]
    rfl
  · rw [h, escapeAt?, escapeAt?]
    split
    · exact unitAt?_unifyLineEnds rest
    · cases escaped? c <;> rfl

theorem escapeProblem_unifyLineEnds (t : Text) :
    escapeProblem t.unifyLineEnds = escapeProblem t := by
  rcases unifyLineEnds_cases t with rfl | ⟨rest, more, rfl, h⟩ | ⟨c, rest, rfl, -, h⟩
  · rfl
  · rw [h]
    rfl
  · rw [h]
    rfl

theorem unitAt?_cons (a b c d : CodePoint) (rest : Text) : unitAt? (a :: b :: c :: d :: rest) =
    (unit? a b c d rest).map fun n => (.unit n, rest) := by
  simp only [unitAt?, hexDigits?, unit?]
  cases a.hexDigit? <;> cases b.hexDigit? <;> cases c.hexDigit? <;> cases d.hexDigit? <;>
    cases rest <;> simp

theorem unitAt?_of_short {t : Text} (h : ∀ a b c d rest, t ≠ a :: b :: c :: d :: rest) :
    unitAt? t = none := by
  rcases t with _ | ⟨a, _ | ⟨b, _ | ⟨c, _ | ⟨d, rest⟩⟩⟩⟩
  · rfl
  · simp [unitAt?, hexDigits?]
  · simp [unitAt?, hexDigits?]
  · simp [unitAt?, hexDigits?]
  · exact absurd rfl (h a b c d rest)

theorem hexDigits?_length {count n value : Nat} {t rest : Text}
    (h : hexDigits? count n t = some (value, rest)) : rest.length ≤ t.length := by
  induction count generalizing n t with
  | zero =>
    cases h
    exact Nat.le_refl _
  | succ count ih =>
    cases t with
    | nil => cases h
    | cons c t =>
      obtain ⟨digit, -, hdigits⟩ := Option.bind_eq_some_iff.1 h
      exact (ih hdigits).trans (Nat.le_succ _)

theorem escapeAt?_length {t rest : Text} {part : Part} (h : escapeAt? t = some (part, rest)) :
    rest.length ≤ t.length := by
  cases t with
  | nil => cases h
  | cons c t =>
    rw [escapeAt?] at h
    split at h
    · obtain ⟨⟨n, left⟩, hdigits, hleft⟩ := Option.bind_eq_some_iff.1 h
      dsimp only at hleft
      split at hleft
      · cases hleft
      · cases hleft
        exact (hexDigits?_length hdigits).trans (Nat.le_succ _)
    · obtain ⟨d, -, ⟨⟩⟩ := Option.map_eq_some_iff.1 h
      exact Nat.le_succ _

section
variable (opening : Text) (done : List Part)

/-- What stands after a backslash is read as one part, or the string stops. -/
theorem stringFrom_backslash (t : Text) : ∃ rest, stringFrom opening done (.char '\\' :: t) =
    match escapeAt? t with
    | some (part, rest) => stringFrom opening (part :: done) rest
    | none => stop (escapeProblem t) rest := by
  generalize hx : CodePoint.char '\\' :: t = x
  fun_cases stringFrom opening done x with
  | case1 => cases hx
  | case2 => cases hx
  | case3 =>
    cases hx
    exact ⟨_, rfl⟩
  | case4 a b c d rest n hn =>
    cases hx
    rw [escapeAt?, if_pos rfl, unitAt?_cons, hn]
    exact ⟨opening, rfl⟩
  | case5 a b c d rest hn =>
    cases hx
    rw [escapeAt?, if_pos rfl, unitAt?_cons, hn]
    exact ⟨_, rfl⟩
  | case6 e rest hshort c hc =>
    cases hx
    have hunit : e ≠ .char 'u' := by
      rintro rfl
      cases hc
    rw [escapeAt?, if_neg hunit, hc]
    exact ⟨opening, rfl⟩
  | case7 rest hshort hnone =>
    cases hx
    rw [escapeAt?, if_pos rfl, unitAt?_of_short fun a b c d left => hshort a b c d left rfl]
    exact ⟨_, rfl⟩
  | case8 e rest hshort hnone hunit =>
    cases hx
    rw [escapeAt?, if_neg hunit, hnone, escapeProblem, if_neg hunit]
    exact ⟨_, rfl⟩
  | case9 c rest _ hlast _ hmore | case10 c rest _ hlast _ hmore =>
    obtain ⟨rfl, rfl⟩ := List.cons.inj hx
    cases t with
    | nil => exact absurd rfl (hlast rfl)
    | cons e rest => exact absurd rfl (hmore e rest rfl)

/-- Any other code point than quote and backslash. -/
theorem stringFrom_other {c : CodePoint} (hquote : c ≠ .char '"') (hescape : c ≠ .char '\\')
    (t : Text) : stringFrom opening done (c :: t) =
      if c.toNat < 0x20 then stop .controlCharacter (c :: t)
      else stringFrom opening (.plain c :: done) t := by
  rw [stringFrom]
  · exact hquote
  · intro heq
    exact absurd heq hescape
  · intro a b c d more heq
    exact absurd heq hescape
  · intro e more heq
    exact absurd heq hescape

end

theorem stringFrom_unified (opening opening' : Text) (done : List Part) (t : Text) :
    Unified (stringFrom opening done t) (stringFrom opening' done t.unifyLineEnds) := by
  induction hlength : t.length using Nat.strong_induction_on generalizing done t with
  | _ n ih =>
    subst hlength
    rcases unifyLineEnds_cases t with rfl | ⟨rest, more, rfl, h⟩ | ⟨c, rest, rfl, -, h⟩
    · exact .stop (.at _ _ _)
    · rw [h]
      exact .stop (.at _ _ _)
    · rw [h]
      by_cases hquote : c = .char '"'
      · subst hquote
        exact .ok _ rest
      by_cases hescape : c = .char '\\'
      · subst hescape
        obtain ⟨offending, hread⟩ := stringFrom_backslash opening done rest
        obtain ⟨offending', hread'⟩ := stringFrom_backslash opening' done (unifyLineEnds rest)
        rw [escapeAt?_unifyLineEnds, escapeProblem_unifyLineEnds] at hread'
        rw [hread, hread']
        rcases hpart : escapeAt? rest with _ | ⟨part, left⟩
        · exact .stop (.at _ offending offending')
        · exact ih _ (Nat.lt_succ_of_le (escapeAt?_length hpart)) (part :: done) left rfl
      · rw [stringFrom_other opening done hquote hescape,
          stringFrom_other opening' done hquote hescape]
        split
        · exact .stop (.at _ _ _)
        · exact ih _ (Nat.lt_succ_self _) (.plain c :: done) rest rfl

theorem string_unified (t : Text) : Unified (string t) (string t.unifyLineEnds) :=
  stringFrom_unified _ _ [] t

/-! ### Values -/

section
variable {α : Type} {more more' : Text → Except Stop (α × Text)} {c : CodePoint}

theorem closeOr_unified (hc : Inline c) (whole : α)
    (hmore : ∀ t, Unified (more t) (more' t.unifyLineEnds)) (t : Text) :
    Unified (closeOr c whole more t) (closeOr c whole more' t.unifyLineEnds) := by
  have hnext := hmore (skipBlank t)
  unfold closeOr
  rw [skipBlank_unifyLineEnds]
  rcases unifyLineEnds_cases (skipBlank t) with h | ⟨rest, rest', h, hends⟩ | ⟨d, rest, h, -, hends⟩
  · rw [h] at hnext ⊢
    exact hnext
  · rw [hends, h] at hnext ⊢
    dsimp only
    rw [if_neg hc.1.symm, if_neg hc.2.symm]
    exact hnext
  · rw [hends, h] at hnext ⊢
    dsimp only
    split
    · exact .ok whole rest
    · exact hnext

theorem expect_unified (hc : Inline c) (problem : Problem)
    (hmore : ∀ t, Unified (more t) (more' t.unifyLineEnds)) (t : Text) :
    Unified (expect c problem more t) (expect c problem more' t.unifyLineEnds) := by
  unfold expect
  rcases unifyLineEnds_cases t with rfl | ⟨rest, rest', rfl, h⟩ | ⟨d, rest, rfl, -, h⟩
  · exact .stop (.at _ _ _)
  · rw [h]
    dsimp only
    rw [if_neg hc.1.symm, if_neg hc.2.symm]
    exact .stop (.at _ _ _)
  · rw [h]
    dsimp only
    split
    · rw [skipBlank_unifyLineEnds]
      exact hmore (skipBlank rest)
    · exact .stop (.at _ _ _)

end

theorem memberName_unified (t : Text) :
    Unified (memberName t) (memberName t.unifyLineEnds) := by
  unfold memberName
  rcases unifyLineEnds_cases t with rfl | ⟨rest, rest', rfl, h⟩ | ⟨c, rest, rfl, -, h⟩
  · exact .stop (.at _ _ _)
  · rw [h]
    exact .stop (.at _ _ _)
  · rw [h]
    dsimp only
    split
    · exact string_unified rest
    · exact .stop (.at _ _ _)

/-- Reading with some fuel does not depend on the line ends. -/
structure Unifies (fuel : Nat) : Prop where
  value : ∀ t, Unified (value fuel t) (value fuel t.unifyLineEnds)
  elements : ∀ done t, Unified (elements fuel done t) (elements fuel done t.unifyLineEnds)
  members : ∀ done t, Unified (members fuel done t) (members fuel done t.unifyLineEnds)

namespace Unifies

variable {fuel : Nat} (ih : Unifies fuel)
include ih

theorem value_succ (t : Text) :
    Unified (Json.value (fuel + 1) t) (Json.value (fuel + 1) t.unifyLineEnds) := by
  rcases unifyLineEnds_cases t with rfl | ⟨rest, rest', rfl, h⟩ | ⟨c, body, rfl, -, h⟩
  · exact .stop (.at _ _ _)
  · rw [h]
    exact .stop (.at _ _ _)
  · have hword := word_unified (c :: body)
    rw [h] at hword ⊢
    rw [value_cons, value_cons]
    split
    · exact (string_unified body).bind fun s rest _ => .ok _ rest
    · split
      · exact closeOr_unified (by decide) _ (ih.elements []) body
      · split
        · exact closeOr_unified (by decide) _ (ih.members []) body
        · exact hword

theorem elements_succ (done : List Value) (t : Text) : Unified (Json.elements (fuel + 1) done t)
    (Json.elements (fuel + 1) done t.unifyLineEnds) := by
  rw [Json.elements_succ, Json.elements_succ]
  refine (ih.value t).bind fun v rest _ => ?_
  exact closeOr_unified (by decide) _ (expect_unified (by decide) _ (ih.elements _)) rest

theorem members_succ (done : Members) (t : Text) : Unified (Json.members (fuel + 1) done t)
    (Json.members (fuel + 1) done t.unifyLineEnds) := by
  rw [Json.members_succ, Json.members_succ]
  refine (memberName_unified t).bind fun key rest _ => ?_
  dsimp only
  rw [skipBlank_unifyLineEnds]
  refine expect_unified (by decide) _ (fun body => ?_) (skipBlank rest)
  refine (ih.value body).bind fun v rest _ => ?_
  exact closeOr_unified (by decide) _ (expect_unified (by decide) _ (ih.members _)) rest

end Unifies

theorem unifies (fuel : Nat) : Unifies fuel := by
  induction fuel with
  | zero => exact ⟨fun _ => .stop (.at _ _ _), fun _ _ => .stop (.at _ _ _), fun _ _ => .stop (.at _ _ _)⟩
  | succ fuel ih => exact ⟨ih.value_succ, ih.elements_succ, ih.members_succ⟩

/-! ### Documents -/

/-- Two documents are the same value, or neither is one, for the same reason. -/
inductive SameDocument : Except Stop Value → Except Stop Value → Prop
  | ok (v : Value) : SameDocument (.ok v) (.ok v)
  | stop {first second : Stop} (h : first.Alike second) : SameDocument (.error first) (.error second)

theorem document_unified (t : Text) : SameDocument (document t) (document t.unifyLineEnds) := by
  have hblank := length_skipBlank_le t.unifyLineEnds
  have hlength := length_unifyLineEnds_le t
  have hfuel : value (fuelFor t.unifyLineEnds) (skipBlank t.unifyLineEnds) =
      value (fuelFor t) (skipBlank t.unifyLineEnds) := by
    unfold fuelFor
    exact (value_of_le (by omega) (by omega)).symm
  have hread := (unifies (fuelFor t)).value (skipBlank t)
  unfold document
  rw [hfuel, skipBlank_unifyLineEnds]
  by_cases hmark : t.head? = some (.char '\uFEFF')
  · rw [if_pos hmark, if_pos ((head?_unifyLineEnds (by decide) t).2 hmark)]
    exact .stop (.at _ _ _)
  rw [if_neg hmark, if_neg (mt (head?_unifyLineEnds (by decide) t).1 hmark)]
  generalize value (fuelFor t) (skipBlank t) = x,
    value (fuelFor t) (skipBlank t).unifyLineEnds = y at hread
  cases hread with
  | stop hstop => exact .stop hstop
  | ok v rest =>
    simp only [ok_bind]
    rw [skipBlank_unifyLineEnds]
    rcases unifyLineEnds_cases (skipBlank rest) with h | ⟨left, left', h, hends⟩ |
      ⟨d, left, h, -, hends⟩
    · rw [h]
      exact .ok v
    · rw [hends, h]
      exact .stop (.at _ _ _)
    · rw [hends, h]
      exact .stop (.at _ _ _)

/-- The text is no JSON, and this is what is wrong with it. -/
def Invalid (t : Text) (problem : Problem) : Prop :=
  ∃ line column offset, read t = .error (.invalid problem line column offset)

/-- **Line ends.** Whatever line ends a text has, it is read as with line feeds: the result is the
same, or the text is no JSON and the same is wrong with it. -/
theorem read_unified (t : Text) : read t.unifyLineEnds = read t ∨
    ∃ problem, Invalid t problem ∧ Invalid t.unifyLineEnds problem := by
  have hsame := document_unified t
  unfold Invalid read
  generalize document t = x, document t.unifyLineEnds = y at hsame
  cases hsame with
  | ok v => exact .inl rfl
  | stop hstop =>
    rcases hstop with ⟨problem, rest, rest'⟩ | digits
    · exact .inr ⟨problem, ⟨_, _, _, rfl⟩, ⟨_, _, _, rfl⟩⟩
    · exact .inl rfl

theorem Invalid.unique {t : Text} {problem problem' : Problem} (h : Invalid t problem)
    (h' : Invalid t problem') : problem = problem' := by
  obtain ⟨line, column, offset, herror⟩ := h
  obtain ⟨line', column', offset', herror'⟩ := h'
  cases herror.symm.trans herror'
  rfl

theorem Invalid.read_ne_ok {t : Text} {problem : Problem} (h : Invalid t problem) (v : Value) :
    read t ≠ .ok v := by
  obtain ⟨line, column, offset, herror⟩ := h
  rw [herror]
  nofun

theorem read_unifyLineEnds {t : Text} {v : Value} :
    read t.unifyLineEnds = .ok v ↔ read t = .ok v := by
  rcases read_unified t with heq | ⟨problem, hinvalid, hinvalid'⟩
  · rw [heq]
  · exact iff_of_false (hinvalid'.read_ne_ok v) (hinvalid.read_ne_ok v)

end ReportDelivery.Json
