import ReportDelivery.Proofs.Json.Steps
import ReportDelivery.Proofs.Outcome

/-! How far reading gets, and how much fuel it needs.

Whatever is read takes at least one code point of the text. So the calls that are open at once are
no more than two for a code point, and with fuel for these more fuel makes no difference. -/
namespace ReportDelivery.Json

variable {t rest : Text}

/-! ### What is left of the text -/

theorem length_skipBlank_le (t : Text) : (skipBlank t).length ≤ t.length :=
  (List.dropWhile_suffix _).length_le

theorem stringFrom_length {opening s : Text} {done : List Part}
    (h : stringFrom opening done t = .ok (s, rest)) : rest.length < t.length := by
  fun_induction stringFrom opening done t with
  | case1 | case3 | case5 | case7 | case8 | case9 => cases h
  | case2 =>
    cases h
    exact Nat.lt_succ_self _
  | case4 _ _ _ _ _ _ _ _ ih | case6 _ _ _ _ _ _ ih | case10 _ _ _ _ _ _ _ _ ih =>
    have hlast := ih h
    simp only [List.length_cons]
    omega

theorem after?_length {w : String} (hw : Text.ofString w ≠ []) (h : after? w t = some rest) :
    rest.length < t.length := by
  unfold after? at h
  dsimp only at h
  split at h
  · next hstarts =>
    cases h
    have hpos := List.length_pos_iff.2 hw
    have hle := (List.isPrefixOf_iff_prefix.1 hstarts).length_le
    rw [List.length_drop]
    omega
  · cases h

theorem fractionDigits_length {digits : Text} (h : fractionDigits t = some (digits, rest)) :
    rest.length ≤ t.length := by
  unfold fractionDigits at h
  split at h
  · next left =>
    dsimp only at h
    split at h
    · cases h
    · cases h
      have hle := (List.dropWhile_suffix CodePoint.isDigit (l := left)).length_le
      rw [List.length_cons]
      omega
  · cases h

theorem length_splitSign_le (t : Text) : (Text.splitSign t).2.length ≤ t.length := by
  unfold Text.splitSign
  split <;> simp

theorem exponentPart_length {exponent : Int} (h : exponentPart t = some (exponent, rest)) :
    rest.length ≤ t.length := by
  unfold exponentPart at h
  split at h
  · next left =>
    split at h
    · dsimp only at h
      split at h
      · cases h
      · cases h
        have hle := (List.dropWhile_suffix CodePoint.isDigit
          (l := (Text.splitSign left).2)).length_le
        have hsign := length_splitSign_le left
        rw [List.length_cons]
        omega
    · cases h
  · cases h

theorem length_exponent_le (t : Text) : ((exponentPart t).getD (0, t)).2.length ≤ t.length := by
  rcases hpart : exponentPart t with _ | ⟨exponent, rest⟩
  · exact Nat.le_refl _
  · exact exponentPart_length hpart

theorem wholeDigits_starts (t : Text) : wholeDigits t <+: t := by
  unfold wholeDigits
  split
  · next rest => exact ⟨rest, rfl⟩
  · exact List.takeWhile_prefix _

theorem unsignedNumber_length {negative : Bool} {start : Text} {v : Value}
    (h : unsignedNumber negative start t = .ok (v, rest)) : rest.length < t.length := by
  unfold unsignedNumber at h
  dsimp only at h
  split at h
  · cases h
  · next hwhole =>
    have hpos : 0 < (wholeDigits t).length := List.length_pos_iff.2 (by simpa using hwhole)
    have hle := (wholeDigits_starts t).length_le
    have hdrop := List.length_drop (i := (wholeDigits t).length) (l := t)
    split at h
    · split at h
      · cases h
      · cases h
        omega
    · next hexponent =>
      cases h
      have hleft := exponentPart_length hexponent
      omega
    · next hfraction =>
      cases h
      have hleft := fractionDigits_length hfraction
      exact Nat.lt_of_le_of_lt (length_exponent_le _) (by omega)

theorem number_length {v : Value} (h : number t = .ok (v, rest)) : rest.length < t.length := by
  unfold number at h
  split at h
  · exact Nat.lt_succ_of_lt (unsignedNumber_length h)
  · exact unsignedNumber_length h

/-- The words that stand for a value. -/
def keywords : List (String × Value) :=
  [("null", .null), ("true", .bool true), ("false", .bool false), ("NaN", .float .nan),
    ("Infinity", .float (.infinity false)), ("-Infinity", .float (.infinity true))]

/-- The value of the word that the text starts with. -/
def keyword? (t : Text) : Option (Value × Text) :=
  keywords.findSome? fun word => (after? word.1 t).map (word.2, ·)

theorem word_eq (t : Text) : word t =
    match keyword? t with
    | some read => .ok read
    | none => number t := by
  rw [word]
  simp only [keyword?, keywords, List.findSome?_cons, List.findSome?_nil]
  rcases after? "null" t with _ | rest
  · rcases after? "true" t with _ | rest
    · rcases after? "false" t with _ | rest
      · rcases after? "NaN" t with _ | rest
        · rcases after? "Infinity" t with _ | rest
          · rcases after? "-Infinity" t with _ | rest <;> rfl
          · rfl
        · rfl
      · rfl
    · rfl
  · rfl

theorem word_length {v : Value} (h : word t = .ok (v, rest)) : rest.length < t.length := by
  rw [word_eq] at h
  split at h
  · next hword =>
    cases h
    obtain ⟨word, hmem, hafter⟩ := List.exists_of_findSome?_eq_some hword
    obtain ⟨left, hleft, ⟨⟩⟩ := Option.map_eq_some_iff.1 hafter
    have hwords : ∀ word ∈ keywords, Text.ofString word.1 ≠ [] := by simp [keywords, Text.ofString]
    exact after?_length (hwords _ hmem) hleft
  · exact number_length h

section
variable {α : Type} {more more' : Text → Except Stop (α × Text)} {c : CodePoint} {whole a : α}
  {problem : Problem}

theorem closeOr_length
    (hmore : ∀ {t rest}, more t = .ok (a, rest) → rest.length < t.length)
    (h : closeOr c whole more t = .ok (a, rest)) : rest.length < t.length := by
  have hblank := length_skipBlank_le t
  unfold closeOr at h
  split at h
  · cases hmore h
  · next d left heq =>
    rw [heq, List.length_cons] at hblank
    split at h
    · cases h
      exact hblank
    · exact Nat.lt_of_lt_of_le (hmore h) hblank

theorem expect_length
    (hmore : ∀ {t rest}, more t = .ok (a, rest) → rest.length < t.length)
    (h : expect c problem more t = .ok (a, rest)) : rest.length < t.length := by
  unfold expect at h
  split at h
  · cases h
  · next d left =>
    split at h
    · have hblank := length_skipBlank_le left
      exact Nat.lt_succ_of_lt (Nat.lt_of_lt_of_le (hmore h) hblank)
    · cases h

/-- Only what is left of the text counts. -/
theorem closeOr_congr (h : ∀ left, left.length ≤ t.length → more left = more' left) :
    closeOr c whole more t = closeOr c whole more' t := by
  have hblank := length_skipBlank_le t
  unfold closeOr
  split
  · exact h [] (Nat.zero_le _)
  · next d left heq =>
    split
    · rfl
    · exact h _ (heq ▸ hblank)

@[inherit_doc closeOr_congr]
theorem expect_congr (h : ∀ left, left.length < t.length → more left = more' left) :
    expect c problem more t = expect c problem more' t := by
  unfold expect
  split
  · rfl
  · next d left =>
    split
    · exact h _ (Nat.lt_succ_of_le (length_skipBlank_le left))
    · rfl

end

theorem memberName_length {name : Text} (h : memberName t = .ok (name, rest)) :
    rest.length < t.length := by
  unfold memberName at h
  split at h
  · cases h
  · split at h
    · exact Nat.lt_succ_of_lt (stringFrom_length h)
    · cases h

/-- Reading with some fuel advances. -/
structure Advances (fuel : Nat) : Prop where
  value : ∀ {t rest v}, value fuel t = .ok (v, rest) → rest.length < t.length
  elements : ∀ {done t rest v}, elements fuel done t = .ok (v, rest) → rest.length < t.length
  members : ∀ {done t rest v}, members fuel done t = .ok (v, rest) → rest.length < t.length

namespace Advances

variable {fuel : Nat} (ih : Advances fuel) {v : Value}
include ih

theorem value_succ (h : Json.value (fuel + 1) t = .ok (v, rest)) : rest.length < t.length := by
  cases t with
  | nil => exact word_length h
  | cons c body =>
    rw [value_cons] at h
    split at h
    · obtain ⟨⟨s, left⟩, hstring, ⟨⟩⟩ := bind_ok.1 h
      exact Nat.lt_succ_of_lt (stringFrom_length hstring)
    · split at h
      · exact Nat.lt_succ_of_lt (closeOr_length ih.elements h)
      · split at h
        · exact Nat.lt_succ_of_lt (closeOr_length ih.members h)
        · exact word_length h

theorem elements_succ {done : List Value} (h : Json.elements (fuel + 1) done t = .ok (v, rest)) :
    rest.length < t.length := by
  rw [Json.elements_succ] at h
  obtain ⟨⟨item, left⟩, hitem, h⟩ := bind_ok.1 h
  have hlast := closeOr_length (expect_length ih.elements) h
  exact Nat.lt_trans hlast (ih.value hitem)

theorem members_succ {done : Members} (h : Json.members (fuel + 1) done t = .ok (v, rest)) :
    rest.length < t.length := by
  rw [Json.members_succ] at h
  obtain ⟨⟨key, left⟩, hkey, h⟩ := bind_ok.1 h
  have hname := Nat.lt_of_le_of_lt (length_skipBlank_le left) (memberName_length hkey)
  refine Nat.lt_trans (expect_length (fun {body} {rest} hbody => ?_) h) hname
  obtain ⟨⟨item, after⟩, hitem, hbody⟩ := bind_ok.1 hbody
  have hlast := closeOr_length (expect_length ih.members) hbody
  exact Nat.lt_trans hlast (ih.value hitem)

end Advances

theorem advances (fuel : Nat) : Advances fuel := by
  induction fuel with
  | zero => exact ⟨nofun, nofun, nofun⟩
  | succ fuel ih => exact ⟨ih.value_succ, ih.elements_succ, ih.members_succ⟩

/-! ### Fuel -/

/-- What is read with this fuel is also read with more, where the text is short enough for it. -/
structure Enough (fuel : Nat) : Prop where
  value : ∀ {t}, 2 * t.length + 1 ≤ fuel → value (fuel + 1) t = value fuel t
  elements : ∀ {done t}, 2 * t.length + 2 ≤ fuel → elements (fuel + 1) done t = elements fuel done t
  members : ∀ {done t}, 2 * t.length + 2 ≤ fuel → members (fuel + 1) done t = members fuel done t

namespace Enough

variable {fuel : Nat} (ih : Enough fuel)
include ih

theorem value_succ (h : 2 * t.length + 1 ≤ fuel + 1) :
    Json.value (fuel + 2) t = Json.value (fuel + 1) t := by
  cases t with
  | nil => rfl
  | cons c body =>
    rw [List.length_cons] at h
    have helements : closeOr (.char ']') (.list []) (Json.elements (fuel + 1) []) body =
        closeOr (.char ']') (.list []) (Json.elements fuel []) body :=
      closeOr_congr fun left hleft => ih.elements (by omega)
    have hmembers : closeOr (.char '\x7d') (.object []) (Json.members (fuel + 1) []) body =
        closeOr (.char '\x7d') (.object []) (Json.members fuel []) body :=
      closeOr_congr fun left hleft => ih.members (by omega)
    rw [value_cons, value_cons, helements, hmembers]

theorem elements_succ {done : List Value} (h : 2 * t.length + 2 ≤ fuel + 1) :
    Json.elements (fuel + 2) done t = Json.elements (fuel + 1) done t := by
  rw [Json.elements_succ, Json.elements_succ, ih.value (by omega)]
  refine bind_congr_ok fun (item, left) hitem => ?_
  have hfirst := (advances fuel).value hitem
  exact closeOr_congr fun next hnext => expect_congr fun last hlast => ih.elements (by omega)

theorem members_succ {done : Members} (h : 2 * t.length + 2 ≤ fuel + 1) :
    Json.members (fuel + 2) done t = Json.members (fuel + 1) done t := by
  rw [Json.members_succ, Json.members_succ]
  refine bind_congr_ok fun (key, left) hkey => ?_
  have hname := memberName_length hkey
  have hblank := length_skipBlank_le left
  refine expect_congr fun body hbody => ?_
  dsimp only
  rw [ih.value (by omega)]
  refine bind_congr_ok fun (item, after) hitem => ?_
  have hvalue := (advances fuel).value hitem
  dsimp only
  exact closeOr_congr fun next hnext => expect_congr fun last hlast => ih.members (by omega)

end Enough

theorem enough (fuel : Nat) : Enough fuel := by
  induction fuel with
  | zero => exact ⟨nofun, nofun, nofun⟩
  | succ fuel ih => exact ⟨ih.value_succ, ih.elements_succ, ih.members_succ⟩

/-- More fuel than a text needs makes no difference to what is read from it. -/
theorem value_of_le {fuel more : Nat} (h : 2 * t.length + 1 ≤ fuel) (hmore : fuel ≤ more) :
    value more t = value fuel t := by
  obtain ⟨extra, rfl⟩ := Nat.exists_eq_add_of_le hmore
  induction extra with
  | zero => rfl
  | succ extra ih =>
    rw [← Nat.add_assoc, (enough _).value (by omega), ih (by omega)]

end ReportDelivery.Json
