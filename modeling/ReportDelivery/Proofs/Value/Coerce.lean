import ReportDelivery.Proofs.Json.Reading
import ReportDelivery.Proofs.Numeric.Rounding

/-! What is made of JSON values.

Items and members taken out of a JSON value are JSON values, and an integer made of one is short
enough to be read: a numeral has at most as many digits as a number in a document, and the greatest
finite float fewer. -/
namespace ReportDelivery

/-! ### Integers -/

namespace Binary64

theorem spacing_lt {k : Nat} (hk : k < magnitudeLimit) : spacing k ≤ 2045 := by
  simp only [magnitudeLimit] at hk
  simp only [spacing, twoTo_eq]
  omega

/-- Finite numbers are below the first power of two that is none. -/
theorem whole_lt {k : Nat} (hk : k < magnitudeLimit) : whole k < twoTo 1024 := by
  rw [whole, ratio, Nat.div_lt_iff_lt_mul (twoTo_pos 1074), ← twoTo_add]
  calc significand k * twoTo (spacing k) < twoTo 53 * twoTo (spacing k) :=
        (Nat.mul_lt_mul_right (twoTo_pos _)).2 (significand_lt k)
    _ = twoTo (53 + spacing k) := (twoTo_add ..).symm
    _ ≤ twoTo (1024 + 1074) := twoTo_le (by have := spacing_lt hk; omega)

end Binary64

theorem readable_of_lt {n k : Nat} (hpos : 0 < k) (hk : k ≤ digitLimit) (h : n < tenTo k)
    (negative : Bool) : Readable (if negative then -(n : Int) else n) := by
  rw [tenTo_eq] at h
  exact readable_signed (Nat.le_trans ((Text.length_ofNat_le hpos).2 h) hk) negative

theorem readable_whole {k : Nat} (hk : k < magnitudeLimit) (negative : Bool) :
    Readable (if negative then -(Binary64.whole k : Int) else Binary64.whole k) := by
  refine readable_of_lt (k := 342) (by decide) (by decide) ?_ negative
  calc Binary64.whole k < twoTo 1024 := Binary64.whole_lt hk
    _ ≤ twoTo (3 * 342) := twoTo_le (by decide)
    _ ≤ tenTo 342 := twoTo_le_tenTo 342

/-- A numeral has at most as many digits as may be read. -/
theorem readable_readInt {t : Text} {i : Int} (h : t.readInt = .ok i) : Readable i := by
  unfold Text.readInt at h
  dsimp only at h
  split at h
  · cases h
  · split at h
    · cases h
    · next hlimit =>
      split at h
      · cases h
      · next hdigits =>
        cases h
        refine readable_digitsValue ?_ (Nat.not_lt.1 hlimit) _
        intro hnil
        simp [hnil] at hdigits

namespace Value

theorem IsJson.toInt {v : Value} {i : Int} (hv : v.IsJson) (h : v.toInt = .ok i) : Readable i := by
  cases hv with
  | null => cases h
  | bool b =>
    cases h
    cases b <;> decide
  | int hi =>
    cases h
    exact hi
  | float x =>
    cases x with
    | nan => cases h
    | infinity negative => cases h
    | finite negative k hk =>
      cases h
      exact readable_whole hk negative
  | str t => exact readable_readInt (mapError_ok.1 h)
  | list _ => cases h
  | object _ _ => cases h

/-! ### Containers -/

theorem IsJson.toItems {v : Value} {items : List Value} (hv : v.IsJson)
    (h : v.toItems = .ok items) : (Value.list items).IsJson := by
  cases hv with
  | null => cases h
  | bool b => cases h
  | int hi => cases h
  | float x => cases h
  | str t =>
    cases h
    refine .list ?_
    intro v hv
    obtain ⟨c, -, rfl⟩ := List.mem_map.1 hv
    exact .str [c]
  | list hitems =>
    cases h
    exact .list hitems
  | object hnamed hvalues =>
    cases h
    refine .list ?_
    intro key hkey
    obtain ⟨t, rfl⟩ := hnamed.texts key hkey
    exact .str t

/-- Pairs of JSON values, stored one by one. -/
theorem insertPairs_isJson {index : Nat} {members result : Members} {items : List Value}
    (hitems : ∀ v ∈ items, v.IsJson) (hvalues : ∀ member ∈ members, member.2.IsJson)
    (h : insertPairs index members items = .ok result) :
    (∀ member ∈ result, member.2.IsJson) ∧
      ((Members.TextKeys members → Members.Named members) →
        Members.TextKeys result → Members.Named result) := by
  induction items generalizing index members with
  | nil =>
    cases h
    exact ⟨hvalues, id⟩
  | cons item items ih =>
    unfold insertPairs at h
    split at h
    · cases h
    · next key value hparts =>
      split at h
      · cases h
      · have hvalue : value.IsJson := by
          have hitem : item.toItems = .ok [key, value] := by
            rw [toItems, hparts]
          exact ((hitems item List.mem_cons_self).toItems hitem).items value (by simp)
        obtain ⟨hresult, hnamed⟩ := ih (fun v hv => hitems v (List.mem_cons_of_mem _ hv)) (by
          intro member hmember
          rcases Members.mem_insert hmember with heq | ⟨old, hold, heq⟩ <;> rw [heq]
          · exact hvalue
          · exact hvalues old hold) h
        exact ⟨hresult, fun hmembers => hnamed (Members.Named.of_insert hmembers)⟩
    · cases h

/-- Members made of a JSON value are JSON members, provided that they are named by texts. -/
theorem IsJson.toMembers {v : Value} {members : Members} (hv : v.IsJson)
    (h : v.toMembers = .ok members) (htexts : Members.TextKeys members) :
    (Value.object members).IsJson := by
  unfold Value.toMembers at h
  split at h
  · cases h
    exact hv
  · obtain ⟨items, hitems, hpairs⟩ := bind_ok.1 h
    obtain ⟨hvalues, hnamed⟩ := insertPairs_isJson (hv.toItems hitems).items (by simp) hpairs
    exact .object (hnamed (fun _ => Members.named_nil) htexts) hvalues

end Value
end ReportDelivery
