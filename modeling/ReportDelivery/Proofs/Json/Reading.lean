import ReportDelivery.Proofs.Outcome
import ReportDelivery.Proofs.Text.Digits
import ReportDelivery.Proofs.Value.Plain
import ReportDelivery.Json.Reader

/-! What reading gives.

`read_isJson`: whatever text is read as a value, the value has a JSON form. A member whose name was
there before keeps one place, and a number with too many digits is refused. -/
namespace ReportDelivery

/-- The sign does not count. -/
theorem readable_signed {n : Nat} (h : (Text.ofNat n).length ≤ digitLimit) (negative : Bool) :
    Readable (if negative then -(n : Int) else n) := by
  have habs : (if negative then -(n : Int) else n).natAbs = n := by
    cases negative <;> simp
  rw [Readable, habs]
  exact h

/-- Digits that may be read give an integer that may be read. -/
theorem readable_digitsValue {digits : Text} (hne : digits ≠ []) (h : digits.length ≤ digitLimit)
    (negative : Bool) :
    Readable (if negative then -(digits.digitsValue : Int) else digits.digitsValue) :=
  readable_signed (Nat.le_trans ((Text.length_ofNat_le (List.length_pos_iff.2 hne)).2
    (Text.digitsValue_lt digits)) h) negative

namespace Json
open Value

theorem unsignedNumber_isJson {negative : Bool} {start t rest : Text} {v : Value}
    (h : unsignedNumber negative start t = .ok (v, rest)) : v.IsJson := by
  unfold unsignedNumber at h
  dsimp only at h
  split at h
  · cases h
  · next hwhole =>
    split at h
    · split at h
      · cases h
      · next hlimit =>
        cases h
        exact .int (readable_digitsValue (by simpa using hwhole) (Nat.not_lt.1 hlimit) negative)
    · cases h
      exact .float _
    · cases h
      exact .float _

theorem number_isJson {t rest : Text} {v : Value} (h : number t = .ok (v, rest)) : v.IsJson := by
  unfold number at h
  split at h
  · exact unsignedNumber_isJson h
  · exact unsignedNumber_isJson h

theorem word_isJson {t rest : Text} {v : Value} (h : word t = .ok (v, rest)) : v.IsJson := by
  unfold word at h
  split at h
  · cases h
    exact .null
  · cases h
    exact .bool true
  · cases h
    exact .bool false
  · split at h
    · cases h
      exact .float _
    · cases h
      exact .float _
    · cases h
      exact .float _
    · exact number_isJson h

/-- What is read with some fuel is a JSON value, provided that what was read before it is. -/
structure ReadsJson (fuel : Nat) : Prop where
  value : ∀ {t rest v}, value fuel t = .ok (v, rest) → v.IsJson
  elements : ∀ {done t rest v}, (Value.list done).IsJson →
    elements fuel done t = .ok (v, rest) → v.IsJson
  members : ∀ {done t rest v}, (Value.object done).IsJson →
    members fuel done t = .ok (v, rest) → v.IsJson

namespace ReadsJson

variable {fuel : Nat} (ih : ReadsJson fuel)
include ih

theorem value_succ {t rest : Text} {v : Value} (h : Json.value (fuel + 1) t = .ok (v, rest)) :
    v.IsJson := by
  unfold Json.value at h
  split at h
  · obtain ⟨⟨s, left⟩, -, ⟨⟩⟩ := bind_ok.1 h
    exact .str s
  · split at h
    · cases h
      exact .list (by simp)
    · exact ih.elements (.list (by simp)) h
  · split at h
    · cases h
      exact isJson_empty
    · exact ih.members isJson_empty h
  · exact word_isJson h

theorem elements_succ {done : List Value} {t rest : Text} {v : Value}
    (hdone : (Value.list done).IsJson) (h : Json.elements (fuel + 1) done t = .ok (v, rest)) :
    v.IsJson := by
  unfold Json.elements at h
  obtain ⟨⟨item, left⟩, hitem, h⟩ := bind_ok.1 h
  have hlonger : (Value.list (item :: done)).IsJson := by
    refine .list ?_
    intro w hw
    rcases List.mem_cons.1 hw with rfl | hold
    · exact ih.value hitem
    · exact hdone.items w hold
  dsimp only at h
  split at h
  · cases h
    exact .list fun w hw => hlonger.items w (List.mem_reverse.1 hw)
  · exact ih.elements hlonger h
  · cases h

theorem members_succ {done : Members} {t rest : Text} {v : Value}
    (hdone : (Value.object done).IsJson) (h : Json.members (fuel + 1) done t = .ok (v, rest)) :
    v.IsJson := by
  unfold Json.members at h
  split at h
  · obtain ⟨⟨key, left⟩, -, h⟩ := bind_ok.1 h
    dsimp only at h
    split at h
    · obtain ⟨⟨item, left⟩, hitem, h⟩ := bind_ok.1 h
      have hlonger := hdone.insert key (ih.value hitem)
      dsimp only at h
      split at h
      · cases h
        exact hlonger
      · exact ih.members hlonger h
      · cases h
    · cases h
  · cases h

end ReadsJson

theorem readsJson (fuel : Nat) : ReadsJson fuel := by
  induction fuel with
  | zero => exact ⟨nofun, nofun, nofun⟩
  | succ fuel ih => exact ⟨ih.value_succ, ih.elements_succ, ih.members_succ⟩

theorem document_isJson {t : Text} {v : Value} (h : document t = .ok v) : v.IsJson := by
  unfold document at h
  split at h
  · cases h
  · obtain ⟨⟨w, left⟩, hread, h⟩ := bind_ok.1 h
    dsimp only at h
    split at h
    · cases h
      exact (readsJson _).value hread
    · cases h

/-- **What reading gives.** A value that is read from text has a JSON form. -/
theorem read_isJson {t : Text} {v : Value} (h : read t = .ok v) : v.IsJson :=
  document_isJson (mapError_ok.1 h)

end Json
end ReportDelivery
