import Mathlib.Data.List.Nodup
import ReportDelivery.Value.Coerce

/-! Values that have a JSON form and come back from it.

Members are named by texts, no two by the same one, and an integer is short enough to be read. What
may be stored in such a value, and what may be taken out of it, is such a value again. -/
namespace ReportDelivery

/-! ### Members named by texts -/

namespace Members

/-- Every key is a text. -/
def TextKeys (members : Members) : Prop := ∀ key ∈ keys members, ∃ t, key = .str t

/-- Every key is a text, and no two keys are the same. -/
structure Named (members : Members) : Prop where
  texts : TextKeys members
  distinct : (keys members).Nodup

theorem named_nil : Named [] := ⟨by simp [TextKeys, keys], List.nodup_nil⟩

theorem sameKey_str (s t : Text) : (Value.str s).sameKey (.str t) = (s == t) := by
  simp only [Value.sameKey]

theorem mem_keys {members : Members} {member : Value × Value} (h : member ∈ members) :
    member.1 ∈ keys members := List.mem_map_of_mem h

theorem get?_cons (name : Text) (v : Value) (members : Members) (key : Text) :
    get? ((.str name, v) :: members) (.str key) =
      if name = key then some v else members.get? (.str key) := by
  by_cases h : name = key <;> simp [get?, sameKey_str, h]

/-- Which member counts is settled by the first key that is the wanted one. -/
theorem get_cons (name : Text) (v : Value) (members : Members) (key : String) :
    get ((.str name, v) :: members) key =
      if name = Text.ofString key then v else get members key := by
  rw [get, get, get?_cons]
  split <;> rfl

/-- A value found in the members is one of theirs, and null where nothing is found. -/
theorem get_mem (members : Members) (name : String) :
    get members name = .null ∨ ∃ member ∈ members, member.2 = get members name := by
  cases hfind : List.find? (fun member => member.1.sameKey (.str name)) members with
  | none => exact .inl (by simp [get, get?, hfind])
  | some member =>
    exact .inr ⟨member, List.mem_of_find?_eq_some hfind, by simp [get, get?, hfind]⟩

/-! ### Storing a member -/

/-- A new name is stored behind the others. -/
theorem insert_new {members : Members} {name : Text} (htexts : TextKeys members)
    (hnew : .str name ∉ keys members) (v : Value) :
    insert (.str name) v members = members ++ [(.str name, v)] := by
  induction members with
  | nil => rfl
  | cons member members ih =>
    obtain ⟨t, ht⟩ := htexts member.1 List.mem_cons_self
    have hne : t ≠ name := by
      rintro rfl
      exact hnew (by rw [← ht]; exact List.mem_cons_self)
    have hsame : member.1.sameKey (.str name) = false := by
      rw [ht, sameKey_str, beq_false_of_ne hne]
    rw [insert, if_neg (by rw [hsame]; exact Bool.false_ne_true),
      ih (fun key hkey => htexts key (List.mem_cons_of_mem _ hkey))
        (fun hmem => hnew (List.mem_cons_of_mem _ hmem)), List.cons_append]

/-- Members with different names are stored one behind the other. -/
theorem Named.insert_append {done items : Members} {name : Text} {v : Value}
    (h : Named (done ++ (.str name, v) :: items)) :
    insert (.str name) v done = done ++ [(.str name, v)] := by
  have hkeys : keys (done ++ (.str name, v) :: items) = keys done ++ .str name :: keys items := by
    simp [keys]
  have hdistinct := h.distinct
  rw [hkeys, List.nodup_append] at hdistinct
  refine insert_new ?_ ?_ v
  · intro key hkey
    exact h.texts key (by rw [hkeys]; exact List.mem_append_left _ hkey)
  · intro hmem
    exact hdistinct.2.2 _ hmem _ List.mem_cons_self rfl

/-- A key that is there already stays as it is, and a new one comes last. -/
theorem keys_insert (key v : Value) (members : Members) :
    keys (insert key v members) = keys members ∨
      keys (insert key v members) = keys members ++ [key] ∧
        ∀ old ∈ keys members, old.sameKey key = false := by
  induction members with
  | nil => exact .inr ⟨rfl, by simp [keys]⟩
  | cons member members ih =>
    unfold insert
    split
    · exact .inl rfl
    · next hother =>
      rcases ih with hsame | ⟨hnew, hnone⟩
      · exact .inl (congrArg (member.1 :: ·) hsame)
      · refine .inr ⟨congrArg (member.1 :: ·) hnew, ?_⟩
        intro old hold
        rcases List.mem_cons.1 hold with rfl | htail
        · exact Bool.eq_false_iff.2 hother
        · exact hnone old htail

theorem mem_insert {member : Value × Value} {name v : Value} {members : Members}
    (h : member ∈ insert name v members) : member.2 = v ∨ ∃ old ∈ members, member.2 = old.2 := by
  induction members with
  | nil =>
    simp only [insert, List.mem_singleton] at h
    exact .inl (by rw [h])
  | cons old members ih =>
    unfold insert at h
    split at h
    · rcases List.mem_cons.1 h with rfl | hmem
      · exact .inl rfl
      · exact .inr ⟨member, List.mem_cons_of_mem _ hmem, rfl⟩
    · rcases List.mem_cons.1 h with rfl | hmem
      · exact .inr ⟨member, List.mem_cons_self, rfl⟩
      · rcases ih hmem with heq | ⟨old', hold, heq⟩
        · exact .inl heq
        · exact .inr ⟨old', List.mem_cons_of_mem _ hold, heq⟩

theorem Named.of_keys {members others : Members} (h : Named others)
    (heq : keys members = keys others) : Named members := by
  refine ⟨?_, by rw [heq]; exact h.distinct⟩
  intro key hkey
  exact h.texts key (heq ▸ hkey)

theorem Named.insert {members : Members} (h : Named members) (name : Text) (v : Value) :
    Named (insert (.str name) v members) := by
  rcases keys_insert (.str name) v members with hsame | ⟨hnew, hnone⟩
  · exact h.of_keys hsame
  · refine ⟨?_, ?_⟩
    · intro key hkey
      rw [hnew] at hkey
      rcases List.mem_append.1 hkey with hold | hlast
      · exact h.texts key hold
      · exact ⟨name, List.mem_singleton.1 hlast⟩
    · rw [hnew]
      refine List.nodup_append.2 ⟨h.distinct, List.nodup_singleton _, ?_⟩
      rintro key hkey _ hlast rfl
      have hother := hnone key hkey
      rw [List.mem_singleton.1 hlast, sameKey_str, beq_self_eq_true] at hother
      cases hother

/-- If all keys are texts in the end, the stored key is one, and only texts were there before. -/
theorem Named.of_insert {key v : Value} {members : Members}
    (h : TextKeys members → Named members) (htexts : TextKeys (Members.insert key v members)) :
    Named (Members.insert key v members) := by
  rcases keys_insert key v members with hsame | ⟨hnew, -⟩
  · refine (h ?_).of_keys hsame
    intro old hold
    exact htexts old (by rw [hsame]; exact hold)
  · obtain ⟨t, rfl⟩ : ∃ t, key = .str t :=
      htexts key (by rw [hnew]; exact List.mem_append_right _ List.mem_cons_self)
    refine (h ?_).insert t v
    intro old hold
    exact htexts old (by rw [hnew]; exact List.mem_append_left _ hold)

end Members

/-! ### JSON values -/

/-- An integer that is short enough to be read. -/
def Readable (i : Int) : Prop := (Text.ofNat i.natAbs).length ≤ digitLimit

instance (i : Int) : Decidable (Readable i) :=
  inferInstanceAs (Decidable ((Text.ofNat i.natAbs).length ≤ digitLimit))

namespace Value

/-- What reading JSON text can give. -/
inductive IsJson : Value → Prop
  | null : IsJson .null
  | bool (b : Bool) : IsJson (.bool b)
  | int {i : Int} (h : Readable i) : IsJson (.int i)
  | float (x : Binary64) : IsJson (.float x)
  | str (t : Text) : IsJson (.str t)
  | list {items : List Value} (h : ∀ v ∈ items, IsJson v) : IsJson (.list items)
  | object {members : Members} (hnamed : Members.Named members)
      (h : ∀ member ∈ members, IsJson member.2) : IsJson (.object members)

theorem IsJson.items {items : List Value} (h : (Value.list items).IsJson) :
    ∀ v ∈ items, v.IsJson := by
  cases h with
  | list h => exact h

theorem IsJson.named {members : Members} (h : (Value.object members).IsJson) :
    Members.Named members := by
  cases h with
  | object hnamed _ => exact hnamed

theorem IsJson.values {members : Members} (h : (Value.object members).IsJson) :
    ∀ member ∈ members, member.2.IsJson := by
  cases h with
  | object _ h => exact h

theorem IsJson.get {members : Members} (h : (Value.object members).IsJson) (name : String) :
    (Members.get members name).IsJson := by
  rcases Members.get_mem members name with hnull | ⟨member, hmem, heq⟩
  · rw [hnull]
    exact .null
  · rw [← heq]
    exact h.values member hmem

theorem IsJson.orElse {v default : Value} (hv : v.IsJson) (hd : default.IsJson) :
    (v.orElse default).IsJson := by
  unfold Value.orElse
  split
  · exact hv
  · exact hd

theorem IsJson.insert {members : Members} (h : (Value.object members).IsJson) (name : Text)
    {v : Value} (hv : v.IsJson) : (Value.object (Members.insert (.str name) v members)).IsJson := by
  refine .object (h.named.insert name v) ?_
  intro member hmem
  rcases Members.mem_insert hmem with heq | ⟨old, hold, heq⟩
  · rw [heq]
    exact hv
  · rw [heq]
    exact h.values old hold

theorem isJson_empty : (Value.object []).IsJson := .object Members.named_nil (by simp)

end Value
end ReportDelivery
