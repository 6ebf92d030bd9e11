import ReportDelivery.Json.Printer
import ReportDelivery.Proofs.Outcome
import ReportDelivery.Proofs.Value.Plain

/-! What a printed value stands for.

Printing forgets some of what a value was: a tuple is printed as a list, and a key that is no text
as the text of its value. `form` is what is left of the value, with the last one counting where
keys become the same text. A JSON value is its own form. -/
namespace ReportDelivery

/-! ### Members stored one after the other -/

namespace Members

/-- The members `done` with all of `items` stored behind or in place of them. -/
def store (done items : Members) : Members :=
  items.foldl (fun done member => insert member.1 member.2 done) done

theorem Named.store {done items : Members} (h : Named (done ++ items)) :
    store done items = done ++ items := by
  induction items generalizing done with
  | nil => exact (List.append_nil done).symm
  | cons member items ih =>
    obtain ⟨key, v⟩ := member
    have hmember : (key, v) ∈ done ++ (key, v) :: items :=
      List.mem_append_right _ List.mem_cons_self
    obtain ⟨name, rfl⟩ : ∃ t, key = .str t := h.texts key (mem_keys hmember)
    have hstep : done ++ [(Value.str name, v)] ++ items = done ++ (.str name, v) :: items := by
      rw [List.append_assoc, List.singleton_append]
    show Members.store (Members.insert (.str name) v done) items = _
    rw [h.insert_append, ih (by rw [hstep]; exact h), hstep]

end Members

namespace Json

/-! ### Forms -/

/-- The name under which a member is printed. -/
def keyName : Value → Text
  | .str t => t
  | .null => "null"
  | .bool b => printBool b
  | .int i => .ofInt i
  | .float x => printFloat x
  | _ => []

mutual
def form : Value → Value
  | .list items => .list (formAll items)
  | .tuple items => .list (formAll items)
  | .object members => .object (Members.store [] (formMembers members))
  | v => v

def formAll : List Value → List Value
  | [] => []
  | item :: items => form item :: formAll items

def formMembers : List (Value × Value) → List (Value × Value)
  | [] => []
  | (key, v) :: members => (.str (keyName key), form v) :: formMembers members
end

@[simp] theorem form_str (t : Text) : form (.str t) = .str t := rfl

theorem formAll_of_forall {items : List Value} (h : ∀ v ∈ items, form v = v) :
    formAll items = items := by
  induction items with
  | nil => rw [formAll]
  | cons item items ih =>
    rw [formAll, h item List.mem_cons_self, ih fun v hv => h v (List.mem_cons_of_mem _ hv)]

theorem formMembers_of_forall {members : Members} (htexts : Members.TextKeys members)
    (h : ∀ member ∈ members, form member.2 = member.2) : formMembers members = members := by
  induction members with
  | nil => rw [formMembers]
  | cons member members ih =>
    obtain ⟨key, v⟩ := member
    obtain ⟨name, rfl⟩ : ∃ t, key = .str t := htexts key List.mem_cons_self
    rw [formMembers, h _ List.mem_cons_self, keyName,
      ih (fun key hkey => htexts key (List.mem_cons_of_mem _ hkey))
        fun member hmember => h member (List.mem_cons_of_mem _ hmember)]

theorem keys_formMembers {members : Members} (h : Members.TextKeys members) :
    Members.keys (formMembers members) = Members.keys members := by
  induction members with
  | nil => rw [formMembers]
  | cons member members ih =>
    obtain ⟨key, v⟩ := member
    obtain ⟨name, rfl⟩ : ∃ t, key = .str t := h key List.mem_cons_self
    rw [formMembers]
    exact congrArg (.str name :: ·) (ih fun key hkey => h key (List.mem_cons_of_mem _ hkey))

/-- Members under different texts keep their places. -/
theorem form_object {members : Members} (h : Members.Named members) :
    form (.object members) = .object (formMembers members) := by
  have hnamed : Members.Named (formMembers members) := h.of_keys (keys_formMembers h.texts)
  rw [form, Members.Named.store hnamed, List.nil_append]

theorem form_isJson {v : Value} (h : v.IsJson) : form v = v := by
  induction h with
  | list _ ih => rw [form, formAll_of_forall ih]
  | object hnamed _ ih => rw [form_object hnamed, formMembers_of_forall hnamed.texts ih]
  | _ => rfl

/-- A member that is stored under a name has its form stored under that name. -/
theorem formMembers_insert {members : Members} (h : Members.TextKeys members) (name : Text)
    (v : Value) :
    formMembers (Members.insert (.str name) v members) =
      Members.insert (.str name) (form v) (formMembers members) := by
  induction members with
  | nil =>
    rw [Members.insert, formMembers, formMembers, Members.insert]
    rfl
  | cons member members ih =>
    obtain ⟨key, w⟩ := member
    obtain ⟨other, rfl⟩ : ∃ t, key = .str t := h key List.mem_cons_self
    rw [formMembers, keyName]
    unfold Members.insert
    split
    · rw [formMembers, keyName]
    · rw [formMembers, keyName, ih fun key hkey => h key (List.mem_cons_of_mem _ hkey)]

/-! ### What is printed -/

/-- There is a text for the value. -/
def Printable (v : Value) : Prop := ∃ text, print v = .ok text

theorem printInt_ok {i : Int} {text : Text} :
    printInt i = .ok text ↔ Readable i ∧ text = .ofInt i := by
  unfold printInt Readable
  split
  · next hlong => exact ⟨nofun, fun h => absurd h.1 (Nat.not_le.2 hlong)⟩
  · next hshort => exact ⟨by rintro ⟨⟩; exact ⟨Nat.not_lt.1 hshort, rfl⟩, by rintro ⟨-, rfl⟩; rfl⟩

theorem printKey_ok {key : Value} {text : Text} (h : printKey key = .ok text) :
    text = printString (keyName key) := by
  cases key with
  | str t | null | bool b | float x =>
    cases h
    rfl
  | int i =>
    obtain ⟨digits, hdigits, rfl⟩ := map_ok.1 h
    rw [(printInt_ok.1 hdigits).2, keyName]
  | _ => cases h

theorem printAll_isOk {items : List Value} :
    (∃ texts, printAll items = .ok texts) ↔ ∀ v ∈ items, Printable v := by
  induction items with
  | nil => exact ⟨by simp, fun _ => ⟨[], by rw [printAll]⟩⟩
  | cons item items ih =>
    rw [List.forall_mem_cons, ← ih, printAll]
    constructor
    · rintro ⟨texts, h⟩
      obtain ⟨text, hitem, h⟩ := bind_ok.1 h
      obtain ⟨others, hitems, -⟩ := bind_ok.1 h
      exact ⟨⟨text, hitem⟩, others, hitems⟩
    · rintro ⟨⟨text, hitem⟩, others, hitems⟩
      exact ⟨text :: others, by rw [hitem, hitems]; rfl⟩

theorem printMembers_isOk {members : Members} :
    (∃ texts, printMembers members = .ok texts) ↔
      ∀ member ∈ members, (∃ text, printKey member.1 = .ok text) ∧ Printable member.2 := by
  induction members with
  | nil => exact ⟨by simp, fun _ => ⟨[], by rw [printMembers]⟩⟩
  | cons member members ih =>
    rw [List.forall_mem_cons, ← ih, printMembers]
    constructor
    · rintro ⟨texts, h⟩
      obtain ⟨name, hname, h⟩ := bind_ok.1 h
      obtain ⟨text, hvalue, h⟩ := bind_ok.1 h
      obtain ⟨others, hmembers, -⟩ := bind_ok.1 h
      exact ⟨⟨⟨name, hname⟩, text, hvalue⟩, others, hmembers⟩
    · rintro ⟨⟨⟨name, hname⟩, text, hvalue⟩, others, hmembers⟩
      exact ⟨_, by rw [hname, hvalue, hmembers]; rfl⟩

/-- An object is printed if its keys and values are. -/
theorem printable_object {members : Members} :
    Printable (.object members) ↔
      ∀ member ∈ members, (∃ text, printKey member.1 = .ok text) ∧ Printable member.2 := by
  rw [← printMembers_isOk, Printable, print]
  constructor
  · rintro ⟨text, h⟩
    obtain ⟨texts, htexts, -⟩ := bind_ok.1 h
    exact ⟨texts, htexts⟩
  · rintro ⟨texts, htexts⟩
    exact ⟨_, by rw [htexts]; rfl⟩

theorem printable_list {items : List Value} :
    Printable (.list items) ↔ ∀ v ∈ items, Printable v := by
  rw [← printAll_isOk, Printable, print]
  constructor
  · rintro ⟨text, h⟩
    obtain ⟨texts, htexts, -⟩ := bind_ok.1 h
    exact ⟨texts, htexts⟩
  · rintro ⟨texts, htexts⟩
    exact ⟨_, by rw [htexts]; rfl⟩

theorem printable_str (t : Text) : Printable (.str t) := ⟨printString t, by rw [print]⟩

theorem printable_insert {members : Members} (h : Printable (.object members)) (name : Text)
    {v : Value} (hv : Printable v) : Printable (.object (Members.insert (.str name) v members)) := by
  rw [printable_object] at h ⊢
  have hname : ∃ text, printKey (.str name) = .ok text := ⟨printString name, by rw [printKey]⟩
  induction members with
  | nil => exact List.forall_mem_singleton.2 ⟨hname, hv⟩
  | cons member members ih =>
    obtain ⟨hmember, hmembers⟩ := List.forall_mem_cons.1 h
    unfold Members.insert
    split
    · exact List.forall_mem_cons.2 ⟨⟨hmember.1, hv⟩, hmembers⟩
    · exact List.forall_mem_cons.2 ⟨hmember, ih hmembers⟩

/-- A JSON value is printed. -/
theorem printable_isJson {v : Value} (h : v.IsJson) : Printable v := by
  induction h with
  | int hi => exact ⟨_, by rw [print, printInt_ok]; exact ⟨hi, rfl⟩⟩
  | list _ ih => exact printable_list.2 ih
  | object hnamed _ ih =>
    refine printable_object.2 fun member hmember => ⟨?_, ih member hmember⟩
    obtain ⟨name, hname⟩ := hnamed.texts member.1 (Members.mem_keys hmember)
    exact ⟨printString name, by rw [hname, printKey]⟩
  | _ => exact ⟨_, by rw [print]⟩

end Json
end ReportDelivery
