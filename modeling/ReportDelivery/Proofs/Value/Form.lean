import ReportDelivery.Proofs.Outcome
import ReportDelivery.Proofs.Text.Digits
import ReportDelivery.Proofs.Value.Plain

/-! The forms a document may ask of a value, and what the value is then converted to.

A value that counts as missing has any form that is optional. What is read from a value yields its
conversion exactly if the value has the form. The text of a value is empty for the empty text only,
so what counts as given has a text that says something. -/
namespace ReportDelivery

/-! ### Values by form -/

namespace Value

def IsObject (v : Value) : Prop := ∃ members : Members, v = .object members

def IsList (v : Value) : Prop := ∃ items, v = .list items

/-- A list, a text or an object. -/
inductive IsSequence : Value → Prop
  | list (items : List Value) : IsSequence (.list items)
  | text (t : Text) : IsSequence (.str t)
  | object (members : Members) : IsSequence (.object members)

/-- The value can be converted to an integer. -/
def IsInteger (v : Value) : Prop := ∃ i, v.toInt = .ok i

/-- The value has the form, unless it counts as missing. -/
def Optional (Form : Value → Prop) (v : Value) : Prop := v.isTruthy = true → Form v

/-- An object whose members have the form. -/
def ObjectOf (Form : Members → Prop) (v : Value) : Prop :=
  ∃ members : Members, v = .object members ∧ Form members

/-- A list of objects whose members have the form. -/
def ListOf (Form : Members → Prop) (v : Value) : Prop :=
  ∃ items : List Members, v = .list (items.map .object) ∧ ∀ item ∈ items, Form item

/-- An object of such lists. -/
def Groups (Form : Members → Prop) : Value → Prop :=
  ObjectOf fun groups => ∀ group ∈ groups, group.2.ListOf Form

/-! ### Values by conversion -/

/-- The members of an object; nothing else has members. -/
def fields : Value → Members
  | .object members => members
  | _ => []

/-- The items of a list, the names in an object or the code points of a text; nothing else has
items. -/
def elements : Value → List Value
  | .list items => items
  | .object members => Members.keys members
  | .str t => t.map fun c => .str [c]
  | _ => []

/-- The integer that the value is converted to, or else zero. -/
def integer (v : Value) : Int := v.toInt.toOption.getD 0

end Value

/-! ### Missing values -/

theorem Binary64.whole_zero : whole 0 = 0 := by
  simp [whole, ratio, significand]

namespace Value

variable {v : Value}

theorem optional_null {Form : Value → Prop} : Optional Form .null := nofun

theorem optional_iff {Form : Value → Prop} {default : Value} (h : Form default) :
    v.Optional Form ↔ Form (v.orElse default) := by
  unfold Optional orElse
  split
  · next htrue => simp [htrue]
  · next hfalse => simp [hfalse, h]

theorem fields_orElse (v : Value) : (v.orElse (.object [])).fields = v.fields := by
  unfold orElse
  split
  · rfl
  · next hfalse =>
    cases v with
    | object members =>
      obtain rfl : members = [] := by simpa [isTruthy] using hfalse
      rfl
    | _ => rfl

theorem elements_orElse (v : Value) : (v.orElse (.list [])).elements = v.elements := by
  unfold orElse
  split
  · rfl
  · next hfalse =>
    cases v with
    | list items =>
      obtain rfl : items = [] := by simpa [isTruthy] using hfalse
      rfl
    | str t =>
      obtain rfl : t = [] := by simpa [isTruthy] using hfalse
      rfl
    | object members =>
      obtain rfl : members = [] := by simpa [isTruthy] using hfalse
      rfl
    | _ => rfl

theorem integer_orElse (v : Value) : (v.orElse (.int 0)).integer = v.integer := by
  unfold orElse
  split
  · rfl
  · next hfalse =>
    cases v with
    | bool b =>
      obtain rfl : b = false := by simpa [isTruthy] using hfalse
      rfl
    | int i =>
      obtain rfl : i = 0 := by simpa [isTruthy] using hfalse
      rfl
    | float x =>
      cases x with
      | finite negative k _ =>
        obtain rfl : k = 0 := by simpa [isTruthy, Binary64.isZero] using hfalse
        cases negative <;> simp [integer, toInt, Binary64.whole_zero, Except.toOption]
      | _ => rfl
    | str t =>
      obtain rfl : t = [] := by simpa [isTruthy] using hfalse
      rfl
    | _ => rfl

/-! ### What is read from a value -/

theorem toInt_yields (v : Value) : Yields v.IsInteger v.integer v.toInt := by
  intro i
  rw [IsInteger, integer]
  rcases v.toInt with error | j
  · exact iff_of_false nofun (by simp)
  · simp [Except.toOption, eq_comm]

theorem toItems_yields {v : Value} (hv : v.IsJson) :
    Yields v.IsSequence v.elements v.toItems := by
  cases hv with
  | list _ => exact (Yields.ok _).congr (iff_of_true trivial (.list _)) fun _ => rfl
  | object _ _ => exact (Yields.ok _).congr (iff_of_true trivial (.object _)) fun _ => rfl
  | str t => exact (Yields.ok _).congr (iff_of_true trivial (.text t)) fun _ => rfl
  | _ => exact .error _ nofun

theorem objectOf_object {Form : Members → Prop} {members : Members} :
    (object members).ObjectOf Form ↔ Form members := by
  simp [ObjectOf]

/-- What needs an object succeeds on objects only. -/
theorem members_yields {α : Type} {ability : Ability} {read : Members → Except CoercionError α}
    {Form : Members → Prop} {result : Members → α} {v : Value}
    (hread : ∀ members, v = .object members →
      Yields (Form members) (result members) (read members)) :
    Yields (v.ObjectOf Form) (result v.fields) (v.members ability >>= read) := by
  cases v with
  | object members => exact (hread members rfl).congr objectOf_object.symm fun _ => rfl
  | _ => exact .error _ nofun

end Value

/-! ### Texts of values -/

theorem Text.ofInt_ne_nil (i : Int) : ofInt i ≠ [] := by
  cases i with
  | ofNat n => exact ofNat_ne_nil n
  | negSucc n => exact List.cons_ne_nil _ _

namespace Binary64

/-- Every layout has a point or an `e` in it. -/
theorem layOut_ne_nil (digits : Text) (exponent : Int) : layOut digits exponent ≠ [] := by
  have hpoint (first last : Text) : Text.join "." [first, last] ≠ [] := by
    simp [Text.join, Text.ofString]
  unfold layOut
  split
  · simp [Text.ofString]
  split
  · dsimp only
    split
    · simp [Text.ofString]
    · exact hpoint _ _
  · have hsign : (if exponent < 0 then Text.ofString "e-" else "e+") ≠ [] := by
      split <;> decide
    simp [hsign]

theorem text_ne_nil (x : Binary64) : x.text ≠ [] := by
  cases x with
  | nan => simp [text, Text.ofString]
  | infinity negative => cases negative <;> simp [text, Text.ofString]
  | finite negative k _ =>
    have hmagnitude : (if k = 0 then Text.ofString "0.0" else (shortest k).layout) ≠ [] := by
      split
      · simp [Text.ofString]
      · exact layOut_ne_nil _ _
    simp only [text, finiteText]
    split
    · exact List.append_ne_nil_of_right_ne_nil _ hmagnitude
    · exact hmagnitude

end Binary64

namespace Value

theorem enclosed_ne_nil {opening : Text} (h : opening ≠ []) (parts : List Text) (closing : Text) :
    enclosed opening parts closing ≠ [] := by
  simp [enclosed, h]

theorem shown_ne_nil (v : Value) : v.shown ≠ [] := by
  have hrecord {first : Text} (h : first ≠ []) (members : List (Text × Text)) :
      recordText first members ≠ [] := enclosed_ne_nil (List.append_ne_nil_of_left_ne_nil h _) _ _
  cases v with
  | null => simp [shown, Text.ofString]
  | bool b => cases b <;> simp [shown, boolText, Text.ofString]
  | int i => simp [shown, Text.ofInt_ne_nil]
  | float x => simp [shown, x.text_ne_nil]
  | str t => simp [shown, Text.quoted]
  | list items => simp [shown, enclosed_ne_nil, Text.ofString]
  | tuple items =>
    rcases items with _ | ⟨item, _ | ⟨next, items⟩⟩ <;> simp [shown, enclosed_ne_nil, Text.ofString]
  | set items => cases items <;> simp [shown, enclosed_ne_nil, Text.ofString]
  | object members => simp [shown, enclosed_ne_nil, Text.ofString]
  | ignoreMeta record =>
    obtain ⟨_, _, _, _⟩ := record
    simp [shown, shownIgnoreMeta, hrecord, Text.ofString]
  | finding record =>
    obtain ⟨_, _, _, _, _, _, _, _, _, _, _⟩ := record
    simp [shown, shownFinding, hrecord, Text.ofString]
  | ignored base record => simp [shown, hrecord, Text.ofString]
  | wire record => simp [shown, hrecord, Text.ofString]
  | dataflow record => simp [shown, hrecord, Text.ofString]
  | wrapped base record => simp [shown, Text.ofString]

/-- Only the empty text shows nothing, and it counts as missing. -/
theorem display_ne_nil {v : Value} (h : v.isTruthy = true) : v.display ≠ [] := by
  cases v with
  | str t => simpa [isTruthy, display] using h
  | _ => exact shown_ne_nil _

end Value
end ReportDelivery
