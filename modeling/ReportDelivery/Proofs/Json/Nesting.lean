import ReportDelivery.Proofs.Outcome
import ReportDelivery.Report.Basic

/-! Printing where there is little room.

A printer that has room for so many containers inside each other prints what the other printer
prints, fails as that one does, or finds a value that is nested too deep. Which it is depends on the
nesting: too deep is only what is nested deeper than there is room (`printWithin_tooDeep`), and what
is nested deeper is never printed (`printWithin_ok`). -/
namespace ReportDelivery

namespace Value

mutual
/-- How many containers stand inside each other. -/
def nesting : Value → Nat
  | .list items => nestingAll items + 1
  | .tuple items => nestingAll items + 1
  | .object members => nestingMembers members + 1
  | _ => 0

def nestingAll : List Value → Nat
  | [] => 0
  | item :: items => max item.nesting (nestingAll items)

def nestingMembers : List (Value × Value) → Nat
  | [] => 0
  | (_, v) :: members => max v.nesting (nestingMembers members)
end

end Value

namespace Json

/-! ### Two printers -/

/-- What comes of little room, beside what comes of plenty. Only if something is too deep does the
one differ from the other, and then it gives nothing. -/
inductive Within {α : Type} (deep : Prop) : Except PrintError α → Except PrintError α → Prop
  | printed {a : α} (hfits : ¬ deep) : Within deep (.ok a) (.ok a)
  | failed {error : PrintError} (hother : error ≠ .tooDeep) :
    Within deep (.error error) (.error error)
  | tooDeep {whole : Except PrintError α} (hdeep : deep) : Within deep (.error .tooDeep) whole

namespace Within

variable {α β : Type} {deep other : Prop} {within whole : Except PrintError α}

theorem congr (h : Within deep within whole) (hiff : deep ↔ other) : Within other within whole :=
  propext hiff ▸ h

theorem of_ne_tooDeep (hfits : ¬ deep) (hother : whole ≠ .error .tooDeep) :
    Within deep whole whole := by
  rcases whole with error | a
  · exact .failed fun h => hother (congrArg Except.error h)
  · exact .printed hfits

theorem bind {next next' : α → Except PrintError β} (h : Within deep within whole)
    (hnext : ∀ a, Within other (next a) (next' a)) :
    Within (deep ∨ other) (within >>= next) (whole >>= next') := by
  cases h with
  | failed hother => exact .failed hother
  | tooDeep hdeep => exact .tooDeep (.inl hdeep)
  | @printed a hfits => exact (hnext a).congr (or_iff_right hfits).symm

theorem result (a : α) : Within False (.ok a) (.ok a) := .printed not_false

/-- A container needs room for itself and for what is in it. -/
theorem container {room nesting : Nat} (enclose : α → Text)
    (h : Within (room - 1 < nesting) within whole) :
    Within (room < nesting + 1)
      (if room = 0 then .error .tooDeep else within >>= fun texts => .ok (enclose texts))
      (whole >>= fun texts => .ok (enclose texts)) := by
  by_cases hroom : room = 0
  · rw [if_pos hroom]
    exact .tooDeep (by omega)
  · rw [if_neg hroom]
    refine (h.bind fun texts => .result (enclose texts)).congr ?_
    rw [or_false]
    omega

end Within

/-! ### Values -/

theorem printInt_ne_tooDeep (i : Int) : printInt i ≠ .error .tooDeep := by
  unfold printInt
  split <;> nofun

theorem printKey_ne_tooDeep (key : Value) : printKey key ≠ .error .tooDeep := by
  cases key with
  | int i =>
    intro h
    exact printInt_ne_tooDeep i (map_error.1 h)
  | _ => nofun

mutual
theorem within_print (room : Nat) :
    ∀ v : Value, Within (room < v.nesting) (printWithin room v) (print v)
  | .list items => by
    rw [printWithin, print, Value.nesting]
    exact .container _ (within_printAll (room - 1) items)
  | .tuple items => by
    rw [printWithin, print, Value.nesting]
    exact .container _ (within_printAll (room - 1) items)
  | .object members => by
    rw [printWithin, print, Value.nesting]
    exact .container _ (within_printMembers (room - 1) members)
  | .int i => by
    rw [printWithin, print]
    · exact .of_ne_tooDeep (Nat.not_lt_zero room) (printInt_ne_tooDeep i)
    all_goals nofun
  | .null | .bool _ | .float _ | .str _ => .printed (Nat.not_lt_zero room)
  | .set _ | .ignoreMeta _ | .finding _ | .ignored _ _ | .wire _ | .dataflow _ | .wrapped _ _ =>
    .failed nofun

theorem within_printAll (room : Nat) : ∀ items : List Value,
    Within (room < Value.nestingAll items) (printAllWithin room items) (printAll items)
  | [] => .printed (Nat.not_lt_zero room)
  | item :: items => by
    rw [printAllWithin, printAll, Value.nestingAll]
    refine ((within_print room item).bind fun text =>
      (within_printAll room items).bind fun texts => .result (text :: texts)).congr ?_
    rw [or_false]
    omega

theorem within_printMembers (room : Nat) : ∀ members : List (Value × Value),
    Within (room < Value.nestingMembers members) (printMembersWithin room members)
      (printMembers members)
  | [] => .printed (Nat.not_lt_zero room)
  | (key, v) :: members => by
    rw [printMembersWithin, printMembers, Value.nestingMembers]
    have hkey : Within False (printKey key) (printKey key) :=
      .of_ne_tooDeep not_false (printKey_ne_tooDeep key)
    refine (hkey.bind fun name => (within_print room v).bind fun text =>
      (within_printMembers room members).bind fun texts =>
        .result ((name ++ ": " ++ text) :: texts)).congr ?_
    rw [false_or, or_false]
    omega
end

variable {room : Nat} {v : Value} {text : Text}

/-- There is room for what is nested no deeper. -/
theorem printWithin_eq (h : v.nesting ≤ room) : printWithin room v = print v := by
  generalize hwithin : printWithin room v = within
  generalize hwhole : print v = whole
  cases hwithin ▸ hwhole ▸ within_print room v with
  | printed | failed => rfl
  | tooDeep hdeep => exact absurd hdeep (Nat.not_lt.2 h)

/-- Only what is nested deeper than there is room is too deep. -/
theorem lt_nesting_of_tooDeep (h : printWithin room v = .error .tooDeep) : room < v.nesting := by
  generalize hwhole : print v = whole
  cases h ▸ hwhole ▸ within_print room v with
  | failed hother => exact absurd rfl hother
  | tooDeep hdeep => exact hdeep

/-- With plenty of room nothing is too deep. -/
theorem print_ne_tooDeep (v : Value) : print v ≠ .error .tooDeep := by
  rw [← printWithin_eq (Nat.le_refl v.nesting)]
  exact fun h => absurd (lt_nesting_of_tooDeep h) (Nat.lt_irrefl _)

/-- What is printed is what the other printer prints, and there is room for it. -/
theorem printWithin_ok : printWithin room v = .ok text ↔ print v = .ok text ∧ v.nesting ≤ room := by
  constructor
  · intro h
    generalize hwhole : print v = whole
    cases h ▸ hwhole ▸ within_print room v with
    | printed hfits => exact ⟨rfl, Nat.not_lt.1 hfits⟩
  · rintro ⟨hprint, hroom⟩
    rw [printWithin_eq hroom, hprint]

/-- A value that could be printed is too deep exactly if it is nested deeper than there is room. -/
theorem printWithin_tooDeep (h : print v = .ok text) :
    printWithin room v = .error .tooDeep ↔ room < v.nesting := by
  refine ⟨lt_nesting_of_tooDeep, fun hdeep => ?_⟩
  generalize hwithin : printWithin room v = within
  cases hwithin ▸ h ▸ within_print room v with
  | printed hfits => exact absurd hdeep hfits
  | tooDeep => rfl

end Json
end ReportDelivery
