import Mathlib.Data.List.Basic
import ReportDelivery.Scan.Repository

/-! The environment over what a document says about the repository.

A field has the environment's value if there is one, and keeps its own otherwise. No variable belongs
to the other parts of a context, so nothing happens to them, and applying the same environment once
more changes nothing. -/
namespace ReportDelivery

theorem RequiredField.mem_all (field : RequiredField) : field ∈ all := by
  cases field <;> decide

theorem RequiredField.envVariable_injective {field other : RequiredField}
    (h : field.envVariable = other.envVariable) : field = other := by
  cases field <;> cases other <;> first | rfl | exact absurd h (by decide)

namespace Repository

/-- Contexts that have everything in common but what a variable can supply. -/
structure SameApart (context other : Repository) : Prop where
  id : context.id = other.id
  host : context.host = other.host
  owner : context.owner = other.owner
  name : context.name = other.name
  fullName : context.fullName = other.fullName
  baseBranch : context.baseBranch = other.baseBranch

variable {context other result : Repository} {known : Option Repository} {environ : Environment}

theorem SameApart.refl (context : Repository) : SameApart context context :=
  ⟨rfl, rfl, rfl, rfl, rfl, rfl⟩

theorem SameApart.symm (h : SameApart context other) : SameApart other context :=
  ⟨h.id.symm, h.host.symm, h.owner.symm, h.name.symm, h.fullName.symm, h.baseBranch.symm⟩

theorem SameApart.trans (h : SameApart context other) (h' : SameApart other result) :
    SameApart context result :=
  ⟨h.id.trans h'.id, h.host.trans h'.host, h.owner.trans h'.owner, h.name.trans h'.name,
    h.fullName.trans h'.fullName, h.baseBranch.trans h'.baseBranch⟩

theorem SameApart.eq (h : SameApart context other)
    (hfields : ∀ field, context.field field = other.field field) : context = other := by
  cases context
  cases other
  obtain ⟨rfl, rfl, rfl, rfl, rfl, rfl⟩ := h
  obtain rfl := hfields .branch
  obtain rfl := hfields .defaultBranch
  obtain rfl := hfields .commit
  obtain rfl := hfields .originUrl
  rfl

/-! ### Fields that are set -/

theorem field_set (context : Repository) (value : Text) (field other : RequiredField) :
    (context.set value field).field other = if other = field then value else context.field other := by
  cases field <;> cases other <;> rfl

theorem sameApart_set (context : Repository) (value : Text) (field : RequiredField) :
    SameApart (context.set value field) context := by
  cases field <;> exact ⟨rfl, rfl, rfl, rfl, rfl, rfl⟩

theorem field_foldl_set (value : RequiredField → Text) (fields : List RequiredField)
    (context : Repository) (other : RequiredField) :
    (fields.foldl (fun c field => c.set (value field) field) context).field other =
      if other ∈ fields then value other else context.field other := by
  induction fields generalizing context with
  | nil => rfl
  | cons field fields ih =>
    rw [List.foldl_cons, ih, field_set]
    by_cases hrest : other ∈ fields
    · rw [if_pos hrest, if_pos (List.mem_cons_of_mem _ hrest)]
    · rw [if_neg hrest]
      by_cases heq : other = field
      · rw [if_pos heq, if_pos (heq ▸ List.mem_cons_self), heq]
      · rw [if_neg heq, if_neg (by simp [heq, hrest])]

theorem sameApart_foldl_set (value : RequiredField → Text) (fields : List RequiredField)
    (context : Repository) :
    SameApart (fields.foldl (fun c field => c.set (value field) field) context) context := by
  induction fields generalizing context with
  | nil => exact .refl _
  | cons field fields ih => exact (ih _).trans (sameApart_set _ _ _)

/-! ### Overrides -/

theorem overridden_eq_nil :
    (RequiredField.all.filter fun field => !(override environ field).isEmpty) = [] ↔
      ∀ field, override environ field = [] := by
  simp [List.filter_eq_nil_iff, RequiredField.mem_all]

/-- Without a context there is none only if the environment has nothing to say. -/
theorem applyOverrides_eq_none :
    applyOverrides known environ = none ↔
      known = none ∧ ∀ field, override environ field = [] := by
  rw [← overridden_eq_nil]
  unfold applyOverrides
  dsimp only
  split
  · next h =>
    rw [Bool.and_eq_true, Option.isNone_iff_eq_none, List.isEmpty_iff] at h
    exact ⟨fun _ => h, fun _ => rfl⟩
  · next h =>
    rw [Bool.and_eq_true, Option.isNone_iff_eq_none, List.isEmpty_iff] at h
    exact ⟨nofun, fun hnone => absurd hnone h⟩

theorem applyOverrides_some (h : applyOverrides known environ = some result) :
    (RequiredField.all.filter fun field => !(override environ field).isEmpty).foldl
      (fun c field => c.set (override environ field) field) (known.getD {}) = result := by
  unfold applyOverrides at h
  dsimp only at h
  split at h
  · cases h
  · exact Option.some.inj h

theorem applyOverrides_field (h : applyOverrides known environ = some result)
    (field : RequiredField) :
    result.field field =
      if override environ field = [] then (known.getD {}).field field
      else override environ field := by
  rw [← applyOverrides_some h, field_foldl_set]
  by_cases hblank : override environ field = []
  · rw [if_pos hblank, if_neg (by simp [hblank])]
  · rw [if_neg hblank, if_pos (by simp [hblank, RequiredField.mem_all])]

theorem applyOverrides_sameApart (h : applyOverrides known environ = some result) :
    SameApart result (known.getD {}) := by
  rw [← applyOverrides_some h]
  exact sameApart_foldl_set _ _ _

theorem applyOverrides_idem (known : Option Repository) (environ : Environment) :
    applyOverrides (applyOverrides known environ) environ = applyOverrides known environ := by
  cases hfirst : applyOverrides known environ with
  | none => exact applyOverrides_eq_none.2 ⟨rfl, (applyOverrides_eq_none.1 hfirst).2⟩
  | some first =>
    cases hsecond : applyOverrides (some first) environ with
    | none => cases (applyOverrides_eq_none.1 hsecond).1
    | some second =>
      refine congrArg some ((applyOverrides_sameApart hsecond).eq fun field => ?_)
      rw [applyOverrides_field hsecond]
      split
      · rfl
      · next hcontent => rw [Option.getD_some, applyOverrides_field hfirst, if_neg hcontent]

end Repository
end ReportDelivery
