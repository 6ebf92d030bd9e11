import ReportDelivery.Proofs.Command.Path

/-! A file that was written is read back.

Writing changes one place, and no directory is there. A walk only looks at places on its way, which
are directories, so every path leads where it led before. -/
namespace ReportDelivery.FileSystem

variable {fs fs' : FileSystem} {place other : Place} {node : Node} {path : Text} {content : Bytes}

/-! ### Nodes -/

theorem node?_set_same (hplace : place ≠ []) : (fs.set place node).node? place = some node := by
  have hempty : place.isEmpty = false := by simpa using hplace
  have hrest : (fs.nodes.filter fun entry => entry.1 != place).find? (·.1 == place) = none := by
    simp
  simp [node?, set, hempty, List.find?_append, hrest]

theorem node?_set_other (hother : other ≠ place) :
    (fs.set place node).node? other = fs.node? other := by
  have hlast : (place == other) = false := beq_eq_false_iff_ne.2 hother.symm
  have hrest : (fs.nodes.filter fun entry => entry.1 != place).find? (·.1 == other) =
      fs.nodes.find? (·.1 == other) := by
    rw [List.find?_filter]
    congr 1
    funext entry
    by_cases hentry : entry.1 = other
    · simp [hentry, hother]
    · simp [hentry]
  simp [node?, set, List.find?_append, hrest, hlast]

/-! ### Paths -/

theorem walk_set (hplace : fs.node? place ≠ some .directory) {names : List Bytes}
    {start target : Place} (h : fs.walk start names = .ok target) :
    (fs.set place node).walk start names = .ok target := by
  induction names generalizing start with
  | nil => exact h
  | cons name names ih =>
    rw [walk] at h
    split at h
    · cases h
    · cases h
    · next hdirectory =>
      have hother : start ≠ place := by
        rintro rfl
        exact hplace hdirectory
      split at h
      · cases h
      · next hlength =>
        rw [walk, node?_set_other hother, hdirectory]
        simp only [hlength, if_false]
        exact ih h

theorem locate_set (hplace : fs.node? place ≠ some .directory) {target : Place}
    (h : fs.locate path = .ok target) : (fs.set place node).locate path = .ok target := by
  unfold locate at h ⊢
  split at h
  · cases h
  · next hlength =>
    rw [if_neg hlength]
    exact walk_set hplace h

/-! ### Files -/

theorem overwrite_ok {u : Unit} (h : fs.overwrite path content = (.ok u, fs')) :
    ∃ place, fs.locate path = .ok place ∧ fs.node? place ≠ some .directory ∧
      fs' = fs.set place (.file content) := by
  unfold overwrite at h
  dsimp only at h
  split at h
  · next place hfound =>
    obtain ⟨-, rfl⟩ := Prod.mk.inj h
    obtain ⟨place', hlocate, hnode⟩ := bind_ok.1 hfound
    split at hnode
    · cases hnode
    · next hfree =>
      obtain rfl := Except.ok.inj hnode
      exact ⟨_, hlocate, hfree, rfl⟩
  · cases h

theorem write_ok {u : Unit} (h : fs.write path content = (.ok u, fs')) :
    Path.check path = .ok () ∧ ∃ made : FileSystem, made.overwrite path content = (.ok (), fs') := by
  unfold write at h
  dsimp only at h
  split at h
  · cases h
  · split at h
    · cases h
    · next made _ =>
      split at h
      · cases h
      · next hcheck =>
        obtain ⟨hwritten, hfiles⟩ := Prod.mk.inj h
        exact ⟨hcheck, made, Prod.ext (mapError_ok.1 hwritten) hfiles⟩

/-- A path that the system takes is refused by the system only. -/
theorem write_error {error : FileError} (hcheck : Path.check path = .ok ())
    (h : fs.write path content = (.error error, fs')) : ∃ cause, error = .system cause := by
  unfold write at h
  dsimp only at h
  rw [Path.check_parent hcheck] at h
  split at h
  · next hrefused => cases hrefused
  · split at h
    · obtain ⟨⟨⟩, -⟩ := Prod.mk.inj h
      exact ⟨_, rfl⟩
    · rw [hcheck] at h
      obtain ⟨hwritten, -⟩ := Prod.mk.inj h
      obtain ⟨cause, -, hcause⟩ := mapError_error.1 hwritten
      exact ⟨cause, hcause.symm⟩

/-- **Reading what was written.** -/
theorem read_write {u : Unit} (h : fs.write path content = (.ok u, fs')) :
    fs'.read path = .ok content := by
  obtain ⟨hcheck, made, hwrite⟩ := write_ok h
  obtain ⟨place, hlocate, hfree, rfl⟩ := overwrite_ok hwrite
  have hplace : place ≠ [] := by
    rintro rfl
    exact hfree rfl
  have hlocate' : (made.set place (.file content)).locate path = .ok place :=
    locate_set hfree hlocate
  rw [read, hcheck, ok_bind, hlocate', ok_bind, node?_set_same hplace, mapError_of_ok]

end ReportDelivery.FileSystem
