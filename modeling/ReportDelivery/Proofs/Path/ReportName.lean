import Mathlib.Data.List.TakeWhile
import ReportDelivery.Proofs.Path.NormalForm

/-! Names of scanned files in the report.

A file is seen from the scan target. `reportName_inside`: its name is in normal form, and a file
that is given by a relative path without going up keeps its components, below those of the target.
So it stays inside the target, and two such files have one name only if they have the same
components. -/
namespace ReportDelivery.Path

variable {target base file : Text}

/-! ### Paths seen from a base -/

/-- The slashes a path starts with settle its root. -/
theorem root_takeWhile (path : Text) : root (path.takeWhile (· = slash)) = root path := by
  rcases path with _ | ⟨c, _ | ⟨d, _ | ⟨e, path⟩⟩⟩
  · rfl
  · by_cases hc : c = .char '/' <;> simp [root, slash, hc]
  · by_cases hc : c = .char '/' <;> by_cases hd : d = .char '/' <;> simp [root, slash, hc, hd]
  · by_cases hc : c = .char '/' <;> by_cases hd : d = .char '/' <;>
      by_cases he : e = .char '/' <;> simp [root, slash, hc, hd, he]

theorem takeWhile_join (hbase : base ≠ []) (hfile : file.head? ≠ some slash) :
    (join base file).takeWhile (· = slash) = base.takeWhile (· = slash) := by
  have hnone : file.takeWhile (· = slash) = [] := by
    cases file with
    | nil => rfl
    | cons c file =>
      have hc : c ≠ slash := fun heq => hfile (congrArg some heq)
      simp [hc]
  by_cases hall : ∀ c ∈ base, c = slash
  · have hlast : base.getLast? = some slash := by
      rw [List.getLast?_eq_some_getLast hbase, hall _ (List.getLast_mem hbase)]
    rw [join, if_neg hfile, if_pos (by simp [hlast]),
      List.takeWhile_append_of_pos (by simpa using hall), hnone, List.append_nil,
      List.takeWhile_eq_self_iff.2 (by simpa using hall)]
  · have hstops (more : Text) :
        (base ++ more).takeWhile (· = slash) = base.takeWhile (· = slash) := by
      rw [List.takeWhile_append, if_neg]
      intro hlength
      have hself := (List.takeWhile_prefix (· = slash)).eq_of_length hlength
      exact hall (by simpa using List.takeWhile_eq_self_iff.1 hself)
    unfold join
    rw [if_neg hfile]
    split
    · exact hstops file
    · exact hstops (slash :: file)

theorem join_absolute (h : file.head? = some slash) : join base file = file := by
  rw [join, if_pos h]

theorem root_join (hbase : base ≠ []) (hfile : file.head? ≠ some slash) :
    root (join base file) = root base := by
  rw [← root_takeWhile, takeWhile_join hbase hfile, root_takeWhile]

theorem components_join (hbase : base ≠ []) (hfile : file.head? ≠ some slash) :
    components (join base file) = components base ++ components file := by
  unfold join
  rw [if_neg hfile]
  split
  · next hends =>
    have hlast : base.getLast? = some slash := by simpa [hbase] using hends
    obtain ⟨front, rfl⟩ := List.getLast?_eq_some_iff.1 hlast
    rw [List.append_assoc, List.singleton_append, components_append, components_append,
      components_nil, List.append_nil]
  · exact components_append base file

/-- What a file seen from a base denotes depends only on what the base denotes. -/
theorem normalize_join {other : Text} (h : normalize base = normalize other) (hbase : base ≠ [])
    (hother : other ≠ []) : normalize (join base file) = normalize (join other file) := by
  by_cases hfile : file.head? = some slash
  · rw [join_absolute hfile, join_absolute hfile]
  · obtain ⟨hroot, hresolved⟩ := normalize_eq_iff.1 h
    have hdone (path : Text) : (components path).foldl (push (!(root path).isEmpty)) [] =
        (resolved path).reverse := by
      rw [resolved, resolve_eq_foldl, List.reverse_reverse]
    have hgoesOn {path : Text} (hpath : path ≠ []) : resolved (join path file) =
        ((components file).foldl (push (!(root path).isEmpty)) (resolved path).reverse).reverse := by
      rw [resolved, root_join hpath hfile, components_join hpath hfile, resolve_eq_foldl,
        List.foldl_append, hdone]
    apply normalize_eq_iff.2
    constructor
    · rw [root_join hbase hfile, root_join hother hfile, hroot]
    · rw [hgoesOn hbase, hgoesOn hother, hroot, hresolved]

theorem normalize_join_point (file : Text) :
    normalize (join (Text.ofString ".") file) = normalize file := by
  by_cases hfile : file.head? = some slash
  · rw [join_absolute hfile]
  · have hpoint : Text.ofString "." ≠ [] := by decide
    have hroot : root (join (Text.ofString ".") file) = root file := by
      rw [root_join hpoint hfile, root_of_relative hfile]
      rfl
    apply normalize_eq_iff.2
    refine ⟨hroot, ?_⟩
    rw [resolved, resolved, hroot, components_join hpoint hfile]
    rfl

/-! ### Names -/

/-- The file is named, and not like the target. -/
structure OwnName (target file : Text) : Prop where
  notEmpty : file ≠ []
  notPoint : file ≠ Text.ofString "."
  notTarget : withoutDotSlash file ≠ withoutDotSlash target

/-- The path starts wherever it is seen from and never goes up. -/
structure Descends (file : Text) : Prop where
  relative : file.head? ≠ some slash
  neverUp : Text.ofString ".." ∉ components file

theorem reportName_eq (hbase : withoutDotSlash target ≠ []) (hown : OwnName target file) :
    reportName target file = normalize (join (withoutDotSlash target) file) := by
  have hempty : (withoutDotSlash target).isEmpty = false := by simpa using hbase
  unfold reportName
  simp [hempty, hown.notEmpty, hown.notPoint, Ne.symm hown.notTarget]

theorem resolved_join (hbase : base ≠ []) (hfile : Descends file) :
    resolved (join base file) = resolved base ++ components file := by
  rw [resolved, root_join hbase hfile.relative, components_join hbase hfile.relative,
    resolve_append _ _ hfile.neverUp, resolved]

theorem components_reportName (hbase : withoutDotSlash target ≠ []) (hown : OwnName target file)
    (hfile : Descends file) :
    components (reportName target file) =
      components (normalize (withoutDotSlash target)) ++ components file := by
  rw [reportName_eq hbase hown, components_normalize, components_normalize,
    resolved_join hbase hfile]

theorem isComponent_of_mem_name {part : Text}
    (h : part ∈ components (normalize base) ++ components file) : IsComponent part := by
  rcases List.mem_append.1 h with h | h
  · exact isComponent_of_mem h
  · exact isComponent_of_mem h

/-! ### The main theorem -/

/-- **Main theorem.** The name of a file that is not the target itself is in normal form. If the
file is given by a relative path that does not go up, its name has the root of the normal target, and
components that start with the target's and go on with the file's; it is `.` if it has neither. So
the file stays inside the target, and another such file has the same name exactly if it has the same
components. -/
theorem reportName_inside (hbase : withoutDotSlash target ≠ []) (hown : OwnName target file) :
    normalize (reportName target file) = reportName target file ∧
      (Descends file →
        reportName target file = build (root (normalize (withoutDotSlash target)))
          (components (normalize (withoutDotSlash target)) ++ components file) ∧
        root (reportName target file) = root (normalize (withoutDotSlash target)) ∧
        components (reportName target file) =
          components (normalize (withoutDotSlash target)) ++ components file ∧
        ∀ other, OwnName target other → Descends other →
          (reportName target file = reportName target other ↔
            components file = components other)) := by
  have hname {file : Text} (hown : OwnName target file) (hfile : Descends file) :
      reportName target file = build (root (normalize (withoutDotSlash target)))
        (components (normalize (withoutDotSlash target)) ++ components file) := by
    rw [reportName_eq hbase hown, normalize_eq, root_join hbase hfile.relative,
      resolved_join hbase hfile, root_normalize, components_normalize]
  refine ⟨?_, fun hfile => ⟨hname hown hfile, ?_, components_reportName hbase hown hfile, ?_⟩⟩
  · rw [reportName_eq hbase hown]
    exact normalize_normalize _
  · rw [hname hown hfile]
    exact root_build (root_mem _) fun _ => isComponent_of_mem_name
  · intro other hother hotherFile
    constructor
    · intro hsame
      have hcomponents := congrArg components hsame
      rw [components_reportName hbase hown hfile,
        components_reportName hbase hother hotherFile] at hcomponents
      exact List.append_cancel_left hcomponents
    · intro hsame
      rw [hname hown hfile, hname hother hotherFile, hsame]

/-- Files below a target that goes up and down again. -/
theorem sampleFiles_inside :
    reportName "./src/../lib" "a//./b.py" = "lib/a/b.py" ∧
      normalize (reportName "./src/../lib" "a//./b.py") = reportName "./src/../lib" "a//./b.py" ∧
      components (reportName "./src/../lib" "a//./b.py") =
        [Text.ofString "lib", Text.ofString "a", Text.ofString "b.py"] ∧
      reportName "./src/../lib" "a//./b.py" = reportName "./src/../lib" "./a/b.py" ∧
      reportName "./src/../lib" "a//./b.py" ≠ reportName "./src/../lib" "b.py" := by
  have hbase : withoutDotSlash "./src/../lib" ≠ [] := by decide
  have hown : OwnName "./src/../lib" "a//./b.py" := ⟨by decide, by decide, by decide⟩
  have hfile : Descends "a//./b.py" := ⟨by decide, by decide⟩
  obtain ⟨hnormal, hinside⟩ := reportName_inside hbase hown
  obtain ⟨-, -, hcomponents, hsame⟩ := hinside hfile
  have hequal := hsame "./a/b.py" ⟨by decide, by decide, by decide⟩ ⟨by decide, by decide⟩
  have hother := hsame "b.py" ⟨by decide, by decide, by decide⟩ ⟨by decide, by decide⟩
  exact ⟨by decide, hnormal, hcomponents.trans (by decide), hequal.2 (by decide),
    fun hsame => absurd (hother.1 hsame) (by decide)⟩

end ReportDelivery.Path
