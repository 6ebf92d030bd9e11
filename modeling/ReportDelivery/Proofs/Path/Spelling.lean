import ReportDelivery.Proofs.Outcome
import ReportDelivery.Proofs.Path.ReportName
import ReportDelivery.Report.Assembly

/-! Spellings of the scan target.

A target is looked at without one leading `./`, and names are made of that base as it is spelled. So
two targets that denote the same path need not give the same names: a base may be empty, may have
gained a root, and is compared with the file and stands for it letter by letter. `names_alike_iff`
says which files do not show the spelling. Above all these are the files that are seen from the
target and do not go by it. -/
namespace ReportDelivery.Path

variable {target first second file : Text}

/-! ### The target without a leading point -/

theorem withoutDotSlash_cases (path : Text) :
    path = Text.ofString "./" ++ withoutDotSlash path ∨ withoutDotSlash path = path := by
  unfold withoutDotSlash
  split
  · exact .inl rfl
  · exact .inr rfl

theorem components_withoutDotSlash (path : Text) :
    components (withoutDotSlash path) = components path := by
  rcases withoutDotSlash_cases path with h | h
  · have hsplit := components_append (Text.ofString ".") (withoutDotSlash path)
    have hpoint : components (Text.ofString ".") = [] := rfl
    rw [hpoint, List.nil_append] at hsplit
    rw [← hsplit]
    exact congrArg components h.symm
  · rw [h]

theorem root_withoutDotSlash (path : Text) :
    root path = [] ∨ root (withoutDotSlash path) = root path := by
  rcases withoutDotSlash_cases path with h | h
  · rw [h]
    exact .inl rfl
  · rw [h]
    exact .inr rfl

/-- A root is gained only where a point is dropped in front of two slashes. -/
theorem root_kept (h : ∀ rest, target ≠ Text.ofString ".//" ++ rest) :
    root (withoutDotSlash target) = root target := by
  rcases withoutDotSlash_cases target with heq | heq
  · have hrelative : (withoutDotSlash target).head? ≠ some slash := by
      intro hhead
      obtain ⟨rest, hrest⟩ := List.head?_eq_some_iff.1 hhead
      rw [hrest] at heq
      exact h rest heq
    rw [root_of_relative hrelative, heq]
    rfl
  · rw [heq]

theorem resolved_withoutDotSlash (path : Text) :
    resolved (withoutDotSlash path) =
      resolve (!(root (withoutDotSlash path)).isEmpty) [] (resolved path) := by
  rw [resolved, resolved, components_withoutDotSlash, resolve_again]
  rcases root_withoutDotSlash path with h | h
  · simp [h]
  · simp [h]

/-- Two spellings of a path lead to the same place without their points too, from the same root. -/
theorem normalize_withoutDotSlash (h : normalize first = normalize second)
    (hroot : root (withoutDotSlash first) = root (withoutDotSlash second)) :
    normalize (withoutDotSlash first) = normalize (withoutDotSlash second) := by
  apply normalize_eq_iff.2
  refine ⟨hroot, ?_⟩
  rw [resolved_withoutDotSlash, resolved_withoutDotSlash, hroot, (normalize_eq_iff.1 h).2]

/-! ### Names under one target -/

theorem reportName_of_empty (h : withoutDotSlash target = []) (file : Text) :
    reportName target file = file := by
  simp [reportName, h]

theorem reportName_of_not_own (hbase : withoutDotSlash target ≠ []) (h : ¬ OwnName target file) :
    reportName target file = withoutDotSlash target := by
  have hgoes : file = [] ∨ file = Text.ofString "." ∨
      withoutDotSlash target = withoutDotSlash file := by
    by_contra hnone
    simp only [not_or] at hnone
    exact h ⟨hnone.1, hnone.2.1, Ne.symm hnone.2.2⟩
  rcases hgoes with hgoes | hgoes | hgoes
  · simp [reportName, hbase, hgoes]
  · simp [reportName, hbase, hgoes]
  · simp [reportName, hbase, ← hgoes]

/-- Files that are texts all have names under a target that is one. -/
theorem names_ok (target : Text) (files : List Text) :
    (files.map Value.str).mapM (reportFile (.value target)) =
      .ok (files.map fun file => .str (reportName target file)) := by
  apply mapM_ok.2
  rw [List.forall₂_map_left_iff, List.forall₂_map_right_iff, List.forall₂_same]
  intro file _
  rfl

/-! ### One file under two targets -/

/-- The ways in which a file has the same name under two targets that denote the same path. -/
inductive NamedAlike : Text → Text → Text → Prop
  /-- Apart from a leading point, the targets are spelled alike. -/
  | sameBase {first second file : Text} (hbase : withoutDotSlash first = withoutDotSlash second) :
    NamedAlike first second file
  /-- The file is seen from either target, and the bases lead to the same place. -/
  | seen {first second file : Text} (hfirst : withoutDotSlash first ≠ [])
      (hsecond : withoutDotSlash second ≠ []) (hown : OwnName first file)
      (hother : OwnName second file)
      (hplace : file.head? = some slash ∨
        normalize (withoutDotSlash first) = normalize (withoutDotSlash second)) :
    NamedAlike first second file
  /-- One base is empty, which leaves names as they are, and the file's is in normal form. -/
  | asGiven {first second file : Text} (hfirst : withoutDotSlash first = [])
      (hsecond : withoutDotSlash second ≠ []) (hother : OwnName second file)
      (hnormal : normalize file = file)
      (hplace : file.head? = some slash ∨
        normalize (withoutDotSlash first) = normalize (withoutDotSlash second)) :
    NamedAlike first second file
  /-- One base is empty, and the file is spelled like the other one, which it goes by. -/
  | asTarget {first second file : Text} (hfirst : withoutDotSlash first = [])
      (hsecond : withoutDotSlash second ≠ []) (hother : ¬ OwnName second file)
      (hfile : file = withoutDotSlash second) :
    NamedAlike first second file
  /-- The file goes by one target, and seen from the other one it has that very name. -/
  | byTarget {first second file : Text} (hfirst : withoutDotSlash first ≠ [])
      (hsecond : withoutDotSlash second ≠ []) (hown : ¬ OwnName first file)
      (hother : OwnName second file)
      (hname : normalize (join (withoutDotSlash second) file) = withoutDotSlash first) :
    NamedAlike first second file
  | symm {first second file : Text} (h : NamedAlike second first file) :
    NamedAlike first second file

theorem NamedAlike.sameName (h : NamedAlike first second file) :
    reportName first file = reportName second file := by
  induction h with
  | sameBase hbase => simp only [reportName, hbase]
  | seen hfirst hsecond hown hother hplace =>
    rw [reportName_eq hfirst hown, reportName_eq hsecond hother]
    rcases hplace with habsolute | hplace
    · rw [join_absolute habsolute, join_absolute habsolute]
    · exact normalize_join hplace hfirst hsecond
  | @asGiven first second file hfirst hsecond hother hnormal hplace =>
    rw [reportName_of_empty hfirst, reportName_eq hsecond hother]
    rcases hplace with habsolute | hplace
    · rw [join_absolute habsolute, hnormal]
    · -- An empty base denotes what a point denotes, and nothing is joined to it.
      have hpoint : normalize (withoutDotSlash second) = normalize (Text.ofString ".") := by
        rw [← hplace, hfirst]
        rfl
      rw [normalize_join hpoint hsecond (by decide), normalize_join_point, hnormal]
  | asTarget hfirst hsecond hother hfile =>
    rw [reportName_of_empty hfirst, reportName_of_not_own hsecond hother, hfile]
  | byTarget hfirst hsecond hown hother hname =>
    rw [reportName_of_not_own hfirst hown, reportName_eq hsecond hother, hname]
  | symm _ ih => exact ih.symm

/-- A relative file that has one name from two roots is seen from the same place. -/
theorem place_of_root (hsame : normalize first = normalize second)
    (hroot : file.head? ≠ some slash → root (withoutDotSlash first) = root (withoutDotSlash second)) :
    file.head? = some slash ∨
      normalize (withoutDotSlash first) = normalize (withoutDotSlash second) := by
  by_cases hfile : file.head? = some slash
  · exact .inl hfile
  · exact .inr (normalize_withoutDotSlash hsame (hroot hfile))

theorem namedAlike_of_empty (hsame : normalize first = normalize second)
    (hfirst : withoutDotSlash first = []) (hsecond : withoutDotSlash second ≠ [])
    (h : reportName first file = reportName second file) : NamedAlike first second file := by
  rw [reportName_of_empty hfirst] at h
  by_cases hother : OwnName second file
  · rw [reportName_eq hsecond hother] at h
    have hnormal : normalize file = file := by rw [h, normalize_normalize]
    refine .asGiven hfirst hsecond hother hnormal (place_of_root hsame ?_)
    intro hfile
    have hroot := congrArg root h
    rw [root_normalize, root_join hsecond hfile, root_of_relative hfile] at hroot
    rw [← hroot, hfirst]
    rfl
  · rw [reportName_of_not_own hsecond hother] at h
    exact .asTarget hfirst hsecond hother h

theorem sameName_iff (hsame : normalize first = normalize second) :
    reportName first file = reportName second file ↔ NamedAlike first second file := by
  refine ⟨?_, NamedAlike.sameName⟩
  intro h
  by_cases hfirst : withoutDotSlash first = []
  · by_cases hsecond : withoutDotSlash second = []
    · exact .sameBase (by rw [hfirst, hsecond])
    · exact namedAlike_of_empty hsame hfirst hsecond h
  by_cases hsecond : withoutDotSlash second = []
  · exact .symm (namedAlike_of_empty hsame.symm hsecond hfirst h.symm)
  by_cases hown : OwnName first file <;> by_cases hother : OwnName second file
  · rw [reportName_eq hfirst hown, reportName_eq hsecond hother] at h
    refine .seen hfirst hsecond hown hother (place_of_root hsame ?_)
    intro hfile
    have hroot := (normalize_eq_iff.1 h).1
    rw [root_join hfirst hfile, root_join hsecond hfile] at hroot
    exact hroot
  · rw [reportName_eq hfirst hown, reportName_of_not_own hsecond hother] at h
    exact .symm (.byTarget hsecond hfirst hother hown h)
  · rw [reportName_of_not_own hfirst hown, reportName_eq hsecond hother] at h
    exact .byTarget hfirst hsecond hown hother h.symm
  · rw [reportName_of_not_own hfirst hown, reportName_of_not_own hsecond hother] at h
    exact .sameBase h

/-! ### The main theorem -/

/-- **Main theorem.** Under two targets that denote the same path the files have names, and they have
the same names exactly if each of them has the same name in one of the ways of `NamedAlike`. The
bases lead to the same place too, unless a target starts with a point and two slashes. -/
theorem names_alike_iff (hsame : normalize first = normalize second) (files : List Text) :
    (∃ names others, (files.map Value.str).mapM (reportFile (.value first)) = .ok names ∧
      (files.map Value.str).mapM (reportFile (.value second)) = .ok others ∧
      (names = others ↔ ∀ file ∈ files, NamedAlike first second file)) ∧
    ((∀ rest, first ≠ Text.ofString ".//" ++ rest) →
      (∀ rest, second ≠ Text.ofString ".//" ++ rest) →
      normalize (withoutDotSlash first) = normalize (withoutDotSlash second)) := by
  refine ⟨⟨_, _, names_ok first files, names_ok second files, ?_⟩, ?_⟩
  · rw [List.map_inj_left]
    apply forall₂_congr
    intro file _
    rw [Value.str.injEq]
    exact sameName_iff hsame
  · intro hfirst hsecond
    apply normalize_withoutDotSlash hsame
    rw [root_kept hfirst, root_kept hsecond, (normalize_eq_iff.1 hsame).1]

/-- Files seen from a folder have the same names under two spellings of it. The folder itself, given
by a point, has not. -/
theorem sampleSpellings_alike :
    normalize "./src" = normalize "src/" ∧
      (∃ names, ([Text.ofString "a.py", "./b//c.py", "/abs/d.py"].map Value.str).mapM
          (reportFile (.value (Text.ofString "./src"))) = .ok names ∧
        ([Text.ofString "a.py", "./b//c.py", "/abs/d.py"].map Value.str).mapM
          (reportFile (.value (Text.ofString "src/"))) = .ok names) ∧
      ¬ NamedAlike "./src" "src/" "." := by
  have hsame : normalize "./src" = normalize "src/" := by decide
  have hseen (file : Text) (hfirst : OwnName "./src" file) (hsecond : OwnName "src/" file) :
      NamedAlike "./src" "src/" file :=
    .seen (by decide) (by decide) hfirst hsecond (.inr (by decide))
  obtain ⟨⟨names, others, hnames, hothers, hiff⟩, -⟩ :=
    names_alike_iff hsame ["a.py", "./b//c.py", "/abs/d.py"]
  refine ⟨hsame, ⟨names, hnames, ?_⟩, fun h => absurd h.sameName (by decide)⟩
  rw [hothers, hiff.2]
  simp only [List.forall_mem_cons]
  exact ⟨hseen _ ⟨by decide, by decide, by decide⟩ ⟨by decide, by decide, by decide⟩,
    hseen _ ⟨by decide, by decide, by decide⟩ ⟨by decide, by decide, by decide⟩,
    hseen _ ⟨by decide, by decide, by decide⟩ ⟨by decide, by decide, by decide⟩,
    List.forall_mem_nil _⟩

/-- The spelling may show: a name is left as it is under an empty base, a file that is spelled like
one target may be seen from the other, and a root is gained where a point is dropped in front of two
slashes. -/
theorem spelling_shows_in_names :
    (normalize "." = normalize "./" ∧
      [Value.str "./a"].mapM (reportFile (.value (Text.ofString "."))) = .ok [.str "a"] ∧
      [Value.str "./a"].mapM (reportFile (.value (Text.ofString "./"))) = .ok [.str "./a"]) ∧
    (normalize "src" = normalize "src/" ∧
      [Value.str "src"].mapM (reportFile (.value (Text.ofString "src"))) = .ok [.str "src"] ∧
      [Value.str "src"].mapM (reportFile (.value (Text.ofString "src/"))) =
        .ok [.str "src/src"]) ∧
    (normalize "src" = normalize ".//src" ∧
      [Value.str "a"].mapM (reportFile (.value (Text.ofString "src"))) = .ok [.str "src/a"] ∧
      [Value.str "a"].mapM (reportFile (.value (Text.ofString ".//src"))) =
        .ok [.str "/src/a"]) :=
  ⟨⟨by decide, rfl, rfl⟩, ⟨by decide, rfl, rfl⟩, ⟨by decide, rfl, rfl⟩⟩

end ReportDelivery.Path
