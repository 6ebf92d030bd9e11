import ReportDelivery.Path
import ReportDelivery.Proofs.Text.Parts

/-! Normal forms of paths.

A path is put together from a root and components, and both can be read off it again
(`root_build`, `components_build`). The last component is the name of the file: it is what the path
ends in (`fileName_endsIn`, `exists_endsIn`). Going up stops at a root; in a relative path it is left
only where nothing is before it. So the components of a normal form cancel nothing among themselves,
and a normal form is normal already (`normalize_normalize`). A relative path may be resolved before
it is put at a root (`resolve_again`). -/
namespace ReportDelivery.Path

variable {path first part : Text} {parts : List Text}

/-! ### Components -/

/-- What may stand between two slashes of a path that is put together. -/
structure IsComponent (part : Text) : Prop where
  notEmpty : part ≠ []
  notPoint : part ≠ Text.ofString "."
  noSlash : slash ∉ part

theorem mem_components :
    part ∈ components path ↔
      part ∈ Text.split slash path ∧ part ≠ [] ∧ part ≠ Text.ofString "." := by
  simp [components, List.mem_filter]

theorem isComponent_of_mem (h : part ∈ components path) : IsComponent part := by
  obtain ⟨hsplit, hempty, hpoint⟩ := mem_components.1 h
  exact ⟨hempty, hpoint, Text.separator_not_mem_split hsplit⟩

theorem components_nil : components [] = [] := rfl

theorem components_append (first second : Text) :
    components (first ++ slash :: second) = components first ++ components second := by
  simp only [components, Text.split_append, List.filter_append]

theorem components_slash (path : Text) : components (slash :: path) = components path :=
  components_append [] path

theorem components_join_slash (h : ∀ part ∈ parts, IsComponent part) :
    components (Text.join "/" parts) = parts := by
  by_cases hne : parts = []
  · rw [hne]
    rfl
  · have hsplit : Text.split slash (Text.join "/" parts) = parts :=
      Text.split_join hne fun part hpart => (h part hpart).noSlash
    rw [components, hsplit, List.filter_eq_self]
    intro part hpart
    simp [(h part hpart).notEmpty, (h part hpart).notPoint]

/-! ### Names of files -/

/-- The path ends in `name`, which stands alone or after a slash. What follows it is nothing, or
slashes and points, which name nothing. -/
inductive EndsIn (name : Text) : Text → Prop
  | alone : EndsIn name name
  | inside (directory : Text) : EndsIn name (directory ++ slash :: name)
  | closed {path : Text} (h : EndsIn name path) : EndsIn name (path ++ [slash])
  | pointed {path : Text} (h : EndsIn name path) : EndsIn name (path ++ [slash, .char '.'])

theorem components_component (h : IsComponent part) : components part = [part] := by
  have hsplit : Text.split slash part = [part] := Text.split_of_not_mem h.noSlash
  simp [components, hsplit, h.notEmpty, h.notPoint]

/-- The name of a file is the component that its path ends in. -/
theorem fileName_endsIn (h : IsComponent part) (hpath : EndsIn part path) :
    fileName path = part := by
  have hlast : (components path).getLast? = some part := by
    induction hpath with
    | alone => rw [components_component h, List.getLast?_singleton]
    | inside directory => rw [components_append, components_component h, List.getLast?_concat]
    | closed _ ih =>
      rw [components_append, components_nil, List.append_nil]
      exact ih
    | pointed _ ih =>
      have hpoint : components [.char '.'] = [] := rfl
      rw [components_append, hpoint, List.append_nil]
      exact ih
  rw [fileName, hlast, Option.getD_some]

theorem isComponent_cases (h : slash ∉ part) :
    IsComponent part ∨ part = [] ∨ part = [.char '.'] := by
  by_cases hempty : part = []
  · exact .inr (.inl hempty)
  · by_cases hpoint : part = [.char '.']
    · exact .inr (.inr hpoint)
    · exact .inl ⟨hempty, hpoint, h⟩

/-- A path that has a component ends in one. -/
theorem exists_endsIn (path : Text) (h : components path ≠ []) :
    ∃ name, IsComponent name ∧ EndsIn name path := by
  by_cases hslash : slash ∈ path
  · -- What follows the last slash is the name, or the name is that of what comes before the slash.
    obtain ⟨last, before, hreverse, hlast⟩ :=
      List.eq_append_cons_of_mem (List.mem_reverse.2 hslash)
    have hpath : path = before.reverse ++ slash :: last.reverse := by
      rw [← List.reverse_reverse path, hreverse]
      simp
    have hshorter : before.reverse.length < path.length := by
      rw [hpath, List.length_append, List.length_cons]
      omega
    rw [hpath, components_append] at h
    rw [hpath]
    have hrest : slash ∉ last.reverse := fun hmem => hlast (List.mem_reverse.1 hmem)
    rcases isComponent_cases hrest with hname | hempty | hpoint
    · exact ⟨_, hname, .inside _⟩
    · rw [hempty] at h ⊢
      rw [components_nil, List.append_nil] at h
      obtain ⟨name, hname, hends⟩ := exists_endsIn before.reverse h
      exact ⟨name, hname, .closed hends⟩
    · rw [hpoint] at h ⊢
      have hnone : components [.char '.'] = [] := rfl
      rw [hnone, List.append_nil] at h
      obtain ⟨name, hname, hends⟩ := exists_endsIn before.reverse h
      exact ⟨name, hname, .pointed hends⟩
  · rcases isComponent_cases hslash with hname | rfl | rfl
    · exact ⟨path, hname, .alone⟩
    · exact absurd rfl h
    · exact absurd rfl h
termination_by path.length

/-- What follows the last dot of the name is the suffix, together with the dot. -/
theorem suffix_endsIn {stem ending : Text} (h : IsComponent (stem ++ .char '.' :: ending))
    (hstem : stem ≠ []) (hending : ending ≠ []) (hdot : .char '.' ∉ ending)
    (hpath : EndsIn (stem ++ .char '.' :: ending) path) : suffix path = .char '.' :: ending := by
  have htail : ((stem ++ .char '.' :: ending).reverse.takeWhile (· ≠ .char '.')).reverse =
      ending := by
    have hreverse : (stem ++ .char '.' :: ending).reverse =
        ending.reverse ++ .char '.' :: stem.reverse := by simp
    have hall : ∀ c ∈ ending.reverse, (decide (c ≠ CodePoint.char '.')) = true := by
      intro c hc
      refine decide_eq_true ?_
      rintro rfl
      exact hdot (List.mem_reverse.1 hc)
    rw [hreverse, List.takeWhile_append_of_pos hall]
    simp
  have hlong : ¬ (stem ++ .char '.' :: ending).length - ending.length ≤ 1 := by
    have hpos := List.length_pos_iff.2 hstem
    simp only [List.length_append, List.length_cons]
    omega
  have hsome : ending.isEmpty = false := List.isEmpty_eq_false_iff.2 hending
  simp only [suffix, fileName_endsIn h hpath, htail, hlong, hsome]
  rfl

/-! ### Roots -/

/-- The leading slashes that count. -/
def roots : List Text := [[], "/", "//"]

theorem root_mem (path : Text) : root path ∈ roots := by
  unfold root
  split <;> simp [roots]

/-- Only a leading slash makes a root. -/
theorem root_of_relative (h : path.head? ≠ some slash) : root path = [] := by
  unfold root
  split
  · exact absurd rfl h
  · exact absurd rfl h
  · exact absurd rfl h
  · rfl

/-- What follows a root does not count, unless it goes on with slashes. -/
theorem root_append (hfirst : first ∈ roots) (h : path.head? ≠ some slash) :
    root (first ++ path) = first := by
  simp only [roots, List.mem_cons, List.not_mem_nil, or_false] at hfirst
  cases path with
  | nil => rcases hfirst with rfl | rfl | rfl <;> rfl
  | cons c path =>
    have hc : c ≠ .char '/' := fun heq => h (congrArg some heq)
    rcases hfirst with rfl | rfl | rfl
    · exact root_of_relative h
    · simp [Text.ofString, root, hc]
    · simp [Text.ofString, root, hc]

theorem components_root (h : first ∈ roots) (path : Text) :
    components (first ++ path) = components path := by
  simp only [roots, List.mem_cons, List.not_mem_nil, or_false] at h
  rcases h with rfl | rfl | rfl
  · rfl
  · exact components_slash path
  · exact (components_slash (slash :: path)).trans (components_slash path)

/-! ### Putting a path together -/

theorem join_head (h : ∀ part ∈ parts, IsComponent part) :
    (Text.join "/" parts).head? ≠ some slash := by
  cases parts with
  | nil => exact nofun
  | cons part parts =>
    obtain ⟨hpart, -⟩ := List.forall_mem_cons.1 h
    cases part with
    | nil => exact absurd rfl hpart.notEmpty
    | cons c part =>
      have hc : c ≠ slash := fun heq => hpart.noSlash (heq ▸ List.mem_cons_self)
      cases parts <;> simpa [Text.join] using hc

theorem join_eq_nil (h : ∀ part ∈ parts, IsComponent part) :
    Text.join "/" parts = [] ↔ parts = [] := by
  constructor
  · intro hjoin
    have hparts := components_join_slash h
    rw [hjoin] at hparts
    exact hparts.symm
  · rintro rfl
    rfl

/-- Only the empty path is written in another way. -/
theorem build_cases (first : Text) (parts : List Text) :
    first ++ Text.join "/" parts = [] ∧ build first parts = Text.ofString "." ∨
      build first parts = first ++ Text.join "/" parts := by
  unfold build
  split
  · next hnil => exact .inl ⟨hnil, rfl⟩
  · exact .inr rfl

theorem root_build (hfirst : first ∈ roots) (h : ∀ part ∈ parts, IsComponent part) :
    root (build first parts) = first := by
  rcases build_cases first parts with ⟨hnil, hbuild⟩ | hbuild
  · rw [hbuild, (List.append_eq_nil_iff.1 hnil).1]
    rfl
  · rw [hbuild, root_append hfirst (join_head h)]

theorem components_build (hfirst : first ∈ roots) (h : ∀ part ∈ parts, IsComponent part) :
    components (build first parts) = parts := by
  rcases build_cases first parts with ⟨hnil, hbuild⟩ | hbuild
  · rw [hbuild, (join_eq_nil h).1 (List.append_eq_nil_iff.1 hnil).2]
    rfl
  · rw [hbuild, components_root hfirst, components_join_slash h]

/-! ### Going up -/

/-- The components so far, last one first, after one more. -/
def push (rooted : Bool) (done : List Text) (part : Text) : List Text :=
  if part = ".." then
    match done with
    | [] => if rooted then [] else [part]
    | last :: earlier => if last = ".." then part :: done else earlier
  else part :: done

theorem resolve_eq_foldl (rooted : Bool) (done parts : List Text) :
    resolve rooted done parts = (parts.foldl (push rooted) done).reverse := by
  induction parts generalizing done with
  | nil => rfl
  | cons part parts ih =>
    rw [List.foldl_cons]
    unfold resolve push
    split
    · cases done with
      | nil => exact ih _
      | cons last earlier =>
        dsimp only
        split <;> exact ih _
    · exact ih _

/-- What is read so far, last component first: going up is left over in a relative path only, where
nothing but going up is before it. -/
def Settled (rooted : Bool) : List Text → Prop
  | [] => True
  | part :: earlier =>
    (part = Text.ofString ".." → rooted = false ∧ ∀ other ∈ earlier, other = part) ∧
      Settled rooted earlier

section
variable {rooted : Bool} {done : List Text}

theorem settled_nil : Settled rooted [] := trivial

theorem settled_push (h : Settled rooted done) (part : Text) :
    Settled rooted (push rooted done part) := by
  unfold push
  split
  · next hup =>
    cases done with
    | nil =>
      cases rooted with
      | true => exact settled_nil
      | false => exact ⟨fun _ => ⟨rfl, List.forall_mem_nil _⟩, settled_nil⟩
    | cons last earlier =>
      dsimp only
      split
      · next hlast =>
        obtain ⟨hrelative, hall⟩ := h.1 hlast
        refine ⟨fun _ => ⟨hrelative, ?_⟩, h⟩
        intro other hother
        rw [hup, ← hlast]
        rcases List.mem_cons.1 hother with rfl | hother
        · rfl
        · exact hall other hother
      · exact h.2
  · next hother => exact ⟨fun hup => absurd hup hother, h⟩

theorem push_of_settled {part : Text} (h : Settled rooted (part :: done)) :
    push rooted done part = part :: done := by
  unfold push
  split
  · next hup =>
    obtain ⟨hrelative, hall⟩ := h.1 hup
    cases done with
    | nil => rw [hrelative]; rfl
    | cons last earlier =>
      have hlast : last = Text.ofString ".." := by rw [hall last List.mem_cons_self, hup]
      dsimp only
      rw [if_pos hlast]
  · rfl

theorem Settled.of_append {later : List Text} (h : Settled rooted (later ++ done)) :
    Settled rooted done := by
  induction later with
  | nil => exact h
  | cons part later ih => exact ih h.2

theorem Settled.append {later : List Text} (h : Settled rooted done)
    (hdown : Text.ofString ".." ∉ later) : Settled rooted (later ++ done) := by
  induction later with
  | nil => exact h
  | cons part later ih =>
    rw [List.mem_cons, not_or] at hdown
    exact ⟨fun hup => absurd hup.symm hdown.1, ih hdown.2⟩

theorem settled_foldl (h : Settled rooted done) (parts : List Text) :
    Settled rooted (parts.foldl (push rooted) done) := by
  induction parts generalizing done with
  | nil => exact h
  | cons part parts ih => exact ih (settled_push h part)

theorem foldl_of_settled (h : Settled rooted (parts.reverse ++ done)) :
    parts.foldl (push rooted) done = parts.reverse ++ done := by
  induction parts generalizing done with
  | nil => rfl
  | cons part parts ih =>
    rw [List.reverse_cons, List.append_assoc, List.singleton_append] at h ⊢
    have hpart : Settled rooted (part :: done) := h.of_append
    rw [List.foldl_cons, push_of_settled hpart, ih h]

end

/-- Components that do not go up stay where they are, whatever is before them. -/
theorem resolve_append (rooted : Bool) (parts : List Text) {below : List Text}
    (hdown : Text.ofString ".." ∉ below) :
    resolve rooted [] (parts ++ below) = resolve rooted [] parts ++ below := by
  have hsettled : Settled rooted (below.reverse ++ parts.foldl (push rooted) []) :=
    (settled_foldl settled_nil parts).append fun hup => hdown (List.mem_reverse.1 hup)
  rw [resolve_eq_foldl, resolve_eq_foldl, List.foldl_append, foldl_of_settled hsettled,
    List.reverse_append, List.reverse_reverse]

theorem resolve_resolve (rooted : Bool) (parts : List Text) :
    resolve rooted [] (resolve rooted [] parts) = resolve rooted [] parts := by
  have hsettled : Settled rooted ((parts.foldl (push rooted) []).reverse.reverse ++ []) := by
    rw [List.reverse_reverse, List.append_nil]
    exact settled_foldl settled_nil parts
  rw [resolve_eq_foldl rooted [] parts, resolve_eq_foldl, foldl_of_settled hsettled,
    List.append_nil, List.reverse_reverse]

theorem mem_push {rooted : Bool} {done : List Text} {part other : Text}
    (h : other ∈ push rooted done part) : other ∈ done ∨ other = part := by
  unfold push at h
  grind

theorem mem_resolve {rooted : Bool} {done : List Text} (h : part ∈ resolve rooted done parts) :
    part ∈ done ∨ part ∈ parts := by
  rw [resolve_eq_foldl, List.mem_reverse] at h
  induction parts generalizing done with
  | nil => exact .inl h
  | cons next parts ih =>
    rcases ih h with h | h
    · rcases mem_push h with h | rfl
      · exact .inl h
      · exact .inr List.mem_cons_self
    · exact .inr (List.mem_cons_of_mem _ h)

/-! ### Going up from a root -/

theorem push_down {rooted : Bool} {done : List Text} {part : Text} (h : part ≠ Text.ofString "..") :
    push rooted done part = part :: done := by
  unfold push
  exact if_neg h

/-- Going up cancels what was just pushed. -/
theorem push_up {rooted : Bool} {done : List Text} {part : Text} (h : part ≠ Text.ofString "..") :
    push rooted (part :: done) (Text.ofString "..") = done := by
  unfold push
  rw [if_pos rfl]
  exact if_neg h

/-- What is left of components, last one first, once they stand at a root. -/
def atRoot (done : List Text) : List Text := done.foldr (fun part done => push true done part) []

theorem atRoot_cons (part : Text) (done : List Text) :
    atRoot (part :: done) = push true (atRoot done) part := rfl

/-- What going up left over in a relative path goes on cancelling at a root. -/
theorem push_atRoot (done : List Text) (part : Text) :
    push true (atRoot done) part = atRoot (push false done part) := by
  by_cases hup : part = Text.ofString ".."
  · subst hup
    cases done with
    | nil => rfl
    | cons last earlier =>
      by_cases hlast : last = Text.ofString ".."
      · subst hlast
        rfl
      · rw [push_up hlast, atRoot_cons, push_down hlast, push_up hlast]
  · have hpush : push false done part = part :: done := push_down hup
    rw [hpush, atRoot_cons]

theorem foldl_atRoot (done parts : List Text) :
    parts.foldl (push true) (atRoot done) = atRoot (parts.foldl (push false) done) := by
  induction parts generalizing done with
  | nil => rfl
  | cons part parts ih => rw [List.foldl_cons, List.foldl_cons, push_atRoot, ih]

/-- A relative path may be resolved before it is put at a root. -/
theorem resolve_again {rooted again : Bool} (h : rooted = true → again = true)
    (parts : List Text) :
    resolve again [] (resolve rooted [] parts) = resolve again [] parts := by
  by_cases hsame : again = rooted
  · rw [hsame, resolve_resolve]
  · have hrooted : rooted = false := by
      cases rooted with
      | true => exact absurd (h rfl) hsame
      | false => rfl
    have hagain : again = true := by simpa [hrooted] using hsame
    rw [hagain, hrooted, resolve_eq_foldl, resolve_eq_foldl, resolve_eq_foldl, List.foldl_reverse]
    show (atRoot _).reverse = _
    rw [← foldl_atRoot]
    rfl

/-! ### Normal forms -/

/-- What is left of the components of a path when going up is resolved. -/
def resolved (path : Text) : List Text := resolve (!(root path).isEmpty) [] (components path)

theorem isComponent_of_mem_resolved (h : part ∈ resolved path) : IsComponent part := by
  rcases mem_resolve h with h | h
  · cases h
  · exact isComponent_of_mem h

theorem normalize_eq (path : Text) : normalize path = build (root path) (resolved path) := rfl

theorem root_normalize (path : Text) : root (normalize path) = root path :=
  root_build (root_mem path) fun _ => isComponent_of_mem_resolved

theorem components_normalize (path : Text) : components (normalize path) = resolved path :=
  components_build (root_mem path) fun _ => isComponent_of_mem_resolved

/-- A normal form is normal already. -/
theorem normalize_normalize (path : Text) : normalize (normalize path) = normalize path := by
  rw [normalize_eq (normalize path), resolved, root_normalize, components_normalize, resolved,
    resolve_resolve]
  rfl

/-- Two paths have one normal form if they have the same root and come to the same components. -/
theorem normalize_eq_iff {other : Text} :
    normalize path = normalize other ↔ root path = root other ∧ resolved path = resolved other := by
  constructor
  · intro h
    rw [← root_normalize path, ← components_normalize path, h, root_normalize,
      components_normalize]
    exact ⟨rfl, rfl⟩
  · intro ⟨hroot, hresolved⟩
    rw [normalize_eq, normalize_eq, hroot, hresolved]

end ReportDelivery.Path
