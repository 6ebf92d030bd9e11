import Mathlib.Data.List.Forall2

/-! Steps that may fail.

A sequence of steps gives a result exactly if every step gives one and passes it on, and a step for
every item of a list gives the results in the order of the items. It fails with the error of the
first step that fails. Where success is a matter of a property, the attempt judges it (`Judges`),
and where there is one possible result besides, it yields it (`Yields`). -/
namespace ReportDelivery

variable {ε ε' α β : Type}

@[simp] theorem ok_bind (a : α) (f : α → Except ε β) : Except.ok a >>= f = f a := rfl

@[simp] theorem map_of_ok (a : α) (f : α → β) :
    (Except.ok a : Except ε α).map f = .ok (f a) := rfl

@[simp] theorem mapError_of_ok (a : α) (f : ε → ε') :
    (Except.ok a : Except ε α).mapError f = .ok a := rfl

theorem bind_ok {x : Except ε α} {f : α → Except ε β} {b : β} :
    x >>= f = .ok b ↔ ∃ a, x = .ok a ∧ f a = .ok b := by
  cases x with
  | error e => exact ⟨nofun, by rintro ⟨a, ⟨⟩, -⟩⟩
  | ok a => exact ⟨fun h => ⟨a, rfl, h⟩, by rintro ⟨a, ⟨⟩, h⟩; exact h⟩

/-- What comes after a step has to agree on its result only. -/
theorem bind_congr_ok {x : Except ε α} {f g : α → Except ε β} (h : ∀ a, x = .ok a → f a = g a) :
    x >>= f = x >>= g := by
  cases x with
  | error e => rfl
  | ok a => exact h a rfl

theorem map_ok {x : Except ε α} {f : α → β} {b : β} :
    x.map f = .ok b ↔ ∃ a, x = .ok a ∧ f a = b := by
  cases x with
  | error e => exact ⟨nofun, by rintro ⟨a, ⟨⟩, -⟩⟩
  | ok a => exact ⟨by rintro ⟨⟩; exact ⟨a, rfl, rfl⟩, by rintro ⟨a, ⟨⟩, rfl⟩; rfl⟩

theorem mapError_ok {x : Except ε α} {f : ε → ε'} {a : α} :
    x.mapError f = .ok a ↔ x = .ok a := by
  cases x with
  | error e => exact ⟨nofun, nofun⟩
  | ok b => exact ⟨by rintro ⟨⟩; rfl, by rintro ⟨⟩; rfl⟩

theorem mapM_ok {f : α → Except ε β} {items : List α} {results : List β} :
    items.mapM f = .ok results ↔ List.Forall₂ (fun a b => f a = .ok b) items results := by
  induction items generalizing results with
  | nil =>
    rw [List.mapM_nil, List.forall₂_nil_left_iff]
    exact ⟨by rintro ⟨⟩; rfl, by rintro rfl; rfl⟩
  | cons item items ih =>
    rw [List.mapM_cons, bind_ok]
    constructor
    · rintro ⟨b, hb, h⟩
      obtain ⟨bs, hbs, ⟨⟩⟩ := bind_ok.1 h
      exact .cons hb (ih.1 hbs)
    · intro h
      cases h with
      | cons hb hbs => exact ⟨_, hb, bind_ok.2 ⟨_, ih.2 hbs, rfl⟩⟩

/-- Where a result tells its item, the results of all items tell all of them. -/
theorem mapM_eq_some {f : α → Option β} {g : β → α} (hfg : ∀ a b, f a = some b ↔ a = g b)
    {items : List α} {results : List β} :
    items.mapM f = some results ↔ items = results.map g := by
  induction items generalizing results with
  | nil =>
    rw [List.mapM_nil, eq_comm (a := []), List.map_eq_nil_iff]
    exact ⟨by rintro ⟨⟩; rfl, by rintro rfl; rfl⟩
  | cons item items ih =>
    rw [List.mapM_cons, eq_comm (a := item :: items), List.map_eq_cons_iff]
    constructor
    · intro h
      obtain ⟨b, hb, h⟩ := Option.bind_eq_some_iff.1 h
      obtain ⟨bs, hbs, ⟨⟩⟩ := Option.bind_eq_some_iff.1 h
      exact ⟨b, bs, rfl, ((hfg _ _).1 hb).symm, (ih.1 hbs).symm⟩
    · rintro ⟨b, bs, rfl, hb, hbs⟩
      exact Option.bind_eq_some_iff.2 ⟨b, (hfg _ _).2 hb.symm,
        Option.bind_eq_some_iff.2 ⟨bs, ih.2 hbs.symm, rfl⟩⟩

theorem map_of_bind {γ : Type} (x : Except ε α) (f : α → Except ε β) (g : β → γ) :
    (x >>= f).map g = x >>= fun a => (f a).map g := by
  cases x <;> rfl

theorem map_of_map {γ : Type} (x : Except ε α) (f : α → β) (g : β → γ) :
    (x.map f).map g = x.map fun a => g (f a) := by
  cases x <;> rfl

theorem mapError_of_map (x : Except ε α) (f : α → β) (g : ε → ε') :
    (x.map f).mapError g = (x.mapError g).map f := by
  cases x <;> rfl

/-! ### Errors -/

theorem bind_error {x : Except ε α} {f : α → Except ε β} {e : ε} :
    x >>= f = .error e ↔ x = .error e ∨ ∃ a, x = .ok a ∧ f a = .error e := by
  cases x with
  | error e' => exact ⟨by rintro ⟨⟩; exact .inl rfl, by rintro (⟨⟨⟩⟩ | ⟨a, ⟨⟩, -⟩); rfl⟩
  | ok a => exact ⟨fun h => .inr ⟨a, rfl, h⟩, by rintro (⟨⟨⟩⟩ | ⟨a, ⟨⟩, h⟩); exact h⟩

theorem pure_ne_error (a : α) (e : ε) : (pure a : Except ε α) ≠ .error e := nofun

theorem mapError_error {x : Except ε α} {f : ε → ε'} {e : ε'} :
    x.mapError f = .error e ↔ ∃ cause, x = .error cause ∧ f cause = e := by
  cases x with
  | error e' => exact ⟨by rintro ⟨⟩; exact ⟨e', rfl, rfl⟩, by rintro ⟨cause, ⟨⟩, rfl⟩; rfl⟩
  | ok a => exact ⟨nofun, by rintro ⟨cause, ⟨⟩, -⟩⟩

theorem map_error {x : Except ε α} {f : α → β} {e : ε} : x.map f = .error e ↔ x = .error e := by
  cases x with
  | error e' => exact ⟨by rintro ⟨⟩; rfl, by rintro ⟨⟩; rfl⟩
  | ok a => exact ⟨nofun, nofun⟩

theorem exists_map_ok {x : Except ε α} {f : α → β} :
    (∃ b, x.map f = .ok b) ↔ ∃ a, x = .ok a := by
  simp only [map_ok]
  exact ⟨fun ⟨_, a, ha, _⟩ => ⟨a, ha⟩, fun ⟨a, ha⟩ => ⟨f a, a, ha, rfl⟩⟩

theorem exists_ok_or_error (x : Except ε α) : (∃ a, x = .ok a) ∨ ∃ e, x = .error e := by
  cases x with
  | error e => exact .inr ⟨e, rfl⟩
  | ok a => exact .inl ⟨a, rfl⟩

theorem ok_of_toBool {x : Except ε α} (h : x.toBool = true) : ∃ a, x = .ok a := by
  cases x with
  | error e => cases h
  | ok a => exact ⟨a, rfl⟩

theorem error_of_toBool {x : Except ε α} (h : x.toBool = false) : ∃ e, x = .error e := by
  cases x with
  | error e => exact ⟨e, rfl⟩
  | ok a => cases h

/-- One of the items stops, and all before it pass. -/
def StopsAt (passes stops : α → Prop) (items : List α) : Prop :=
  ∃ before item after, items = before ++ item :: after ∧ (∀ a ∈ before, passes a) ∧ stops item

section
variable {passes stops : α → Prop}

theorem not_stopsAt_nil : ¬ StopsAt passes stops [] := by
  rintro ⟨before, item, after, hnil, -⟩
  cases before <;> cases hnil

theorem stopsAt_cons {a : α} {items : List α} :
    StopsAt passes stops (a :: items) ↔ stops a ∨ passes a ∧ StopsAt passes stops items := by
  constructor
  · rintro ⟨before, item, after, hitems, hbefore, hitem⟩
    cases before with
    | nil =>
      cases hitems
      exact .inl hitem
    | cons first before =>
      cases hitems
      obtain ⟨hfirst, hbefore⟩ := List.forall_mem_cons.1 hbefore
      exact .inr ⟨hfirst, before, item, after, rfl, hbefore, hitem⟩
  · rintro (hstops | ⟨hpasses, before, item, after, rfl, hbefore, hitem⟩)
    · exact ⟨[], a, items, rfl, List.forall_mem_nil _, hstops⟩
    · exact ⟨a :: before, item, after, rfl, List.forall_mem_cons.2 ⟨hpasses, hbefore⟩, hitem⟩

theorem stopsAt_congr {passes' stops' : α → Prop} (hpasses : ∀ a, passes a ↔ passes' a)
    (hstops : ∀ a, stops a ↔ stops' a) {items : List α} :
    StopsAt passes stops items ↔ StopsAt passes' stops' items := by
  simp only [StopsAt, hpasses, hstops]

theorem StopsAt.exists_mem {items : List α} (h : StopsAt passes stops items) :
    ∃ a ∈ items, stops a := by
  obtain ⟨before, item, after, rfl, -, hitem⟩ := h
  exact ⟨item, List.mem_append_right _ List.mem_cons_self, hitem⟩

end

/-- A step for every item fails as the first one does that fails. -/
theorem mapM_error {f : α → Except ε β} {items : List α} {e : ε} :
    items.mapM f = .error e ↔ StopsAt (fun a => ∃ b, f a = .ok b) (f · = .error e) items := by
  induction items with
  | nil => exact ⟨nofun, fun h => absurd h not_stopsAt_nil⟩
  | cons item items ih =>
    rw [List.mapM_cons, bind_error, stopsAt_cons]
    refine or_congr_right ?_
    constructor
    · rintro ⟨b, hb, h⟩
      rcases bind_error.1 h with hrest | ⟨bs, -, ⟨⟩⟩
      exact ⟨⟨b, hb⟩, ih.1 hrest⟩
    · rintro ⟨⟨b, hb⟩, hrest⟩
      exact ⟨b, hb, bind_error.2 (.inl (ih.2 hrest))⟩

/-! ### Attempts that judge -/

section
variable {p q : Prop} {causes : ε → Prop}

/-- The attempt succeeds if `p` holds, and fails for one of the causes if not. -/
inductive Judges (p : Prop) (causes : ε → Prop) : Except ε α → Prop
  | ok (a : α) (h : p) : Judges p causes (.ok a)
  | error {e : ε} (hcause : causes e) (h : ¬ p) : Judges p causes (.error e)

namespace Judges

theorem of_iff {x : Except ε α} (h : Judges p causes x) (hiff : p ↔ q) : Judges q causes x := by
  cases h with
  | ok a h => exact .ok a (hiff.1 h)
  | error hcause h => exact .error hcause fun hq => h (hiff.2 hq)

theorem map {x : Except ε α} (h : Judges p causes x) (f : α → β) :
    Judges p causes (x.map f) := by
  cases h with
  | ok a h => exact .ok (f a) h
  | error hcause h => exact .error hcause h

/-- Both steps have to succeed. What the second one gets from the first does not matter. -/
theorem bind {x : Except ε α} {f : α → Except ε β} (hx : Judges p causes x)
    (hf : ∀ a, Judges q causes (f a)) : Judges (p ∧ q) causes (x >>= f) := by
  cases hx with
  | error hcause h => exact .error hcause fun hboth => h hboth.1
  | ok a h =>
    have hstep : Judges (p ∧ q) causes (f a) := (hf a).of_iff (by simp [h])
    exact hstep

theorem mapM {f : α → Except ε β} {good : α → Prop} (hf : ∀ a, Judges (good a) causes (f a))
    (items : List α) : Judges (∀ a ∈ items, good a) causes (items.mapM f) := by
  induction items with
  | nil => exact .ok [] (List.forall_mem_nil _)
  | cons a items ih =>
    rw [List.mapM_cons]
    exact ((hf a).bind fun b => ih.map (b :: ·)).of_iff List.forall_mem_cons.symm

end Judges
end

/-! ### Attempts with one possible result -/

section
variable {p q : Prop} {c : α} {d : β}

/-- The attempt succeeds exactly if `p` holds, and then with `c`. -/
def Yields (p : Prop) (c : α) (x : Except ε α) : Prop := ∀ a, x = .ok a ↔ p ∧ a = c

namespace Yields

theorem ok (c : α) : Yields True c (.ok c : Except ε α) := fun a => by
  rw [true_and, Except.ok.injEq, eq_comm]

theorem error (e : ε) (h : ¬ p) : Yields p c (.error e) := fun _ => ⟨nofun, fun hp => absurd hp.1 h⟩

theorem congr {x : Except ε α} {c' : α} (h : Yields p c x) (hiff : p ↔ q) (hc : q → c = c') :
    Yields q c' x := by
  intro a
  rw [h a, hiff]
  exact and_congr_right fun hq => by rw [hc hq]

theorem map {x : Except ε α} (h : Yields p c x) (f : α → β) : Yields p (f c) (x.map f) := by
  intro b
  rw [map_ok]
  constructor
  · rintro ⟨a, ha, rfl⟩
    obtain ⟨hp, rfl⟩ := (h a).1 ha
    exact ⟨hp, rfl⟩
  · rintro ⟨hp, rfl⟩
    exact ⟨c, (h c).2 ⟨hp, rfl⟩, rfl⟩

theorem mapError {x : Except ε α} (h : Yields p c x) (f : ε → ε') : Yields p c (x.mapError f) :=
  fun a => mapError_ok.trans (h a)

/-- Both steps have to succeed, and the second one starts from the one result of the first. -/
theorem bind {x : Except ε α} {f : α → Except ε β} (hx : Yields p c x)
    (hf : p → Yields q d (f c)) : Yields (p ∧ q) d (x >>= f) := by
  intro b
  rw [bind_ok]
  constructor
  · rintro ⟨a, ha, hb⟩
    obtain ⟨hp, rfl⟩ := (hx a).1 ha
    obtain ⟨hq, rfl⟩ := (hf hp b).1 hb
    exact ⟨⟨hp, hq⟩, rfl⟩
  · rintro ⟨⟨hp, hq⟩, rfl⟩
    exact ⟨c, (hx c).2 ⟨hp, rfl⟩, (hf hp b).2 ⟨hq, rfl⟩⟩

theorem mapM {f : α → Except ε β} {good : α → Prop} {result : α → β} {items : List α}
    (hf : ∀ a ∈ items, Yields (good a) (result a) (f a)) :
    Yields (∀ a ∈ items, good a) (items.map result) (items.mapM f) := by
  induction items with
  | nil => exact (ok []).congr (iff_of_true trivial (List.forall_mem_nil _)) fun _ => rfl
  | cons a items ih =>
    obtain ⟨ha, hitems⟩ := List.forall_mem_cons.1 hf
    rw [List.mapM_cons]
    exact (ha.bind fun _ => (ih hitems).map (result a :: ·)).congr List.forall_mem_cons.symm
      fun _ => rfl

end Yields
end

/-! ### Items one by one -/

theorem exists_forall₂ {R : α → β → Prop} {items : List α} (h : ∀ a ∈ items, ∃ b, R a b) :
    ∃ results, List.Forall₂ R items results := by
  induction items with
  | nil => exact ⟨[], .nil⟩
  | cons item items ih =>
    obtain ⟨b, hb⟩ := h item List.mem_cons_self
    obtain ⟨bs, hbs⟩ := ih fun a ha => h a (List.mem_cons_of_mem _ ha)
    exact ⟨b :: bs, .cons hb hbs⟩

theorem forall₂_mem_right {R : α → β → Prop} {items : List α} {results : List β}
    (h : List.Forall₂ R items results) {b : β} (hb : b ∈ results) : ∃ a ∈ items, R a b := by
  induction h with
  | nil => cases hb
  | @cons a b' items results hab _ ih =>
    rcases List.mem_cons.1 hb with rfl | hmem
    · exact ⟨a, List.mem_cons_self, hab⟩
    · obtain ⟨a', ha', hr⟩ := ih hmem
      exact ⟨a', List.mem_cons_of_mem _ ha', hr⟩

/-- If each item that is read can be written and read again, so can all of them. -/
theorem mapM_again {γ : Type} {read : α → Except ε β} {write : β → Except ε γ}
    {again : γ → Except ε β}
    (h : ∀ a b, read a = .ok b → ∃ c, write b = .ok c ∧ again c = .ok b)
    {items : List α} {results : List β} (hread : items.mapM read = .ok results) :
    ∃ written, results.mapM write = .ok written ∧ written.mapM again = .ok results := by
  have hsteps (b : β) (hb : b ∈ results) : ∃ c, write b = .ok c ∧ again c = .ok b := by
    obtain ⟨a, -, ha⟩ := forall₂_mem_right (mapM_ok.1 hread) hb
    exact h a b ha
  obtain ⟨written, hwritten⟩ := exists_forall₂ hsteps
  exact ⟨written, mapM_ok.2 (hwritten.imp fun _ _ hstep => hstep.1),
    mapM_ok.2 (hwritten.imp fun _ _ hstep => hstep.2).flip⟩

/-- What is left out on one side is left out on the other. -/
theorem forall₂_filter {R : α → β → Prop} {p : α → Bool} {q : β → Bool}
    (hpq : ∀ {a b}, R a b → p a = q b) {items : List α} {results : List β}
    (h : List.Forall₂ R items results) :
    List.Forall₂ R (items.filter p) (results.filter q) := by
  induction h with
  | nil => exact .nil
  | @cons a b items results hab _ ih =>
    rw [List.filter_cons, List.filter_cons, hpq hab]
    split
    · exact .cons hab ih
    · exact ih

/-- What was left out on one side may be put back on the other. -/
theorem exists_of_forall₂_filter {R : α → β → Prop} {p : α → Bool} {q : β → Bool}
    (hpq : ∀ {a b}, R a b → p a = q b) (hout : ∀ a, p a = false → ∃ b, R a b)
    {items : List α} {results : List β} (h : List.Forall₂ R (items.filter p) results) :
    ∃ whole, List.Forall₂ R items whole ∧ whole.filter q = results := by
  induction items generalizing results with
  | nil =>
    cases h
    exact ⟨[], .nil, rfl⟩
  | cons item items ih =>
    rw [List.filter_cons] at h
    split at h
    · next hkept =>
      cases h with
      | @cons _ b _ results hb hrest =>
        obtain ⟨whole, hwhole, rfl⟩ := ih hrest
        exact ⟨b :: whole, .cons hb hwhole, List.filter_cons_of_pos (hpq hb ▸ hkept)⟩
    · next hleft =>
      obtain ⟨b, hb⟩ := hout item (by simpa using hleft)
      obtain ⟨whole, hwhole, rfl⟩ := ih h
      exact ⟨b :: whole, .cons hb hwhole, List.filter_cons_of_neg (hpq hb ▸ hleft)⟩

theorem forall₂_trans {γ : Type} {R : α → β → Prop} {S : β → γ → Prop} {T : α → γ → Prop}
    (hstep : ∀ {a b c}, R a b → S b c → T a c) {items : List α} {middle : List β}
    {results : List γ} (hr : List.Forall₂ R items middle) (hs : List.Forall₂ S middle results) :
    List.Forall₂ T items results := by
  induction hr generalizing results with
  | nil =>
    cases hs
    exact .nil
  | cons hab _ ih =>
    cases hs with
    | cons hbc hrest => exact .cons (hstep hab hbc) (ih hrest)

theorem forall₂_map_eq {γ : Type} {R : α → β → Prop} {f : α → γ} {g : β → γ}
    (hfg : ∀ {a b}, R a b → g b = f a) {items : List α} {results : List β}
    (h : List.Forall₂ R items results) : results.map g = items.map f := by
  induction h with
  | nil => rfl
  | cons hab _ ih => rw [List.map_cons, List.map_cons, hfg hab, ih]

end ReportDelivery
