import ReportDelivery.Command.FileSystem
import ReportDelivery.Proofs.Outcome
import ReportDelivery.Proofs.Text.Parts
import ReportDelivery.Proofs.Text.Utf8

/-! Paths that the system takes.

A path is taken or not code point by code point: no zero character, and of the surrogates only those
that stand for a byte. So with a path the one above it is taken too. -/
namespace ReportDelivery

namespace Path

variable {path : Text}

/-! ### Paths in bytes -/

/-- The code point stands for itself in a path, or for a byte. -/
def Allowed : CodePoint → Prop
  | .char c => c ≠ '\x00'
  | .surrogate i => (escapedByte? i).isSome

theorem zero_mem_encodeChar {c : Char} : 0 ∈ Utf8.encodeChar c ↔ c = '\x00' := by
  have hzero : c = '\x00' ↔ c.toNat = 0 := Char.toNat_inj.symm
  have hbyte {n : Nat} (hn : n < 256) : 0 = UInt8.ofNat n ↔ n = 0 := by
    rw [eq_comm, Utf8.ofNat_eq_iff hn]
    rfl
  have hvalid : c.toNat < 0xD800 ∨ 0xDFFF < c.toNat ∧ c.toNat < 0x110000 := c.valid
  rw [hzero]
  simp only [Utf8.encodeChar]
  split
  · rw [List.mem_singleton, hbyte (by omega)]
  split
  · simp only [List.mem_cons, List.not_mem_nil, or_false]
    rw [hbyte (by omega), hbyte (by omega)]
    omega
  split
  · simp only [List.mem_cons, List.not_mem_nil, or_false]
    rw [hbyte (by omega), hbyte (by omega), hbyte (by omega)]
    omega
  · simp only [List.mem_cons, List.not_mem_nil, or_false]
    rw [hbyte (by omega), hbyte (by omega), hbyte (by omega), hbyte (by omega)]
    omega

theorem escapedByte?_ne_zero {i : Fin 2048} {byte : UInt8} (h : escapedByte? i = some byte) :
    0 ≠ byte := by
  unfold escapedByte? at h
  split at h
  · next hrange =>
    obtain rfl := Option.some.inj h
    rw [Bool.and_eq_true, decide_eq_true_eq, decide_eq_true_eq] at hrange
    have hbyte : i.val - 0x400 < 256 := by omega
    intro hzero
    have := (Utf8.ofNat_eq_iff hbyte).1 hzero.symm
    change i.val - 0x400 = 0 at this
    omega
  · cases h

theorem encodeFrom_allowed (position : Nat) :
    (∃ bytes, encodeFrom position path = .ok bytes ∧ 0 ∉ bytes) ↔ ∀ c ∈ path, Allowed c := by
  induction path generalizing position with
  | nil => simp [encodeFrom]
  | cons c path ih =>
    rw [List.forall_mem_cons, ← ih (position + 1)]
    cases c with
    | char c =>
      simp only [encodeFrom, Allowed, bind_ok]
      constructor
      · rintro ⟨bytes, ⟨rest, hrest, ⟨⟩⟩, hzero⟩
        rw [List.mem_append, zero_mem_encodeChar, not_or] at hzero
        exact ⟨hzero.1, rest, hrest, hzero.2⟩
      · rintro ⟨hc, rest, hrest, hzero⟩
        refine ⟨_, ⟨rest, hrest, rfl⟩, ?_⟩
        rw [List.mem_append, zero_mem_encodeChar, not_or]
        exact ⟨hc, hzero⟩
    | surrogate i =>
      simp only [encodeFrom, Allowed]
      cases hbyte : escapedByte? i with
      | none => simp
      | some byte =>
        simp only [bind_ok, Option.isSome_some, true_and]
        constructor
        · rintro ⟨bytes, ⟨rest, hrest, ⟨⟩⟩, hzero⟩
          exact ⟨rest, hrest, fun hmem => hzero (List.mem_cons_of_mem _ hmem)⟩
        · rintro ⟨rest, hrest, hzero⟩
          refine ⟨_, ⟨rest, hrest, rfl⟩, ?_⟩
          rw [List.mem_cons, not_or]
          exact ⟨escapedByte?_ne_zero hbyte, hzero⟩

theorem check_ok : check path = .ok () ↔ ∀ c ∈ path, Allowed c := by
  rw [← encodeFrom_allowed 0, check, encode]
  cases encodeFrom 0 path with
  | error error => simp
  | ok bytes => simp

/-! ### Parents -/

theorem mem_root {c : CodePoint} (h : c ∈ root path) : c = slash := by
  unfold root at h
  split at h <;> simp_all [Text.ofString, slash]

theorem mem_build {first : Text} {parts : List Text} {c : CodePoint} (h : c ∈ build first parts) :
    c = .char '.' ∨ c = slash ∨ c ∈ first ∨ ∃ part ∈ parts, c ∈ part := by
  unfold build at h
  split at h
  · exact .inl (List.mem_singleton.1 h)
  · rcases List.mem_append.1 h with h | h
    · exact .inr (.inr (.inl h))
    · rcases Text.mem_join h with h | h
      · exact .inr (.inl (List.mem_singleton.1 h))
      · exact .inr (.inr (.inr h))

/-- What is in the path above is in the path, but for a slash or a point. -/
theorem check_parent (h : check path = .ok ()) : check (parent path) = .ok () := by
  rw [check_ok] at h ⊢
  intro c hc
  rcases mem_build hc with rfl | rfl | hroot | ⟨part, hpart, hc⟩
  · simp [Allowed]
  · simp [Allowed, slash]
  · rw [mem_root hroot]
    simp [Allowed, slash]
  · have hcomponent : part ∈ components path := (List.dropLast_sublist _).subset hpart
    exact h c (Text.mem_split (List.mem_of_mem_filter hcomponent) hc).1

end Path
end ReportDelivery
