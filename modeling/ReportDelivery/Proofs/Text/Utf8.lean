import ReportDelivery.Proofs.Outcome
import ReportDelivery.Text.Utf8

/-! Encoded text decodes to itself, and only lone surrogates keep text from being encoded.

A character takes one to four bytes. In each of the four cases the bounds on the character's
number decide every test that `segments` makes: the lead byte tells how many bytes follow, and the
second byte is one that no shorter form, no surrogate and no number beyond the last would have. -/
namespace ReportDelivery.Utf8

variable {n m : Nat}

/-! ### Bytes -/

theorem ofNat_lt_iff (hn : n < 256) {b : UInt8} : UInt8.ofNat n < b ↔ n < b.toNat := by
  rw [UInt8.lt_iff_toNat_lt, UInt8.toNat_ofNat_of_lt' hn]

theorem lt_ofNat_iff (hn : n < 256) {b : UInt8} : b < UInt8.ofNat n ↔ b.toNat < n := by
  rw [UInt8.lt_iff_toNat_lt, UInt8.toNat_ofNat_of_lt' hn]

theorem le_ofNat_iff (hn : n < 256) {b : UInt8} : b ≤ UInt8.ofNat n ↔ b.toNat ≤ n := by
  rw [UInt8.le_iff_toNat_le, UInt8.toNat_ofNat_of_lt' hn]

theorem ofNat_eq_iff (hn : n < 256) {b : UInt8} : UInt8.ofNat n = b ↔ n = b.toNat := by
  rw [← UInt8.toNat_inj, UInt8.toNat_ofNat_of_lt' hn]

theorem isContinuation_ofNat : ∀ n < 64, isContinuation (.ofNat (0x80 + n)) = true := by
  decide

theorem payload_ofNat : ∀ n < 64, payload (.ofNat (0x80 + n)) = n := by
  decide

theorem mayFollow_ofNat (hn : n < 256) (hm : m < 64) (hthree : n = 0xE0 → 0x20 ≤ m)
    (hsurrogate : n = 0xED → m < 0x20) (hfour : n = 0xF0 → 0x10 ≤ m)
    (hlast : n = 0xF4 → m < 0x10) :
    mayFollow (.ofNat n) (.ofNat (0x80 + m)) = true := by
  have hbyte : 0x80 + m < 256 := by omega
  simp only [mayFollow, isContinuation_ofNat m hm, Bool.true_and, Bool.and_eq_true,
    Bool.or_eq_true, bne_iff_ne, ne_eq, decide_eq_true_eq, ofNat_eq_iff hn, le_ofNat_iff hbyte,
    ofNat_lt_iff hbyte, UInt8.reduceToNat]
  omega

/-- A byte that starts a longer form fails the first two tests. -/
theorem isLead_ofNat (hn : 0xC2 ≤ n) (hn' : n ≤ 0xF4) :
    ¬ UInt8.ofNat n < 0x80 ∧ (UInt8.ofNat n < 0xC2 || 0xF4 < UInt8.ofNat n) = false := by
  have hbyte : n < 256 := by omega
  simp only [ofNat_lt_iff hbyte, lt_ofNat_iff hbyte, UInt8.reduceToNat, Bool.or_eq_false_iff,
    decide_eq_false_iff_not]
  omega

/-! ### Characters -/

variable (rest : Bytes)

theorem segments_one (hn : n < 0x80) :
    segments (.ofNat n :: rest) = .scalar (Char.ofNat n) :: segments rest := by
  have hbyte : n < 256 := by omega
  have hlead : UInt8.ofNat n < 0x80 := (ofNat_lt_iff hbyte).2 hn
  rw [segments.eq_def]
  simp only [hlead, if_true, UInt8.toNat_ofNat_of_lt' hbyte]

theorem segments_two (hn : 0x80 ≤ n) (hn' : n < 0x800) :
    segments (.ofNat (0xC0 + n / 64) :: .ofNat (0x80 + n % 64) :: rest) =
      .scalar (Char.ofNat n) :: segments rest := by
  have hbyte : 0xC0 + n / 64 < 256 := by omega
  obtain ⟨hlong, hlead⟩ := isLead_ofNat (n := 0xC0 + n / 64) (by omega) (by omega)
  have hfollow : mayFollow (.ofNat (0xC0 + n / 64)) (.ofNat (0x80 + n % 64)) = true :=
    mayFollow_ofNat hbyte (by omega) (by omega) (by omega) (by omega) (by omega)
  have hlength : UInt8.ofNat (0xC0 + n / 64) < 0xE0 := 
    (ofNat_lt_iff hbyte).2 (show 0xC0 + n / 64 < 0xE0 by omega)
  have hnumber : (0xC0 + n / 64 - 0xC0) * 64 + n % 64 = n := by omega
  rw [segments.eq_def]
  simp only [hlong, hlead, hfollow, hlength, if_true, if_false, Bool.not_true, Bool.false_eq_true,
    UInt8.toNat_ofNat_of_lt' hbyte, payload_ofNat (n % 64) (by omega), hnumber]

theorem segments_three (hn : 0x800 ≤ n) (hn' : n < 0x10000) (hscalar : n < 0xD800 ∨ 0xDFFF < n) :
    segments (.ofNat (0xE0 + n / 4096) :: .ofNat (0x80 + n / 64 % 64) :: .ofNat (0x80 + n % 64)
      :: rest) = .scalar (Char.ofNat n) :: segments rest := by
  have hbyte : 0xE0 + n / 4096 < 256 := by omega
  obtain ⟨hlong, hlead⟩ := isLead_ofNat (n := 0xE0 + n / 4096) (by omega) (by omega)
  have hfollow : mayFollow (.ofNat (0xE0 + n / 4096)) (.ofNat (0x80 + n / 64 % 64)) = true :=
    mayFollow_ofNat hbyte (by omega) (by omega) (by omega) (by omega) (by omega)
  have hmore : ¬ UInt8.ofNat (0xE0 + n / 4096) < 0xE0 := by
    rw [ofNat_lt_iff hbyte]
    exact Nat.not_lt.2 (Nat.le_add_right 0xE0 _)
  have hlength : UInt8.ofNat (0xE0 + n / 4096) < 0xF0 :=
    (ofNat_lt_iff hbyte).2 (show 0xE0 + n / 4096 < 0xF0 by omega)
  have hnumber : (0xE0 + n / 4096 - 0xE0) * 4096 + n / 64 % 64 * 64 + n % 64 = n := by omega
  rw [segments.eq_def]
  simp only [hlong, hlead, hfollow, hmore, hlength, if_true, if_false, Bool.not_true,
    Bool.false_eq_true, isContinuation_ofNat (n % 64) (by omega), UInt8.toNat_ofNat_of_lt' hbyte,
    payload_ofNat (n / 64 % 64) (by omega), payload_ofNat (n % 64) (by omega), hnumber]

theorem segments_four (hn : 0x10000 ≤ n) (hn' : n < 0x110000) :
    segments (.ofNat (0xF0 + n / 262144) :: .ofNat (0x80 + n / 4096 % 64)
      :: .ofNat (0x80 + n / 64 % 64) :: .ofNat (0x80 + n % 64) :: rest) =
      .scalar (Char.ofNat n) :: segments rest := by
  have hbyte : 0xF0 + n / 262144 < 256 := by omega
  obtain ⟨hlong, hlead⟩ := isLead_ofNat (n := 0xF0 + n / 262144) (by omega) (by omega)
  have hfollow : mayFollow (.ofNat (0xF0 + n / 262144)) (.ofNat (0x80 + n / 4096 % 64)) = true :=
    mayFollow_ofNat hbyte (by omega) (by omega) (by omega) (by omega) (by omega)
  have hmost : ¬ UInt8.ofNat (0xF0 + n / 262144) < 0xF0 := by
    rw [ofNat_lt_iff hbyte]
    exact Nat.not_lt.2 (Nat.le_add_right 0xF0 _)
  have hmore : ¬ UInt8.ofNat (0xF0 + n / 262144) < 0xE0 := by
    rw [ofNat_lt_iff hbyte]
    exact Nat.not_lt.2 (show 0xE0 ≤ 0xF0 + n / 262144 by omega)
  have hnumber : (0xF0 + n / 262144 - 0xF0) * 262144 + n / 4096 % 64 * 4096 + n / 64 % 64 * 64
      + n % 64 = n := by omega
  rw [segments.eq_def]
  simp only [hlong, hlead, hfollow, hmore, hmost, if_false, Bool.not_true,
    Bool.false_eq_true, isContinuation_ofNat (n / 64 % 64) (by omega),
    isContinuation_ofNat (n % 64) (by omega), UInt8.toNat_ofNat_of_lt' hbyte,
    payload_ofNat (n / 4096 % 64) (by omega), payload_ofNat (n / 64 % 64) (by omega),
    payload_ofNat (n % 64) (by omega), hnumber]

/-- An encoded character is the first segment of any bytes that start with it. -/
theorem segments_encodeChar (c : Char) :
    segments (encodeChar c ++ rest) = .scalar c :: segments rest := by
  have hvalid : c.toNat < 0xD800 ∨ 0xDFFF < c.toNat ∧ c.toNat < 0x110000 := c.valid
  suffices h : segments (encodeChar c ++ rest) = .scalar (Char.ofNat c.toNat) :: segments rest by
    rwa [Char.ofNat_toNat] at h
  simp only [encodeChar]
  split
  · next h => exact segments_one rest h
  split
  · next h h' => exact segments_two rest (by omega) h'
  split
  · next h h' => exact segments_three rest (by omega) h' (by omega)
  · next h => exact segments_four rest (by omega) (by omega)

/-! ### Text -/

theorem collect_segments {t : Text} {bytes : Bytes} (start position : Nat)
    (h : encodeFrom start t = .ok bytes) : collect position (segments bytes) = .ok t := by
  induction t generalizing start position bytes with
  | nil =>
    obtain rfl := Except.ok.inj h
    rfl
  | cons c t ih =>
    cases c with
    | char c =>
      cases ht : encodeFrom (start + 1) t with
      | error e =>
        rw [encodeFrom, ht] at h
        cases h
      | ok more =>
        rw [encodeFrom, ht] at h
        obtain rfl := Except.ok.inj h
        rw [segments_encodeChar, collect, ih _ _ ht]
        rfl
    | surrogate i => cases h

/-- What encodes decodes to itself. -/
theorem decode_encode {t : Text} {bytes : Bytes} (h : encode t = .ok bytes) :
    decode bytes = .ok t :=
  collect_segments 0 0 h

theorem encodeFrom_error {t : Text} (position : Nat) :
    (∃ error, encodeFrom position t = .error error) ↔ ∃ i, .surrogate i ∈ t := by
  induction t generalizing position with
  | nil => exact ⟨by rintro ⟨error, ⟨⟩⟩, by rintro ⟨i, ⟨⟩⟩⟩
  | cons c t ih =>
    cases c with
    | char c =>
      have hskip (i : Fin 2048) : CodePoint.surrogate i ∈ .char c :: t ↔ .surrogate i ∈ t :=
        List.mem_cons.trans (or_iff_right nofun)
      simp only [encodeFrom, bind_error, pure_ne_error, and_false, exists_false, or_false, ih, hskip]
    | surrogate i => exact ⟨fun _ => ⟨i, List.mem_cons_self⟩, fun _ => ⟨_, rfl⟩⟩

/-- Lone surrogates, and nothing else, keep text from being encoded. -/
theorem encode_error {t : Text} : (∃ error, encode t = .error error) ↔ ∃ i, .surrogate i ∈ t :=
  encodeFrom_error 0

theorem surrogate_notMem_ofString (w : String) (i : Fin 2048) :
    CodePoint.surrogate i ∉ Text.ofString w := by
  simp [Text.ofString]

end ReportDelivery.Utf8
