import ReportDelivery.Gzip.File
import ReportDelivery.Proofs.Outcome

/-! Compressed data decompresses to itself.

The data stands in stored blocks, every one full but the last. Each block is read back by itself,
whatever was read before it and whatever follows. -/
namespace ReportDelivery.Gzip

/-! ### Numbers -/

theorem pair_ofNat {low high : Nat} (hlow : low < 256) (hhigh : high < 256) :
    pair (.ofNat low) (.ofNat high) = low + 256 * high := by
  rw [pair, UInt8.toNat_ofNat_of_lt' hlow, UInt8.toNat_ofNat_of_lt' hhigh]

/-- A number is written in four bytes up to a multiple of 2³². -/
theorem quad_ofNat (n : Nat) :
    quad (.ofNat (n % 256)) (.ofNat (n / 256 % 256)) (.ofNat (n / 65536 % 256))
      (.ofNat (n / 16777216 % 256)) = n % 0x100000000 := by
  rw [quad, pair_ofNat (by omega) (by omega), pair_ofNat (by omega) (by omega)]
  omega

/-! ### Blocks -/

/-- What stands after the first byte of a stored block. -/
theorem storedBlock_spec (last : Bool) (out : Array UInt8) (pending : List Bool)
    {data : Bytes} (rest : Bytes) (h : data.length ≤ 0xFFFF) :
    storedBlock out ⟨pending, (storedHeader last data.length).tail ++ (data ++ rest)⟩ =
      .ok (out ++ data, ⟨[], rest⟩) := by
  have hlength : pair (.ofNat (data.length % 256)) (.ofNat (data.length / 256)) = data.length := by
    rw [pair_ofNat (by omega) (by omega)]
    omega
  have hinverted : pair (.ofNat (255 - data.length % 256)) (.ofNat (255 - data.length / 256)) =
      0xFFFF - data.length := by
    rw [pair_ofNat (by omega) (by omega)]
    omega
  have hsum : data.length + (0xFFFF - data.length) = 0xFFFF := by omega
  have henough : ¬ (data ++ rest).length < data.length := by
    rw [List.length_append]
    omega
  simp only [storedHeader, List.tail_cons, List.cons_append, List.nil_append, storedBlock, hlength,
    hinverted, hsum, ne_eq, not_true_eq_false, if_false, henough, List.take_left, List.drop_left]

/-- The first byte says whether the block is the last one, and that it is a stored one. -/
theorem blocks_stored (fuel : Nat) (out : Array UInt8) (last : Bool) (more : Bytes) :
    blocks (fuel + 1) out ⟨[], (if last then 1 else 0) :: more⟩ =
      (storedBlock out ⟨List.replicate 5 false, more⟩ >>= fun result =>
        if last then .ok result else blocks fuel result.1 result.2) := by
  cases last <;> rfl

theorem blocks_block (fuel : Nat) (out : Array UInt8) (last : Bool) {data : Bytes} (rest : Bytes)
    (h : data.length ≤ 0xFFFF) :
    blocks (fuel + 1) out ⟨[], storedHeader last data.length ++ (data ++ rest)⟩ =
      if last then .ok (out ++ data, ⟨[], rest⟩) else blocks fuel (out ++ data) ⟨[], rest⟩ := by
  have hheader : storedHeader last data.length ++ (data ++ rest) =
      (if last then 1 else 0) :: ((storedHeader last data.length).tail ++ (data ++ rest)) := rfl
  rw [hheader, blocks_stored, storedBlock_spec last _ _ _ h, ok_bind]

/-- By induction on the number of full blocks: the first one is read, and those after it are read
behind what it gave. -/
theorem blocks_storedBlocks (full fuel : Nat) (out : Array UInt8) (data rest : Bytes)
    (hfull : 0xFFFF * full ≤ data.length) (hlast : data.length ≤ 0xFFFF * (full + 1))
    (hfuel : full < fuel) :
    blocks fuel out ⟨[], storedBlocks full data ++ rest⟩ = .ok (out ++ data, ⟨[], rest⟩) := by
  obtain ⟨fuel, rfl⟩ : ∃ n, fuel = n + 1 := ⟨fuel - 1, by omega⟩
  induction full generalizing fuel out data with
  | zero => rw [storedBlocks, List.append_assoc, blocks_block _ _ _ _ (by omega), if_pos rfl]
  | succ full ih =>
    obtain ⟨first, hfirst⟩ : ∃ first, data.take storedLimit = first := ⟨_, rfl⟩
    obtain ⟨others, hothers⟩ : ∃ others, data.drop storedLimit = others := ⟨_, rfl⟩
    have hdata : first ++ others = data := by
      rw [← hfirst, ← hothers, List.take_append_drop]
    have hlength : first.length = 0xFFFF := by
      rw [← hfirst]
      exact List.length_take_of_le (show 0xFFFF ≤ data.length by omega)
    have hsum : first.length + others.length = data.length := by
      rw [← hdata, List.length_append]
    have hblock := @blocks_block fuel out false first (storedBlocks full others ++ rest) (by omega)
    rw [hlength, if_neg Bool.false_ne_true] at hblock
    obtain ⟨fuel, rfl⟩ : ∃ n, fuel = n + 1 := ⟨fuel - 1, by omega⟩
    have hrest := ih (out ++ first) others (by omega) (by omega) fuel (by omega)
    have hjoined : out ++ first ++ others = out ++ data := Array.ext' (by simp [← hdata])
    rw [storedBlocks, hfirst, hothers, List.append_assoc, List.append_assoc, storedLimit, hblock,
      hrest, hjoined]

theorem le_length_storedBlocks (full : Nat) (data : Bytes) :
    full ≤ (storedBlocks full data).length := by
  induction full generalizing data with
  | zero => exact Nat.zero_le _
  | succ full ih =>
    have hrest := ih (data.drop storedLimit)
    rw [storedBlocks, List.length_append, List.length_append, storedHeader, List.length_cons]
    omega

theorem inflate_deflate (data rest : Bytes) :
    inflate (deflate data ++ rest) = .ok (data, rest) := by
  obtain ⟨full, hfull⟩ : ∃ full, (data.length - 1) / 0xFFFF = full := ⟨_, rfl⟩
  have hdeflate : deflate data = storedBlocks full data := by
    rw [← hfull]
    rfl
  have hfuel : full < 8 * (deflate data ++ rest).length + 1 := by
    have := le_length_storedBlocks full data
    rw [hdeflate, List.length_append]
    omega
  rw [inflate, hdeflate, blocks_storedBlocks full _ _ _ _ (by omega) (by omega) (hdeflate ▸ hfuel),
    ok_bind]
  exact congrArg (fun bytes => Except.ok (bytes, rest)) (by simp)

/-! ### Files -/

theorem skipHeader_header (rest : Bytes) : skipHeader (header ++ rest) = .ok rest := rfl

theorem decompressMember_compress (data : Bytes) :
    decompressMember (compress data) = .ok (data, []) := by
  have hchecksum : (checksum data).toNat % 0x100000000 = (checksum data).toNat :=
    Nat.mod_eq_of_lt (checksum data).toNat_lt
  have hfile : compress data =
      header ++ (deflate data ++ (quadBytes (checksum data).toNat ++ quadBytes data.length)) := by
    simp only [compress, List.append_assoc]
  rw [decompressMember, hfile, skipHeader_header, ok_bind, inflate_deflate, mapError_of_ok, ok_bind]
  simp only [quadBytes, List.cons_append, List.nil_append, quad_ofNat, hchecksum, ne_eq,
    not_true_eq_false, if_false, List.dropWhile_nil]
  rfl

theorem decompressFrom_nil (fuel : Nat) : decompressFrom fuel [] = .ok [] := by
  cases fuel with
  | zero => rfl
  | succ fuel => rfl

theorem decompress_compress (data : Bytes) : decompress (compress data) = .ok data := by
  have hnonempty : (compress data).isEmpty = false := rfl
  rw [decompress, decompressFrom, hnonempty, if_neg Bool.false_ne_true, decompressMember_compress,
    ok_bind]
  simp only [decompressFrom_nil, ok_bind, List.append_nil]
  rfl

end ReportDelivery.Gzip
