import BedroomLights.Firmware.Rdm.Format
import Mathlib.Tactic.Ring

/-!
# Copying a parameter there and back

On a format of integers and UIDs, `rdm_format_encode` cuts its source into pieces of the size of
the format and swaps the bytes in each.  Swapping twice changes nothing, so the same function takes
a parameter from memory to the wire and back.  That holds for a format that its assertion lets pass,
which is one whose pieces have 1 to 231 bytes (`rdmFormatIsValid_plain`), and for a size that is a
whole number of pieces.  For any other, the count of the bytes that are left wraps below zero and
the copy leaves its source, however large that is (`rdmFormatEncode_plain`).  A format that ends
with `$` is copied once whatever the size (`rdmFormatEncode_plain_end`).

`Plain` is such a format, `plainSize` the size of a piece and `plainSwap` what is done to it.
-/

set_option autoImplicit false

namespace BedroomLights

/-! ## Tokens -/

variable {c : Char} {size : ℕ} {swap : List Byte → List Byte}

@[simp] theorem length_swapUid (uid : List Byte) : (swapUid uid).length = uid.length := by
  rw [swapUid, List.length_append, List.length_reverse, List.length_reverse, List.length_take,
    List.length_drop]
  omega

theorem swapUid_swapUid {uid : List Byte} (h : uid.length = 6) : swapUid (swapUid uid) = uid := by
  match uid, h with
  | [_, _, _, _, _, _], _ => rfl

/-- What a token does to its bytes keeps their number and undoes itself. -/
structure Swaps (size : ℕ) (swap : List Byte → List Byte) : Prop where
  length : ∀ l : List Byte, (swap l).length = l.length
  twice : ∀ l : List Byte, l.length = size → swap (swap l) = l

theorem swaps_of_copied (h : encodeToken c = .copied size swap) : Swaps size swap := by
  rw [encodeToken] at h
  split at h <;> cases h
  · exact ⟨fun _ ↦ rfl, fun _ _ ↦ rfl⟩
  · exact ⟨fun _ ↦ List.length_reverse, fun _ _ ↦ List.reverse_reverse _⟩
  · exact ⟨fun _ ↦ List.length_reverse, fun _ _ ↦ List.reverse_reverse _⟩
  · exact ⟨length_swapUid, fun _ ↦ swapUid_swapUid⟩

/-- No capital is made a small letter. -/
theorem eq_of_smallLetter {small : Char} (h : smallLetter c = small) (hsmall : small.toNat < 130) :
    c = small := by
  rw [smallLetter] at h
  split_ifs at h with hcapital
  · have hlow : 65 ≤ c.toNat := hcapital.1
    have hhigh : c.toNat ≤ 90 := hcapital.2
    have hvalid : (c.toNat + 'A'.toNat).isValidChar := Or.inl (show c.toNat + 65 < 55296 by omega)
    have htoNat : (Char.ofNat (c.toNat + 'A'.toNat)).toNat = c.toNat + 65 := by
      rw [Char.ofNat, dif_pos hvalid]
      rfl
    rw [h] at htoNat
    omega
  · exact h

/-- The tokens that are copied are four small letters. -/
theorem eq_of_copied (h : encodeToken c = .copied size swap) :
    (c = 'b' ∧ size = 1) ∨ (c = 'w' ∧ size = 2) ∨ (c = 'd' ∧ size = 4) ∨ (c = 'u' ∧ size = 6) := by
  rw [encodeToken] at h
  split at h <;> cases h
  · exact Or.inl ⟨eq_of_smallLetter ‹_› (by decide), rfl⟩
  · exact Or.inr (Or.inl ⟨eq_of_smallLetter ‹_› (by decide), rfl⟩)
  · exact Or.inr (Or.inr (Or.inl ⟨eq_of_smallLetter ‹_› (by decide), rfl⟩))
  · exact Or.inr (Or.inr (Or.inr ⟨eq_of_smallLetter ‹_› (by decide), rfl⟩))

/-- `rdm_format_is_valid` counts a token that is copied with its size. -/
theorem formatToken_of_copied (h : encodeToken c = .copied size swap) :
    formatToken c = some (size, false) ∧ c ≠ ' ' ∧ ¬ (c = 'x' ∨ c = 'X') := by
  rcases eq_of_copied h with ⟨rfl, rfl⟩ | ⟨rfl, rfl⟩ | ⟨rfl, rfl⟩ | ⟨rfl, rfl⟩ <;>
    exact ⟨rfl, by decide, by decide⟩

/-! ## Plain formats -/

/-- Nothing but spaces and tokens that are copied. -/
inductive Plain : List Char → Prop where
  | nil : Plain []
  | space {format : List Char} (h : Plain format) : Plain (' ' :: format)
  | copied {c : Char} {size : ℕ} {swap : List Byte → List Byte} {format : List Char}
    (hc : encodeToken c = .copied size swap) (h : Plain format) : Plain (c :: format)

/-- The size of a parameter of a plain format. -/
def plainSize : List Char → ℕ
  | [] => 0
  | c :: format =>
    match encodeToken c with
    | .copied size _ => size + plainSize format
    | _ => plainSize format

/-- The first bytes of a source, swapped the way a plain format says. -/
def plainSwap : List Char → List Byte → List Byte
  | [], _ => []
  | c :: format, src =>
    match encodeToken c with
    | .copied size swap => swap (src.take size) ++ plainSwap format (src.drop size)
    | _ => plainSwap format src

variable {format : List Char} {src : List Byte} {e : Bool}

theorem plainSize_copied (hc : encodeToken c = .copied size swap) :
    plainSize (c :: format) = size + plainSize format := by
  rw [plainSize, hc]

theorem plainSwap_copied (hc : encodeToken c = .copied size swap) :
    plainSwap (c :: format) src =
      swap (src.take size) ++ plainSwap format (src.drop size) := by
  rw [plainSwap, hc]

theorem length_plainSwap (hf : Plain format) (h : plainSize format ≤ src.length) :
    (plainSwap format src).length = plainSize format := by
  induction hf generalizing src with
  | nil => rfl
  | space _ ih => exact ih h
  | copied hc _ ih =>
    rw [plainSize_copied hc] at h
    rw [plainSwap_copied hc, plainSize_copied hc, List.length_append, (swaps_of_copied hc).length,
      List.length_take, ih (by rw [List.length_drop]; omega)]
    omega

/-- **Swapping twice changes nothing.** -/
theorem plainSwap_plainSwap (hf : Plain format) (h : plainSize format ≤ src.length)
    (rest : List Byte) :
    plainSwap format (plainSwap format src ++ rest) = src.take (plainSize format) := by
  induction hf generalizing src with
  | nil => rw [plainSwap, plainSize, List.take_zero]
  | space _ ih => exact ih h
  | @copied c size swap format hc _ ih =>
    rw [plainSize_copied hc] at h
    have htake : (src.take size).length = size := by rw [List.length_take]; omega
    have hlen : (swap (src.take size)).length = size := by
      rw [(swaps_of_copied hc).length, htake]
    rw [plainSwap_copied hc, plainSwap_copied hc, plainSize_copied hc, List.append_assoc,
      List.take_left' hlen, List.drop_left' hlen, (swaps_of_copied hc).twice _ htake,
      ih (by rw [List.length_drop]; omega), List.take_add]

/-- The loop of `rdm_format_is_valid` adds up the size of a plain format, as far as 231. -/
theorem rdmFormatScan_plain (hf : Plain format) {p : ℕ} (hp : p ≤ 231) :
    rdmFormatScan format p = if p + plainSize format ≤ 231 then
      .unterminated (p + plainSize format) else .invalid := by
  induction hf generalizing p with
  | nil => rw [rdmFormatScan, plainSize, Nat.add_zero, if_pos hp]
  | space _ ih =>
    rw [rdmFormatScan.eq_def]
    exact ih hp
  | @copied c size swap format hc _ ih =>
    obtain ⟨htoken, hspace, hliteral⟩ := formatToken_of_copied hc
    rw [rdmFormatScan.eq_def, plainSize_copied hc]
    simp only [if_neg hspace, if_neg hliteral, htoken]
    by_cases hle : p + size ≤ 231
    · rw [if_neg (not_lt.mpr hle), if_neg Bool.false_ne_true, ih hle, Nat.add_assoc]
    · rw [if_pos (not_le.mp hle), if_neg (by omega)]

/-- **A plain format is valid** if a parameter has 1 to 231 bytes. -/
theorem rdmFormatIsValid_plain (hf : Plain format) :
    rdmFormatIsValid (some format) = some true ↔ 0 < plainSize format ∧ plainSize format ≤ 231 := by
  rw [rdmFormatIsValid, rdmFormatScan_plain hf (Nat.zero_le 231), Nat.zero_add]
  by_cases hle : plainSize format ≤ 231
  · simp only [if_pos hle]
    by_cases hzero : plainSize format = 0
    · rw [if_pos hzero]
      exact iff_of_false (by simp) fun h ↦ h.1.ne' hzero
    · have hmod := Nat.mod_lt 231 (Nat.pos_of_ne_zero hzero)
      rw [if_neg hzero, decide_eq_true (show 231 - 231 % plainSize format > 0 by omega)]
      exact iff_of_true rfl ⟨Nat.pos_of_ne_zero hzero, hle⟩
  · simp only [if_neg hle]
    exact iff_of_false (by simp) fun h ↦ hle h.2

/-- A pass over a plain format swaps one parameter, if the source has it. -/
theorem rdmFormatPass_plain (hf : Plain format) (tail : List Char) (dest src : List Byte)
    (srcSize : BitVec 32) :
    rdmFormatPass e (format ++ tail) dest src srcSize =
      if plainSize format ≤ src.length then
        rdmFormatPass e tail (dest ++ plainSwap format src) (src.drop (plainSize format))
          (srcSize - BitVec.ofNat 32 (plainSize format))
      else none := by
  induction hf generalizing dest src srcSize with
  | nil => simp [plainSize, plainSwap]
  | space _ ih =>
    rw [List.cons_append, rdmFormatPass_space]
    exact ih dest src srcSize
  | @copied c size swap format hc _ ih =>
    rw [List.cons_append, rdmFormatPass_copied hc, plainSize_copied hc, plainSwap_copied hc]
    by_cases hsize : size ≤ src.length
    · rw [if_pos hsize, ih, List.length_drop]
      by_cases hall : plainSize format ≤ src.length - size
      · have hle : size + plainSize format ≤ src.length := by omega
        have hsub : srcSize - BitVec.ofNat 32 size - BitVec.ofNat 32 (plainSize format) =
            srcSize - BitVec.ofNat 32 (size + plainSize format) := by
          rw [BitVec.ofNat_add, sub_sub]
        rw [if_pos hall, if_pos hle, List.append_assoc, List.drop_drop, hsub]
      · have hgt : ¬ size + plainSize format ≤ src.length := by omega
        rw [if_neg hall, if_neg hgt]
    · have hgt : ¬ size + plainSize format ≤ src.length := by omega
      rw [if_neg hsize, if_neg hgt]

/-! ## Parameter after parameter -/

/-- The first `k` parameters of a source, swapped. -/
def copyAll (format : List Char) : ℕ → List Byte → List Byte
  | 0, _ => []
  | k + 1, src => plainSwap format src ++ copyAll format k (src.drop (plainSize format))

variable {k : ℕ}

theorem length_copyAll (hf : Plain format) (h : k * plainSize format ≤ src.length) :
    (copyAll format k src).length = k * plainSize format := by
  induction k generalizing src with
  | zero => rw [copyAll, Nat.zero_mul, List.length_nil]
  | succ k ih =>
    rw [Nat.succ_mul] at h
    rw [copyAll, List.length_append, length_plainSwap hf (by omega),
      ih (by rw [List.length_drop]; omega), Nat.succ_mul, Nat.add_comm]

theorem copyAll_copyAll (hf : Plain format) (h : k * plainSize format ≤ src.length) :
    copyAll format k (copyAll format k src) = src.take (k * plainSize format) := by
  induction k generalizing src with
  | zero => rw [copyAll, Nat.zero_mul, List.take_zero]
  | succ k ih =>
    rw [Nat.succ_mul] at h
    have hle : plainSize format ≤ src.length := by omega
    rw [copyAll, copyAll, plainSwap_plainSwap hf hle, List.drop_left' (length_plainSwap hf hle),
      ih (by rw [List.length_drop]; omega), Nat.succ_mul, Nat.add_comm, List.take_add]

/-- A pass of the loop over a plain format that does not end the parameter. -/
theorem rdmFormatLoop_plain (hf : Plain format) {fuel : ℕ} {dest : List Byte} {srcSize : BitVec 32}
    (hsize : srcSize ≠ 0) : rdmFormatLoop format e (fuel + 1) dest src srcSize =
      if plainSize format ≤ src.length then
        rdmFormatLoop format e fuel (dest ++ plainSwap format src) (src.drop (plainSize format))
          (srcSize - BitVec.ofNat 32 (plainSize format))
      else none := by
  have hpass := rdmFormatPass_plain (e := e) hf [] dest src srcSize
  rw [List.append_nil, rdmFormatPass_nil] at hpass
  rw [rdmFormatLoop, if_neg hsize, hpass]
  by_cases hle : plainSize format ≤ src.length
  · rw [if_pos hle, if_pos hle]
  · rw [if_neg hle, if_neg hle]

/-- As many whole parameters as the size says are copied. -/
theorem rdmFormatLoop_mul (hf : Plain format) (hpos : 0 < plainSize format) {fuel : ℕ}
    (hfuel : k ≤ fuel) (hk : k * plainSize format ≤ src.length)
    (hlt : k * plainSize format < 2 ^ 32) (dest : List Byte) :
    rdmFormatLoop format e fuel dest src (BitVec.ofNat 32 (k * plainSize format)) =
      some (dest ++ copyAll format k src) := by
  induction k generalizing src fuel dest with
  | zero => cases fuel <;> simp [rdmFormatLoop, copyAll]
  | succ k ih =>
    rw [Nat.succ_mul] at hk hlt
    obtain ⟨fuel, rfl⟩ := Nat.exists_eq_add_of_le' (Nat.le_trans (Nat.le_add_left 1 k) hfuel)
    have hne : BitVec.ofNat 32 ((k + 1) * plainSize format) ≠ 0 := by
      rw [Nat.succ_mul, Ne, ← BitVec.toNat_inj, BitVec.toNat_ofNat, Nat.mod_eq_of_lt hlt]
      exact Nat.ne_of_gt (Nat.lt_add_left _ hpos)
    have hsub : BitVec.ofNat 32 ((k + 1) * plainSize format) - BitVec.ofNat 32 (plainSize format) =
        BitVec.ofNat 32 (k * plainSize format) := by
      rw [Nat.succ_mul, BitVec.ofNat_add, BitVec.add_sub_cancel]
    rw [rdmFormatLoop_plain hf hne, if_pos (by omega), hsub,
      ih (by omega) (by rw [List.length_drop]; omega) (by omega), copyAll, List.append_assoc]

/-- A count that has wrapped is never counted down to zero. -/
theorem rdmFormatLoop_eq_none_of_lt (hf : Plain format) {fuel : ℕ} {srcSize : BitVec 32}
    (h : src.length < srcSize.toNat) (dest : List Byte) :
    rdmFormatLoop format e fuel dest src srcSize = none := by
  induction fuel generalizing src srcSize dest with
  | zero => rw [rdmFormatLoop, if_neg (by rintro rfl; exact absurd h (Nat.not_lt_zero _))]
  | succ fuel ih =>
    rw [rdmFormatLoop_plain hf (by rintro rfl; exact absurd h (Nat.not_lt_zero _))]
    by_cases hle : plainSize format ≤ src.length
    · rw [if_pos hle]
      refine ih ?_ _
      rw [List.length_drop, BitVec.toNat_sub, BitVec.toNat_ofNat]
      omega
    · rw [if_neg hle]

/-- A size that is not a whole number of parameters is never counted down to zero. -/
theorem rdmFormatLoop_eq_none (hf : Plain format) (hsrc : src.length < 2 ^ 32) {fuel : ℕ}
    {srcSize : BitVec 32} (hle : srcSize.toNat ≤ src.length)
    (hdvd : ¬ plainSize format ∣ srcSize.toNat) (dest : List Byte) :
    rdmFormatLoop format e fuel dest src srcSize = none := by
  induction fuel generalizing src srcSize dest with
  | zero => rw [rdmFormatLoop, if_neg (by rintro rfl; exact hdvd (Nat.dvd_zero _))]
  | succ fuel ih =>
    rw [rdmFormatLoop_plain hf (by rintro rfl; exact hdvd (Nat.dvd_zero _))]
    by_cases hfits : plainSize format ≤ src.length
    · rw [if_pos hfits]
      have hlen : (src.drop (plainSize format)).length = src.length - plainSize format :=
        List.length_drop
      rcases Nat.lt_or_ge srcSize.toNat (plainSize format) with hlt | hge
      · -- less than a parameter is left: the count wraps
        refine rdmFormatLoop_eq_none_of_lt hf ?_ _
        rw [hlen, BitVec.toNat_sub, BitVec.toNat_ofNat]
        omega
      · have hsub : (srcSize - BitVec.ofNat 32 (plainSize format)).toNat =
            srcSize.toNat - plainSize format := by
          rw [BitVec.toNat_sub, BitVec.toNat_ofNat]
          omega
        refine ih (by omega) (by omega) ?_ _
        rw [hsub, Nat.dvd_sub_iff_left hge dvd_rfl]
        exact hdvd
    · rw [if_neg hfits]

/-- **What a valid plain format does to a source** of which `n` bytes are to be copied. -/
theorem rdmFormatEncode_plain (hf : Plain format) (hpos : 0 < plainSize format)
    (hle : plainSize format ≤ 231) {n : ℕ} (hn : n ≤ src.length) (hsrc : src.length < 2 ^ 32) :
    rdmFormatEncode format src (BitVec.ofNat 32 n) e =
      if plainSize format ∣ n then some (copyAll format (n / plainSize format) src) else none := by
  have htoNat : (BitVec.ofNat 32 n).toNat = n := by
    rw [BitVec.toNat_ofNat, Nat.mod_eq_of_lt (by omega)]
  rw [rdmFormatEncode_of_valid ((rdmFormatIsValid_plain hf).mpr ⟨hpos, hle⟩)]
  split_ifs with hdvd
  · obtain ⟨k, rfl⟩ := hdvd
    rw [Nat.mul_comm] at hn htoNat ⊢
    rw [htoNat, rdmFormatLoop_mul hf hpos (Nat.le_mul_of_pos_right k hpos) hn (by omega),
      Nat.mul_div_cancel k hpos, List.nil_append]
  · exact rdmFormatLoop_eq_none hf hsrc (htoNat.trans_le hn) (htoNat.symm ▸ hdvd) []

/-- A plain format that ends is copied once. -/
theorem rdmFormatEncode_plain_end (hf : Plain format)
    (hvalid : rdmFormatIsValid (some (format ++ ['$'])) = some true) {srcSize : BitVec 32}
    (hne : srcSize ≠ 0) (hsrc : plainSize format ≤ src.length) :
    rdmFormatEncode (format ++ ['$']) src srcSize e = some (plainSwap format src) := by
  have hpos : srcSize.toNat ≠ 0 := fun h ↦ hne (BitVec.eq_of_toNat_eq h)
  obtain ⟨fuel, hfuel⟩ := Nat.exists_eq_succ_of_ne_zero hpos
  rw [rdmFormatEncode_of_valid hvalid, hfuel, rdmFormatLoop, if_neg hne, rdmFormatPass_plain hf,
    if_pos hsrc, rdmFormatPass_end, List.nil_append]

/-- **There and back.**  Copying `n` bytes of a source by a format of integers and UIDs returns if
and only if a parameter has 1 to 231 bytes and `n` is a whole number of them, and copying the result
by the same format gives the `n` bytes again. -/
theorem rdmFormatEncode_roundTrip (format : List Char) (hf : Plain format) (src : List Byte)
    (hsrc : src.length < 2 ^ 32) (n : ℕ) (hn : n ≤ src.length) (encodeNulls encodeNulls' : Bool) :
    (rdmFormatEncode format src (BitVec.ofNat 32 n) encodeNulls ≠ none ↔
      0 < plainSize format ∧ plainSize format ≤ 231 ∧ plainSize format ∣ n) ∧
      ∀ wire, rdmFormatEncode format src (BitVec.ofNat 32 n) encodeNulls = some wire →
        wire.length = n ∧
        rdmFormatEncode format wire (BitVec.ofNat 32 n) encodeNulls' = some (src.take n) := by
  by_cases hvalid : 0 < plainSize format ∧ plainSize format ≤ 231
  · obtain ⟨hpos, hle⟩ := hvalid
    rw [rdmFormatEncode_plain hf hpos hle hn hsrc]
    split_ifs with hdvd
    · refine ⟨iff_of_true (Option.some_ne_none _) ⟨hpos, hle, hdvd⟩, ?_⟩
      rintro wire hwire
      obtain ⟨k, rfl⟩ := hdvd
      rw [Nat.mul_div_cancel_left k hpos, Option.some_inj] at hwire
      subst hwire
      rw [Nat.mul_comm] at hn ⊢
      have hlen := length_copyAll hf hn
      refine ⟨hlen, ?_⟩
      rw [rdmFormatEncode_plain hf hpos hle hlen.ge (hlen.trans_lt (by omega)),
        if_pos (Nat.dvd_mul_left _ k), Nat.mul_div_cancel k hpos, copyAll_copyAll hf hn]
    · exact ⟨iff_of_false (not_not.mpr rfl) fun h ↦ hdvd h.2.2, fun wire h ↦ absurd h (by simp)⟩
  · -- the assertion fails
    have hnone : rdmFormatEncode format src (BitVec.ofNat 32 n) encodeNulls = none :=
      if_neg fun h ↦ hvalid ((rdmFormatIsValid_plain hf).mp h)
    rw [hnone]
    exact ⟨iff_of_false (not_not.mpr rfl) fun h ↦ hvalid ⟨h.1, h.2.1⟩,
      fun wire h ↦ absurd h (by simp)⟩

theorem plain_wd : Plain ['w', 'd'] := .copied rfl (.copied rfl .nil)

/-- Two parameters of a word and a double word. -/
theorem rdmFormatEncode_roundTrip_wd :
    rdmFormatEncode ['w', 'd'] (List.replicate 12 1) 12 false ≠ none ∧
      ∀ wire, rdmFormatEncode ['w', 'd'] (List.replicate 12 1) 12 false = some wire →
        wire.length = 12 ∧
        rdmFormatEncode ['w', 'd'] wire 12 true = some (List.replicate 12 1) := by
  obtain ⟨hiff, hback⟩ := rdmFormatEncode_roundTrip ['w', 'd'] plain_wd (List.replicate 12 1)
    (by decide) 12 (by decide) false true
  exact ⟨hiff.mpr (by decide), hback⟩

/-! ## How much is written -/

/-- What `rdm_format_is_valid` has found out about a format, starting to count at `p`, as far as it
matters for a copy to the wire. -/
def ScanSpec (format : List Char) (p : ℕ) : FormatScan → Prop
  | .invalid => True
  | .unterminated q => p ≤ q ∧ q ≤ 231 ∧ ∀ dest src srcSize r,
      rdmFormatPass false format dest src srcSize = some r →
        ∃ dest' src', r = .next dest' src' (srcSize - BitVec.ofNat 32 (q - p)) ∧
          dest'.length = dest.length + (q - p)
  | .terminated q _ => p ≤ q ∧ q ≤ 231 ∧ ∀ dest src srcSize r,
      rdmFormatPass false format dest src srcSize = some r →
        ∃ dest', r = .done dest' ∧ dest'.length ≤ dest.length + (q - p)

/-- A token of `rdm_format_is_valid` is a capital, or one of the tokens of `rdm_format_encode`. -/
theorem encodeToken_of_formatToken {isTerminated : Bool}
    (h : formatToken c = some (size, isTerminated)) :
    (c ≠ ' ' ∧ c ≠ '$' ∧ encodeToken c = .unknown) ∨
      (isTerminated = false ∧ ∃ swap, encodeToken c = .copied size swap) ∨
      (isTerminated = true ∧ (c = '$' ∨ (encodeToken c = .optionalUid ∧ size = 6) ∨
        (encodeToken c = .text ∧ size = 32))) := by
  rw [formatToken.eq_def] at h
  split at h <;> cases h <;> simp [encodeToken, smallLetter]

theorem length_encodeOptionalUid {dest dest' : List Byte} {srcSize : BitVec 32}
    (h : encodeOptionalUid false dest src srcSize = some dest') :
    dest'.length ≤ dest.length + 6 := by
  rw [encodeOptionalUid] at h
  simp only [Bool.false_eq_true, if_false] at h
  split_ifs at h <;> rw [Option.some_inj] at h <;> subst h
  · exact Nat.le_add_right _ _
  · exact Nat.le_add_right _ _
  · rw [List.length_append, length_swapUid, List.length_take]
    exact Nat.add_le_add_left (Nat.min_le_left _ _) _

theorem length_encodeText {dest dest' : List Byte} {srcSize : BitVec 32}
    (h : encodeText false dest src srcSize = some dest') : dest'.length ≤ dest.length + 32 := by
  rw [encodeText] at h
  simp only [Bool.false_eq_true, if_false] at h
  split_ifs at h
  rw [Option.some_inj] at h
  subst h
  have htext := (List.takeWhile_sublist (· ≠ 0) (l := src.take (min srcSize.toNat 32))).length_le
  rw [List.length_take] at htext
  rw [List.length_append]
  omega

/-- A token of `m` bytes in front of a format. -/
theorem ScanSpec.cons {p m : ℕ} {found : FormatScan} {format' : List Char}
    (hpass : ∀ dest src srcSize r, rdmFormatPass false format' dest src srcSize = some r →
      ∃ dest' src', dest'.length = dest.length + m ∧
        rdmFormatPass false format dest' src' (srcSize - BitVec.ofNat 32 m) = some r)
    (h : ScanSpec format (p + m) found) : ScanSpec format' p found := by
  cases found with
  | invalid => trivial
  | unterminated q =>
    obtain ⟨hpq, hq, hrest⟩ := h
    refine ⟨by omega, hq, fun dest src srcSize r hr ↦ ?_⟩
    obtain ⟨dest₁, src₁, hlen₁, hr₁⟩ := hpass dest src srcSize r hr
    obtain ⟨dest', src', hr', hlen'⟩ := hrest dest₁ src₁ _ r hr₁
    refine ⟨dest', src', ?_, by omega⟩
    rw [hr', sub_sub, ← BitVec.ofNat_add, show m + (q - (p + m)) = q - p by omega]
  | terminated q rest =>
    obtain ⟨hpq, hq, hrest⟩ := h
    refine ⟨by omega, hq, fun dest src srcSize r hr ↦ ?_⟩
    obtain ⟨dest₁, src₁, hlen₁, hr₁⟩ := hpass dest src srcSize r hr
    obtain ⟨dest', hr', hlen'⟩ := hrest dest₁ src₁ _ r hr₁
    exact ⟨dest', hr', by omega⟩

/-- A token that the encoder does not know: no pass gets beyond it. -/
theorem ScanSpec.unknown {p q : ℕ} {rest : List Char}
    (hc : c ≠ ' ' ∧ c ≠ '$' ∧ encodeToken c = .unknown) (hpq : p ≤ q) (hq : q ≤ 231) :
    ScanSpec (c :: format) p (.terminated q rest) :=
  ⟨hpq, hq, fun dest src srcSize r hr ↦ by
    rw [rdmFormatPass_unknown hc.1 hc.2.1 hc.2.2] at hr
    exact absurd hr (by simp)⟩

/-- **A scan of the format says what a pass over it writes.** -/
theorem scanSpec (format : List Char) {p : ℕ} (hp : p ≤ 231) :
    ScanSpec format p (rdmFormatScan format p) := by
  fun_induction rdmFormatScan format p with
  | case1 p =>
    refine ⟨le_rfl, hp, fun dest src srcSize r hr ↦ ⟨dest, src, ?_, by omega⟩⟩
    rw [rdmFormatPass_nil, Option.some_inj] at hr
    rw [← hr, Nat.sub_self, BitVec.sub_zero]
  | case2 format p ih =>
    refine (ih hp).cons (m := 0) fun dest src srcSize r hr ↦ ⟨dest, src, rfl, ?_⟩
    rwa [BitVec.sub_zero, ← rdmFormatPass_space]
  | case3 c p _ hx hi lo format hdigits ih =>
    refine (ih hdigits.2.2).cons fun dest src srcSize r hr ↦ ?_
    rcases hx with rfl | rfl
    · rw [rdmFormatPass_literal] at hr
      exact ⟨_, _, List.length_append, hr⟩
    · rw [rdmFormatPass_unknown (by decide) (by decide) rfl] at hr
      exact absurd hr (by simp)
  | case4 | case5 | case6 | case7 => trivial
  | case8 c format p _ _ size hle hc =>
    have hq : p + size ≤ 231 := Nat.le_of_not_gt hle
    rcases encodeToken_of_formatToken hc with hun | ⟨hfalse, -⟩ | ⟨-, hkind⟩
    · exact .unknown hun (Nat.le_add_right p size) hq
    · exact absurd hfalse (by simp)
    · refine ⟨Nat.le_add_right p size, hq, fun dest src srcSize r hr ↦ ?_⟩
      rw [Nat.add_sub_cancel_left]
      rcases hkind with rfl | ⟨huid, rfl⟩ | ⟨htext, rfl⟩
      · rw [rdmFormatPass_end, Option.some_inj] at hr
        exact ⟨dest, hr.symm, Nat.le_add_right _ _⟩
      · rw [rdmFormatPass_optionalUid huid, Option.map_eq_some_iff] at hr
        obtain ⟨dest', hdest, rfl⟩ := hr
        exact ⟨dest', rfl, length_encodeOptionalUid hdest⟩
      · rw [rdmFormatPass_text htext, Option.map_eq_some_iff] at hr
        obtain ⟨dest', hdest, rfl⟩ := hr
        exact ⟨dest', rfl, length_encodeText hdest⟩
  | case9 c format p _ _ size isTerminated hc hle hnot ih =>
    refine (ih (Nat.le_of_not_gt hle)).cons fun dest src srcSize r hr ↦ ?_
    rcases encodeToken_of_formatToken hc with hun | ⟨-, swap, hcopied⟩ | ⟨htrue, -⟩
    · rw [rdmFormatPass_unknown hun.1 hun.2.1 hun.2.2] at hr
      exact absurd hr (by simp)
    · rw [rdmFormatPass_copied hcopied] at hr
      split_ifs at hr with hsize
      refine ⟨_, _, ?_, hr⟩
      rw [List.length_append, (swaps_of_copied hcopied).length, List.length_take,
        Nat.min_eq_left hsize]
    · exact absurd htrue hnot

/-- A loop whose count has wrapped runs out of passes before it comes down to zero. -/
theorem rdmFormatLoop_eq_none_of_wrapped {q fuel : ℕ}
    (hpass : ∀ dest src srcSize r, rdmFormatPass false format dest src srcSize = some r →
      ∃ dest' src', r = .next dest' src' (srcSize - BitVec.ofNat 32 q))
    {dest : List Byte} {srcSize : BitVec 32} (h : fuel * q < srcSize.toNat) :
    rdmFormatLoop format false fuel dest src srcSize = none := by
  induction fuel generalizing dest src srcSize with
  | zero => rw [rdmFormatLoop, if_neg (by rintro rfl; exact absurd h (Nat.not_lt_zero _))]
  | succ fuel ih =>
    rw [Nat.succ_mul] at h
    rw [rdmFormatLoop, if_neg (by rintro rfl; exact absurd h (Nat.not_lt_zero _))]
    cases hr : rdmFormatPass false format dest src srcSize with
    | none => rfl
    | some r =>
      obtain ⟨dest', src', rfl⟩ := hpass dest src srcSize r hr
      refine ih ?_
      have hlt := srcSize.isLt
      rw [BitVec.toNat_sub, BitVec.toNat_ofNat]
      omega

/-- What an unterminated format writes has the size that was asked for. -/
theorem length_rdmFormatLoop {q fuel : ℕ} (hq : q ≤ 231)
    (hpass : ∀ dest src srcSize r, rdmFormatPass false format dest src srcSize = some r →
      ∃ dest' src', r = .next dest' src' (srcSize - BitVec.ofNat 32 q) ∧
        dest'.length = dest.length + q)
    {dest written : List Byte} {srcSize : BitVec 32} (hfuel : fuel ≤ 231)
    (h : rdmFormatLoop format false fuel dest src srcSize = some written) :
    written.length = dest.length + srcSize.toNat := by
  induction fuel generalizing dest src srcSize with
  | zero =>
    rw [rdmFormatLoop] at h
    split_ifs at h with hzero
    rw [Option.some_inj] at h
    rw [← h, hzero, show (0 : BitVec 32).toNat = 0 from rfl, Nat.add_zero]
  | succ fuel ih =>
    rw [rdmFormatLoop] at h
    split_ifs at h with hzero
    · rw [Option.some_inj] at h
      rw [← h, hzero, show (0 : BitVec 32).toNat = 0 from rfl, Nat.add_zero]
    · cases hr : rdmFormatPass false format dest src srcSize with
      | none => simp [hr] at h
      | some r =>
        obtain ⟨dest', src', rfl, hlen⟩ := hpass dest src srcSize r hr
        simp only [hr] at h
        have hlt := srcSize.isLt
        have hsub : (srcSize - BitVec.ofNat 32 q).toNat =
            if q ≤ srcSize.toNat then srcSize.toNat - q else 2 ^ 32 + srcSize.toNat - q := by
          rw [BitVec.toNat_sub, BitVec.toNat_ofNat]
          split_ifs <;> omega
        rcases Nat.lt_or_ge srcSize.toNat q with hwrap | hle
        · have hwrapped : fuel * q < (srcSize - BitVec.ofNat 32 q).toNat := by
            have hmul : fuel * q ≤ 231 * 231 := Nat.mul_le_mul (by omega) hq
            rw [hsub, if_neg (by omega)]
            omega
          have hnone : rdmFormatLoop format false fuel dest' src' (srcSize - BitVec.ofNat 32 q) =
              none := by
            refine rdmFormatLoop_eq_none_of_wrapped (fun dest src n r hr ↦ ?_) hwrapped
            obtain ⟨d, s, hd, -⟩ := hpass dest src n r hr
            exact ⟨d, s, hd⟩
          exact absurd (hnone.symm.trans h) (by simp)
        · rw [ih (by omega) h, hlen, hsub, if_pos hle]
          omega

/-- **A parameter on the wire has at most 231 slots**, whatever its format, as long as that is
valid. -/
theorem length_rdmFormatEncode_le {srcSize : BitVec 32} {written : List Byte}
    (hvalid : rdmFormatIsValid (some format) = some true) (hsize : srcSize.toNat ≤ 231)
    (h : rdmFormatEncode format src srcSize false = some written) : written.length ≤ 231 := by
  have hspec := scanSpec format (Nat.zero_le 231)
  rw [rdmFormatEncode_of_valid hvalid] at h
  rw [rdmFormatIsValid] at hvalid
  cases hscan : rdmFormatScan format 0 with
  | invalid => simp [hscan] at hvalid
  | unterminated q =>
    rw [hscan] at hspec
    obtain ⟨-, hq, hpass⟩ := hspec
    rw [length_rdmFormatLoop hq hpass hsize h, List.length_nil, Nat.zero_add]
    exact hsize
  | terminated q rest =>
    rw [hscan] at hspec
    obtain ⟨-, hq, hpass⟩ := hspec
    cases hfuel : srcSize.toNat with
    | zero =>
      rw [hfuel, rdmFormatLoop] at h
      split_ifs at h
      rw [Option.some_inj] at h
      rw [← h]
      exact Nat.zero_le 231
    | succ fuel =>
      rw [hfuel, rdmFormatLoop] at h
      split_ifs at h
      · rw [Option.some_inj] at h
        rw [← h]
        exact Nat.zero_le 231
      · cases hr : rdmFormatPass false format [] src srcSize with
        | none => simp [hr] at h
        | some r =>
          obtain ⟨dest', rfl, hlen⟩ := hpass [] src srcSize r hr
          simp only [hr, Option.some_inj] at h
          rw [← h]
          rw [List.length_nil] at hlen
          omega

end BedroomLights
