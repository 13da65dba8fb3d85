import BedroomLights.Firmware.Rdm.Uid

/-!
# Format strings of RDM parameters

A format string says how the members of a parameter lie in memory and on the wire: one character a
member, `b`, `w`, `d` and `u` for integers of 8, 16 and 32 bits and for a UID, `v` for an optional
UID, `a` for a string, `x` with two digits for a literal byte, and `$` for the end.  A format that
does not end is applied again and again.  `rdm_format_is_valid` checks a format, and
`rdm_format_encode` copies a parameter from memory to the wire or back, swapping the bytes of each
member.

The source of a copy is the memory from a pointer to the end of the object, and `none` is the error
branch: the format is not valid, which the copy asserts, or the copy has left the object, has met a
character that is no token, or never ends.  The size that is left to copy is a `size_t`, which wraps
when a token is longer.
-/

set_option autoImplicit false

namespace BedroomLights

/-! ## Tokens -/

/-- `isxdigit`. -/
def isxdigit (c : Char) : Bool :=
  c.isDigit || (decide ('a' ≤ c) && decide (c ≤ 'f')) || (decide ('A' ≤ c) && decide (c ≤ 'F'))

/-- The value of a hexadecimal digit. -/
def hexDigit (c : Char) : ℕ :=
  if c.isDigit then c.toNat - '0'.toNat
  else if 'a' ≤ c then c.toNat - 'a'.toNat + 10
  else c.toNat - 'A'.toNat + 10

/-- `strtol` of two hexadecimal digits, as a byte. -/
def hexLiteral (hi lo : Char) : Byte := BitVec.ofNat 8 (16 * hexDigit hi + hexDigit lo)

/-- `sizeof(rdm_uid_t)`. -/
abbrev sizeofRdmUid : ℕ := 6

/-- `bswap16` and `bswap32` of the two members of a UID in memory. -/
def swapUid (uid : List Byte) : List Byte := (uid.take 2).reverse ++ (uid.drop 2).reverse

/-! ## `rdm_format_is_valid` -/

/-- How the loop of `rdm_format_is_valid` ends. -/
inductive FormatScan where
  /-- It returns `false`. -/
  | invalid
  /-- At a terminating token, which `rest` comes after. -/
  | terminated (parameterSize : ℕ) (rest : List Char)
  /-- At the end of the string. -/
  | unterminated (parameterSize : ℕ)
deriving DecidableEq

/-- The `switch` of `rdm_format_is_valid`: the size of a token, and whether it ends the format. -/
def formatToken : Char → Option (ℕ × Bool)
  | 'b' | 'B' => some (1, false)
  | 'w' | 'W' => some (2, false)
  | 'd' | 'D' => some (4, false)
  | 'u' | 'U' => some (sizeofRdmUid, false)
  | 'v' | 'V' => some (sizeofRdmUid, true)
  | 'a' | 'A' => some (32, true)
  | '$' => some (0, true)
  | _ => none

/-- The loop of `rdm_format_is_valid`. -/
def rdmFormatScan : List Char → ℕ → FormatScan
  | [], parameterSize => .unterminated parameterSize
  | c :: format, parameterSize =>
    if c = ' ' then rdmFormatScan format parameterSize
    else if c = 'x' ∨ c = 'X' then
      match format with
      | hi :: lo :: format =>
        if isxdigit hi ∧ isxdigit lo ∧ parameterSize + 1 ≤ 231 then
          rdmFormatScan format (parameterSize + 1)
        else .invalid
      | _ => .invalid
    else
      match formatToken c with
      | none => .invalid
      | some (tokenSize, isTerminated) =>
        if parameterSize + tokenSize > 231 then .invalid
        else if isTerminated then .terminated (parameterSize + tokenSize) format
        else rdmFormatScan format (parameterSize + tokenSize)

/-- `rdm_format_is_valid`, where no format is a null pointer.  `none` is a division by zero. -/
def rdmFormatIsValid : Option (List Char) → Option Bool
  | none => some true
  | some format =>
    match rdmFormatScan format 0 with
    | .invalid => some false
    | .terminated parameterSize rest =>
      if rest.head? ≠ none ∧ rest.head? ≠ some '$' then some false
      else some (decide (parameterSize > 0))
    | .unterminated parameterSize =>
      if parameterSize = 0 then none else some (decide (231 - 231 % parameterSize > 0))

/-! ## `rdm_format_encode` -/

/-- The tokens that `rdm_format_encode` tells apart. -/
inductive EncodeToken where
  /-- `b`, `w`, `d` and `u`: the size, and how the bytes are swapped. -/
  | copied (size : ℕ) (swap : List Byte → List Byte)
  /-- `v`. -/
  | optionalUid
  /-- `a`. -/
  | text
  /-- `x`. -/
  | literal
  /-- Any other character: `__unreachable`. -/
  | unknown

/-- What is meant to make a capital small.  It makes it a character that is no token. -/
def smallLetter (c : Char) : Char :=
  if 'A' ≤ c ∧ c ≤ 'Z' then Char.ofNat (c.toNat + 'A'.toNat) else c

/-- The token that a character stands for. -/
def encodeToken (c : Char) : EncodeToken :=
  match smallLetter c with
  | 'b' => .copied 1 id
  | 'w' => .copied 2 List.reverse
  | 'd' => .copied 4 List.reverse
  | 'u' => .copied sizeofRdmUid swapUid
  | 'v' => .optionalUid
  | 'a' => .text
  | 'x' => .literal
  | _ => .unknown

/-- The destination after an optional UID, which the parameter ends with.  The test of
`rdm_uid_is_null` is one of the six bytes in memory. -/
def encodeOptionalUid (encodeNulls : Bool) (dest src : List Byte) (srcSize : BitVec 32) :
    Option (List Byte) :=
  let null := if encodeNulls then dest ++ List.replicate sizeofRdmUid 0 else dest
  if srcSize.toNat < sizeofRdmUid then some null
  else if src.length < sizeofRdmUid then none
  else if src.take sizeofRdmUid = List.replicate sizeofRdmUid 0 then some null
  else some (dest ++ swapUid (src.take sizeofRdmUid))

/-- The destination after a string, which the parameter ends with.  `strnlen` looks for a zero in
the first `limit` bytes, and leaves the object when it has fewer and none is zero. -/
def encodeText (encodeNulls : Bool) (dest src : List Byte) (srcSize : BitVec 32) :
    Option (List Byte) :=
  let limit := min srcSize.toNat 32
  let text := (src.take limit).takeWhile (· ≠ 0)
  if text.length < limit ∧ text.length = src.length then none
  else some (if encodeNulls then dest ++ text ++ [0] else dest ++ text)

/-- How a pass of `rdm_format_encode` over its format ends. -/
inductive EncodePass where
  /-- At a token that ends the parameter. -/
  | done (dest : List Byte)
  /-- At the end of the format. -/
  | next (dest src : List Byte) (srcSize : BitVec 32)
deriving DecidableEq

/-- A pass of `rdm_format_encode` over its format: what has been written to the destination, and
what is left of the source. -/
def rdmFormatPass (encodeNulls : Bool) :
    List Char → List Byte → List Byte → BitVec 32 → Option EncodePass
  | [], dest, src, srcSize => some (.next dest src srcSize)
  | c :: format, dest, src, srcSize =>
    if c = ' ' then rdmFormatPass encodeNulls format dest src srcSize
    else if c = '$' then some (.done dest)
    else
      match encodeToken c with
      | .copied size swap =>
        if size ≤ src.length then
          rdmFormatPass encodeNulls format (dest ++ swap (src.take size)) (src.drop size)
            (srcSize - BitVec.ofNat 32 size)
        else none
      | .optionalUid => (encodeOptionalUid encodeNulls dest src srcSize).map .done
      | .text => (encodeText encodeNulls dest src srcSize).map .done
      | .literal =>
        match format with
        | hi :: lo :: format =>
          rdmFormatPass encodeNulls format (dest ++ [hexLiteral hi lo]) (src.drop 1) (srcSize - 1)
        | _ => none
      | .unknown => none

/-- The loop of `rdm_format_encode`.  A pass that takes nothing from the source is repeated for
ever, so no more passes are needed than there are bytes to copy. -/
def rdmFormatLoop (format : List Char) (encodeNulls : Bool) :
    ℕ → List Byte → List Byte → BitVec 32 → Option (List Byte)
  | 0, dest, _, srcSize => if srcSize = 0 then some dest else none
  | fuel + 1, dest, src, srcSize =>
    if srcSize = 0 then some dest
    else
      match rdmFormatPass encodeNulls format dest src srcSize with
      | none => none
      | some (.done dest) => some dest
      | some (.next dest src srcSize) =>
        rdmFormatLoop format encodeNulls fuel dest src srcSize

/-- `rdm_format_encode`: the bytes it writes to its destination, and returns the number of.  Its
assertion lets valid formats pass only. -/
def rdmFormatEncode (format : List Char) (src : List Byte) (srcSize : BitVec 32)
    (encodeNulls : Bool) : Option (List Byte) :=
  if rdmFormatIsValid (some format) = some true then
    rdmFormatLoop format encodeNulls srcSize.toNat [] src srcSize
  else none

theorem rdmFormatEncode_of_valid {format : List Char}
    (hvalid : rdmFormatIsValid (some format) = some true) (src : List Byte) (srcSize : BitVec 32)
    (encodeNulls : Bool) :
    rdmFormatEncode format src srcSize encodeNulls =
      rdmFormatLoop format encodeNulls srcSize.toNat [] src srcSize :=
  if_pos hvalid

/-! ### One pass, token by token -/

section Pass

variable {e : Bool} {c : Char} {format : List Char} {dest src : List Byte} {srcSize : BitVec 32}

@[simp] theorem rdmFormatPass_nil :
    rdmFormatPass e [] dest src srcSize = some (.next dest src srcSize) := rfl

@[simp] theorem rdmFormatPass_space :
    rdmFormatPass e (' ' :: format) dest src srcSize = rdmFormatPass e format dest src srcSize := by
  rw [rdmFormatPass.eq_def]
  exact if_pos rfl

@[simp] theorem rdmFormatPass_end :
    rdmFormatPass e ('$' :: format) dest src srcSize = some (.done dest) := by
  rw [rdmFormatPass.eq_def]
  rfl

theorem rdmFormatPass_copied {size : ℕ} {swap : List Byte → List Byte}
    (h : encodeToken c = .copied size swap) :
    rdmFormatPass e (c :: format) dest src srcSize =
      if size ≤ src.length then
        rdmFormatPass e format (dest ++ swap (src.take size)) (src.drop size)
          (srcSize - BitVec.ofNat 32 size)
      else none := by
  have hspace : c ≠ ' ' := by rintro rfl; cases h
  have hend : c ≠ '$' := by rintro rfl; cases h
  rw [rdmFormatPass.eq_def]
  simp only [if_neg hspace, if_neg hend, h]

@[simp] theorem rdmFormatPass_literal {hi lo : Char} :
    rdmFormatPass e ('x' :: hi :: lo :: format) dest src srcSize =
      rdmFormatPass e format (dest ++ [hexLiteral hi lo]) (src.drop 1) (srcSize - 1) := by
  rw [rdmFormatPass.eq_def]
  rfl

theorem rdmFormatPass_unknown (hspace : c ≠ ' ') (hend : c ≠ '$') (h : encodeToken c = .unknown) :
    rdmFormatPass e (c :: format) dest src srcSize = none := by
  rw [rdmFormatPass.eq_def]
  simp only [if_neg hspace, if_neg hend, h]

theorem rdmFormatPass_optionalUid (h : encodeToken c = .optionalUid) :
    rdmFormatPass e (c :: format) dest src srcSize =
      (encodeOptionalUid e dest src srcSize).map .done := by
  have hspace : c ≠ ' ' := by rintro rfl; cases h
  have hend : c ≠ '$' := by rintro rfl; cases h
  rw [rdmFormatPass.eq_def]
  simp only [if_neg hspace, if_neg hend, h]

theorem rdmFormatPass_text (h : encodeToken c = .text) :
    rdmFormatPass e (c :: format) dest src srcSize =
      (encodeText e dest src srcSize).map .done := by
  have hspace : c ≠ ' ' := by rintro rfl; cases h
  have hend : c ≠ '$' := by rintro rfl; cases h
  rw [rdmFormatPass.eq_def]
  simp only [if_neg hspace, if_neg hend, h]

end Pass

end BedroomLights
