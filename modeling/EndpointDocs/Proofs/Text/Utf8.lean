import EndpointDocs.Text.Utf8

/-!
Reading undoes writing: the bytes of a text are decoded to that text. Each character is taken up by
the branch of the reader for its number of bytes, whatever follows it. A reader who takes the bytes
in chunks gets the same text, since what a chunk cuts off is the beginning of one character and is
read again with the next chunk.
-/
namespace EndpointDocs.Text.Utf8

theorem toNat_toUInt8 {n : Nat} (small : n < 256) : n.toUInt8.toNat = n := by
  rw [Nat.toUInt8_eq, UInt8.toNat_ofNat']
  exact Nat.mod_eq_of_lt small

/-- A code point is below the surrogates, or above them and not past the last code point. -/
theorem scalar_bounds (c : Char) : c.toNat < 0xD800 ∨ 0xDFFF < c.toNat ∧ c.toNat < 0x110000 :=
  c.valid

theorem follow?_of_two {n : Nat} (large : 0x80 ≤ n) (small : n < 0x800) :
    follow? (0xC0 + n / 64) = some (1, 0x80, 0xBF) := by
  have least : 0xC2 ≤ 0xC0 + n / 64 := by omega
  have greatest : 0xC0 + n / 64 ≤ 0xDF := by omega
  simp [follow?, least, greatest]

/-- The first byte of three admits the second one. The two first bytes with bounds of their own keep
out overlong forms and surrogates, and such code points are not written. -/
theorem follow?_of_three {n : Nat} (large : 0x800 ≤ n) (small : n < 0x10000)
    (scalar : n < 0xD800 ∨ 0xDFFF < n) :
    ∃ least greatest, follow? (0xE0 + n / 4096) = some (2, least, greatest) ∧
      least ≤ 0x80 + n / 64 % 64 ∧ 0x80 + n / 64 % 64 ≤ greatest := by
  by_cases overlong : n / 4096 = 0
  · exact ⟨0xA0, 0xBF, by rw [overlong]; rfl, by omega, by omega⟩
  · by_cases surrogate : n / 4096 = 13
    · exact ⟨0x80, 0x9F, by rw [surrogate]; rfl, by omega, by omega⟩
    · refine ⟨0x80, 0xBF, ?_, by omega, by omega⟩
      have least : 0xE1 ≤ 0xE0 + n / 4096 := by omega
      have greatest : 0xE0 + n / 4096 ≤ 0xEF := by omega
      have notSurrogate : 0xE0 + n / 4096 ≠ 0xED := by omega
      generalize 0xE0 + n / 4096 = b at least greatest notSurrogate
      have notTwo : ¬ b ≤ 0xDF := by omega
      have notOverlong : b ≠ 0xE0 := by omega
      simp [follow?, notTwo, notOverlong, notSurrogate, least, greatest]

/-- The first byte of four admits the second one. -/
theorem follow?_of_four {n : Nat} (large : 0x10000 ≤ n) (small : n < 0x110000) :
    ∃ least greatest, follow? (0xF0 + n / 262144) = some (3, least, greatest) ∧
      least ≤ 0x80 + n / 4096 % 64 ∧ 0x80 + n / 4096 % 64 ≤ greatest := by
  have cases : n / 262144 = 0 ∨ n / 262144 = 1 ∨ n / 262144 = 2 ∨ n / 262144 = 3 ∨
      n / 262144 = 4 := by omega
  rcases cases with first | first | first | first | first
  · exact ⟨0x90, 0xBF, by rw [first]; rfl, by omega, by omega⟩
  · exact ⟨0x80, 0xBF, by rw [first]; rfl, by omega, by omega⟩
  · exact ⟨0x80, 0xBF, by rw [first]; rfl, by omega, by omega⟩
  · exact ⟨0x80, 0xBF, by rw [first]; rfl, by omega, by omega⟩
  · exact ⟨0x80, 0x8F, by rw [first]; rfl, by omega, by omega⟩

theorem isTail_toUInt8 {n : Nat} (small : n < 64) : isTail (0x80 + n).toUInt8 = true := by
  unfold isTail
  rw [toNat_toUInt8 (by omega)]
  simp
  omega

theorem low_toUInt8 {n : Nat} (small : n < 64) : low (0x80 + n).toUInt8 = n := by
  unfold low
  rw [toNat_toUInt8 (by omega)]
  omega

section Branches

-- All the proofs below need the equations of `decodeFrom`: they are made here, once.
attribute [local simp] decodeFrom

variable (start : Nat) (read : List Char) (rest : List UInt8) {n : Nat}

theorem decodeFrom_one (small : n < 0x80) :
    decodeFrom start read (n.toUInt8 :: rest) =
      decodeFrom (start + 1) (Char.ofNat n :: read) rest := by
  have first : n.toUInt8.toNat = n := toNat_toUInt8 (by omega)
  simp only [decodeFrom, first, if_pos small]

theorem decodeFrom_two (large : 0x80 ≤ n) (small : n < 0x800) :
    decodeFrom start read ((0xC0 + n / 64).toUInt8 :: (0x80 + n % 64).toUInt8 :: rest) =
      decodeFrom (start + 2) (Char.ofNat n :: read) rest := by
  have first : (0xC0 + n / 64).toUInt8.toNat = 0xC0 + n / 64 := toNat_toUInt8 (by omega)
  have second : (0x80 + n % 64).toUInt8.toNat = 0x80 + n % 64 := toNat_toUInt8 (by omega)
  have notAscii : ¬ 0xC0 + n / 64 < 0x80 := by omega
  have follows := follow?_of_two large small
  have inBounds : (decide (0x80 + n % 64 < 0x80) || decide (0xBF < 0x80 + n % 64)) = false := by
    rw [Bool.or_eq_false_iff, decide_eq_false_iff_not, decide_eq_false_iff_not]
    omega
  have value : (0xC0 + n / 64 - 0xC0) * 64 + low (0x80 + n % 64).toUInt8 = n := by
    rw [low_toUInt8 (by omega)]
    omega
  simp only [decodeFrom, first, second, if_neg notAscii, follows, inBounds, value]
  rfl

theorem decodeFrom_three (large : 0x800 ≤ n) (small : n < 0x10000)
    (scalar : n < 0xD800 ∨ 0xDFFF < n) :
    decodeFrom start read ((0xE0 + n / 4096).toUInt8 :: (0x80 + n / 64 % 64).toUInt8 ::
        (0x80 + n % 64).toUInt8 :: rest) =
      decodeFrom (start + 3) (Char.ofNat n :: read) rest := by
  have first : (0xE0 + n / 4096).toUInt8.toNat = 0xE0 + n / 4096 := toNat_toUInt8 (by omega)
  have second : (0x80 + n / 64 % 64).toUInt8.toNat = 0x80 + n / 64 % 64 :=
    toNat_toUInt8 (by omega)
  have notAscii : ¬ 0xE0 + n / 4096 < 0x80 := by omega
  obtain ⟨least, greatest, follows, above, below⟩ := follow?_of_three large small scalar
  have inBounds : (decide (0x80 + n / 64 % 64 < least) ||
      decide (greatest < 0x80 + n / 64 % 64)) = false := by
    rw [Bool.or_eq_false_iff, decide_eq_false_iff_not, decide_eq_false_iff_not]
    omega
  have third : isTail (0x80 + n % 64).toUInt8 = true := isTail_toUInt8 (by omega)
  have value : (0xE0 + n / 4096 - 0xE0) * 4096 + low (0x80 + n / 64 % 64).toUInt8 * 64 +
      low (0x80 + n % 64).toUInt8 = n := by
    rw [low_toUInt8 (by omega), low_toUInt8 (by omega)]
    omega
  simp only [decodeFrom, first, second, if_neg notAscii, follows, inBounds, third, value]
  rfl

theorem decodeFrom_four (large : 0x10000 ≤ n) (small : n < 0x110000) :
    decodeFrom start read ((0xF0 + n / 262144).toUInt8 :: (0x80 + n / 4096 % 64).toUInt8 ::
        (0x80 + n / 64 % 64).toUInt8 :: (0x80 + n % 64).toUInt8 :: rest) =
      decodeFrom (start + 4) (Char.ofNat n :: read) rest := by
  have first : (0xF0 + n / 262144).toUInt8.toNat = 0xF0 + n / 262144 := toNat_toUInt8 (by omega)
  have second : (0x80 + n / 4096 % 64).toUInt8.toNat = 0x80 + n / 4096 % 64 :=
    toNat_toUInt8 (by omega)
  have notAscii : ¬ 0xF0 + n / 262144 < 0x80 := by omega
  obtain ⟨least, greatest, follows, above, below⟩ := follow?_of_four large small
  have inBounds : (decide (0x80 + n / 4096 % 64 < least) ||
      decide (greatest < 0x80 + n / 4096 % 64)) = false := by
    rw [Bool.or_eq_false_iff, decide_eq_false_iff_not, decide_eq_false_iff_not]
    omega
  have third : isTail (0x80 + n / 64 % 64).toUInt8 = true := isTail_toUInt8 (by omega)
  have fourth : isTail (0x80 + n % 64).toUInt8 = true := isTail_toUInt8 (by omega)
  have value : (0xF0 + n / 262144 - 0xF0) * 262144 + low (0x80 + n / 4096 % 64).toUInt8 * 4096 +
      low (0x80 + n / 64 % 64).toUInt8 * 64 + low (0x80 + n % 64).toUInt8 = n := by
    rw [low_toUInt8 (by omega), low_toUInt8 (by omega), low_toUInt8 (by omega)]
    omega
  simp only [decodeFrom, first, second, if_neg notAscii, follows, inBounds, third, fourth,
    value]
  rfl

end Branches

/-- The bytes of one character are read as that character, whatever follows. -/
theorem decodeFrom_encodeChar (start : Nat) (read : List Char) (c : Char) (rest : List UInt8) :
    decodeFrom start read (encodeChar c ++ rest) =
      decodeFrom (start + (encodeChar c).length) (c :: read) rest := by
  have scalar := scalar_bounds c
  have self : Char.ofNat c.toNat = c := Char.ofNat_toNat c
  unfold encodeChar
  generalize c.toNat = n at scalar self ⊢
  subst self
  dsimp only
  split
  · rename_i one
    exact decodeFrom_one start read rest one
  · split
    · rename_i notOne two
      exact decodeFrom_two start read rest (by omega) two
    · split
      · rename_i notTwo three
        exact decodeFrom_three start read rest (by omega) three (by omega)
      · rename_i notThree
        exact decodeFrom_four start read rest (by omega) (by omega)

theorem decodeFrom_encode (start : Nat) (read text : List Char) :
    decodeFrom start read (encode text) = (none, read.reverse ++ text) := by
  induction text generalizing start read with
  | nil => simp [encode, decodeFrom]
  | cons c text ih =>
    have bytes : encode (c :: text) = encodeChar c ++ encode text := rfl
    rw [bytes, decodeFrom_encodeChar, ih]
    simp

theorem decodeFrom_encode_append (start : Nat) (read text : List Char) (rest : List UInt8) :
    decodeFrom start read (encode text ++ rest) =
      decodeFrom (start + (encode text).length) (text.reverse ++ read) rest := by
  induction text generalizing start read with
  | nil => rfl
  | cons c text ih =>
    have bytes : encode (c :: text) = encodeChar c ++ encode text := rfl
    rw [bytes, List.append_assoc, decodeFrom_encodeChar, ih, List.length_append, Nat.add_assoc]
    simp

/-- The bytes of a text spell that text. -/
theorem decode_encode (text : List Char) : decode (encode text) = .ok text := by
  rw [decode, decodeFrom_encode]
  rfl

/-! ## Chunks -/

theorem flatten_chunksFrom (room : Nat) (chunk bytes : List UInt8) :
    (chunksFrom room chunk bytes).flatten = chunk.reverse ++ bytes := by
  induction bytes generalizing room chunk with
  | nil => cases chunk <;> simp [chunksFrom]
  | cons b rest ih =>
    rw [chunksFrom]
    split
    · simp [ih]
    · simp [ih]

theorem flatten_chunks (bytes : List UInt8) : (chunks bytes).flatten = bytes :=
  flatten_chunksFrom chunkSize [] bytes

/-- Bytes are the beginning of a character, but not all of it. -/
def IsCut (left : List UInt8) : Prop :=
  left ≠ [] ∧ ∃ c rest, rest ≠ [] ∧ encodeChar c = left ++ rest

section Cuts

variable (start : Nat) (read : List Char) {b b₁ b₂ : UInt8} {more least greatest : Nat}

theorem decodeFrom_cut_one (large : 0x80 ≤ b.toNat)
    (follows : follow? b.toNat = some (more, least, greatest)) :
    decodeFrom start read [b] = (some ⟨.truncated, start, 1, b⟩, read.reverse) := by
  simp only [decodeFrom, if_neg (Nat.not_lt.2 large), follows]

theorem decodeFrom_cut_two (large : 0x80 ≤ b.toNat)
    (follows : follow? b.toNat = some (more, least, greatest)) (many : 2 ≤ more)
    (above : least ≤ b₁.toNat) (below : b₁.toNat ≤ greatest) :
    decodeFrom start read [b, b₁] = (some ⟨.truncated, start, 2, b⟩, read.reverse) := by
  have inBounds : (decide (b₁.toNat < least) || decide (greatest < b₁.toNat)) = false := by
    simp [above, below]
  have notOne : (more == 1) = false := by simp; omega
  simp only [decodeFrom, if_neg (Nat.not_lt.2 large), follows, inBounds, notOne]
  rfl

theorem decodeFrom_cut_three (large : 0x80 ≤ b.toNat)
    (follows : follow? b.toNat = some (3, least, greatest))
    (above : least ≤ b₁.toNat) (below : b₁.toNat ≤ greatest) (tail : isTail b₂ = true) :
    decodeFrom start read [b, b₁, b₂] = (some ⟨.truncated, start, 3, b⟩, read.reverse) := by
  have inBounds : (decide (b₁.toNat < least) || decide (greatest < b₁.toNat)) = false := by
    simp [above, below]
  simp only [decodeFrom, if_neg (Nat.not_lt.2 large), follows, inBounds, tail]
  rfl

end Cuts

/-- A character has one byte, or a first byte that admits the second one and as many as follow. -/
theorem encodeChar_shape (c : Char) :
    (∃ b, encodeChar c = [b]) ∨
      ∃ b b₁ tail least greatest, encodeChar c = b :: b₁ :: tail ∧ 0x80 ≤ b.toNat ∧
        follow? b.toNat = some (tail.length + 1, least, greatest) ∧ least ≤ b₁.toNat ∧
        b₁.toNat ≤ greatest ∧ tail.length ≤ 2 ∧ ∀ b ∈ tail, isTail b = true := by
  have scalar := scalar_bounds c
  unfold encodeChar
  -- One case for each number of bytes.
  generalize c.toNat = n at scalar
  dsimp only
  split
  · exact .inl ⟨_, rfl⟩
  · right
    split
    · rename_i notOne two
      have first : (0xC0 + n / 64).toUInt8.toNat = 0xC0 + n / 64 := toNat_toUInt8 (by omega)
      have second : (0x80 + n % 64).toUInt8.toNat = 0x80 + n % 64 := toNat_toUInt8 (by omega)
      exact ⟨_, _, [], 0x80, 0xBF, rfl, by omega,
        by rw [first]; exact follow?_of_two (by omega) two, by omega, by omega, by simp, by simp⟩
    · split
      · rename_i notTwo three
        have first : (0xE0 + n / 4096).toUInt8.toNat = 0xE0 + n / 4096 := toNat_toUInt8 (by omega)
        have second : (0x80 + n / 64 % 64).toUInt8.toNat = 0x80 + n / 64 % 64 :=
          toNat_toUInt8 (by omega)
        obtain ⟨least, greatest, follows, above, below⟩ :=
          follow?_of_three (Nat.le_of_not_lt notTwo) three (by omega)
        have third : isTail (0x80 + n % 64).toUInt8 = true := isTail_toUInt8 (by omega)
        exact ⟨_, _, [_], least, greatest, rfl, by omega, by rw [first]; exact follows, by omega,
          by omega, by simp, List.forall_mem_singleton.2 third⟩
      · rename_i notThree
        have first : (0xF0 + n / 262144).toUInt8.toNat = 0xF0 + n / 262144 :=
          toNat_toUInt8 (by omega)
        have second : (0x80 + n / 4096 % 64).toUInt8.toNat = 0x80 + n / 4096 % 64 :=
          toNat_toUInt8 (by omega)
        obtain ⟨least, greatest, follows, above, below⟩ :=
          follow?_of_four (Nat.le_of_not_lt notThree) (by omega)
        have third : isTail (0x80 + n / 64 % 64).toUInt8 = true := isTail_toUInt8 (by omega)
        have fourth : isTail (0x80 + n % 64).toUInt8 = true := isTail_toUInt8 (by omega)
        exact ⟨_, _, [_, _], least, greatest, rfl, by omega, by rw [first]; exact follows, by omega,
          by omega, by simp, List.forall_mem_cons.2 ⟨third, List.forall_mem_singleton.2 fourth⟩⟩

/-- A cut-off character is missed at its own start. -/
theorem decodeFrom_of_isCut {left : List UInt8} (cut : IsCut left) (start : Nat)
    (read : List Char) :
    ∃ fault, decodeFrom start read left = (some fault, read.reverse) ∧
      fault.defect = .truncated ∧ fault.start = start := by
  obtain ⟨some, c, rest, more, whole⟩ := cut
  have leftLength := List.length_pos_iff.2 some
  have restLength := List.length_pos_iff.2 more
  have total := congrArg List.length whole
  have taken : left = (encodeChar c).take left.length := by rw [whole, List.take_left]
  rw [List.length_append] at total
  generalize left.length = length at taken total leftLength
  rcases encodeChar_shape c with ⟨b, one⟩ |
    ⟨b, b₁, tail, least, greatest, bytes, large, follows, above, below, few, tails⟩
  · rw [one, List.length_singleton] at total
    omega
  · rw [bytes, List.length_cons, List.length_cons] at total
    rw [bytes] at taken
    obtain rfl | rfl | rfl : length = 1 ∨ length = 2 ∨ length = 3 := by omega
    · rw [taken]
      exact ⟨_, decodeFrom_cut_one start read large follows, rfl, rfl⟩
    · rw [taken]
      exact ⟨_, decodeFrom_cut_two start read large follows (by omega) above below, rfl, rfl⟩
    · cases tail with
      | nil => simp only [List.length_nil] at total; omega
      | cons b₂ tail =>
        have two : (b₂ :: tail).length + 1 = 3 := by omega
        rw [taken]
        exact ⟨_, decodeFrom_cut_three start read large (two ▸ follows) above below
          (tails b₂ List.mem_cons_self), rfl, rfl⟩

/-- Bytes at the front of a text's bytes are those of its first characters, and the beginning of the
next one. -/
theorem exists_cut_of_append_eq_encode {front back : List UInt8} {text : List Char}
    (whole : front ++ back = encode text) :
    ∃ head tail left, text = head ++ tail ∧ front = encode head ++ left ∧
      left ++ back = encode tail ∧ (left = [] ∨ IsCut left) := by
  induction text generalizing front with
  | nil =>
    obtain ⟨rfl, rfl⟩ := List.append_eq_nil_iff.1 whole
    exact ⟨[], [], [], rfl, rfl, rfl, .inl rfl⟩
  | cons c text ih =>
    have bytes : encode (c :: text) = encodeChar c ++ encode text := rfl
    rw [bytes] at whole
    rcases List.append_eq_append_iff.1 whole with ⟨rest, first, back_eq⟩ | ⟨more, rfl, later⟩
    · by_cases all : front = []
      · exact ⟨[], c :: text, [], rfl, all, by rw [bytes, first, back_eq, all]; simp, .inl rfl⟩
      · by_cases done : rest = []
        · subst done
          refine ⟨[c], text, [], rfl, ?_, by simpa using back_eq, .inl rfl⟩
          simpa [encode] using first.symm
        · refine ⟨[], c :: text, front, rfl, rfl, ?_, .inr ⟨all, c, rest, done, first⟩⟩
          rw [bytes, first, back_eq, List.append_assoc]
    · obtain ⟨head, tail, left, rfl, rfl, rest, kind⟩ := ih later.symm
      exact ⟨c :: head, tail, left, rfl, (List.append_assoc _ _ _).symm, rest, kind⟩

theorem encode_append (first second : List Char) :
    encode (first ++ second) = encode first ++ encode second :=
  List.flatMap_append

theorem eq_nil_of_encode_eq_nil {text : List Char} (none : encode text = []) : text = [] := by
  have same := decodeFrom_encode 0 [] text
  rw [none] at same
  simpa [decodeFrom] using same

/-- The same where the bytes go on with the beginning of a character. -/
theorem exists_cut_of_append_eq {front back left : List UInt8} {text : List Char}
    (kind : left = [] ∨ IsCut left) (whole : front ++ back = encode text ++ left) :
    ∃ head tail middle, text = head ++ tail ∧ front = encode head ++ middle ∧
      middle ++ back = encode tail ++ left ∧ (middle = [] ∨ IsCut middle) := by
  rcases kind with rfl | ⟨_, c, more, nonempty, bytes⟩
  · rw [List.append_nil] at whole
    simpa using exists_cut_of_append_eq_encode whole
  · -- The character is completed, and what completes it is taken away again.
    have last : encode [c] = left ++ more := by simpa [encode] using bytes
    have complete : front ++ (back ++ more) = encode (text ++ [c]) := by
      rw [← List.append_assoc, whole, encode_append, last, List.append_assoc]
    obtain ⟨head, rest, middle, text_eq, front_eq, back_eq, cut⟩ :=
      exists_cut_of_append_eq_encode complete
    rcases List.eq_nil_or_concat rest with rfl | ⟨tail, d, rfl⟩
    · simp [encode, nonempty] at back_eq
    · obtain ⟨rfl, rfl⟩ : text = head ++ tail ∧ c = d := by
        simpa [← List.append_assoc] using text_eq
      refine ⟨head, tail, middle, rfl, front_eq, ?_, cut⟩
      rw [List.concat_eq_append, encode_append, last, ← List.append_assoc, ← List.append_assoc]
        at back_eq
      exact List.append_cancel_right back_eq

/-- Chunks whose bytes spell a text, perhaps with the beginning of a character behind it, hand the
text on and leave the beginning pending. The induction is on the chunks: each hands on whole
characters, and keeps a cut-off one. -/
theorem decodeChunks_append {pending left : List UInt8} {before : List (List UInt8)}
    {text : List Char} (pendingKind : pending = [] ∨ IsCut pending)
    (kind : left = [] ∨ IsCut left) (spells : pending ++ before.flatten = encode text ++ left)
    (read : List Char) (rest : List (List UInt8)) :
    decodeChunks read pending (before ++ rest) = decodeChunks (read ++ text) left rest := by
  induction before generalizing read text pending with
  | nil =>
    have all : pending = encode text ++ left := by simpa using spells
    have read := decodeFrom_encode_append 0 [] text left
    rw [← all] at read
    rcases pendingKind with rfl | cut
    · obtain ⟨none, rfl⟩ := List.append_eq_nil_iff.1 all.symm
      simp [eq_nil_of_encode_eq_nil none]
    · -- The pending bytes are a cut-off character, so no character is complete in them.
      obtain ⟨fault, missed, -⟩ := decodeFrom_of_isCut cut 0 []
      rw [missed] at read
      rcases kind with rfl | leftCut
      · cases read
      · obtain ⟨other, missedThere, -⟩ :=
          decodeFrom_of_isCut leftCut (0 + (encode text).length) (text.reverse ++ [])
        rw [missedThere, Prod.mk.injEq] at read
        obtain rfl : text = [] := by simpa using read.2
        simp [all, encode]
  | cons chunk before ih =>
    rw [List.flatten_cons, ← List.append_assoc] at spells
    obtain ⟨head, tail, middle, rfl, front, back, cut⟩ := exists_cut_of_append_eq kind spells
    have next := ih cut back (read ++ head)
    have here := decodeFrom_encode_append 0 [] head middle
    rw [← front] at here
    rw [List.cons_append, decodeChunks, here]
    rcases cut with rfl | cut
    · simpa [decodeFrom] using next
    · obtain ⟨fault, missed, truncated, start⟩ :=
        decodeFrom_of_isCut cut (0 + (encode head).length) (head.reverse ++ [])
      have kept : (pending ++ chunk).drop fault.start = middle := by
        rw [start, front, Nat.zero_add, List.drop_left]
      rw [missed]
      simpa [truncated, kept] using next

theorem decodeStream_encode (text : List Char) : decodeStream (encode text) = (text, none) := by
  have spells : [] ++ (chunks (encode text)).flatten = encode text ++ [] := by
    simp [flatten_chunks]
  have read := decodeChunks_append (.inl rfl) (.inl rfl) spells [] []
  rwa [List.append_nil] at read

/-- How the reading of a stream breaks off, with the text that was handed on by then: at a fault
inside a chunk, or at the end of the bytes inside a character. -/
inductive BreaksOff (bytes : List UInt8) (text : List Char) : Fault → Prop where
  | inside {before after : List (List UInt8)} {chunk left : List UInt8} {fault : Fault}
      (cut : chunks bytes = before ++ chunk :: after)
      (spells : before.flatten = encode text ++ left) (kind : left = [] ∨ IsCut left)
      (missed : (decodeFrom 0 [] (left ++ chunk)).1 = some fault)
      (final : fault.defect ≠ .truncated) : BreaksOff bytes text fault
  | atEnd {left : List UInt8} {fault : Fault} (spells : bytes = encode text ++ left)
      (kind : IsCut left) (missed : (decodeFrom 0 [] left).1 = some fault) :
      BreaksOff bytes text fault

/-- A chunk with a fault in it gives nothing; the chunks before it, or all bytes before a character
that is cut off at the end, have given their text. -/
theorem decodeStream_of_breaksOff {bytes : List UInt8} {text : List Char} {fault : Fault}
    (breaks : BreaksOff bytes text fault) : decodeStream bytes = (text, some fault) := by
  cases breaks with
  | @inside before after chunk left fault cut spells kind missed final =>
    rw [decodeStream, cut, decodeChunks_append (.inl rfl) kind spells, decodeChunks]
    cases tried : decodeFrom 0 [] (left ++ chunk) with
    | mk outcome handed =>
      rw [tried] at missed
      cases missed
      simp [final]
  | @atEnd left fault spells kind missed =>
    have whole : [] ++ (chunks bytes).flatten = encode text ++ left := by
      rw [List.nil_append, flatten_chunks, spells]
    have read := decodeChunks_append (.inl rfl) (.inr kind) whole [] []
    rw [List.append_nil] at read
    rw [decodeStream, read, decodeChunks, missed, List.nil_append]

example : BreaksOff [0x61, 0xff] [] ⟨.badStart, 1, 1, 0xff⟩ := by
  have cut : chunks [0x61, 0xff] = [] ++ [0x61, 0xff] :: [] := rfl
  exact .inside cut rfl (.inl rfl) rfl (by decide)

example : BreaksOff [0x61, 0xc3] ['a'] ⟨.truncated, 0, 1, 0xc3⟩ :=
  .atEnd rfl ⟨by decide, 'é', [0xa9], by decide, by decide⟩ rfl

end EndpointDocs.Text.Utf8
