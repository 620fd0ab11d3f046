import LetletmeData.Library.NumberTexts
import LetletmeData.Library.Urls

/-!
# Queries of forms

`application/x-www-form-urlencoded`: a query writes pairs of names and values, and pairs are written
as a query. What is written is read as the pairs that it was written for; what was read of a query
may be written in another way.
-/

namespace LetletmeData.Library

/-! ### UTF-8 -/

/-- The bytes that may follow the first byte of a character. -/
def followsFirst (first second : ℕ) : Bool :=
  if first = 0xE0 then 0xA0 ≤ second && second ≤ 0xBF
  else if first = 0xED then 0x80 ≤ second && second ≤ 0x9F
  else if first = 0xF0 then 0x90 ≤ second && second ≤ 0xBF
  else if first = 0xF4 then 0x80 ≤ second && second ≤ 0x8F
  else 0x80 ≤ second && second ≤ 0xBF

/-- How many bytes follow the first byte of a character. -/
def bytesNeeded (first : ℕ) : ℕ :=
  if 0xC2 ≤ first ∧ first ≤ 0xDF then 1
  else if 0xE0 ≤ first ∧ first ≤ 0xEF then 2
  else if 0xF0 ≤ first ∧ first ≤ 0xF4 then 3
  else 0

/-- How many bytes behind a first byte count as part of its broken character. -/
def brokenRest (first : UInt8) (rest : List UInt8) : ℕ :=
  match rest.take (bytesNeeded first.toNat) with
  | [] => 0
  | second :: others =>
    if followsFirst first.toNat second.toNat then
      1 + (others.takeWhile fun byte => 0x80 ≤ byte.toNat && byte.toNat ≤ 0xBF).length
    else 0

/-- The text of bytes, in at most as many steps as wanted; a replacement character stands for each
broken one. -/
def utf8DecodeSteps : ℕ → List UInt8 → List Char
  | 0, _ => []
  | _, [] => []
  | steps + 1, first :: rest =>
    match (first :: rest).toByteArray.utf8DecodeChar? 0 with
    | some c => c :: utf8DecodeSteps steps ((first :: rest).drop c.utf8Size)
    | none => '\uFFFD' :: utf8DecodeSteps steps (rest.drop (brokenRest first rest))

/-- The text of bytes. Every step takes a byte. -/
def utf8Decode (bytes : List UInt8) : List Char := utf8DecodeSteps bytes.length bytes

/-- The bytes of a text. -/
def utf8Encode (chars : List Char) : List UInt8 := chars.flatMap String.utf8EncodeChar

/-- A character is read from its bytes. -/
theorem utf8DecodeSteps_append (steps : ℕ) (c : Char) (rest : List UInt8) :
    utf8DecodeSteps (steps + 1) (String.utf8EncodeChar c ++ rest) =
      c :: utf8DecodeSteps steps rest := by
  cases hbytes : String.utf8EncodeChar c with
  | nil => exact absurd hbytes String.utf8EncodeChar_ne_nil
  | cons first others =>
    have hread : (first :: (others ++ rest)).toByteArray.utf8DecodeChar? 0 = some c := by
      rw [← List.cons_append, ← hbytes, List.toByteArray_append]
      exact ByteArray.utf8DecodeChar?_utf8EncodeChar_append
    have hdrop : (first :: (others ++ rest)).drop c.utf8Size = rest := by
      rw [← List.cons_append, ← hbytes, ← String.length_utf8EncodeChar, List.drop_left]
    rw [List.cons_append, utf8DecodeSteps, hread]
    dsimp only
    rw [hdrop]

/-- There are at least as many bytes as characters. -/
theorem length_le_length_utf8Encode (chars : List Char) :
    chars.length ≤ (utf8Encode chars).length := by
  induction chars with
  | nil => exact Nat.le_refl 0
  | cons c rest ih =>
    have hpos := Char.utf8Size_pos c
    rw [utf8Encode] at ih ⊢
    rw [List.flatMap_cons, List.length_append, String.length_utf8EncodeChar, List.length_cons]
    omega

/-- A text is read from its bytes. -/
theorem utf8Decode_utf8Encode (chars : List Char) : utf8Decode (utf8Encode chars) = chars := by
  have hsteps : ∀ steps, chars.length ≤ steps →
      utf8DecodeSteps steps (utf8Encode chars) = chars := by
    induction chars with
    | nil => intro steps _; cases steps <;> rfl
    | cons c rest ih =>
      intro steps hsteps
      cases steps with
      | zero => exact absurd hsteps (Nat.not_succ_le_zero _)
      | succ steps =>
        rw [utf8Encode, List.flatMap_cons, utf8DecodeSteps_append]
        exact congrArg (c :: ·) (ih steps (Nat.le_of_succ_le_succ hsteps))
  exact hsteps _ (length_le_length_utf8Encode chars)

/-- An ASCII character is one byte. -/
theorem utf8EncodeChar_of_lt {c : Char} (h : c.toNat < 128) :
    String.utf8EncodeChar c = [UInt8.ofNat c.toNat] := by
  have hsize : c.utf8Size = 1 := by
    rw [Char.utf8Size_eq_one_iff, UInt32.le_iff_toNat_le]
    exact Nat.le_of_lt_succ h
  rw [String.utf8EncodeChar_eq_singleton hsize]
  rfl

/-! ### Percent decoding -/

/-- The byte of two hexadecimal digits. -/
def hexByte (high low : UInt8) : Option UInt8 := do
  let high ← radixDigit 16 (Char.ofNat high.toNat)
  let low ← radixDigit 16 (Char.ofNat low.toNat)
  return UInt8.ofNat (16 * high + low)

/-- The bytes that percent-encoded bytes stand for. -/
def percentDecode : List UInt8 → List UInt8
  | first :: high :: low :: rest =>
    match if first = 0x25 then hexByte high low else none with
    | some byte => byte :: percentDecode rest
    | none => first :: percentDecode (high :: low :: rest)
  | bytes => bytes

/-- A byte that is no percent sign stands for itself. -/
theorem percentDecode_cons {first : UInt8} (h : first ≠ 0x25) (rest : List UInt8) :
    percentDecode (first :: rest) = first :: percentDecode rest := by
  match rest with
  | [] => rfl
  | [_] => rfl
  | high :: low :: rest => rw [percentDecode, if_neg h]

/-- A hexadecimal digit is ASCII, and is read as what it was written for. -/
theorem upperHexDigit_spec {digit : ℕ} (h : digit < 16) :
    (upperHexDigit digit).toNat < 128 ∧ (upperHexDigit digit).toNat ≠ 43 ∧
      radixDigit 16 (upperHexDigit digit) = some digit := by
  have hall : ∀ digit < 16, (upperHexDigit digit).toNat < 128 ∧
      (upperHexDigit digit).toNat ≠ 43 ∧
        radixDigit 16 (upperHexDigit digit) = some digit := by decide
  exact hall digit h

/-- The two digits of a byte. -/
theorem byteDigits_lt (byte : UInt8) : byte.toNat / 16 < 16 ∧ byte.toNat % 16 < 16 := by
  have hbyte : byte.toNat < 256 := byte.toNat_lt_size
  omega

/-- A percent-encoded byte is ASCII. -/
theorem utf8Encode_percentByte (byte : UInt8) :
    utf8Encode (percentByte byte) =
      [0x25, UInt8.ofNat (upperHexDigit (byte.toNat / 16)).toNat,
        UInt8.ofNat (upperHexDigit (byte.toNat % 16)).toNat] := by
  have hhigh := (upperHexDigit_spec (byteDigits_lt byte).1).1
  have hlow := (upperHexDigit_spec (byteDigits_lt byte).2).1
  have hpercent : String.utf8EncodeChar '%' = [0x25] := rfl
  rw [utf8Encode, percentByte, List.flatMap_cons, List.flatMap_cons, List.flatMap_cons,
    List.flatMap_nil, hpercent, utf8EncodeChar_of_lt hhigh, utf8EncodeChar_of_lt hlow]
  rfl

/-- A percent-encoded byte is decoded. -/
theorem percentDecode_percentByte (byte : UInt8) (rest : List UInt8) :
    percentDecode (utf8Encode (percentByte byte) ++ rest) = byte :: percentDecode rest := by
  obtain ⟨hhigh, _, hhighRead⟩ := upperHexDigit_spec (byteDigits_lt byte).1
  obtain ⟨hlow, _, hlowRead⟩ := upperHexDigit_spec (byteDigits_lt byte).2
  have hchar : ∀ c : Char, c.toNat < 128 → Char.ofNat (UInt8.ofNat c.toNat).toNat = c := by
    intro c hc
    rw [UInt8.toNat_ofNat_of_lt' (by change c.toNat < 256; omega), Char.ofNat_toNat]
  have hpair : hexByte (UInt8.ofNat (upperHexDigit (byte.toNat / 16)).toNat)
      (UInt8.ofNat (upperHexDigit (byte.toNat % 16)).toNat) = some byte := by
    rw [hexByte, hchar _ hhigh, hchar _ hlow, hhighRead, hlowRead]
    change some (UInt8.ofNat (16 * (byte.toNat / 16) + byte.toNat % 16)) = some byte
    rw [Nat.div_add_mod, UInt8.ofNat_toNat]
  rw [utf8Encode_percentByte, List.cons_append, List.cons_append, List.cons_append,
    List.nil_append, percentDecode, if_pos rfl, hpair]

/-- Percent-encoded bytes are decoded. -/
theorem percentDecode_flatMap_percentByte (bytes rest : List UInt8) :
    percentDecode (utf8Encode (bytes.flatMap percentByte) ++ rest) =
      bytes ++ percentDecode rest := by
  induction bytes with
  | nil => rfl
  | cons byte bytes ih =>
    rw [List.flatMap_cons, utf8Encode, List.flatMap_append, List.append_assoc]
    exact (percentDecode_percentByte byte _).trans (congrArg (byte :: ·) ih)

/-! ### Names and values -/

/-- Characters that a form writes as they are. -/
def isFormChar (c : Char) : Bool := c.isAlphanum || c = '*' || c = '-' || c = '.' || c = '_'

/-- A character as a form writes it. -/
def writeFormChar (c : Char) : List Char :=
  if c = ' ' then ['+']
  else if isFormChar c then [c]
  else (String.utf8EncodeChar c).flatMap percentByte

/-- A name or a value as a form writes it. -/
def writeFormText (chars : List Char) : List Char := chars.flatMap writeFormChar

/-- A plus sign stands for a space. -/
def plusToSpace (c : Char) : Char := if c = '+' then ' ' else c

/-- The name or value that a piece of a query stands for. -/
def readFormText (chars : List Char) : List Char :=
  utf8Decode (percentDecode (utf8Encode (chars.map plusToSpace)))

/-- The codes of letters and digits. -/
theorem codes_of_isAlphanum {c : Char} (hc : c.isAlphanum = true) :
    (65 ≤ c.toNat ∧ c.toNat ≤ 90 ∨ 97 ≤ c.toNat ∧ c.toNat ≤ 122) ∨
      48 ≤ c.toNat ∧ c.toNat ≤ 57 := by
  have hranges : (decide (c.val ≥ 'A'.val ∧ c.val ≤ 'Z'.val) ||
      (c.val ≥ 'a'.val && c.val ≤ 'z'.val) || (c.val ≥ '0'.val && c.val ≤ '9'.val)) = true := hc
  simpa [UInt32.le_iff_toNat_le] using hranges

/-- The code of a character that a form writes as it is. -/
theorem isFormChar_bounds {c : Char} (h : isFormChar c = true) :
    c.toNat < 128 ∧ c ≠ '+' ∧ c ≠ '%' := by
  have hletter : c.isAlphanum = true → c.toNat < 128 ∧ c ≠ '+' ∧ c ≠ '%' := by
    intro hc
    have hcode := codes_of_isAlphanum hc
    refine ⟨by omega, ?_, ?_⟩
    · rintro rfl
      revert hcode
      decide
    · rintro rfl
      revert hcode
      decide
  simp only [isFormChar, Bool.or_eq_true, decide_eq_true_eq] at h
  obtain (((h | rfl) | rfl) | rfl) | rfl := h
  · exact hletter h
  all_goals decide

/-- A percent-encoded byte has no plus sign. -/
theorem map_plusToSpace_percentByte (byte : UInt8) :
    (percentByte byte).map plusToSpace = percentByte byte := by
  have hplain : ∀ c : Char, c.toNat ≠ 43 → plusToSpace c = c := by
    intro c hc
    refine if_neg ?_
    rintro rfl
    exact hc rfl
  have hhigh := (upperHexDigit_spec (byteDigits_lt byte).1).2.1
  have hlow := (upperHexDigit_spec (byteDigits_lt byte).2).2.1
  rw [percentByte, List.map_cons, List.map_cons, List.map_cons, List.map_nil, hplain _ hhigh,
    hplain _ hlow]
  rfl

/-- A character is read as it was written. -/
theorem percentDecode_writeFormChar (c : Char) (rest : List UInt8) :
    percentDecode (utf8Encode ((writeFormChar c).map plusToSpace) ++ rest) =
      String.utf8EncodeChar c ++ percentDecode rest := by
  rw [writeFormChar]
  split
  next hspace =>
    subst hspace
    exact percentDecode_cons (by decide) rest
  next =>
    split
    next hplain =>
      obtain ⟨hascii, hplus, hpercent⟩ := isFormChar_bounds hplain
      have hbyte : UInt8.ofNat c.toNat ≠ 0x25 := by
        intro heq
        have hcode := congrArg UInt8.toNat heq
        rw [UInt8.toNat_ofNat_of_lt' (by change c.toNat < 256; omega)] at hcode
        exact hpercent (Char.toNat_inj.mp hcode)
      have hself : plusToSpace c = c := if_neg hplus
      rw [List.map_cons, List.map_nil, hself, utf8Encode, List.flatMap_cons, List.flatMap_nil,
        List.append_nil, utf8EncodeChar_of_lt hascii]
      exact percentDecode_cons hbyte rest
    next =>
      have hself : ((String.utf8EncodeChar c).flatMap percentByte).map plusToSpace =
          (String.utf8EncodeChar c).flatMap percentByte := by
        rw [List.map_flatMap]
        exact congrArg (fun write => (String.utf8EncodeChar c).flatMap write)
          (funext map_plusToSpace_percentByte)
      rw [hself, percentDecode_flatMap_percentByte]

/-- A name or a value is read as it was written. -/
theorem readFormText_writeFormText (chars : List Char) :
    readFormText (writeFormText chars) = chars := by
  have hbytes : percentDecode (utf8Encode ((writeFormText chars).map plusToSpace)) =
      utf8Encode chars := by
    induction chars with
    | nil => rfl
    | cons c rest ih =>
      rw [writeFormText, List.flatMap_cons, List.map_append, utf8Encode, List.flatMap_append]
      exact (percentDecode_writeFormChar c _).trans (congrArg (String.utf8EncodeChar c ++ ·) ih)
  rw [readFormText, hbytes, utf8Decode_utf8Encode]

/-! ### Pairs -/

/-- The pair that a piece of a query writes. -/
def readFormPair (piece : List Char) : List Char × List Char :=
  (readFormText (piece.takeWhile (· ≠ '=')), readFormText (piece.dropWhile (· ≠ '=')).tail)

/-- The pairs that pieces of a query write; empty pieces write none. -/
def readFormPairs (pieces : List (List Char)) : List (List Char × List Char) :=
  (pieces.filter (· ≠ [])).map readFormPair

/-- The pairs that a query writes. -/
def parseForm (query : List Char) : List (List Char × List Char) :=
  readFormPairs (query.splitOn '&')

/-- A pair as a form writes it. -/
def writeFormPair (pair : List Char × List Char) : List Char :=
  writeFormText pair.1 ++ '=' :: writeFormText pair.2

/-- The query that a form writes. -/
def serializeForm (pairs : List (List Char × List Char)) : List Char :=
  ['&'].intercalate (pairs.map writeFormPair)

/-- The characters that a form writes. -/
def isFormText (c : Char) : Bool := isFormChar c || c = '+' || c = '%'

/-- A hexadecimal digit is written as it is. -/
theorem isFormChar_upperHexDigit {digit : ℕ} (h : digit < 16) :
    isFormChar (upperHexDigit digit) = true := by
  have hall : ∀ digit < 16, isFormChar (upperHexDigit digit) = true := by decide
  exact hall digit h

/-- The characters of a name or a value. -/
theorem isFormText_of_mem {c : Char} {chars : List Char} (h : c ∈ writeFormText chars) :
    isFormText c = true := by
  obtain ⟨original, _, hc⟩ := List.mem_flatMap.mp h
  have hchar : ∀ {c : Char}, isFormChar c = true → isFormText c = true :=
    fun hc => by rw [isFormText, hc]; rfl
  rw [writeFormChar] at hc
  split at hc
  next => exact List.mem_singleton.mp hc ▸ rfl
  next =>
    split at hc
    next hplain => exact List.mem_singleton.mp hc ▸ hchar hplain
    next =>
      obtain ⟨byte, _, hbyte⟩ := List.mem_flatMap.mp hc
      simp only [percentByte, List.mem_cons, List.not_mem_nil, or_false] at hbyte
      obtain rfl | rfl | rfl := hbyte
      · rfl
      · exact hchar (isFormChar_upperHexDigit (byteDigits_lt byte).1)
      · exact hchar (isFormChar_upperHexDigit (byteDigits_lt byte).2)

/-- Separators are not in names and values. -/
theorem separator_not_mem (chars : List Char) :
    '=' ∉ writeFormText chars ∧ '&' ∉ writeFormText chars :=
  ⟨fun h => absurd (isFormText_of_mem h) (by decide),
    fun h => absurd (isFormText_of_mem h) (by decide)⟩

/-- A pair is read as it was written. -/
theorem readFormPair_writeFormPair (pair : List Char × List Char) :
    readFormPair (writeFormPair pair) = pair := by
  have hequals : ∀ c ∈ ('=' :: writeFormText pair.2).head?, (decide (c ≠ '=')) = false := by
    intro c hc
    obtain rfl := Option.some.inj hc
    rfl
  have hname : ∀ c ∈ writeFormText pair.1, (decide (c ≠ '=')) = true := by
    intro c hc
    refine decide_eq_true ?_
    rintro rfl
    exact (separator_not_mem pair.1).1 hc
  obtain ⟨htake, hdrop⟩ := scan_append hequals (writeFormText pair.1)
  rw [readFormPair, writeFormPair, htake, hdrop, List.takeWhile_eq_self_iff.mpr hname,
    List.dropWhile_eq_nil_iff.mpr hname, List.nil_append, List.tail_cons,
    readFormText_writeFormText, readFormText_writeFormText]

/-- A written pair is not empty and holds no separator of pairs. -/
theorem writeFormPair_spec (pair : List Char × List Char) :
    writeFormPair pair ≠ [] ∧ '&' ∉ writeFormPair pair := by
  refine ⟨List.append_ne_nil_of_right_ne_nil _ (List.cons_ne_nil _ _), ?_⟩
  rw [writeFormPair, List.mem_append, List.mem_cons, not_or, not_or]
  exact ⟨(separator_not_mem pair.1).2, by decide, (separator_not_mem pair.2).2⟩

/-- Pairs are read as they were written. -/
theorem parseForm_serializeForm (pairs : List (List Char × List Char)) :
    parseForm (serializeForm pairs) = pairs := by
  cases pairs with
  | nil => rfl
  | cons pair rest =>
    have hsplit :
        (serializeForm (pair :: rest)).splitOn '&' = (pair :: rest).map writeFormPair := by
      refine List.splitOn_intercalate '&' (fun piece hpiece => ?_) (List.cons_ne_nil _ _)
      obtain ⟨written, _, rfl⟩ := List.mem_map.mp hpiece
      exact (writeFormPair_spec written).2
    have hnonempty : ∀ piece ∈ (pair :: rest).map writeFormPair, decide (piece ≠ []) = true := by
      intro piece hpiece
      obtain ⟨written, _, rfl⟩ := List.mem_map.mp hpiece
      exact decide_eq_true (writeFormPair_spec written).1
    rw [parseForm, hsplit, readFormPairs, List.filter_eq_self.mpr hnonempty, List.map_map]
    exact List.map_id'' (fun written => readFormPair_writeFormPair written) _

/-- Only no pairs are written as an empty query. -/
theorem serializeForm_eq_nil_iff {pairs : List (List Char × List Char)} :
    serializeForm pairs = [] ↔ pairs = [] := by
  refine ⟨fun h => ?_, fun h => h ▸ rfl⟩
  have hread := parseForm_serializeForm pairs
  rw [h] at hread
  exact hread.symm

/-- The characters of a written query. -/
theorem of_mem_serializeForm {c : Char} {pairs : List (List Char × List Char)}
    (h : c ∈ serializeForm pairs) : isFormText c = true ∨ c = '=' ∨ c = '&' := by
  induction pairs with
  | nil => exact nomatch h
  | cons pair rest ih =>
    have hpair : c ∈ writeFormPair pair → isFormText c = true ∨ c = '=' ∨ c = '&' := by
      intro hc
      obtain hc | hc := List.mem_append.mp hc
      · exact .inl (isFormText_of_mem hc)
      · obtain rfl | hc := List.mem_cons.mp hc
        · exact .inr (.inl rfl)
        · exact .inl (isFormText_of_mem hc)
    cases rest with
    | nil =>
      rw [serializeForm, List.map_cons, List.map_nil, List.intercalate_singleton] at h
      exact hpair h
    | cons next rest =>
      rw [serializeForm, List.map_cons, List.map_cons, List.intercalate_cons_cons,
        ← List.map_cons, List.mem_append, List.mem_append, List.mem_singleton] at h
      obtain (hc | rfl) | hc := h
      · exact hpair hc
      · exact .inr (.inr rfl)
      · exact ih hc

/-- What a form writes needs no encoding in a query. -/
theorem inQuerySet_of_mem_serializeForm {c : Char} {pairs : List (List Char × List Char)}
    (h : c ∈ serializeForm pairs) : inQuerySet c = false := by
  have hother : ∀ other : Char, isFormText other = false → other ≠ '=' → other ≠ '&' →
      c ≠ other := by
    rintro other hnot hequals hamp rfl
    obtain hform | hequal | hamper := of_mem_serializeForm h
    · exact absurd (hnot.symm.trans hform) (by decide)
    · exact hequals hequal
    · exact hamp hamper
  have hcode : 0x20 ≤ c.toNat ∧ c.toNat ≤ 0x7E := by
    have hletter : c.isAlphanum = true → 0x20 ≤ c.toNat ∧ c.toNat ≤ 0x7E := by
      intro hc
      have hranges := codes_of_isAlphanum hc
      omega
    obtain hform | rfl | rfl := of_mem_serializeForm h
    · simp only [isFormText, isFormChar, Bool.or_eq_true, decide_eq_true_eq] at hform
      obtain (((((hc | rfl) | rfl) | rfl) | rfl) | rfl) | rfl := hform
      · exact hletter hc
      all_goals decide
    · decide
    · decide
  have hcontrol : inControlSet c = false := by
    simp only [inControlSet, Bool.or_eq_false_iff, decide_eq_false_iff_not]
    omega
  have hlisted : ∀ other ∈ " \"#<>'".toList, c ≠ other := by
    intro other hmem
    have hform : isFormText other = false ∧ other ≠ '=' ∧ other ≠ '&' := by
      have hlist : other ∈ [' ', '"', '#', '<', '>', '\''] := hmem
      simp only [List.mem_cons, List.not_mem_nil, or_false] at hlist
      obtain rfl | rfl | rfl | rfl | rfl | rfl := hlist
      all_goals decide
    exact hother other hform.1 hform.2.1 hform.2.2
  rw [inQuerySet, hcontrol, Bool.false_or, Bool.eq_false_iff, Ne, List.contains_iff_mem]
  exact fun hmem => hlisted c hmem rfl

end LetletmeData.Library
