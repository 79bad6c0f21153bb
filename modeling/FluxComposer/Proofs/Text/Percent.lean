import FluxComposer.Text.Percent
/-
Names in paths. A name is a segment of a path if the segment has no mark
in it that would end it and is decoded to the name (`IsSegmentOf`). The
segment that a name is coded to is one (`isSegmentOf_encodeSegment`), so
whatever a name is made of, slashes and other scripts included, it is the
name that is looked up.

Decoding is followed through a coded text from the front: a character
that was kept is a byte that begins no code (`decodeBytes_kept`), the code
of a byte gives the byte back (`decodeBytes_percentCode`), and either way
what comes behind does not matter.
-/
namespace FluxComposer.Text

-- =============================================================== bytes

/-- The bytes of a text are listed by a loop, from a position on. -/
theorem toList_loop (bytes : ByteArray) (i : Nat) (before : List UInt8) :
    ByteArray.toList.loop bytes i before
      = before.reverse ++ bytes.data.toList.drop i := by
  -- on the recursion of the loop, which counts up to the size
  fun_induction ByteArray.toList.loop bytes i before with
  | case1 i before hlt ih =>
      have hlength : i < bytes.data.toList.length := by simpa using hlt
      have hbyte : bytes.get! i = bytes.data.toList[i] :=
        getElem!_pos bytes.data i hlt
      rw [ih, List.drop_eq_getElem_cons hlength, hbyte]
      simp
  | case2 i before hge =>
      have hdrop : bytes.data.toList.drop i = [] :=
        List.drop_eq_nil_of_le (by simpa using hge)
      rw [hdrop, List.append_nil]

theorem toList_eq (bytes : ByteArray) : bytes.toList = bytes.data.toList :=
  (toList_loop bytes 0 []).trans (by simp)

/-- The bytes of a text are those of its characters, one after another. -/
theorem toList_toUTF8 (s : String) :
    s.toUTF8.toList = s.toList.flatMap String.utf8EncodeChar := by
  have hbytes : s.toUTF8 = s.toList.utf8Encode := by
    rw [← String.toByteArray_ofList, String.ofList_toList]
    rfl
  rw [toList_eq, hbytes]
  exact List.toList_data_toByteArray

/-- The bytes of a text are those of no other text. -/
theorem fromUTF8?_bytes (s : String) :
    String.fromUTF8? ⟨s.toUTF8.toList.toArray⟩ = some s := by
  have hbytes : (⟨s.toUTF8.toList.toArray⟩ : ByteArray) = s.toByteArray := by
    rw [toList_eq, Array.toArray_toList]
    rfl
  rw [hbytes, String.fromUTF8?, dif_pos s.isValidUTF8]
  rfl

-- ============================================================ decoding

/-- A byte that is no percent sign begins no code. -/
theorem decodeBytes_cons {b : UInt8} (plain : b ≠ 37) (s : List UInt8) :
    decodeBytes (b :: s) = b :: decodeBytes s := by
  rw [decodeBytes]
  intro m n rest hb
  exact absurd hb plain

/-- A digit is one byte, and its value is read off it. -/
theorem hexValue?_upperHexDigit : ∀ n : Fin 16,
    String.utf8EncodeChar (upperHexDigit n)
        = [(upperHexDigit n).toNat.toUInt8]
      ∧ hexValue? (upperHexDigit n).toNat.toUInt8 = some (UInt8.ofNat n) := by
  decide

/-- The code of a byte gives the byte back, whatever follows. -/
theorem decodeBytes_percentCode (b : UInt8) (s : List UInt8) :
    decodeBytes ((percentCode b).flatMap String.utf8EncodeChar ++ s)
      = b :: decodeBytes s := by
  have hbyte := b.toNat_lt
  obtain ⟨hfirst, hhigh⟩ :=
    hexValue?_upperHexDigit ⟨b.toNat / 16, by omega⟩
  obtain ⟨hsecond, hlow⟩ :=
    hexValue?_upperHexDigit ⟨b.toNat % 16, by omega⟩
  have hcode : (percentCode b).flatMap String.utf8EncodeChar
      = [37, (upperHexDigit (b.toNat / 16)).toNat.toUInt8,
        (upperHexDigit (b.toNat % 16)).toNat.toUInt8] := by
    simp only [percentCode, List.flatMap_cons, List.flatMap_nil, hfirst,
      hsecond]
    rfl
  have hvalue : UInt8.ofNat (b.toNat / 16) * 16 + UInt8.ofNat (b.toNat % 16)
      = b := by
    rw [← UInt8.toNat_inj]
    simp
    omega
  rw [hcode]
  simp only [List.cons_append, List.nil_append, decodeBytes, hhigh, hlow,
    hvalue]

/-- The codes of bytes give the bytes back. -/
theorem decodeBytes_percentCodes (bytes s : List UInt8) :
    decodeBytes ((bytes.flatMap percentCode).flatMap String.utf8EncodeChar
        ++ s)
      = bytes ++ decodeBytes s := by
  induction bytes with
  | nil => rfl
  | cons b bytes ih =>
      rw [List.flatMap_cons, List.flatMap_append, List.append_assoc,
        decodeBytes_percentCode, ih]
      rfl

-- ============================================================ segments

/-- The characters of which a coded segment is made. -/
def isSegmentChar (c : Char) : Bool :=
  c.isAlphanum || c == '-' || c == '_' || c == '.' || c == '~' || c == '%'

/-- A segment of a path stands for a name: nothing in it ends it, and it
is decoded to the name. -/
structure IsSegmentOf (name segment : String) : Prop where
  closed : ∀ c ∈ segment.toList, isSegmentChar c = true
  decoded : percentDecode? segment = some name

theorem isSegmentChar_digit : ∀ n : Fin 16,
    isSegmentChar (upperHexDigit n) = true := by
  decide

/-- A code is made of characters that a segment may hold. -/
theorem isSegmentChar_of_mem_percentCode {b : UInt8} {c : Char}
    (h : c ∈ percentCode b) : isSegmentChar c = true := by
  have hbyte := b.toNat_lt
  simp only [percentCode, List.mem_cons, List.not_mem_nil, or_false] at h
  obtain rfl | rfl | rfl := h
  · rfl
  · exact isSegmentChar_digit ⟨b.toNat / 16, by omega⟩
  · exact isSegmentChar_digit ⟨b.toNat % 16, by omega⟩

/-- Letters and digits are those of ASCII. -/
theorem isAscii_of_isAlphanum {c : Char} (h : c.isAlphanum = true) :
    c.val ≤ 127 := by
  have hcases : (decide ('A'.val ≤ c.val ∧ c.val ≤ 'Z'.val)
      || (decide ('a'.val ≤ c.val) && decide (c.val ≤ 'z'.val))
      || (decide ('0'.val ≤ c.val) && decide (c.val ≤ '9'.val))) = true := h
  simp only [Bool.or_eq_true, Bool.and_eq_true, decide_eq_true_eq] at hcases
  obtain (hupper | hlower) | hdigit := hcases
  · exact UInt32.le_trans hupper.2 (by decide)
  · exact UInt32.le_trans hlower.2 (by decide)
  · exact UInt32.le_trans hdigit.2 (by decide)

theorem isAscii_of_isSegmentChar {c : Char} (h : isSegmentChar c = true) :
    c.val ≤ 127 := by
  simp only [isSegmentChar, Bool.or_eq_true, beq_iff_eq] at h
  obtain ((((halphanum | rfl) | rfl) | rfl) | rfl) | rfl := h
  · exact isAscii_of_isAlphanum halphanum
  all_goals decide

/-- A character that was kept gives its byte back, whatever follows. -/
theorem decodeBytes_kept {c : Char} (kept : isSegmentChar c = true)
    (plain : c ≠ '%') (s : List UInt8) :
    decodeBytes (String.utf8EncodeChar c ++ s)
      = String.utf8EncodeChar c ++ decodeBytes s := by
  have hascii := isAscii_of_isSegmentChar kept
  rw [String.utf8EncodeChar_eq_singleton (Char.utf8Size_eq_one_iff.2 hascii)]
  refine decodeBytes_cons (fun hbyte => plain (Char.ext ?_)) s
  have hvalue := congrArg UInt8.toNat hbyte
  rw [UInt32.toNat_toUInt8, Nat.mod_eq_of_lt] at hvalue
  · exact UInt32.toNat_inj.1 hvalue
  · exact Nat.lt_of_le_of_lt hascii (by decide)

/-- A coded text is decoded to the bytes of the text. -/
theorem decodeBytes_percentEncode {keep : Char → Bool} (chars : List Char)
    (kept : ∀ c, keep c = true → isSegmentChar c = true ∧ c ≠ '%') :
    decodeBytes ((chars.flatMap fun c => if keep c then [c]
        else (String.utf8EncodeChar c).flatMap percentCode).flatMap
          String.utf8EncodeChar)
      = chars.flatMap String.utf8EncodeChar := by
  -- on the characters, each of which is kept or coded
  induction chars with
  | nil => rfl
  | cons c chars ih =>
      rw [List.flatMap_cons, List.flatMap_cons, List.flatMap_append]
      split
      case isTrue hkeep =>
        obtain ⟨hsegment, hplain⟩ := kept c hkeep
        rw [List.flatMap_singleton, decodeBytes_kept hsegment hplain, ih]
      case isFalse => rw [decodeBytes_percentCodes, ih]

/-- The segment that a name is coded to stands for the name. -/
theorem isSegmentOf_encodeSegment (name : String) :
    IsSegmentOf name (encodeSegment name) := by
  -- first that nothing ends the segment, then that it gives the name back
  refine ⟨fun c hc => ?_, ?_⟩
  · rw [encodeSegment, percentEncode, String.toList_ofList,
      List.mem_flatMap] at hc
    obtain ⟨c', -, hc⟩ := hc
    split at hc
    case isTrue hkeep =>
      obtain rfl := List.mem_singleton.1 hc
      rw [isSegmentChar, hkeep, Bool.true_or]
    case isFalse =>
      obtain ⟨b, -, hc⟩ := List.mem_flatMap.1 hc
      exact isSegmentChar_of_mem_percentCode hc
  · have hkept : ∀ c : Char, (c.isAlphanum || c == '-' || c == '_'
        || c == '.' || c == '~') = true →
        isSegmentChar c = true ∧ c ≠ '%' := by
      intro c hkeep
      refine ⟨by rw [isSegmentChar, hkeep, Bool.true_or], ?_⟩
      intro heq
      subst heq
      exact absurd hkeep (by decide)
    rw [percentDecode?, toList_toUTF8, encodeSegment, percentEncode,
      String.toList_ofList, decodeBytes_percentEncode _ hkept,
      ← toList_toUTF8, fromUTF8?_bytes]

end FluxComposer.Text
