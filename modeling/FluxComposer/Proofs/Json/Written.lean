import FluxComposer.Json.Decode
import Mathlib.Data.List.DropRight
/-
The texts of a value, and that reading one gives the value back
(`read_written`). A text of a value (`Written`) may have blanks around
every token and may write the characters of a string in any of the ways
that there are (`Spelled`). Numbers have no texts here.

The reader stops behind the last character of a value and leaves the
blanks there to whoever reads on. So each fact says what is left of the
text up to its blanks; behind items and members the closing bracket
settles it. The facts for values, items and members are one induction on
the fuel (`ReadsWith`), of which the length of the text is enough.
-/
namespace FluxComposer.Json

-- ============================================================= blanks

/-- Characters that may stand between tokens. -/
def Blanks (s : List Char) : Prop :=
  ∀ c ∈ s, c = ' ' ∨ c = '\n' ∨ c = '\t' ∨ c = '\r'

/-- Nothing is blank. -/
theorem Blanks.nil : Blanks [] := by simp [Blanks]

/-- Blanks behind blanks are blank. -/
theorem Blanks.append {s t : List Char} (hs : Blanks s) (ht : Blanks t) :
    Blanks (s ++ t) := by
  intro c hc
  exact (List.mem_append.1 hc).elim (hs c) (ht c)

/-- The reader passes over blanks. -/
theorem Blanks.skip {b : List Char} (hb : Blanks b) (s : List Char) :
    skipSpace (b ++ s) = skipSpace s := by
  refine List.dropWhile_append_of_pos fun c hc => ?_
  rcases hb c hc with rfl | rfl | rfl | rfl <;> rfl

theorem skipSpace_skipSpace (s : List Char) :
    skipSpace (skipSpace s) = skipSpace s :=
  List.dropWhile_idempotent _ s

/-- A token with blanks around it. -/
inductive Padded (token : List Char) : List Char → Prop where
  | mk {before after : List Char} (hbefore : Blanks before)
      (hafter : Blanks after) : Padded token (before ++ token ++ after)

namespace Padded

variable {token text : List Char}

/-- A token may stand without blanks. -/
theorem self (token : List Char) : Padded token token := by
  simpa using
    (.mk .nil .nil : Padded token ([] ++ token ++ []))

/-- Blanks may be added before a token. -/
theorem prepend {b : List Char} (hb : Blanks b) (h : Padded token text) :
    Padded token (b ++ text) := by
  obtain ⟨hbefore, hafter⟩ := h
  rw [← List.append_assoc, ← List.append_assoc]
  exact .mk (hb.append hbefore) hafter

/-- Blanks may be added behind a token. -/
theorem append {b : List Char} (h : Padded token text) (hb : Blanks b) :
    Padded token (text ++ b) := by
  obtain ⟨hbefore, hafter⟩ := h
  rw [List.append_assoc _ _ b]
  exact .mk hbefore (hafter.append hb)

/-- A text is as long as its token at least. -/
theorem length_le (h : Padded token text) :
    token.length ≤ text.length := by
  obtain ⟨hbefore, hafter⟩ := h
  simp
  omega

/-- What is read of a token that does not begin with a blank begins with
the token; of the blanks behind it nothing is known. -/
theorem skip {c : Char} (h : Padded (c :: token) text)
    (solid : skipSpace [c] = [c]) (rest : List Char) :
    ∃ left, skipSpace (text ++ rest) = c :: (token ++ left)
      ∧ skipSpace left = skipSpace rest := by
  obtain ⟨hbefore, hafter⟩ := h
  rename_i before after
  refine ⟨after ++ rest, ?_, hafter.skip rest⟩
  rw [List.append_assoc, List.append_assoc, hbefore.skip]
  unfold skipSpace at solid ⊢
  rw [List.cons_append, List.dropWhile_cons]
  rw [List.dropWhile_cons] at solid
  split at solid
  · simp at solid
  · rename_i hc
    rw [if_neg hc]

/-- A token that begins with a character begins with no other one. -/
theorem begins {c d : Char} (h : Padded (c :: token) text)
    (solid : skipSpace [c] = [c]) (other : c ≠ d) (rest : List Char) :
    ∃ c s, skipSpace (text ++ rest) = c :: s ∧ c ≠ d := by
  obtain ⟨left, hskip, -⟩ := h.skip solid rest
  exact ⟨c, _, hskip, other⟩

end Padded

-- ============================================================= strings

/-- The ways to write a character within a string: as it is, by an escape
of one letter, by its number in base sixteen, or by the two halves of its
surrogate pair. -/
inductive Spelled : Char → List Char → Prop where
  | plain {c : Char} (noQuote : c ≠ '"') (noEscape : c ≠ '\\')
      (visible : 0x20 ≤ c.toNat) : Spelled c [c]
  | letter {c e : Char} (escaped : escapedChar? e = some c) :
      Spelled c ['\\', e]
  | number {c d₁ d₂ d₃ d₄ : Char}
      (digits : hexDigits4? d₁ d₂ d₃ d₄ = some c.toNat) :
      Spelled c ['\\', 'u', d₁, d₂, d₃, d₄]
  | pair {c d₁ d₂ d₃ d₄ e₁ e₂ e₃ e₄ : Char} {high low : Nat}
      (first : hexDigits4? d₁ d₂ d₃ d₄ = some (0xD800 + high))
      (second : hexDigits4? e₁ e₂ e₃ e₄ = some (0xDC00 + low))
      (highBound : high < 0x400) (lowBound : low < 0x400)
      (code : c.toNat = 0x10000 + high * 0x400 + low) :
      Spelled c ['\\', 'u', d₁, d₂, d₃, d₄, '\\', 'u', e₁, e₂, e₃, e₄]

/-- Characters as they may be written within a string. -/
inductive SpelledAll : List Char → List Char → Prop where
  | nil : SpelledAll [] []
  | cons {c : Char} {cs one text : List Char} (first : Spelled c one)
      (rest : SpelledAll cs text) : SpelledAll (c :: cs) (one ++ text)

/-- The number of a character is no half of a surrogate pair. -/
theorem toNat_not_surrogate (c : Char) :
    c.toNat < 0xD800 ∨ 0xE000 ≤ c.toNat := by
  rcases c.valid with h | ⟨h, -⟩
  · exact .inl h
  · exact .inr h

/-- A character is read back, however it is written. -/
theorem stringBody_spelled {c : Char} {one : List Char}
    (h : Spelled c one) (s : List Char) :
    stringBody none (one ++ s) = (stringBody none s).map (.push c) := by
  -- by the way in which it is written; only the halves of a pair read on
  -- after their number
  cases h with
  | plain noQuote noEscape visible =>
      have hvisible : ¬ c.toNat < 0x20 := by omega
      simp [stringBody, noEscape, hvisible]
  | letter escaped =>
      rename_i e
      have hnotU : e ≠ 'u' := by
        rintro rfl
        simp [escapedChar?] at escaped
      simp [stringBody, hnotU, escaped]
  | number digits =>
      have hc := toNat_not_surrogate c
      have hhigh : ¬ (0xD800 ≤ c.toNat ∧ c.toNat < 0xDC00) := by omega
      have hlow : ¬ (0xDC00 ≤ c.toNat ∧ c.toNat < 0xE000) := by omega
      simp [stringBody, digits, hhigh, hlow]
  | pair first second highBound lowBound code =>
      rename_i high low
      have hvalue : Char.ofNat (0x10000 + high * 0x400 + low) = c := by
        rw [← code, Char.ofNat_toNat]
      have hhigh : 0xD800 + high < 0xDC00 := by omega
      have hlow : 0xDC00 + low < 0xE000 := by omega
      simp [stringBody, first, second, hhigh, hlow, hvalue]

/-- So the characters of a string are read back up to its quote. -/
theorem stringBody_spelledAll {cs text : List Char}
    (h : SpelledAll cs text) (rest : List Char) :
    stringBody none (text ++ '"' :: rest) = some (some cs, rest) := by
  induction h with
  | nil => simp [stringBody]
  | cons first _ ih =>
      rw [List.append_assoc, stringBody_spelled first, ih]
      rfl

-- =============================================================== texts

/-- A string between its quotes, with blanks around it. -/
inductive Quoted (s : String) : List Char → Prop where
  | mk {body text : List Char} (spelled : SpelledAll s.toList body)
      (padded : Padded ('"' :: (body ++ ['"'])) text) : Quoted s text

/-- What stands between two brackets: blanks, or texts of the items with
commas between them. -/
inductive Listed {α : Type} (W : α → List Char → Prop) :
    List α → List Char → Prop where
  | nil {text : List Char} (blank : Blanks text) : Listed W [] text
  | one {x : α} {text : List Char} (item : W x text) : Listed W [x] text
  | cons {x y : α} {xs : List α} {first rest : List Char}
      (item : W x first) (items : Listed W (y :: xs) rest) :
      Listed W (x :: y :: xs) (first ++ ',' :: rest)

/-- A key and the value that it is given. -/
inductive Keyed (W : Json → List Char → Prop) :
    String × Json → List Char → Prop where
  | mk {key : String} {value : Json} {before after : List Char}
      (quoted : Quoted key before) (given : W value after) :
      Keyed W (key, value) (before ++ ':' :: after)

/-- The texts of a value. -/
inductive Written : Json → List Char → Prop where
  | null {text : List Char} (padded : Padded "null".toList text) :
      Written .null text
  | bool {b : Bool} {text : List Char}
      (padded : Padded (if b then "true" else "false").toList text) :
      Written (.bool b) text
  | string {s : String} {text : List Char} (quoted : Quoted s text) :
      Written (.string s) text
  | array {xs : List Json} {inner text : List Char}
      (items : Listed Written xs inner)
      (padded : Padded ('[' :: (inner ++ [']'])) text) :
      Written (.array xs) text
  | object {ms : List (String × Json)} {inner text : List Char}
      (members : Listed (Keyed Written) ms inner)
      (padded : Padded ('\x7b' :: (inner ++ ['\x7d'])) text) :
      Written (.object ms) text

-- ============================================================= reading

/-- The reader passes over blanks before a value, and so do the readers
of items and members. -/
theorem value_skipSpace (fuel : Nat) (s : List Char) :
    value fuel (skipSpace s) = value fuel s := by
  cases fuel with
  | zero => rfl
  | succ fuel => rw [value, value, skipSpace_skipSpace]

theorem items_skipSpace (fuel : Nat) (s : List Char) :
    items fuel (skipSpace s) = items fuel s := by
  cases fuel with
  | zero => rfl
  | succ fuel => rw [items, items, value_skipSpace]

theorem members_skipSpace (fuel : Nat) (s : List Char) :
    members fuel (skipSpace s) = members fuel s := by
  cases fuel with
  | zero => rfl
  | succ fuel => rw [members, members, skipSpace_skipSpace]

section

variable (fuel : Nat) {s inner rest : List Char} {c : Char}

/-- A word is read up to its last letter. -/
theorem value_of_word {r : Reading} {token text : List Char}
    (padded : Padded (c :: token) text) (solid : skipSpace [c] = [c])
    (word : ∀ left,
      value (fuel + 1) (c :: (token ++ left)) = (r, some left))
    (rest : List Char) :
    ∃ left, value (fuel + 1) (text ++ rest) = (r, some left)
      ∧ skipSpace left = skipSpace rest := by
  obtain ⟨left, hskip, hleft⟩ := padded.skip solid rest
  refine ⟨left, ?_, hleft⟩
  rw [← value_skipSpace, hskip, word]

/-- A quote begins a string. -/
theorem value_of_quote (hs : skipSpace s = '"' :: inner) :
    value (fuel + 1) s = leaf .string (string? inner) := by
  rw [value, hs]
  rfl

/-- A bracket that is closed at once is an empty array. -/
theorem value_of_emptyArray (hs : skipSpace s = '[' :: inner)
    (hinner : skipSpace inner = ']' :: rest) :
    value (fuel + 1) s = (.array [], some rest) := by
  simp [value, hs, hinner]

/-- A bracket that is not closed at once begins items. -/
theorem value_of_array (hs : skipSpace s = '[' :: inner)
    (hinner : skipSpace inner = c :: rest) (hc : c ≠ ']') :
    value (fuel + 1) s
      = (.array (items fuel inner).1, (items fuel inner).2) := by
  rw [← items_skipSpace fuel inner, hinner]
  simp [value, hs, hinner, hc]

/-- A brace that is closed at once is an empty object. -/
theorem value_of_emptyObject (hs : skipSpace s = '\x7b' :: inner)
    (hinner : skipSpace inner = '\x7d' :: rest) :
    value (fuel + 1) s = (.object [], some rest) := by
  simp [value, hs, hinner]

/-- A brace that is not closed at once begins members. -/
theorem value_of_object (hs : skipSpace s = '\x7b' :: inner)
    (hinner : skipSpace inner = c :: rest) (hc : c ≠ '\x7d') :
    value (fuel + 1) s
      = (.object (members fuel inner).1, (members fuel inner).2) := by
  rw [← members_skipSpace fuel inner, hinner]
  simp [value, hs, hinner, hc]

end

/-- A string is read up to its quote. -/
theorem Quoted.read {s : String} {text : List Char} (h : Quoted s text)
    (rest : List Char) :
    ∃ inner left, skipSpace (text ++ rest) = '"' :: inner
      ∧ string? inner = some (some s, left)
      ∧ skipSpace left = skipSpace rest := by
  obtain ⟨spelled, padded⟩ := h
  obtain ⟨left, hskip, hleft⟩ := padded.skip rfl rest
  refine ⟨_, left, hskip, ?_, hleft⟩
  rw [List.append_assoc, List.singleton_append]
  unfold string?
  rw [stringBody_spelledAll spelled left]
  simp

/-- Texts that do not begin with a given bracket, so that a list of them
is not taken for an empty one. -/
def BeginsBefore {α : Type} (W : α → List Char → Prop) (d : Char) : Prop :=
  ∀ {x : α} {text : List Char}, W x text → ∀ rest,
    ∃ c s, skipSpace (text ++ rest) = c :: s ∧ c ≠ d

/-- No value begins with a closing bracket. -/
theorem Written.beginsBefore : BeginsBefore Written ']' := by
  intro j text h rest
  cases h with
  | null padded => exact padded.begins rfl (by decide) rest
  | bool padded =>
      rename_i b
      cases b with
      | true => exact padded.begins rfl (by decide) rest
      | false => exact padded.begins rfl (by decide) rest
  | string quoted =>
      obtain ⟨inner, -, hskip, -⟩ := quoted.read rest
      exact ⟨_, inner, hskip, by decide⟩
  | array _ padded => exact padded.begins rfl (by decide) rest
  | object _ padded => exact padded.begins rfl (by decide) rest

/-- No member begins with a closing brace. -/
theorem Keyed.beginsBefore (W : Json → List Char → Prop) :
    BeginsBefore (Keyed W) '\x7d' := by
  intro m text h rest
  obtain ⟨quoted, -⟩ := h
  rw [List.append_assoc]
  obtain ⟨inner, -, hskip, -⟩ := quoted.read _
  exact ⟨_, inner, hskip, by decide⟩

/-- A list begins as its first entry does. -/
theorem BeginsBefore.listed {α : Type} {W : α → List Char → Prop}
    {d : Char} (h : BeginsBefore W d) {x : α} {xs : List α}
    {text : List Char} (items : Listed W (x :: xs) text)
    (rest : List Char) :
    ∃ c s, skipSpace (text ++ rest) = c :: s ∧ c ≠ d := by
  cases items with
  | one item => exact h item rest
  | cons item _ =>
      rw [List.append_assoc]
      exact h item _

/-- What the reader makes of the texts of values, with a given fuel. -/
structure ReadsWith (fuel : Nat) : Prop where
  value : ∀ {j : Json} {text : List Char}, Written j text →
    text.length ≤ fuel → ∀ rest, ∃ left,
      value fuel (text ++ rest) = (.ofJson j, some left)
        ∧ skipSpace left = skipSpace rest
  items : ∀ {x : Json} {xs : List Json} {text : List Char},
    Listed Written (x :: xs) text → text.length < fuel → ∀ rest,
      items fuel (text ++ ']' :: rest)
        = (Reading.ofItems (x :: xs), some rest)
  members : ∀ {m : String × Json} {ms : List (String × Json)}
    {text : List Char}, Listed (Keyed Written) (m :: ms) text →
      text.length < fuel → ∀ rest,
        members fuel (text ++ '\x7d' :: rest)
          = (Reading.ofMembers (m :: ms), some rest)

/-- A value is read where its parts are read with one less of fuel. -/
theorem ReadsWith.value_succ {fuel : Nat} (ih : ReadsWith fuel) {j : Json}
    {text : List Char} (h : Written j text)
    (enough : text.length ≤ fuel + 1) (rest : List Char) :
    ∃ left, Json.value (fuel + 1) (text ++ rest) = (.ofJson j, some left)
      ∧ skipSpace left = skipSpace rest := by
  cases h with
  | null padded => exact value_of_word fuel padded rfl (fun _ => rfl) rest
  | bool padded =>
      rename_i b
      cases b with
      | true => exact value_of_word fuel padded rfl (fun _ => rfl) rest
      | false => exact value_of_word fuel padded rfl (fun _ => rfl) rest
  | string quoted =>
      obtain ⟨inner, left, hskip, hread, hleft⟩ := quoted.read rest
      refine ⟨left, ?_, hleft⟩
      rw [value_of_quote fuel hskip, hread]
      rfl
  | array items padded =>
      rename_i xs inner
      have hlength := padded.length_le
      obtain ⟨left, hskip, hleft⟩ := padded.skip rfl rest
      refine ⟨left, ?_, hleft⟩
      rw [List.append_assoc, List.singleton_append] at hskip
      -- an empty array is told by what follows the bracket
      cases xs with
      | nil =>
          cases items with
          | nil blank =>
            exact value_of_emptyArray fuel hskip (blank.skip _)
      | cons x xs =>
          obtain ⟨c, s, hinner, hc⟩ :=
            BeginsBefore.listed Written.beginsBefore items (']' :: left)
          rw [value_of_array fuel hskip hinner hc,
            ih.items items (by simp at hlength; omega)]
          rfl
  | object members padded =>
      rename_i ms inner
      have hlength := padded.length_le
      obtain ⟨left, hskip, hleft⟩ := padded.skip rfl rest
      refine ⟨left, ?_, hleft⟩
      rw [List.append_assoc, List.singleton_append] at hskip
      cases ms with
      | nil =>
          cases members with
          | nil blank =>
            exact value_of_emptyObject fuel hskip (blank.skip _)
      | cons m ms =>
          obtain ⟨c, s, hinner, hc⟩ :=
            BeginsBefore.listed (Keyed.beginsBefore Written) members _
          rw [value_of_object fuel hskip hinner hc,
            ih.members members (by simp at hlength; omega)]
          rfl

/-- Items are read up to their bracket, where values and fewer items are
read with one less of fuel. -/
theorem ReadsWith.items_succ {fuel : Nat} (ih : ReadsWith fuel) {x : Json}
    {xs : List Json} {text : List Char}
    (h : Listed Written (x :: xs) text) (enough : text.length < fuel + 1)
    (rest : List Char) :
    Json.items (fuel + 1) (text ++ ']' :: rest)
      = (Reading.ofItems (x :: xs), some rest) := by
  cases h with
  | one item =>
      obtain ⟨left, hread, hleft⟩ :=
        ih.value item (by omega) (']' :: rest)
      have hclose : skipSpace left = ']' :: rest := hleft
      simp [Json.items, hread, hclose, Reading.ofItems]
  | cons item items =>
      rename_i y xs first others
      rw [List.length_append, List.length_cons] at enough
      obtain ⟨left, hread, hleft⟩ := ih.value item (by omega)
        (',' :: (others ++ ']' :: rest))
      have hcomma : skipSpace left = ',' :: (others ++ ']' :: rest) := hleft
      have hothers := ih.items items (by omega) rest
      rw [List.append_assoc, List.cons_append]
      simp [Json.items, hread, hcomma, hothers, Reading.ofItems]

/-- A member is read up to what follows its value. -/
theorem ReadsWith.member {fuel : Nat} (ih : ReadsWith fuel)
    {key : String} {j : Json} {text : List Char}
    (h : Keyed Written (key, j) text) (enough : text.length ≤ fuel)
    (rest : List Char) :
    ∃ inner behindKey given left, skipSpace (text ++ rest) = '"' :: inner
      ∧ string? inner = some (some key, behindKey)
      ∧ skipSpace behindKey = ':' :: given
      ∧ Json.value fuel given = (.ofJson j, some left)
      ∧ skipSpace left = skipSpace rest := by
  obtain ⟨quoted, given⟩ := h
  rename_i before after
  rw [List.length_append, List.length_cons] at enough
  rw [List.append_assoc, List.cons_append]
  obtain ⟨inner, behindKey, hskip, hkey, hcolon⟩ :=
    quoted.read (':' :: (after ++ rest))
  obtain ⟨left, hread, hleft⟩ := ih.value given (by omega) rest
  exact ⟨inner, behindKey, after ++ rest, left, hskip, hkey, hcolon, hread,
    hleft⟩

/-- Members are read up to their brace, where values and fewer members are
read with one less of fuel. -/
theorem ReadsWith.members_succ {fuel : Nat} (ih : ReadsWith fuel)
    {m : String × Json} {ms : List (String × Json)} {text : List Char}
    (h : Listed (Keyed Written) (m :: ms) text)
    (enough : text.length < fuel + 1) (rest : List Char) :
    Json.members (fuel + 1) (text ++ '\x7d' :: rest)
      = (Reading.ofMembers (m :: ms), some rest) := by
  obtain ⟨key, j⟩ := m
  cases h with
  | one item =>
      obtain ⟨inner, behindKey, given, left, hquote, hkey, hcolon, hread,
        hleft⟩ := ih.member item (by omega) ('\x7d' :: rest)
      have hclose : skipSpace left = '\x7d' :: rest := hleft
      simp [Json.members, hquote, hkey, hcolon, hread, hclose,
        Reading.ofMembers]
  | cons item items =>
      rename_i m' ms first others
      rw [List.length_append, List.length_cons] at enough
      obtain ⟨inner, behindKey, given, left, hquote, hkey, hcolon, hread,
        hleft⟩ := ih.member item (by omega)
          (',' :: (others ++ '\x7d' :: rest))
      have hcomma : skipSpace left = ',' :: (others ++ '\x7d' :: rest) :=
        hleft
      have hothers := ih.members items (by omega) rest
      rw [List.append_assoc, List.cons_append]
      simp [Json.members, hquote, hkey, hcolon, hread, hcomma, hothers,
        Reading.ofMembers]

/-- No text of a value is empty. -/
theorem Written.length_pos {j : Json} {text : List Char}
    (h : Written j text) : 0 < text.length := by
  by_contra hempty
  obtain rfl : text = [] := by simpa using hempty
  obtain ⟨c, s, hskip, hc⟩ := Written.beginsBefore h [']']
  obtain rfl : ']' = c := (List.cons.inj hskip).1
  exact hc rfl

/-- Fuel for the length of a text is enough to read it. -/
theorem readsWith (fuel : Nat) : ReadsWith fuel := by
  -- on the fuel, for all three readers at once: each calls the others with
  -- one less
  induction fuel with
  | zero =>
      refine ⟨fun h enough => ?_, fun _ enough => ?_, fun _ enough => ?_⟩
      · have := h.length_pos
        omega
      · omega
      · omega
  | succ fuel ih => exact ⟨ih.value_succ, ih.items_succ, ih.members_succ⟩

/-- A text of a value is read as the value, whatever follows it. -/
theorem read_written {j : Json} {text : List Char} (h : Written j text)
    (rest : List Char) :
    ∃ left, read (text ++ rest) = (.ofJson j, some left)
      ∧ skipSpace left = skipSpace rest :=
  (readsWith _).value h (by simp; omega) rest

namespace Decode

variable {α : Type} {j : Json} {text : List Char}

/-- A decoder that takes the beginning of a text sees the value. -/
theorem head_written (decode : Decoder α) (h : Written j text) :
    head decode text = decode (.ofJson j) := by
  obtain ⟨left, hread, -⟩ := read_written h []
  rw [List.append_nil] at hread
  rw [head, hread]

/-- A decoder that takes the whole of a text sees the value. -/
theorem whole_written (decode : Decoder α) (h : Written j text) :
    whole decode text = decode (.ofJson j) := by
  obtain ⟨left, hread, hleft⟩ := read_written h []
  rw [List.append_nil] at hread
  have hempty : skipSpace left = [] := hleft
  unfold whole
  rw [hread]
  dsimp only
  rw [hempty]
  cases decode (.ofJson j) <;> rfl

end Decode

end FluxComposer.Json
