import FluxComposer.Json.Printer
import FluxComposer.Proofs.Json.Written
import Mathlib.Data.List.Forall2
/-
Both printers write a text of the value (`written_compact`,
`written_indentedAt`), so what they write is read back as the value.

A string is spelled character by character. Of arrays and objects the
entries are texts by induction; what is left is to put them together, with
blanks behind commas and brackets, and blanks may be added at either end
of any text (`Loose`).
-/
namespace FluxComposer.Json

-- ============================================================= strings

/-- The number of a control character, in base sixteen. -/
theorem hexDigits4?_lowerHexDigit :
    ∀ n < 0x20, hexDigits4? '0' '0' (lowerHexDigit (n / 16))
      (lowerHexDigit (n % 16)) = some n := by
  decide

/-- The printer spells each character. -/
theorem spelled_escape (c : Char) : Spelled c (escape c) := by
  unfold escape
  -- by the cases of the printer: seven letters, a control character by its
  -- number, or the character itself
  split
  case h_8 noQuote noEscape _ _ _ _ _ =>
    split
    · rename_i hsmall
      exact .number (hexDigits4?_lowerHexDigit _ hsmall)
    · exact .plain noQuote noEscape (by omega)
  all_goals exact .letter rfl

/-- The printer spells the characters of a string one after another. -/
theorem spelledAll_escape (cs : List Char) :
    SpelledAll cs (cs.flatMap escape) := by
  induction cs with
  | nil => exact .nil
  | cons c cs ih => exact .cons (spelled_escape c) ih

-- ============================================================== blanks

/-- A kind of text to which blanks may be added at either end. -/
structure Loose {α : Type} (W : α → List Char → Prop) : Prop where
  prepend : ∀ {x : α} {text b : List Char}, Blanks b → W x text →
    W x (b ++ text)
  append : ∀ {x : α} {text b : List Char}, W x text → Blanks b →
    W x (text ++ b)

/-- Blanks may be added around a string. -/
theorem Quoted.loose : Loose Quoted where
  prepend hb h := by
    obtain ⟨spelled, padded⟩ := h
    exact ⟨spelled, padded.prepend hb⟩
  append h hb := by
    obtain ⟨spelled, padded⟩ := h
    exact ⟨spelled, padded.append hb⟩

/-- Blanks may be added around any value, for each kind of value may have
them around its token. -/
theorem Written.loose : Loose Written where
  prepend hb h := by
    cases h with
    | null padded => exact .null (padded.prepend hb)
    | bool padded => exact .bool (padded.prepend hb)
    | string quoted => exact .string (Quoted.loose.prepend hb quoted)
    | array items padded => exact .array items (padded.prepend hb)
    | object members padded => exact .object members (padded.prepend hb)
  append h hb := by
    cases h with
    | null padded => exact .null (padded.append hb)
    | bool padded => exact .bool (padded.append hb)
    | string quoted => exact .string (Quoted.loose.append quoted hb)
    | array items padded => exact .array items (padded.append hb)
    | object members padded => exact .object members (padded.append hb)

/-- Before a member there may be blanks as before its key, and behind it as
behind its value. -/
theorem Loose.keyed {W : Json → List Char → Prop} (loose : Loose W) :
    Loose (Keyed W) where
  prepend hb h := by
    obtain ⟨quoted, given⟩ := h
    rw [← List.append_assoc]
    exact ⟨Quoted.loose.prepend hb quoted, given⟩
  append h hb := by
    obtain ⟨quoted, given⟩ := h
    rw [List.append_assoc, List.cons_append]
    exact ⟨quoted, loose.append given hb⟩

/-- Blanks at either end of a list are blanks of its first entry or its
last, or all that there is. -/
theorem Loose.listed {α : Type} {W : α → List Char → Prop}
    (loose : Loose W) : Loose (Listed W) where
  prepend hb h := by
    cases h with
    | nil blank => exact .nil (hb.append blank)
    | one item => exact .one (loose.prepend hb item)
    | cons item items =>
        rw [← List.append_assoc]
        exact .cons (loose.prepend hb item) items
  append h hb := by
    induction h with
    | nil blank => exact .nil (blank.append hb)
    | one item => exact .one (loose.append item hb)
    | cons item _ ih =>
        rw [List.append_assoc, List.cons_append]
        exact .cons item ih

/-- Entries with commas between them, and blanks behind each comma. -/
theorem Loose.intercalate {α : Type} {W : α → List Char → Prop}
    (loose : Loose W) {b : List Char} (hb : Blanks b) {xs : List α}
    {entries : List (List Char)} (h : List.Forall₂ W xs entries) :
    Listed W xs ((',' :: b).intercalate entries) := by
  -- on the entries: all but the last have a comma behind them, and the
  -- blanks go to the next one
  induction h with
  | nil => exact .nil .nil
  | cons item rest ih =>
      cases rest with
      | nil => simpa using Listed.one item
      | cons =>
          rw [List.intercalate_cons_of_ne_nil (by simp), List.append_assoc,
            List.cons_append]
          exact .cons item (loose.listed.prepend hb ih)

/-- A line break with its indentation is blank. -/
theorem blanks_lineAt (depth : Nat) : Blanks (lineAt depth).toList := by
  intro c hc
  simp only [lineAt, String.toList_append, String.toList_ofList,
    List.mem_append, List.mem_replicate] at hc
  rcases hc with hc | ⟨-, rfl⟩
  · exact .inr (.inl (by simpa using hc))
  · exact .inl rfl

/-- Between two brackets stand the entries, on lines of their own. -/
theorem Loose.bracketed {α : Type} {W : α → List Char → Prop}
    (loose : Loose W) (opening closing : String) (depth : Nat)
    {xs : List α} {entries : List String}
    (h : List.Forall₂ W xs (entries.map String.toList)) :
    ∃ inner, Listed W xs inner
      ∧ (Json.bracketed opening closing depth entries).toList
        = opening.toList ++ (inner ++ closing.toList) := by
  cases entries with
  | nil =>
      cases h
      exact ⟨[], .nil .nil, by simp [Json.bracketed]⟩
  | cons entry entries =>
      have hlisted := loose.intercalate (blanks_lineAt (depth + 1)) h
      refine ⟨_, loose.listed.append
        (loose.listed.prepend (blanks_lineAt (depth + 1)) hlisted)
        (blanks_lineAt depth), ?_⟩
      simp [Json.bracketed, String.toList_intercalate]

-- ============================================================= values

/-- No number stands in the value. -/
inductive NumberFree : Json → Prop where
  | null : NumberFree .null
  | bool (b : Bool) : NumberFree (.bool b)
  | string (s : String) : NumberFree (.string s)
  | array {xs : List Json} (items : ∀ x ∈ xs, NumberFree x) :
      NumberFree (.array xs)
  | object {ms : List (String × Json)}
      (values : ∀ m ∈ ms, NumberFree m.2) : NumberFree (.object ms)

/-- The printer writes a string between its quotes, without blanks. -/
theorem quoted_quote (s : String) : Quoted s (quote s).toList := by
  refine ⟨spelledAll_escape s.toList, ?_⟩
  simpa [quote] using Padded.self ('"' :: (s.toList.flatMap escape ++ ['"']))

/-- The printer writes a member as its key and its value, with blanks behind
the colon at most. -/
theorem keyed_quote (separator : String) {b : List Char}
    (hseparator : separator.toList = ':' :: b) (hb : Blanks b)
    {m : String × Json} {text : String} (h : Written m.2 text.toList) :
    Keyed Written m (quote m.1 ++ separator ++ text).toList := by
  rw [String.toList_append, String.toList_append, hseparator,
    List.append_assoc, List.cons_append]
  exact ⟨quoted_quote m.1, Written.loose.prepend hb h⟩

/-- Entries that are printed one by one. -/
theorem forall₂_printed {α : Type} {W : α → List Char → Prop}
    {print : α → String} {xs : List α}
    (h : ∀ x ∈ xs, W x (print x).toList) :
    List.Forall₂ W xs ((xs.map print).map String.toList) := by
  rw [List.map_map, List.forall₂_map_right_iff]
  exact List.forall₂_same.2 h

/-- The printer writes items one by one. -/
theorem compactItems_eq_map (xs : List Json) :
    compactItems xs = xs.map compact := by
  induction xs with
  | nil => rfl
  | cons x xs ih => rw [compactItems, ih, List.map_cons]

/-- The printer writes members one by one. -/
theorem compactMembers_eq_map (ms : List (String × Json)) :
    compactMembers ms = ms.map fun m => quote m.1 ++ ":" ++ compact m.2 := by
  induction ms with
  | nil => rfl
  | cons m ms ih => rw [compactMembers, ih, List.map_cons]

theorem indentedItems_eq_map (depth : Nat) (xs : List Json) :
    indentedItems depth xs = xs.map (indentedAt depth) := by
  induction xs with
  | nil => rfl
  | cons x xs ih => rw [indentedItems, ih, List.map_cons]

/-- The printer writes members one by one, each on its line. -/
theorem indentedMembers_eq_map (depth : Nat) (ms : List (String × Json)) :
    indentedMembers depth ms
      = ms.map fun m => quote m.1 ++ ": " ++ indentedAt depth m.2 := by
  induction ms with
  | nil => rfl
  | cons m ms ih => rw [indentedMembers, ih, List.map_cons]

/-- The compact text of a value is a text of it. -/
theorem written_compact {j : Json} (h : NumberFree j) :
    Written j (compact j).toList := by
  -- on the value; the texts of the entries are given by induction
  induction h with
  | null => exact .null (.self _)
  | bool b => exact .bool (.self _)
  | string s => exact .string (quoted_quote s)
  | array items ih =>
      have hlisted := Written.loose.intercalate .nil (forall₂_printed ih)
      refine .array hlisted ?_
      simpa [compact, compactItems_eq_map, String.toList_intercalate]
        using Padded.self _
  | object values ih =>
      have hlisted := Written.loose.keyed.intercalate .nil
        (forall₂_printed fun m hm =>
          keyed_quote ":" rfl .nil (ih m hm))
      refine .object hlisted ?_
      simpa [compact, compactMembers_eq_map, String.toList_intercalate]
        using Padded.self _

/-- The indented text of a value is a text of it. -/
theorem written_indentedAt {j : Json} (h : NumberFree j) (depth : Nat) :
    Written j (indentedAt depth j).toList := by
  -- on the value, for any depth: the entries stand one deeper
  induction h generalizing depth with
  | null => exact .null (.self _)
  | bool b => exact .bool (.self _)
  | string s => exact .string (quoted_quote s)
  | array items ih =>
      obtain ⟨inner, hlisted, htext⟩ := Written.loose.bracketed "[" "]"
        depth (forall₂_printed fun x hx => ih x hx (depth + 1))
      refine .array hlisted ?_
      rw [indentedAt, indentedItems_eq_map, htext]
      exact .self _
  | object values ih =>
      have hblank : Blanks [' '] := by simp [Blanks]
      obtain ⟨inner, hlisted, htext⟩ :=
        Written.loose.keyed.bracketed "\x7b" "\x7d" depth
          (forall₂_printed fun m hm =>
            keyed_quote ": " rfl hblank (ih m hm (depth + 1)))
      refine .object hlisted ?_
      rw [indentedAt, indentedMembers_eq_map, htext]
      exact .self _

end FluxComposer.Json
