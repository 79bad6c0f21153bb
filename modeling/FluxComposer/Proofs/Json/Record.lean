import FluxComposer.Json.Decode
import Mathlib.Data.List.Nodup
/-
Records, however they are written. An object gives a record its fields
under their keys, in any order and among any others, and an array gives
them in their order; either way the record is what its fields come to one
after another (`record_eq_ok_iff`). What a decoder of a record accepts can
so be said by what its fields are given, with no word of the decoder.

The law is an induction on the members of the object, which come in
another order than the fields. So a field has to be stored past those that
stand before it, and what is asked of the fields is that no two of them
get into each other's way (`Independent`).
-/
namespace FluxComposer.Json

-- ============================================================= lookups

section Lookup

variable {κ α : Type} [BEq κ] [LawfulBEq κ] {key k : κ} {a : α}
  {members : List (κ × α)}

/-- The first entry is looked at first. -/
theorem lookup_cons_ite [DecidableEq κ] :
    ((k, a) :: members).lookup key
      = if key = k then some a else members.lookup key := by
  rw [List.lookup_cons]
  by_cases h : key = k
  · rw [if_pos h, beq_iff_eq.2 h]
  · rw [if_neg h, beq_eq_false_iff_ne.2 h]

/-- What is no key has no value. -/
theorem lookup_eq_none (absent : key ∉ members.map (·.1)) :
    members.lookup key = none := by
  refine List.lookup_eq_none_iff.2 fun m hm => bne_iff_ne.2 ?_
  intro heq
  subst heq
  exact absent (List.mem_map_of_mem hm)

end Lookup

-- ============================================================== giving

/-- A text is a value as it is read, and blanks behind it. -/
def ReadsAs (text : String) (r : Reading) : Prop :=
  ∃ rest, read text.toList = (r, some rest) ∧ skipSpace rest = []

/-- What stands in the place of a key. -/
def placed {α : Type} (keys : List String) (items : List α) (key : String) :
    Option α :=
  items[keys.idxOf key]?

/-- What a reading gives for the keys of a record. An object gives nothing
twice, and its other members are sound. -/
inductive Reading.Gives (keys : List String) :
    Reading → (String → Option Reading) → Prop where
  | object {members : List (Option String × Reading)}
      (readable : ∀ m ∈ members, ∃ key, m.1 = some key
        ∧ (key ∉ keys → m.2.isWhole = true))
      (once : ∀ key ∈ keys, (members.map (·.1)).count (some key) ≤ 1) :
      Gives keys (.object members) fun key => members.lookup (some key)
  | array {items : List Reading} (few : items.length ≤ keys.length) :
      Gives keys (.array items) (placed keys items)

namespace Decode

variable {σ α : Type} {fields : List (Field σ)} {start s t : σ}

/-- A result in two steps has one in each. -/
theorem bind_eq_ok {β : Type} {x : Except Fault α}
    {next : α → Except Fault β} {b : β} :
    x >>= next = .ok b ↔ ∃ a, x = .ok a ∧ next a = .ok b := by
  cases x with
  | error e =>
      refine ⟨nofun, fun h => ?_⟩
      obtain ⟨a, ha, -⟩ := h
      cases ha
  | ok a =>
      constructor
      · exact fun h => ⟨a, rfl, h⟩
      · intro h
        obtain ⟨a', ha, hb⟩ := h
        cases ha
        exact hb

/-- A decoder accepts a text if it accepts what the text is read as. -/
theorem whole_eq_ok_iff {decode : Decoder α} {text : String} {a : α} :
    whole decode text.toList = .ok a
      ↔ ∃ r, ReadsAs text r ∧ decode r = .ok a := by
  unfold whole ReadsAs
  obtain ⟨r, rest⟩ := read text.toList
  dsimp only
  rw [bind_eq_ok]
  cases rest with
  | none => simp
  | some rest =>
      by_cases hblank : skipSpace rest = [] <;>
        simp [hblank, pure, Except.pure]

-- ============================================================== fields

/-- Stores what the fields of a record are given, one after another. -/
def stores (value : String → Option Reading) :
    List (Field σ) → σ → Except Fault σ
  | [], s => .ok s
  | f :: fields, s =>
    match value f.key with
    | some r => f.store r s >>= stores value fields
    | none => stores value fields s

/-- Every field is given something, or has a default. -/
def Suffices (value : String → Option Reading) (fields : List (Field σ)) :
    Prop :=
  ∀ f ∈ fields, f.hasDefault = true ∨ (value f.key).isSome = true

/-- It does not matter which of two fields is stored first. -/
def Field.Swaps (f g : Field σ) : Prop :=
  ∀ r r' s t, (∃ u, f.store r s = .ok u ∧ g.store r' u = .ok t)
    ↔ ∃ u, g.store r' s = .ok u ∧ f.store r u = .ok t

/-- Fields have keys of their own and can be stored in any order. -/
def Independent (fields : List (Field σ)) : Prop :=
  fields.Pairwise fun f g => f.key ≠ g.key ∧ f.Swaps g

/-- Fields are independent if their keys differ and any two of them can be
stored in either order. -/
theorem independent_of_swaps (distinct : (fields.map (·.key)).Nodup)
    (swaps : fields.Pairwise Field.Swaps) : Independent fields :=
  (List.pairwise_map.1 distinct).and swaps

theorem field_store_eq_ok {key : String} {decode : Decoder α}
    {put : α → σ → σ} {hasDefault : Bool} {r : Reading} :
    (field key decode put hasDefault).store r s = .ok t
      ↔ ∃ a, decode r = .ok a ∧ put a s = t := by
  refine bind_eq_ok.trans (exists_congr fun a => and_congr_right' ?_)
  exact Iff.of_eq (Except.ok.injEq _ _)

/-- Fields that change different things can be stored in any order. -/
theorem field_swaps {β : Type} {key key' : String} {decode : Decoder α}
    {decode' : Decoder β} {put : α → σ → σ} {put' : β → σ → σ}
    {hasDefault hasDefault' : Bool}
    (commute : ∀ a b s, put' b (put a s) = put a (put' b s)) :
    (field key decode put hasDefault).Swaps
      (field key' decode' put' hasDefault') := by
  intro r r' s t
  simp only [field_store_eq_ok]
  constructor
  · intro h
    obtain ⟨_, ⟨a, ha, rfl⟩, b, hb, rfl⟩ := h
    exact ⟨_, ⟨b, hb, rfl⟩, a, ha, (commute a b s).symm⟩
  · intro h
    obtain ⟨_, ⟨b, hb, rfl⟩, a, ha, rfl⟩ := h
    exact ⟨_, ⟨a, ha, rfl⟩, b, hb, commute a b s⟩

/-- A string is decoded where one is read whose characters could all be
read. -/
theorem string_eq_ok_iff {r : Reading} {text : String} :
    string r = .ok text ↔ r = .string (some text) := by
  unfold string
  split
  case h_1 => simp
  case h_2 hother => exact ⟨nofun, fun h => absurd h (hother text)⟩

/-- A string that may be left open is decoded where one is read, or
nothing is. -/
theorem optional_string_eq_ok_iff {r : Reading} {text : Option String} :
    optional string r = .ok text
      ↔ r = .null ∧ text = none
        ∨ ∃ inner, r = .string (some inner) ∧ text = some inner := by
  unfold optional
  split
  case h_1 => simp [eq_comm]
  case h_2 hother =>
    have hnull : r ≠ .null := hother
    cases hread : string r with
    | error e =>
        have hnone (inner : String) : r ≠ .string (some inner) := by
          intro h
          rw [string_eq_ok_iff.2 h] at hread
          cases hread
        simp [hnull, hnone]
    | ok inner =>
        obtain rfl := string_eq_ok_iff.1 hread
        simp [eq_comm]

/-- A whole number is decoded where one is read that fits. -/
theorem int64_eq_ok_iff {r : Reading} {i : Int} :
    int64 r = .ok i
      ↔ r = .number (some (.integer i)) ∧ i < Nat.pow 2 63 := by
  unfold int64
  split
  case h_1 n =>
    split
    case isTrue hfits =>
      constructor
      · intro h
        cases h
        exact ⟨rfl, hfits⟩
      · intro h
        obtain ⟨hn, -⟩ := h
        cases hn
        rfl
    case isFalse hwide =>
      refine ⟨nofun, fun h => ?_⟩
      obtain ⟨hn, hfits⟩ := h
      cases hn
      exact absurd hfits hwide
  case h_2 hother => exact ⟨nofun, fun h => absurd h.1 (hother i)⟩

/-- The fields of a record come to a state with what they are given. -/
def ComesTo (value : String → Option Reading) (fields : List (Field σ))
    (s t : σ) : Prop :=
  Suffices value fields ∧ stores value fields s = .ok t

theorem stores_congr {value value' : String → Option Reading}
    (same : ∀ f ∈ fields, value f.key = value' f.key) :
    stores value fields s = stores value' fields s := by
  induction fields generalizing s with
  | nil => rfl
  | cons f fields ih =>
      have hrest : stores value fields = stores value' fields :=
        funext fun s => ih fun g hg => same g (List.mem_cons_of_mem f hg)
      unfold stores
      rw [same f List.mem_cons_self, hrest]

theorem comesTo_congr {value value' : String → Option Reading}
    (same : ∀ f ∈ fields, value f.key = value' f.key) :
    ComesTo value fields s t ↔ ComesTo value' fields s t := by
  unfold ComesTo Suffices
  rw [stores_congr same]
  exact and_congr_left' (forall₂_congr fun f hf => by rw [same f hf])

section ComesTo

variable {value : String → Option Reading} {f : Field σ}

/-- Without fields the state stays. -/
theorem comesTo_nil : ComesTo value [] s t ↔ s = t :=
  ⟨fun h => Except.ok.inj h.2, fun h => ⟨nofun, congrArg _ h⟩⟩

/-- A field that is given something is stored before the others. -/
theorem comesTo_cons_given {r : Reading} (given : value f.key = some r) :
    ComesTo value (f :: fields) s t
      ↔ ∃ u, f.store r s = .ok u ∧ ComesTo value fields u t := by
  unfold ComesTo Suffices
  rw [List.forall_mem_cons, stores, given, bind_eq_ok]
  constructor
  · intro h
    obtain ⟨⟨-, hneeds⟩, u, hu, hst⟩ := h
    exact ⟨u, hu, hneeds, hst⟩
  · intro h
    obtain ⟨u, hu, hneeds, hst⟩ := h
    exact ⟨⟨.inr rfl, hneeds⟩, u, hu, hst⟩

/-- A field that is given nothing keeps its default, if it has one. -/
theorem comesTo_cons_missing (missing : value f.key = none) :
    ComesTo value (f :: fields) s t
      ↔ f.hasDefault = true ∧ ComesTo value fields s t := by
  unfold ComesTo Suffices
  rw [List.forall_mem_cons, stores, missing, and_assoc]
  exact and_congr_left' (or_iff_left Bool.false_ne_true)

variable {key : String} {decode : Decoder α} {put : α → σ → σ}

/-- What a field is given is decoded to its value. -/
theorem comesTo_cons_decoded {hasDefault : Bool} {r : Reading}
    (given : value key = some r) :
    ComesTo value (field key decode put hasDefault :: fields) s t
      ↔ ∃ a, decode r = .ok a ∧ ComesTo value fields (put a s) t := by
  rw [comesTo_cons_given given]
  simp only [field_store_eq_ok]
  constructor
  · intro h
    obtain ⟨_, ⟨a, ha, rfl⟩, hrest⟩ := h
    exact ⟨a, ha, hrest⟩
  · intro h
    obtain ⟨a, ha, hrest⟩ := h
    exact ⟨_, ⟨a, ha, rfl⟩, hrest⟩

/-- A field without a default has to be given its value. -/
theorem comesTo_cons_required :
    ComesTo value (field key decode put :: fields) s t
      ↔ ∃ r a, value key = some r ∧ decode r = .ok a
        ∧ ComesTo value fields (put a s) t := by
  cases hvalue : value key with
  | some r => simp [comesTo_cons_decoded hvalue]
  | none =>
      rw [comesTo_cons_missing hvalue]
      simp [field]

/-- A field with a default keeps it where nothing else is given. -/
theorem comesTo_cons_optional :
    ComesTo value (field key decode put true :: fields) s t
      ↔ (∃ r a, value key = some r ∧ decode r = .ok a
          ∧ ComesTo value fields (put a s) t)
        ∨ value key = none ∧ ComesTo value fields s t := by
  cases hvalue : value key with
  | some r => simp [comesTo_cons_decoded hvalue]
  | none =>
      rw [comesTo_cons_missing hvalue]
      simp [field]

/-- A field comes to what it is given or to its default, where the state
has the default to begin with. -/
theorem comesTo_cons_default {d : α} (start : put d s = s) :
    ComesTo value (field key decode put true :: fields) s t
      ↔ ∃ a, ((∃ r, value key = some r ∧ decode r = .ok a)
          ∨ value key = none ∧ a = d)
        ∧ ComesTo value fields (put a s) t := by
  rw [comesTo_cons_optional]
  constructor
  · intro h
    obtain ⟨r, a, hvalue, hdecode, hrest⟩ | ⟨hvalue, hrest⟩ := h
    · exact ⟨a, .inl ⟨r, hvalue, hdecode⟩, hrest⟩
    · exact ⟨d, .inr ⟨hvalue, rfl⟩, start.symm ▸ hrest⟩
  · intro h
    obtain ⟨a, ⟨r, hvalue, hdecode⟩ | ⟨hvalue, rfl⟩, hrest⟩ := h
    · exact .inl ⟨r, a, hvalue, hdecode, hrest⟩
    · exact .inr ⟨hvalue, start ▸ hrest⟩

end ComesTo

/-- What is given for a field can be stored first. -/
theorem stores_first {value value' : String → Option Reading}
    {f : Field σ} {r : Reading} (independent : Independent fields)
    (known : f ∈ fields) (given : value f.key = some r)
    (alone : value' f.key = none)
    (same : ∀ key, key ≠ f.key → value key = value' key) :
    stores value fields s = .ok t
      ↔ ∃ u, f.store r s = .ok u ∧ stores value' fields u = .ok t := by
  -- on the fields: the one that is stored first is moved past those that
  -- stand before it
  induction fields generalizing s with
  | nil => cases known
  | cons g fields ih =>
      obtain ⟨hothers, hrest⟩ := List.pairwise_cons.1 independent
      rcases List.mem_cons.1 known with rfl | hknown
      · -- it stands in front, and the others are given what they were
        have hsame : stores value fields = stores value' fields :=
          funext fun s => stores_congr fun g hg =>
            same g.key (hothers g hg).1.symm
        unfold stores
        rw [given, alone, hsame]
        exact bind_eq_ok
      · obtain ⟨hkeys, hswaps⟩ := hothers f hknown
        unfold stores
        rw [same g.key hkeys]
        cases value' g.key with
        | none => exact ih hrest hknown
        | some r' =>
            -- both sides store the two fields and then the rest
            simp only [bind_eq_ok, ih hrest hknown]
            constructor
            · intro h
              obtain ⟨u, hg, v, hf, ht⟩ := h
              obtain ⟨w, hf', hg'⟩ := (hswaps r' r s v).1 ⟨u, hg, hf⟩
              exact ⟨w, hf', v, hg', ht⟩
            · intro h
              obtain ⟨w, hf, v, hg, ht⟩ := h
              obtain ⟨u, hg', hf'⟩ := (hswaps r' r s v).2 ⟨w, hf, hg⟩
              exact ⟨u, hg', v, hf', ht⟩

-- ============================================================= objects

/-- Members that a record can be read of, some of whose keys were seen
before. -/
structure Fits (keys seen : List String)
    (members : List (Option String × Reading)) : Prop where
  readable : ∀ m ∈ members, ∃ key, m.1 = some key
    ∧ (key ∉ keys → m.2.isWhole = true)
  once : ∀ key ∈ keys, (members.map (·.1)).count (some key) ≤ 1
  fresh : ∀ key ∈ keys, key ∈ seen → some key ∉ members.map (·.1)

variable {keys seen : List String} {key : String} {r : Reading}
  {members : List (Option String × Reading)}

/-- A member that is of no field must be sound, and has nothing to do with
the others. -/
theorem fits_cons_unknown (unknown : key ∉ keys) :
    Fits keys seen ((some key, r) :: members)
      ↔ r.isWhole = true ∧ Fits keys seen members := by
  have hne : ∀ key' ∈ keys, some key' ≠ some key := by
    intro key' hkey' h
    obtain rfl := Option.some.inj h
    exact unknown hkey'
  constructor
  · intro h
    obtain ⟨key', hkey', hwhole⟩ := h.readable _ List.mem_cons_self
    obtain rfl := Option.some.inj hkey'
    refine ⟨hwhole unknown, ?_, ?_, ?_⟩
    · exact fun m hm => h.readable m (List.mem_cons_of_mem _ hm)
    · intro key' hkey'
      have honce := h.once key' hkey'
      rwa [List.map_cons, List.count_cons_of_ne (hne key' hkey').symm]
        at honce
    · exact fun key' hkey' hseen hmem =>
        h.fresh key' hkey' hseen (List.mem_cons_of_mem _ hmem)
  · intro h
    obtain ⟨hwhole, hfits⟩ := h
    refine ⟨?_, ?_, ?_⟩
    · intro m hm
      rcases List.mem_cons.1 hm with rfl | hm
      · exact ⟨key, rfl, fun _ => hwhole⟩
      · exact hfits.readable m hm
    · intro key' hkey'
      rw [List.map_cons, List.count_cons_of_ne (hne key' hkey').symm]
      exact hfits.once key' hkey'
    · intro key' hkey' hseen hmem
      rcases List.mem_cons.1 hmem with heq | hmem
      · exact hne key' hkey' heq
      · exact hfits.fresh key' hkey' hseen hmem

/-- A member of a field must be the first with its key, and the only one. -/
theorem fits_cons_known (known : key ∈ keys) :
    Fits keys seen ((some key, r) :: members)
      ↔ key ∉ seen ∧ Fits keys (key :: seen) members := by
  constructor
  · intro h
    have honce := h.once key known
    rw [List.map_cons, List.count_cons_self] at honce
    refine ⟨fun hseen => h.fresh key known hseen List.mem_cons_self,
      ?_, ?_, ?_⟩
    · exact fun m hm => h.readable m (List.mem_cons_of_mem _ hm)
    · intro key' hkey'
      exact Nat.le_trans (List.count_le_count_cons ..) (h.once key' hkey')
    · intro key' hkey' hseen hmem
      rcases List.mem_cons.1 hseen with rfl | hseen
      · have hpos := List.count_pos_iff.2 hmem
        omega
      · exact h.fresh key' hkey' hseen (List.mem_cons_of_mem _ hmem)
  · intro h
    obtain ⟨hfresh, hfits⟩ := h
    refine ⟨?_, ?_, ?_⟩
    · intro m hm
      rcases List.mem_cons.1 hm with rfl | hm
      · exact ⟨key, rfl, fun unknown => absurd known unknown⟩
      · exact hfits.readable m hm
    · intro key' hkey'
      by_cases heq : some key = some key'
      · obtain rfl := Option.some.inj heq
        have hnone := List.count_eq_zero_of_not_mem
          (hfits.fresh key known List.mem_cons_self)
        rw [List.map_cons, List.count_cons_self]
        omega
      · rw [List.map_cons, List.count_cons_of_ne heq]
        exact hfits.once key' hkey'
    · intro key' hkey' hseen hmem
      rcases List.mem_cons.1 hmem with heq | hmem
      · obtain rfl := Option.some.inj heq
        exact hfresh hseen
      · exact hfits.fresh key' hkey' (List.mem_cons_of_mem _ hseen) hmem

/-- Members give what is needed and it stores to a state, from one in
which some keys were seen. -/
structure Reaches (fields : List (Field σ)) (seen : List String) (s : σ)
    (members : List (Option String × Reading)) (t : σ) : Prop where
  fits : Fits (fields.map (·.key)) seen members
  needs : ∀ f ∈ fields, f.hasDefault = true ∨ f.key ∈ seen
    ∨ (members.lookup (some f.key)).isSome = true
  stored : stores (fun key => members.lookup (some key)) fields s = .ok t

/-- Without members the fields keep what they have. -/
theorem reaches_nil : Reaches fields seen s [] t
    ↔ s = t ∧ ∀ f ∈ fields, f.hasDefault = true ∨ f.key ∈ seen := by
  have hnothing : stores (fun _ => none) fields s = .ok s := by
    induction fields with
    | nil => rfl
    | cons f fields ih => exact ih
  constructor
  · intro h
    have hstored : stores (fun _ => none) fields s = .ok t := h.stored
    rw [hnothing] at hstored
    exact ⟨Except.ok.inj hstored, by simpa using h.needs⟩
  · intro h
    obtain ⟨rfl, hneeds⟩ := h
    exact ⟨⟨nofun, by simp, by simp⟩, by simpa using hneeds, hnothing⟩

/-- A member that is of no field must be sound and stores nothing. -/
theorem reaches_cons_unknown (unknown : key ∉ fields.map (·.key)) :
    Reaches fields seen s ((some key, r) :: members) t
      ↔ r.isWhole = true ∧ Reaches fields seen s members t := by
  have hsame : ∀ f ∈ fields,
      ((some key, r) :: members).lookup (some f.key)
        = members.lookup (some f.key) := by
    intro f hf
    rw [lookup_cons_ite, if_neg]
    intro h
    exact unknown (Option.some.inj h ▸ List.mem_map_of_mem hf)
  have hstored : stores
      (fun key' => ((some key, r) :: members).lookup (some key')) fields s
        = stores (fun key' => members.lookup (some key')) fields s :=
    stores_congr hsame
  constructor
  · intro h
    obtain ⟨hwhole, hfits⟩ := (fits_cons_unknown unknown).1 h.fits
    exact ⟨hwhole, hfits, fun f hf => hsame f hf ▸ h.needs f hf,
      hstored ▸ h.stored⟩
  · intro h
    obtain ⟨hwhole, hfits, hneeds, hst⟩ := h
    exact ⟨(fits_cons_unknown unknown).2 ⟨hwhole, hfits⟩,
      fun f hf => (hsame f hf).symm ▸ hneeds f hf, hstored.trans hst⟩

/-- What a member gives a field is stored first, and then the rest. -/
theorem reaches_cons_known {f : Field σ} (independent : Independent fields)
    (known : f ∈ fields) :
    Reaches fields seen s ((some f.key, r) :: members) t
      ↔ f.key ∉ seen ∧ ∃ u, f.store r s = .ok u
        ∧ Reaches fields (f.key :: seen) u members t := by
  have hkey : f.key ∈ fields.map (·.key) := List.mem_map_of_mem known
  have hfirst (hfits : Fits (fields.map (·.key)) (f.key :: seen) members) :
      stores (fun key => ((some f.key, r) :: members).lookup (some key))
          fields s = .ok t
        ↔ ∃ u, f.store r s = .ok u
          ∧ stores (fun key => members.lookup (some key)) fields u
            = .ok t := by
    have hnone := hfits.fresh f.key hkey List.mem_cons_self
    refine stores_first independent known ?_ (lookup_eq_none hnone) ?_
    · rw [lookup_cons_ite, if_pos rfl]
    · intro key hne
      rw [lookup_cons_ite, if_neg (hne <| Option.some.inj ·)]
  have hneeds : (∀ g ∈ fields, g.hasDefault = true ∨ g.key ∈ seen
        ∨ (((some f.key, r) :: members).lookup (some g.key)).isSome = true)
      ↔ ∀ g ∈ fields, g.hasDefault = true ∨ g.key ∈ f.key :: seen
        ∨ (members.lookup (some g.key)).isSome = true := by
    refine forall₂_congr fun g _ => ?_
    rw [lookup_cons_ite, List.mem_cons]
    by_cases h : g.key = f.key <;> simp [h]
  constructor
  · intro h
    obtain ⟨hfresh, hfits⟩ := (fits_cons_known hkey).1 h.fits
    obtain ⟨u, hstore, hst⟩ := (hfirst hfits).1 h.stored
    exact ⟨hfresh, u, hstore, hfits, hneeds.1 h.needs, hst⟩
  · intro h
    obtain ⟨hfresh, u, hstore, hrest⟩ := h
    exact ⟨(fits_cons_known hkey).2 ⟨hfresh, hrest.fits⟩,
      hneeds.2 hrest.needs, (hfirst hrest.fits).2 ⟨u, hstore, hrest.stored⟩⟩

/-- A member under a key that the record does not have is passed over. -/
theorem member_unknown (unknown : key ∉ fields.map (·.key)) :
    member fields (seen, s) (some key, r)
      = if r.isWhole then .ok (seen, s) else .error .malformed := by
  have hnone : fields.find? (·.key = key) = none := by
    refine List.find?_eq_none.2 fun f hf hkey => unknown ?_
    rw [← of_decide_eq_true hkey]
    exact List.mem_map_of_mem hf
  unfold member ignored
  dsimp only
  rw [hnone]
  cases r.isWhole <;> rfl

/-- A member under the key of a field is stored, unless the key was seen
before. -/
theorem member_known {f : Field σ} (independent : Independent fields)
    (known : f ∈ fields) :
    member fields (seen, s) (some f.key, r)
      = if f.key ∈ seen then .error .mismatch
        else (f.key :: seen, ·) <$> f.store r s := by
  have hsome : fields.find? (·.key = f.key) = some f := by
    cases hfound : fields.find? (·.key = f.key) with
    | none => simpa using List.find?_eq_none.1 hfound f known
    | some g =>
        have hdistinct : (fields.map (·.key)).Nodup :=
          List.pairwise_map.2 (independent.imp And.left)
        have hkey : g.key = f.key := by
          simpa using List.find?_some hfound
        rw [List.inj_on_of_nodup_map hdistinct
          (List.mem_of_find?_eq_some hfound) known hkey]
  unfold member
  dsimp only
  rw [hsome]
  simp only [List.contains_iff_mem]
  split
  · rfl
  · cases f.store r s <;> rfl

/-- The members of an object are read to a state, with all keys that are
needed. -/
def Folds (fields : List (Field σ)) (seen : List String) (s : σ)
    (members : List (Option String × Reading)) (t : σ) : Prop :=
  ∃ seen', members.foldlM (member fields) (seen, s) = .ok (seen', t)
    ∧ ∀ f ∈ fields, f.hasDefault = true ∨ f.key ∈ seen'

/-- Where a member is read, the others are read from there. -/
theorem folds_cons {m : Option String × Reading} {seen' : List String}
    {u : σ} (read : member fields (seen, s) m = .ok (seen', u)) :
    Folds fields seen s (m :: members) t
      ↔ Folds fields seen' u members t := by
  unfold Folds
  rw [List.foldlM_cons, read]
  exact Iff.rfl

/-- A member with a fault ends the reading. -/
theorem not_folds_cons {m : Option String × Reading} {e : Fault}
    (faulty : member fields (seen, s) m = .error e) :
    ¬ Folds fields seen s (m :: members) t := by
  intro h
  obtain ⟨_, hfold, -⟩ := h
  rw [List.foldlM_cons, faulty] at hfold
  cases hfold

/-- A member of no field that is read leaves the state as it was. -/
theorem folds_cons_unknown (unknown : key ∉ fields.map (·.key)) :
    Folds fields seen s ((some key, r) :: members) t
      ↔ r.isWhole = true ∧ Folds fields seen s members t := by
  have hmember : member fields (seen, s) (some key, r) = _ :=
    member_unknown unknown
  cases hwhole : r.isWhole with
  | true =>
      rw [hwhole, if_pos rfl] at hmember
      exact (folds_cons hmember).trans (and_iff_right rfl).symm
  | false =>
      rw [hwhole, if_neg Bool.false_ne_true] at hmember
      exact iff_of_false (not_folds_cons hmember) fun h => nomatch h.1

/-- A member of a field is stored before the others are read. -/
theorem folds_cons_known {f : Field σ} (independent : Independent fields)
    (known : f ∈ fields) :
    Folds fields seen s ((some f.key, r) :: members) t
      ↔ f.key ∉ seen ∧ ∃ u, f.store r s = .ok u
        ∧ Folds fields (f.key :: seen) u members t := by
  have hmember : member fields (seen, s) (some f.key, r) = _ :=
    member_known independent known
  by_cases hseen : f.key ∈ seen
  · rw [if_pos hseen] at hmember
    exact iff_of_false (not_folds_cons hmember) fun h => h.1 hseen
  rw [if_neg hseen] at hmember
  rw [and_iff_right hseen]
  cases hstore : f.store r s with
  | error e =>
      rw [hstore] at hmember
      refine iff_of_false (not_folds_cons hmember) fun h => ?_
      obtain ⟨_, hu, -⟩ := h
      cases hu
  | ok u =>
      rw [hstore] at hmember
      refine (folds_cons hmember).trans ?_
      simp only [Except.ok.injEq, exists_eq_left']

/-- The members of an object are read to a state exactly if they reach
it. -/
theorem folds_iff (independent : Independent fields) :
    Folds fields seen s members t ↔ Reaches fields seen s members t := by
  -- on the members, in their own order, for any keys that were seen and any
  -- state so far
  induction members generalizing seen s with
  | nil =>
      rw [reaches_nil]
      constructor
      · intro h
        obtain ⟨seen', hseen, hneeds⟩ := h
        cases hseen
        exact ⟨rfl, hneeds⟩
      · intro h
        obtain ⟨rfl, hneeds⟩ := h
        exact ⟨seen, rfl, hneeds⟩
  | cons m members ih =>
      obtain ⟨key?, r⟩ := m
      cases key? with
      | none =>
          -- a key that cannot be read is a fault on both sides
          refine iff_of_false (not_folds_cons rfl) fun h => ?_
          obtain ⟨_, hkey, -⟩ := h.fits.readable _ List.mem_cons_self
          cases hkey
      | some key =>
          by_cases hknown : key ∈ fields.map (·.key)
          · obtain ⟨f, hf, rfl⟩ := List.mem_map.1 hknown
            rw [folds_cons_known independent hf,
              reaches_cons_known independent hf]
            simp only [ih]
          · rw [folds_cons_unknown hknown, reaches_cons_unknown hknown, ih]

-- ============================================================= records

/-- The first place of an array is that of the first field. -/
theorem placed_cons_self {items : List Reading} :
    placed (key :: keys) (r :: items) key = some r := by
  unfold placed
  rw [List.idxOf_cons_self]
  rfl

/-- Behind the first field an array goes on with the others. -/
theorem placed_cons_ne {key' : String} {items : List Reading}
    (other : key ≠ key') :
    placed (key :: keys) (r :: items) key' = placed keys items key' := by
  unfold placed
  rw [List.idxOf_cons_ne _ other]
  rfl

/-- The places of an array are read to a state exactly if they are not
more than the fields, give what is needed, and store to the state. -/
theorem positional_eq_ok_iff {items : List Reading}
    (independent : Independent fields) :
    positional fields items s = .ok t
      ↔ items.length ≤ fields.length
        ∧ ComesTo (placed (fields.map (·.key)) items) fields s t := by
  -- on the fields, each of which takes one place
  induction fields generalizing items s with
  | nil =>
      cases items with
      | nil => exact ⟨fun h => ⟨Nat.le_refl 0, nofun, h⟩, fun h => h.2.2⟩
      | cons r items => exact ⟨nofun, fun h => nomatch h.1⟩
  | cons f fields ih =>
      obtain ⟨hothers, hrest⟩ := List.pairwise_cons.1 independent
      cases items with
      | nil =>
          -- nothing is given any more, so all that is left has a default
          rw [comesTo_cons_missing rfl]
          unfold positional
          split
          case isTrue hdefault =>
            exact (ih hrest).trans (and_congr (by simp)
              ((and_iff_right hdefault).symm))
          case isFalse hdefault => simp [hdefault]
      | cons r items =>
          have hlater (u : σ) : ComesTo
              (placed ((f :: fields).map (·.key)) (r :: items)) fields u t
              ↔ ComesTo (placed (fields.map (·.key)) items) fields u t :=
            comesTo_congr fun g hg => placed_cons_ne (hothers g hg).1
          have hfirst : placed ((f :: fields).map (·.key)) (r :: items) f.key
              = some r := placed_cons_self
          rw [comesTo_cons_given hfirst]
          unfold positional
          rw [bind_eq_ok, List.length_cons, List.length_cons,
            Nat.add_le_add_iff_right]
          simp only [hlater, ih hrest]
          constructor
          · intro h
            obtain ⟨u, hu, hfew, hcomes⟩ := h
            exact ⟨hfew, u, hu, hcomes⟩
          · intro h
            obtain ⟨hfew, u, hu, hcomes⟩ := h
            exact ⟨u, hu, hfew, hcomes⟩

/-- A record is what its fields come to, whatever it is written as. -/
theorem record_eq_ok_iff {r : Reading} (independent : Independent fields) :
    record fields start r = .ok s
      ↔ ∃ value, r.Gives (fields.map (·.key)) value
        ∧ ComesTo value fields start s := by
  -- an object or an array; nothing else gives a record anything
  cases r with
  | object members =>
      have hrecord : record fields start (.object members) = .ok s
          ↔ Folds fields [] start members s := by
        refine bind_eq_ok.trans ?_
        constructor
        · intro h
          obtain ⟨⟨seen, s'⟩, hfold, h⟩ := h
          dsimp only at h
          split at h
          case isTrue hall =>
            cases h
            refine ⟨seen, hfold, ?_⟩
            simpa [List.all_eq_true] using hall
          case isFalse => cases h
        · intro h
          obtain ⟨seen, hfold, hall⟩ := h
          refine ⟨_, hfold, if_pos ?_⟩
          simpa [List.all_eq_true] using hall
      rw [hrecord, folds_iff independent]
      constructor
      · intro h
        refine ⟨_, .object h.fits.readable h.fits.once, ?_, h.stored⟩
        simpa [Suffices] using h.needs
      · intro h
        obtain ⟨value, hgives, hsuffices, hst⟩ := h
        cases hgives with
        | object readable once =>
            refine ⟨⟨readable, once, nofun⟩, ?_, hst⟩
            simpa [Suffices] using hsuffices
  | array items =>
      refine (positional_eq_ok_iff independent).trans ?_
      constructor
      · intro h
        obtain ⟨hfew, h⟩ := h
        exact ⟨_, .array (by simpa using hfew), h⟩
      · intro h
        obtain ⟨value, hgives, h⟩ := h
        cases hgives with
        | array hfew => exact ⟨by simpa using hfew, h⟩
  | null | bool | number | string | broken =>
      refine ⟨nofun, fun h => ?_⟩
      obtain ⟨value, hgives, -⟩ := h
      cases hgives

/-- A text is a record if it is read as what gives the record its
fields. -/
theorem whole_record_eq_ok_iff {text : String}
    (independent : Independent fields) :
    whole (record fields start) text.toList = .ok s
      ↔ ∃ r value, ReadsAs text r ∧ r.Gives (fields.map (·.key)) value
        ∧ ComesTo value fields start s := by
  rw [whole_eq_ok_iff]
  refine exists_congr fun r => ?_
  rw [record_eq_ok_iff independent, exists_and_left]

end Decode
end FluxComposer.Json
