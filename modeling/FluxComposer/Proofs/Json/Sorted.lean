import FluxComposer.Proofs.Json.Record
import Mathlib.Data.String.Basic
/-
Values whose repeated keys are merged. Sorting puts the members of every
object in the order of their keys, each key once, with the last of the
values that it was given (`get?_sorted`). So a record that is read of a
sorted value is what its fields come to with what the value gives them
(`record_sorted_eq_ok_iff`), where a repeated key is no fault.
-/
namespace FluxComposer.Json

/-- What a value gives for the keys of a record. Of several members with
one key the last counts. -/
inductive Gives (keys : List String) :
    Json → (String → Option Json) → Prop where
  | object (members : List (String × Json)) :
      Gives keys (.object members) fun key => (object members).get? key
  | array {items : List Json} (few : items.length ≤ keys.length) :
      Gives keys (.array items) (placed keys items)

-- ======================================================= sorted values

section Sorted

variable {key : String} {v : Json} {ms done : List (String × Json)}

/-- A member counts where no later one has its key. -/
theorem get?_cons {k : String} :
    (object ((k, v) :: ms)).get? key
      = ((object ms).get? key).or (if k = key then some v else none) := by
  unfold get?
  dsimp only
  rw [List.reverse_cons, List.find?_append, List.find?_singleton]
  cases ms.reverse.find? (·.1 = key) with
  | some m => rfl
  | none => by_cases h : k = key <;> simp [h]

/-- Where no key stands twice, the last member with a key is the first. -/
theorem get?_eq_lookup (distinct : (ms.map (·.1)).Nodup) :
    (object ms).get? key = ms.lookup key := by
  induction ms with
  | nil => rfl
  | cons m ms ih =>
      obtain ⟨k, v⟩ := m
      obtain ⟨hnew, hrest⟩ := List.nodup_cons.1 distinct
      rw [get?_cons, ih hrest, lookup_cons_ite]
      -- a member with the key is the only one, so nothing behind it counts
      by_cases h : k = key
      · subst h
        rw [lookup_eq_none hnew, if_pos rfl, Option.none_or]
      · rw [if_neg h, if_neg (Ne.symm h), Option.or_none]

/-- A member that is put in takes the place of one with its key. -/
theorem lookup_insertMember {k : String} :
    (insertMember k v ms).lookup key
      = if key = k then some v else ms.lookup key := by
  induction ms with
  | nil => exact lookup_cons_ite
  | cons m ms ih =>
      obtain ⟨k', v'⟩ := m
      unfold insertMember
      -- before the first entry, in its place, or further behind
      split
      case isTrue => exact lookup_cons_ite
      split
      case isTrue heq =>
        subst heq
        rw [lookup_cons_ite, lookup_cons_ite]
        split <;> rfl
      case isFalse hne =>
        rw [lookup_cons_ite, ih, lookup_cons_ite]
        by_cases h : key = k'
        · rw [if_pos h, if_neg (h ▸ Ne.symm hne), if_pos h]
        · rw [if_neg h, if_neg h]

/-- One key is put in and none is lost. -/
theorem mem_keys_insertMember {k : String} :
    key ∈ (insertMember k v ms).map (·.1) ↔ key = k ∨ key ∈ ms.map (·.1) := by
  induction ms with
  | nil => simp [insertMember]
  | cons m ms ih =>
      obtain ⟨k', v'⟩ := m
      unfold insertMember
      split
      case isTrue => simp
      split
      case isTrue heq => simp [heq]
      case isFalse =>
        rw [List.map_cons, List.mem_cons, ih, List.map_cons, List.mem_cons]
        tauto

/-- Members in the order of their keys. -/
def InOrder (ms : List (String × Json)) : Prop :=
  (ms.map (·.1)).Pairwise (· < ·)

/-- A member is put in where its key belongs. -/
theorem InOrder.insertMember {k : String} (h : InOrder ms) :
    InOrder (insertMember k v ms) := by
  induction ms with
  | nil => exact List.pairwise_singleton _ _
  | cons m ms ih =>
      obtain ⟨k', v'⟩ := m
      obtain ⟨hfirst, hrest⟩ := List.pairwise_cons.1 h
      unfold Json.insertMember
      split
      case isTrue hlt =>
        refine List.pairwise_cons.2 ⟨fun key hkey => ?_, h⟩
        rcases List.mem_cons.1 hkey with rfl | hkey
        · exact hlt
        · exact hlt.trans (hfirst key hkey)
      split
      case isTrue heq => exact heq ▸ h
      case isFalse hge hne =>
        refine List.pairwise_cons.2 ⟨fun key hkey => ?_, ih hrest⟩
        rcases mem_keys_insertMember.1 hkey with rfl | hkey
        · exact lt_of_le_of_ne (not_lt.1 hge) (Ne.symm hne)
        · exact hfirst key hkey

/-- Members that are put in one after another stand in order. -/
theorem InOrder.sortedMembers (h : InOrder done) :
    InOrder (sortedMembers ms done) := by
  induction ms generalizing done with
  | nil => exact h
  | cons m ms ih => exact ih h.insertMember

/-- Under each key stands the last of its values, sorted, or what was there
before. -/
theorem lookup_sortedMembers :
    (sortedMembers ms done).lookup key
      = (((object ms).get? key).map sorted).or (done.lookup key) := by
  -- on the members, for any that were put in before
  induction ms generalizing done with
  | nil => rfl
  | cons m ms ih =>
      obtain ⟨k, v⟩ := m
      unfold sortedMembers
      rw [ih, lookup_insertMember, get?_cons]
      cases (object ms).get? key with
      | some v' => rfl
      | none => by_cases h : key = k <;> simp [h, Ne.symm]

/-- Sorting a value sorts what stands under its keys. -/
theorem get?_sorted (j : Json) :
    j.sorted.get? key = (j.get? key).map sorted := by
  cases j with
  | object ms =>
      have horder : InOrder (sortedMembers ms []) :=
        InOrder.sortedMembers List.Pairwise.nil
      show (object (sortedMembers ms [])).get? key = _
      rw [get?_eq_lookup (horder.imp fun h => h.ne), lookup_sortedMembers,
        List.lookup_nil, Option.or_none]
  | null | bool | number | string => rfl
  | array items => rfl

end Sorted

namespace Reading

mutual

/-- What a value is read as is sound. -/
theorem isWhole_ofJson : (j : Json) → (ofJson j).isWhole = true
  | .null | .bool _ | .number _ | .string _ => rfl
  | .array xs => areWhole_ofItems xs
  | .object ms => membersAreWhole_ofMembers ms

theorem areWhole_ofItems : (xs : List Json) → areWhole (ofItems xs) = true
  | [] => rfl
  | x :: xs =>
    Bool.and_eq_true_iff.2 ⟨isWhole_ofJson x, areWhole_ofItems xs⟩

theorem membersAreWhole_ofMembers :
    (ms : List (String × Json)) → membersAreWhole (ofMembers ms) = true
  | [] => rfl
  | (_, x) :: ms =>
    Bool.and_eq_true_iff.2 ⟨isWhole_ofJson x, membersAreWhole_ofMembers ms⟩

end

/-- Members are read one by one. -/
theorem ofMembers_eq_map (ms : List (String × Json)) :
    ofMembers ms = ms.map fun m => (some m.1, ofJson m.2) := by
  induction ms with
  | nil => rfl
  | cons m ms ih => exact congrArg _ ih

theorem ofItems_eq_map (xs : List Json) : ofItems xs = xs.map ofJson := by
  induction xs with
  | nil => rfl
  | cons x xs ih => exact congrArg _ ih

/-- What stands under a key is read under it. -/
theorem lookup_ofMembers {key : String} {ms : List (String × Json)} :
    (ofMembers ms).lookup (some key) = (ms.lookup key).map ofJson := by
  induction ms with
  | nil => rfl
  | cons m ms ih =>
      obtain ⟨k, x⟩ := m
      unfold ofMembers
      rw [lookup_cons_ite, lookup_cons_ite, ih]
      by_cases h : key = k <;> simp [h]

end Reading

theorem sortedItems_eq_map (xs : List Json) :
    sortedItems xs = xs.map sorted := by
  induction xs with
  | nil => rfl
  | cons x xs ih => exact congrArg _ ih

/-- What values are read as. -/
def readings (value : String → Option Json) (key : String) :
    Option Reading :=
  (value key).map Reading.ofJson

/-- What values are read as once they are sorted. -/
def sortedReadings (value : String → Option Json) : String → Option Reading :=
  readings fun key => (value key).map sorted

section Leaves

variable {value : String → Option Json} {key : String}

/-- Sorting leaves strings alone. -/
theorem sortedReadings_eq_string {text : Option String} :
    sortedReadings value key = some (.string text)
      ↔ readings value key = some (.string text) := by
  unfold sortedReadings readings
  dsimp only
  cases value key with
  | none => exact Iff.rfl
  | some j => cases j <;> simp [sorted, Reading.ofJson]

/-- Sorting leaves numbers alone. -/
theorem sortedReadings_eq_number {n : Option Number} :
    sortedReadings value key = some (.number n)
      ↔ readings value key = some (.number n) := by
  unfold sortedReadings readings
  dsimp only
  cases value key with
  | none => exact Iff.rfl
  | some j => cases j <;> simp [sorted, Reading.ofJson]

/-- Sorting gives no key a value and takes none away. -/
theorem sortedReadings_eq_none :
    sortedReadings value key = none ↔ readings value key = none := by
  unfold sortedReadings readings
  simp only [Option.map_eq_none_iff]

end Leaves

section Giving

variable {keys : List String} {ms : List (String × Json)}

/-- What stands under a key of sorted members is what the object gives for
it. -/
theorem lookup_ofMembers_sortedMembers :
    (fun key => (Reading.ofMembers (sortedMembers ms [])).lookup (some key))
      = sortedReadings fun key => (object ms).get? key := by
  funext key
  rw [Reading.lookup_ofMembers, lookup_sortedMembers, List.lookup_nil,
    Option.or_none]
  rfl

/-- No key stands twice among sorted members. -/
theorem nodup_keys_sortedMembers :
    ((Reading.ofMembers (sortedMembers ms [])).map (·.1)).Nodup := by
  have hkeys : (Reading.ofMembers (sortedMembers ms [])).map (·.1)
      = ((sortedMembers ms []).map (·.1)).map some := by
    rw [Reading.ofMembers_eq_map, List.map_map, List.map_map]
    rfl
  have horder : InOrder (sortedMembers ms []) :=
    InOrder.sortedMembers List.Pairwise.nil
  rw [hkeys]
  exact List.Nodup.map (fun _ _ => Option.some.inj)
    (horder.imp fun h => h.ne)

/-- A record can be read of sorted members: all keys can be read, all
values are sound, and no key stands twice. -/
theorem gives_sortedMembers :
    (Reading.object (Reading.ofMembers (sortedMembers ms []))).Gives keys
      (sortedReadings fun key => (object ms).get? key) := by
  rw [← lookup_ofMembers_sortedMembers]
  refine .object (fun m hm => ?_) fun key _ => ?_
  · rw [Reading.ofMembers_eq_map] at hm
    obtain ⟨m', -, rfl⟩ := List.mem_map.1 hm
    exact ⟨_, rfl, fun _ => Reading.isWhole_ofJson _⟩
  · exact List.nodup_iff_count_le_one.1 nodup_keys_sortedMembers _

/-- Sorted items stand in the places of the items. -/
theorem placed_sortedItems {xs : List Json} :
    placed keys (Reading.ofItems (sortedItems xs))
      = sortedReadings (placed keys xs) := by
  funext key
  unfold placed sortedReadings readings
  dsimp only
  rw [Reading.ofItems_eq_map, sortedItems_eq_map, List.getElem?_map,
    List.getElem?_map]

end Giving

/-- A sorted value is read as giving what the value gives. -/
theorem gives_ofJson_sorted_iff {keys : List String} {j : Json}
    {given : String → Option Reading} :
    (Reading.ofJson j.sorted).Gives keys given
      ↔ ∃ value, j.Gives keys value ∧ given = sortedReadings value := by
  cases j with
  | object ms =>
      show (Reading.object (Reading.ofMembers (sortedMembers ms []))).Gives
        keys given ↔ _
      constructor
      · intro h
        cases h
        exact ⟨_, .object ms, lookup_ofMembers_sortedMembers⟩
      · intro h
        obtain ⟨_, hgives, rfl⟩ := h
        cases hgives
        exact gives_sortedMembers
  | array xs =>
      have hlength : (Reading.ofItems (sortedItems xs)).length
          = xs.length := by
        rw [Reading.ofItems_eq_map, sortedItems_eq_map, List.length_map,
          List.length_map]
      show (Reading.array (Reading.ofItems (sortedItems xs))).Gives keys given
        ↔ _
      constructor
      · intro h
        cases h with
        | array few => exact ⟨_, .array (hlength ▸ few), placed_sortedItems⟩
      · intro h
        obtain ⟨_, hgives, rfl⟩ := h
        cases hgives with
        | array few =>
            rw [← placed_sortedItems]
            exact .array (hlength.symm ▸ few)
  | null | bool | number | string =>
      constructor
      · intro h
        cases h
      · intro h
        obtain ⟨_, hgives, -⟩ := h
        cases hgives

namespace Decode

/-- A record whose value was sorted is what its fields come to with what
the value gives them. -/
theorem record_sorted_eq_ok_iff {σ : Type} {fields : List (Field σ)}
    {start s : σ} {j : Json} (independent : Independent fields) :
    record fields start (.ofJson j.sorted) = .ok s
      ↔ ∃ value, j.Gives (fields.map (·.key)) value
        ∧ ComesTo (sortedReadings value) fields start s := by
  rw [record_eq_ok_iff independent]
  simp only [gives_ofJson_sorted_iff]
  constructor
  · intro h
    obtain ⟨_, ⟨value, hgives, rfl⟩, h⟩ := h
    exact ⟨value, hgives, h⟩
  · intro h
    obtain ⟨value, hgives, h⟩ := h
    exact ⟨_, ⟨value, hgives, rfl⟩, h⟩

end Decode
end FluxComposer.Json
