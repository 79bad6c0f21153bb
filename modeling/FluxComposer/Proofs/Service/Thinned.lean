import FluxComposer.Proofs.Service.Frame
import Mathlib.Data.Nat.Count
/-
Runs of which one lacks some of the requests of the other (`Thinned`). The
requests that stay come in the same order and take their steps in the same
order, but they are numbered anew: a request has as its number how many
come before it that stay, which is `Nat.count`.

Every point of the first run is one of the second (`exists_early`), the
requests that stay are the same there (`arrivals_eq`), and taking requests
out of a run thins it (`thinned_without`).
-/
namespace FluxComposer

-- ======================================================== thinned runs

section Thinned

variable {kept mine : Nat → Prop} [DecidablePred kept] {α : Type*}
  {l l' : List α} {i : Nat}

/-- Counting those that are kept gives the positions in a list without the
others: one more element that is kept. -/
theorem getElem?_concat_count (a : α)
    (length : l'.length = Nat.count kept l.length)
    (stays : kept l.length) (hi : kept i)
    (early : l[i]? = l'[Nat.count kept i]?) :
    (l ++ [a])[i]? = (l' ++ [a])[Nat.count kept i]? := by
  rcases Nat.lt_trichotomy i l.length with hlt | rfl | hgt
  · have hlt' : Nat.count kept i < l'.length :=
      length ▸ Nat.count_strict_mono hi hlt
    rw [List.getElem?_append_left hlt, List.getElem?_append_left hlt',
      early]
  · rw [← length, List.getElem?_concat_length, List.getElem?_concat_length]
  · have hgt' : l'.length < Nat.count kept i :=
      length ▸ Nat.count_strict_mono stays hgt
    rw [List.getElem?_eq_none, List.getElem?_eq_none]
    · rw [List.length_append, List.length_singleton]
      omega
    · rw [List.length_append, List.length_singleton]
      omega

/-- One more element is at no other position. -/
theorem getElem?_concat_ne (a : α) (h : i ≠ l.length) :
    (l ++ [a])[i]? = l[i]? := by
  rcases Nat.lt_or_gt_of_ne h with hlt | hgt
  · rw [List.getElem?_append_left hlt]
  · rw [List.getElem?_eq_none, List.getElem?_eq_none]
    · omega
    · rw [List.length_append, List.length_singleton]
      omega

/-- Two runs, of which the second has only the requests that are kept, in
the same order, under the numbers that are left to them. What a step finds
outside the service can be another in the second run, except where the
request is `mine`. -/
inductive Thinned (kept mine : Nat → Prop) [DecidablePred kept] :
    List Move → List Move → Prop where
  | start : Thinned kept mine [] []
  | arrive {moves moves' : List Move} (early : Thinned kept mine moves moves')
      (id : String) (r : Request) (stays : kept (arrivals moves).length) :
      Thinned kept mine (moves ++ [.arrive id r]) (moves' ++ [.arrive id r])
  | leave {moves moves' : List Move} (early : Thinned kept mine moves moves')
      (id : String) (r : Request) (gone : ¬ kept (arrivals moves).length) :
      Thinned kept mine (moves ++ [.arrive id r]) moves'
  | step {moves moves' : List Move} {i : Nat}
      (early : Thinned kept mine moves moves') (stays : kept i)
      (world world' : World) (same : mine i → world' = world) :
      Thinned kept mine (moves ++ [.step i world])
        (moves' ++ [.step (Nat.count kept i) world'])
  | skip {moves moves' : List Move} {i : Nat}
      (early : Thinned kept mine moves moves') (world : World)
      (gone : ¬ kept i) :
      Thinned kept mine (moves ++ [.step i world]) moves'

variable {moves moves' : List Move}

theorem arrivals_arrive (moves : List Move) (id : String) (r : Request) :
    arrivals (moves ++ [.arrive id r]) = arrivals moves ++ [r] := by
  simp [arrivals, Move.arrived?]

theorem length_arrivals_arrive (moves : List Move) (id : String)
    (r : Request) : (arrivals (moves ++ [.arrive id r])).length
      = (arrivals moves).length + 1 := by
  rw [arrivals_arrive, List.length_append, List.length_singleton]

theorem arrivals_step (moves : List Move) (i : Nat) (world : World) :
    arrivals (moves ++ [.step i world]) = arrivals moves := by
  simp [arrivals, Move.arrived?]

/-- As many requests have come in the second run as were kept of the
first. -/
theorem Thinned.length (h : Thinned kept mine moves moves') :
    (arrivals moves').length = Nat.count kept (arrivals moves).length := by
  induction h with
  | start => rfl
  | arrive _ id r stays ih =>
      rw [length_arrivals_arrive, length_arrivals_arrive, Nat.count_succ,
        if_pos stays, ih]
  | leave _ id r gone ih =>
      rw [length_arrivals_arrive, Nat.count_succ, if_neg gone, ih]
      rfl
  | step _ _ _ _ _ ih =>
      rw [arrivals_step, arrivals_step]
      exact ih
  | skip _ _ _ ih =>
      rw [arrivals_step]
      exact ih

/-- The requests that are kept are the same under their new numbers. -/
theorem Thinned.arrivals_eq (h : Thinned kept mine moves moves')
    (hi : kept i) :
    (arrivals moves)[i]? = (arrivals moves')[Nat.count kept i]? := by
  induction h with
  | start => rfl
  | arrive early id r stays ih =>
      rw [arrivals_arrive, arrivals_arrive]
      exact getElem?_concat_count r early.length stays hi ih
  | leave _ id r gone ih =>
      rw [arrivals_arrive, getElem?_concat_ne r (fun h => gone (h ▸ hi))]
      exact ih
  | step _ _ _ _ _ ih =>
      rw [arrivals_step, arrivals_step]
      exact ih
  | skip _ _ _ ih =>
      rw [arrivals_step]
      exact ih

/-- A request that is kept is of the session in both runs or in neither. -/
theorem Thinned.isOwn_iff {token : String}
    (h : Thinned kept mine moves moves') (hi : kept i) :
    IsOwn token moves' (Nat.count kept i) ↔ IsOwn token moves i := by
  unfold IsOwn
  rw [h.arrivals_eq hi]

/-- Every point of the first run is one of the second. -/
theorem Thinned.exists_early {early : List Move}
    (h : Thinned kept mine moves moves') (earlier : early <+: moves) :
    ∃ early', early' <+: moves' ∧ Thinned kept mine early early' := by
  -- on how the runs were built up; a point before the last move is one of
  -- the earlier runs
  induction h with
  | start =>
      rw [List.prefix_nil.1 earlier]
      exact ⟨[], List.prefix_refl _, .start⟩
  | arrive before id r stays ih =>
      rcases List.prefix_concat_iff.1 earlier with rfl | hearlier
      · exact ⟨_, List.prefix_refl _, .arrive before id r stays⟩
      · obtain ⟨early', hearly', hthinned⟩ := ih hearlier
        exact ⟨early', hearly'.trans (List.prefix_append _ _), hthinned⟩
  | leave before id r gone ih =>
      rcases List.prefix_concat_iff.1 earlier with rfl | hearlier
      · exact ⟨_, List.prefix_refl _, .leave before id r gone⟩
      · exact ih hearlier
  | step before stays world world' same ih =>
      rcases List.prefix_concat_iff.1 earlier with rfl | hearlier
      · exact ⟨_, List.prefix_refl _, .step before stays world world' same⟩
      · obtain ⟨early', hearly', hthinned⟩ := ih hearlier
        exact ⟨early', hearly'.trans (List.prefix_append _ _), hthinned⟩
  | skip before world gone ih =>
      rcases List.prefix_concat_iff.1 earlier with rfl | hearlier
      · exact ⟨_, List.prefix_refl _, .skip before world gone⟩
      · exact ih hearlier

/-- The moves of the requests that are kept, where so many have come
before. -/
def without (kept : Nat → Prop) [DecidablePred kept] :
    Nat → List Move → List Move
  | _, [] => []
  | n, .arrive id r :: moves =>
    if kept n then .arrive id r :: without kept (n + 1) moves
    else without kept (n + 1) moves
  | n, .step i world :: moves =>
    if kept i then
      .step (Nat.count kept i) world :: without kept n moves
    else without kept n moves

/-- Taking requests out of a run, and nothing else, thins it. -/
theorem thinned_without (h : Thinned kept mine moves moves')
    (late : List Move) : Thinned kept mine (moves ++ late)
      (moves' ++ without kept (arrivals moves).length late) := by
  -- `Thinned` grows at the end, so each move goes over to what was done
  induction late generalizing moves moves' with
  | nil => simpa [without] using h
  | cons m late ih =>
      rw [List.append_cons moves]
      cases m with
      | arrive id r =>
          unfold without
          split
          case isTrue stays =>
            have hlater := ih (.arrive h id r stays)
            rwa [length_arrivals_arrive,
              List.append_assoc _ _ (without ..)] at hlater
          case isFalse gone =>
            have hlater := ih (.leave h id r gone)
            rwa [length_arrivals_arrive] at hlater
      | step i world =>
          unfold without
          split
          case isTrue stays =>
            have hlater := ih (.step h stays world world fun _ => rfl)
            rwa [arrivals_step, List.append_assoc _ _ (without ..)] at hlater
          case isFalse gone =>
            have hlater := ih (.skip h world gone)
            rwa [arrivals_step] at hlater

end Thinned

end FluxComposer
