import Mathlib.Data.List.Induction
import Mathlib.Data.List.Infix
import Colony.Proofs.Chronicle.Leaderboard

/-!
# Ranking everybody

Several standings are put on a board one after the other, and the board is cut
to size before the next.  It stays in order and holds as many of them as it
can.  A standing is missing at the end just if, at some moment after it was put
there, as many as the board holds were ahead of it.  To one of the highest that
happens only where an older standing of somebody else, not yet replaced, is
ahead of it.
-/

namespace Colony.Leaderboard

variable {α : Type} [Scalar α]

def rankAll (k : Nat) (standings board : Leaderboard α) : Leaderboard α :=
  standings.foldl (fun board e => board.add k e) board

/-- At some moment after a standing was put on the board, `k` others were ahead of it. -/
def CrowdedOut (k : Nat) (board standings : Leaderboard α) (e : Standing α) : Prop :=
  ∃ done next, done ++ [next] <+: standings ∧ e ∈ done ++ [next] ∧
    k ≤ ((rankAll k done board).place next).countP (ahead · e)

section Rank

variable {k : Nat} {board standings : Leaderboard α}

theorem rankAll_concat (done : Leaderboard α) (next : Standing α) :
    rankAll k (done ++ [next]) board = (rankAll k done board).add k next := by
  rw [rankAll, List.foldl_append]
  rfl

theorem crowdedOut_concat {done : Leaderboard α} {next e : Standing α} :
    CrowdedOut k board (done ++ [next]) e ↔
      CrowdedOut k board done e ∨
        (e ∈ done ++ [next] ∧ k ≤ ((rankAll k done board).place next).countP (ahead · e)) := by
  constructor
  · rintro ⟨before, last, part, member, crowd⟩
    rcases List.prefix_concat_iff.mp part with whole | earlier
    · obtain ⟨rfl, same⟩ := List.append_inj' whole rfl
      obtain rfl := List.singleton_inj.mp same
      exact .inr ⟨member, crowd⟩
    · exact .inl ⟨before, last, earlier, member, crowd⟩
  · rintro (⟨before, last, part, member, crowd⟩ | ⟨member, crowd⟩)
    · exact ⟨before, last, part.trans (List.prefix_append done [next]), member, crowd⟩
    · exact ⟨done, next, List.prefix_refl _, member, crowd⟩

theorem CrowdedOut.mem {e : Standing α} (h : CrowdedOut k board standings e) : e ∈ standings := by
  obtain ⟨done, next, part, member, -⟩ := h
  exact part.subset member

theorem Kept.rankAll (positive : 0 < k) (kept : Kept k board)
    (defined : ∀ e ∈ standings, Scalar.Defined e.score) :
    Kept k (rankAll k standings board) := by
  induction standings generalizing board with
  | nil => exact kept
  | cons e standings ih =>
      have added := kept.add positive (defined e List.mem_cons_self)
      exact ih added fun f member => defined f (List.mem_cons_of_mem e member)

/-- What stands there has just been put there, or stood there and has not been replaced. -/
theorem mem_of_mem_rankAll (positive : 0 < k) {e : Standing α}
    (member : e ∈ rankAll k standings board) :
    e ∈ standings ∨ (e ∈ board ∧ ∀ f ∈ standings, e.key ≠ f.key) := by
  induction standings using List.reverseRecOn with
  | nil => exact .inr ⟨member, fun f none => absurd none List.not_mem_nil⟩
  | append_singleton done next ih =>
      rw [rankAll_concat, add_eq_take positive] at member
      rcases mem_place.mp (List.mem_of_mem_take member) with rfl | ⟨old, other⟩
      · exact .inl (List.mem_append_right done List.mem_cons_self)
      · rcases ih old with put | ⟨stood, others⟩
        · exact .inl (List.mem_append_left _ put)
        · refine .inr ⟨stood, fun f member => ?_⟩
          rcases List.mem_append.mp member with earlier | last
          · exact others f earlier
          · rw [List.mem_singleton.mp last]
            exact other

variable (positive : 0 < k) (kept : Kept k board) (proper : Proper standings)
include positive kept proper

theorem mem_rankAll_iff {e : Standing α} (member : e ∈ standings) :
    e ∈ rankAll k standings board ↔ ¬ CrowdedOut k board standings e := by
  induction standings using List.reverseRecOn with
  | nil => exact absurd member List.not_mem_nil
  | append_singleton done next ih =>
      have earlier : Proper done := proper.of_sublist (List.sublist_append_left done [next])
      have last : next ∈ done ++ [next] := List.mem_append_right done List.mem_cons_self
      have proper' := (kept.rankAll positive earlier.defined).toProper
      rw [rankAll_concat, proper'.mem_add positive (proper.defined next last), mem_place,
        crowdedOut_concat, not_or, not_and, not_le]
      by_cases put : e ∈ done
      · have other : e.key ≠ next.key := by
          intro same
          have apart := (List.nodup_append.mp (List.map_append ▸ proper.keys)).2.2
          exact apart e.key (List.mem_map_of_mem put) next.key List.mem_cons_self same
        have ne : e ≠ next := fun same => other (congrArg Standing.key same)
        simp [ih earlier put, other, ne, put]
      · obtain rfl : e = next := by simpa [put] using member
        have notYet : ¬ CrowdedOut k board done e := fun crowded => put crowded.mem
        simp [notYet]

theorem full_or_all_present : (rankAll k standings board).length = k ∨
    ∀ e ∈ standings, e ∈ rankAll k standings board := by
  induction standings using List.reverseRecOn with
  | nil => exact .inr fun e none => absurd none List.not_mem_nil
  | append_singleton done next ih =>
      have earlier : Proper done := proper.of_sublist (List.sublist_append_left done [next])
      have grown := (kept.rankAll positive earlier.defined).toProper.length_le_place next
      rw [rankAll_concat, add_eq_take positive, List.length_take]
      by_cases full : k ≤ ((rankAll k done board).place next).length
      · exact .inl (min_eq_left full)
      · rw [List.take_of_length_le (le_of_not_ge full)]
        refine .inr fun e member => mem_place.mpr ?_
        have present := (ih earlier).resolve_left fun was => full (was.ge.trans grown)
        rcases List.mem_append.mp member with put | last
        · by_cases same : e = next
          · exact .inl same
          · refine .inr ⟨present e put, fun key => same ?_⟩
            exact proper.eq_of_key member (List.mem_append_right done List.mem_cons_self) key
        · exact .inl (List.mem_singleton.mp last)

/-- Where only keys of the new standings stood, the board holds nothing else in the end. -/
theorem length_rankAll (known : ∀ e ∈ board, ∃ f ∈ standings, e.key = f.key) :
    rankAll k standings board ⊆ standings ∧
      (rankAll k standings board).length = min k standings.length := by
  have ranked := kept.rankAll positive proper.defined
  have subset : rankAll k standings board ⊆ standings := by
    intro e member
    rcases mem_of_mem_rankAll positive member with put | ⟨stood, others⟩
    · exact put
    · obtain ⟨f, now, key⟩ := known e stood
      exact absurd key (others f now)
  refine ⟨subset, ?_⟩
  have least : (rankAll k standings board).length ≤ standings.length :=
    (List.subperm_of_subset (.of_map _ ranked.keys) subset).length_le
  have most := ranked.length_le
  rcases full_or_all_present positive kept proper with full | present
  · omega
  · have all : standings.length ≤ (rankAll k standings board).length :=
      (List.subperm_of_subset (.of_map _ proper.keys) present).length_le
    omega

/-- One of the highest has fewer than `k` of the new standings ahead of it, so an older one took
part in crowding it out. -/
theorem CrowdedOut.exists_stale {e : Standing α} (highest : e ∈ top k standings)
    (crowded : CrowdedOut k board standings e) :
    ∃ z ∈ board, ahead z e = true ∧ ∀ f ∈ top k standings, z.key ≠ f.key := by
  obtain ⟨done, next, part, member, crowd⟩ := crowded
  have put : Proper (done ++ [next]) := proper.of_sublist part.sublist
  have earlier : Proper done := put.of_sublist (List.sublist_append_left done [next])
  have placed : Proper ((rankAll k done board).place next) :=
    (kept.rankAll positive earlier.defined).toProper.place
      (put.defined next (List.mem_append_right done List.mem_cons_self))
  have source : ∀ z ∈ (rankAll k done board).place next,
      z ∈ done ++ [next] ∨ (z ∈ board ∧ ∀ f ∈ done ++ [next], z.key ≠ f.key) := by
    intro z standing
    rcases mem_place.mp standing with rfl | ⟨old, other⟩
    · exact .inl (List.mem_append_right done List.mem_cons_self)
    · rcases mem_of_mem_rankAll positive old with now | ⟨stood, others⟩
      · exact .inl (List.mem_append_left _ now)
      · refine .inr ⟨stood, fun f given => ?_⟩
        rcases List.mem_append.mp given with before | last
        · exact others f before
        · rw [List.mem_singleton.mp last]
          exact other
  by_contra none
  push Not at none
  -- Those ahead would all have keys of the other highest, of which there are too few.
  have keys : (((rankAll k done board).place next).filter (ahead · e)).map (·.key) ⊆
      ((top k standings).map (·.key)).erase e.key := by
    intro key given
    obtain ⟨z, ahead, rfl⟩ := List.mem_map.mp given
    obtain ⟨standing, first⟩ := List.mem_filter.mp ahead
    rcases source z standing with now | ⟨stood, others⟩
    · have among := part.subset now
      have ne : z.key ≠ e.key := by
        intro same
        obtain rfl := proper.eq_of_key among (part.subset member) same
        exact Bool.false_ne_true ((ahead_irrefl z).symm.trans first)
      exact (List.mem_erase_of_ne ne).mpr
        (List.mem_map_of_mem (mem_top_of_ahead proper highest among first))
    · obtain ⟨f, top, same⟩ := none z stood first
      refine (List.mem_erase_of_ne (others e member)).mpr ?_
      rw [same]
      exact List.mem_map_of_mem top
  have distinct : (((rankAll k done board).place next).filter (ahead · e)).map (·.key) |>.Nodup :=
    (placed.of_sublist List.filter_sublist).keys
  have few := (List.subperm_of_subset distinct keys).length_le
  rw [List.length_erase_of_mem (List.mem_map_of_mem highest), List.length_map, List.length_map,
    ← List.countP_eq_length_filter, length_top] at few
  omega

end Rank

/-- A board after everybody has been put there, beside what stood there before. -/
structure Refreshed (k : Nat) (before standings after : Leaderboard α) : Prop where
  inOrder : after.Pairwise fun e f => ahead e f = true
  length_eq : after.length = min k standings.length
  current : after ⊆ standings
  highest_iff : after = top k standings ↔
    ∀ e ∈ top k standings, ¬ CrowdedOut k before standings e
  highest : (∀ z ∈ before, ∀ e ∈ top k standings, ahead z e = true →
    ∃ f ∈ top k standings, z.key = f.key) → after = top k standings

theorem refreshed {k : Nat} {board standings : Leaderboard α} (positive : 0 < k)
    (kept : Kept k board) (proper : Proper standings)
    (known : ∀ e ∈ board, ∃ f ∈ standings, e.key = f.key) :
    Refreshed k board standings (rankAll k standings board) := by
  have ranked := kept.rankAll positive proper.defined
  obtain ⟨current, length⟩ := length_rankAll positive kept proper known
  have among : ∀ e ∈ top k standings, e ∈ standings := fun e member =>
    ((mem_top proper).mp member).1
  have highest_iff : rankAll k standings board = top k standings ↔
      ∀ e ∈ top k standings, ¬ CrowdedOut k board standings e := by
    constructor
    · intro same e member
      rw [← mem_rankAll_iff positive kept proper (among e member), same]
      exact member
    · intro uncrowded
      have subset : top k standings ⊆ rankAll k standings board := fun e member =>
        (mem_rankAll_iff positive kept proper (among e member)).mpr (uncrowded e member)
      have perm := (List.subperm_of_subset (.of_map _ (proper_top proper).keys)
        subset).perm_of_length_le (by rw [length, length_top])
      exact (eq_of_perm_of_sorted (proper_top proper).strict (sorted_top proper) ranked.inOrder
        perm).symm
  refine ⟨ranked.inOrder, length, current, highest_iff, fun fresh => highest_iff.mpr ?_⟩
  intro e member crowded
  obtain ⟨z, stood, first, others⟩ := crowded.exists_stale positive kept proper member
  obtain ⟨f, top, same⟩ := fresh z stood e member first
  exact others f top same

end Colony.Leaderboard
