import Mathlib.Data.List.Dedup
import Colony.Proofs.Answer
import Colony.Proofs.Chronicle.Recording
import Colony.Proofs.Chronicle.Sizes

/-!
# The latest standings

A board forgets the standings that it cuts.  It still lists nothing but the
latest standing of each key, and as many of these as it can hold.  While no
key's score falls it even lists the highest of them all: whoever was cut has
as many others ahead as the board holds, and they stay ahead until the key is
put there again.
-/

namespace Colony.Leaderboard

variable {α : Type}

/-! ## The last standing of every key -/

/-- All standings but those that a later one of their key replaces. -/
def latest : List (Standing α) → Leaderboard α
  | [] => []
  | e :: rest => if e.key ∈ rest.map (·.key) then latest rest else e :: latest rest

theorem map_key_latest (es : List (Standing α)) :
    (latest es).map (·.key) = (es.map (·.key)).dedup := by
  induction es with
  | nil => rfl
  | cons e rest ih =>
      by_cases replaced : e.key ∈ rest.map (·.key)
      · simp only [latest, replaced, if_true, List.map_cons, List.dedup_cons_of_mem, ih]
      · simp only [latest, replaced, if_false, List.map_cons, ih, not_false_eq_true,
          List.dedup_cons_of_notMem]

theorem length_latest (es : List (Standing α)) :
    (latest es).length = (es.map (·.key)).dedup.length := by
  rw [← map_key_latest, List.length_map]

theorem latest_sublist (es : List (Standing α)) : (latest es).Sublist es := by
  induction es with
  | nil => exact .slnil
  | cons e rest ih =>
      unfold latest
      split
      · exact ih.cons e
      · exact ih.cons_cons e

theorem mem_latest {e : Standing α} {es : List (Standing α)} :
    e ∈ latest es ↔
      ∃ before later, es = before ++ e :: later ∧ ∀ f ∈ later, f.key ≠ e.key := by
  induction es with
  | nil => simp [latest]
  | cons first rest ih =>
      constructor
      · intro member
        have cases : (first = e ∧ e.key ∉ rest.map (·.key)) ∨ e ∈ latest rest := by
          unfold latest at member
          split at member
          · exact .inr member
          · rename_i last
            rcases List.mem_cons.mp member with rfl | later
            · exact .inl ⟨rfl, last⟩
            · exact .inr later
        rcases cases with ⟨rfl, last⟩ | later
        · exact ⟨[], rest, rfl, fun f given same => last (same ▸ List.mem_map_of_mem given)⟩
        · obtain ⟨before, after, rfl, last⟩ := ih.mp later
          exact ⟨first :: before, after, rfl, last⟩
      · rintro ⟨before, later, split, last⟩
        cases before with
        | nil =>
            obtain ⟨rfl, rfl⟩ := List.cons.inj split
            have unreplaced : first.key ∉ rest.map (·.key) := by
              intro replaced
              obtain ⟨f, given, same⟩ := List.mem_map.mp replaced
              exact last f given same
            simp [latest, unreplaced]
        | cons _ before =>
            obtain ⟨-, rfl⟩ := List.cons.inj split
            have kept := ih.mpr ⟨before, later, rfl, last⟩
            unfold latest
            split
            · exact kept
            · exact List.mem_cons_of_mem first kept

theorem latest_concat (es : List (Standing α)) (e : Standing α) :
    latest (es ++ [e]) = without e.key (latest es) ++ [e] := by
  induction es with
  | nil => simp [latest, without]
  | cons first rest ih =>
      by_cases same : first.key = e.key
      · simp only [List.cons_append, latest, List.map_append, List.mem_append, same, ih]
        by_cases replaced : e.key ∈ rest.map (·.key) <;> simp [replaced, without, same]
      · simp only [List.cons_append, latest, List.map_append, List.mem_append, ih]
        by_cases replaced : first.key ∈ rest.map (·.key) <;> simp [replaced, without, same]

/-! ## What a board keeps of them -/

variable [Scalar α] {k : Nat} {es : List (Standing α)}

theorem proper_latest (defined : ∀ e ∈ es, Scalar.Defined e.score) : Proper (latest es) where
  defined e member := defined e ((latest_sublist es).subset member)
  keys := by
    rw [map_key_latest]
    exact List.nodup_dedup _

theorem place_subset_latest {board : Leaderboard α} (listed : board ⊆ latest es)
    (e : Standing α) : board.place e ⊆ latest (es ++ [e]) := by
  intro f member
  rw [latest_concat, List.mem_append, List.mem_singleton]
  rcases mem_place.mp member with rfl | ⟨stood, other⟩
  · exact .inr rfl
  · exact .inl (List.mem_filter.mpr ⟨listed stood, by simpa using other⟩)

section Added

variable (positive : 0 < k)
include positive

theorem added_concat_eq (es : List (Standing α)) (e : Standing α) :
    added k (es ++ [e]) = ((added k es).place e).take k := by
  rw [added_concat, add_eq_take positive]

theorem added_subset_latest (es : List (Standing α)) : added k es ⊆ latest es := by
  induction es using List.reverseRecOn with
  | nil => exact List.Subset.refl _
  | append_singleton es e ih =>
      rw [added_concat_eq positive]
      exact List.Subset.trans (List.take_subset k _) (place_subset_latest ih e)

theorem kept_added (defined : ∀ e ∈ es, Scalar.Defined e.score) : Kept k (added k es) := by
  induction es using List.reverseRecOn with
  | nil => exact .nil k
  | append_singleton es e ih =>
      rw [added_concat]
      apply Kept.add positive
      · exact ih fun f given => defined f (List.mem_append_left _ given)
      · exact defined e (List.mem_append_right _ List.mem_cons_self)

/-- Once a board is full it stays so, and until then nobody has been cut. -/
theorem length_added (defined : ∀ e ∈ es, Scalar.Defined e.score) :
    (added k es).length = min k (latest es).length := by
  induction es using List.reverseRecOn with
  | nil => simp [added, latest]
  | append_singleton es e ih =>
      have earlier : ∀ f ∈ es, Scalar.Defined f.score := fun f given =>
        defined f (List.mem_append_left _ given)
      have kept := kept_added positive earlier
      have proper := proper_latest earlier
      have counted : (latest (es ++ [e])).length = ((latest es).place e).length := by
        rw [latest_concat, length_place, List.length_append, List.length_singleton]
      rw [added_concat_eq positive, List.length_take, counted]
      by_cases full : k ≤ (latest es).length
      · have onBoard := kept.toProper.length_le_place e
        have inAll := proper.length_le_place e
        have := ih earlier
        omega
      · have all : (added k es).Perm (latest es) := by
          have among := List.subperm_of_subset (.of_map _ kept.keys)
            (added_subset_latest positive es)
          apply among.perm_of_length_le
          have := ih earlier
          omega
        have others : (without e.key (added k es)).length = (without e.key (latest es)).length :=
          (all.filter _).length_eq
        rw [length_place, length_place, others]

end Added

/-! ## While no score falls -/

/-- A standing is ahead of whatever a lower one of its key is ahead of. -/
theorem ahead_of_raised {old e f : Standing α} (same : old.key = e.key)
    (raised : old.score ≤ e.score) (first : ahead old f = true) : ahead e f = true := by
  rw [ahead_iff] at *
  rcases first with higher | ⟨notLower, key⟩
  · exact .inl (Scalar.lt_of_lt_of_le higher raised)
  · refine .inr ⟨fun lower => notLower ?_, same ▸ key⟩
    exact Scalar.lt_of_le_of_lt raised lower

/-- One of the highest, unless just added, was one of them before: those who were ahead still
are. -/
theorem mem_top_of_mem_top_concat {e f : Standing α}
    (defined : ∀ g ∈ es ++ [e], Scalar.Defined g.score)
    (raised : ∀ old ∈ es, old.key = e.key → old.score ≤ e.score) (ne : f ≠ e)
    (highest : f ∈ top k (latest (es ++ [e]))) : f ∈ top k (latest es) := by
  have proper := proper_latest fun g given => defined g (List.mem_append_left [e] given)
  have proper' := proper_latest defined
  obtain ⟨member, few⟩ := (mem_top proper').mp highest
  have stood : f ∈ latest es := by
    rw [latest_concat, List.mem_append, List.mem_singleton] at member
    exact List.mem_of_mem_filter (member.resolve_right ne)
  refine (mem_top proper).mpr ⟨stood, lt_of_le_of_lt ?_ few⟩
  have keys : ((latest es).filter (ahead · f)).map (·.key) ⊆
      ((latest (es ++ [e])).filter (ahead · f)).map (·.key) := by
    intro key given
    obtain ⟨old, found, rfl⟩ := List.mem_map.mp given
    obtain ⟨listed, first⟩ := List.mem_filter.mp found
    rw [latest_concat]
    by_cases same : old.key = e.key
    · have still := ahead_of_raised same (raised old ((latest_sublist es).subset listed) same) first
      rw [same]
      exact List.mem_map_of_mem (List.mem_filter.mpr ⟨by simp, still⟩)
    · have left : old ∈ without e.key (latest es) :=
        List.mem_filter.mpr ⟨listed, by simpa using same⟩
      exact List.mem_map_of_mem (List.mem_filter.mpr ⟨List.mem_append_left [e] left, first⟩)
  have distinct := (proper.of_sublist (List.filter_sublist (p := (ahead · f)))).keys
  have fewer := (List.subperm_of_subset distinct keys).length_le
  simpa only [List.length_map, ← List.countP_eq_length_filter] using fewer

theorem added_eq_top (positive : 0 < k) (defined : ∀ e ∈ es, Scalar.Defined e.score)
    (raised : es.Pairwise fun e f => e.key = f.key → e.score ≤ f.score) :
    added k es = top k (latest es) := by
  induction es using List.reverseRecOn with
  | nil => simp [added, latest, top, sort]
  | append_singleton es e ih =>
      have earlier : ∀ f ∈ es, Scalar.Defined f.score := fun f given =>
        defined f (List.mem_append_left _ given)
      have scored := defined e (List.mem_append_right _ List.mem_cons_self)
      obtain ⟨raised', -, last⟩ := List.pairwise_append.mp raised
      have ranked := ih earlier raised'
      have proper := proper_latest defined
      have kept := kept_added positive defined
      have before := (kept_added positive earlier).toProper
      have placed := place_subset_latest (added_subset_latest positive es) e
      have subset : top k (latest (es ++ [e])) ⊆ added k (es ++ [e]) := by
        intro f highest
        obtain ⟨member, few⟩ := (mem_top proper).mp highest
        rw [added_concat, before.mem_add positive scored]
        constructor
        · by_cases same : f = e
          · exact mem_place.mpr (.inl same)
          · have stood := mem_top_of_mem_top_concat defined
              (fun old given => last old given e List.mem_cons_self) same highest
            refine mem_place.mpr (.inr ⟨ranked ▸ stood, fun key => same ?_⟩)
            exact proper.eq_of_key member (by simp [latest_concat]) key
        · have among := List.subperm_of_subset (.of_map _ (before.place scored).keys) placed
          exact lt_of_le_of_lt (among.countP_le _) few
      have perm := (List.subperm_of_subset (.of_map _ (proper_top proper).keys)
        subset).perm_of_length_le (by rw [length_added positive defined, length_top])
      exact (eq_of_perm_of_sorted (proper_top proper).strict (sorted_top proper) kept.inOrder
        perm).symm

end Colony.Leaderboard

namespace Colony

variable {α : Type} [Scalar α]

/-! ## Bids -/

theorem Bid.key_of_standing {b : Bid α} {e : Standing α} (asked : b.standing = .ok e) :
    e.key = b.key := by
  obtain ⟨score, -, read⟩ := Answer.bind_eq_ok.mp asked
  obtain ⟨payload, -, same⟩ := Answer.bind_eq_ok.mp read
  cases same
  rfl

/-- A bid on a board that stands alone. -/
def Bid.perform (size : Value α) (b : Bid α) (board : Leaderboard α) :
    Outcome (Leaderboard α) α Unit :=
  { answer := (board.addBid size b).1, state := (board.addBid size b).2 }

namespace Chronicle

/-- What a run bids on the board of a name. -/
def bidsOn (name : String) (ops : List (Operation α)) : List (Bid α) :=
  ops.filterMap fun
    | .rank board b => if board = name then some b else none
    | _ => none

theorem board_perform (name : String) (op : Operation α) (c : Chronicle α) :
    (op.perform c).state.boardSize = c.boardSize ∧
      ((op.perform c).state.boards.get? name).getD [] =
        after (Bid.perform c.boardSize) (bidsOn name [op]) ((c.boards.get? name).getD []) := by
  cases op with
  | record report =>
      rcases recordReport_cases report c with ⟨-, kept⟩ | ⟨-, failure, kept⟩ | ⟨-, event, -, kept⟩
      all_goals
        rw [Operation.perform, kept]
        exact ⟨rfl, rfl⟩
  | clear => exact ⟨rfl, rfl⟩
  | count counter n =>
      rcases countBy_cases counter n c with ⟨failure, kept⟩ | ⟨x, counted⟩
      · rw [Operation.perform, kept]
        exact ⟨rfl, rfl⟩
      · rw [Operation.perform, counted]
        exact ⟨rfl, rfl⟩
  | gauge gauge value => exact ⟨rfl, rfl⟩
  | rank board b =>
      refine ⟨rfl, ?_⟩
      by_cases same : board = name
      · simp [Operation.perform, rankBid, onBoard, bidsOn, same, Table.get?_put_self, Bid.perform]
      · simp [Operation.perform, rankBid, onBoard, bidsOn, same, Table.get?_put_of_ne]

/-- A board of a chronicle is what has been bid on it, whatever else happens in between. -/
theorem board_after (name : String) (ops : List (Operation α)) (c : Chronicle α) :
    ((after Operation.perform ops c).boards.get? name).getD [] =
      after (Bid.perform c.boardSize) (bidsOn name ops) ((c.boards.get? name).getD []) := by
  induction ops generalizing c with
  | nil => rfl
  | cons op ops ih =>
      obtain ⟨size, board⟩ := board_perform name op c
      have split : bidsOn name (op :: ops) = bidsOn name [op] ++ bidsOn name ops :=
        List.filterMap_append (l := [op])
      rw [after_cons, ih, size, board, split, after_append]

end Chronicle

namespace Leaderboard

variable {size : Value α} {k : Nat}

theorem perform_bid {k : Int} (read : size.toInt = .ok k) {b : Bid α} {e : Standing α}
    (asked : b.standing = .ok e) (board : Leaderboard α) :
    b.perform size board = .done () (board.add k e) := by
  simp only [Bid.perform, addBid, asked, addSized, read]
  rfl

theorem perform_bid_of_error {b : Bid α} {failure : Failure α}
    (failed : b.standing = .error failure)
    (board : Leaderboard α) : b.perform size board = .fail failure (board.without b.key) := by
  simp only [Bid.perform, addBid, failed]
  rfl

theorem run_bids {k : Int} (read : size.toInt = .ok k) {bids : List (Bid α)}
    {es : List (Standing α)} (asked : List.Forall₂ (fun b e => b.standing = .ok e) bids es)
    (board : Leaderboard α) :
    after (Bid.perform size) bids board = es.foldl (fun board e => board.add k e) board ∧
      ∀ reply ∈ transcript (Bid.perform size) bids board, reply.1 = .ok () := by
  induction asked generalizing board with
  | nil => exact ⟨rfl, List.forall_mem_nil _⟩
  | @cons b e bids es first _ ih =>
      obtain ⟨left, answers⟩ := ih (board.add k e)
      have done := perform_bid read first board
      rw [after_cons, transcript, done]
      exact ⟨left, List.forall_mem_cons.mpr ⟨rfl, answers⟩⟩

/-! ### Bids that may fail -/

/-- What a board of `k` places shows of bids of which some may have failed. -/
structure Shows (k : Nat) (bids : List (Bid α)) (board : Leaderboard α) : Prop
    extends Kept k board where
  /-- Whoever stands there was put there by the last bid of its key. -/
  unreplaced : ∀ e ∈ board, ∃ before b later, bids = before ++ b :: later ∧ b.standing = .ok e ∧
    ∀ c ∈ later, c.key ≠ e.key

namespace Shows

variable {bids : List (Bid α)} {board : Leaderboard α} {b : Bid α}

theorem nil (k : Nat) : Shows k ([] : List (Bid α)) ([] : Leaderboard α) where
  toKept := .nil k
  unreplaced := List.forall_mem_nil _

/-- A standing of another key is as little replaced as before. -/
theorem later (h : Shows k bids board) {e : Standing α} (member : e ∈ board) (ne : e.key ≠ b.key) :
    ∃ before c later, bids ++ [b] = before ++ c :: later ∧ c.standing = .ok e ∧
      ∀ d ∈ later, d.key ≠ e.key := by
  obtain ⟨before, c, later, rfl, asked, last⟩ := h.unreplaced e member
  refine ⟨before, c, later ++ [b], by simp, asked, ?_⟩
  exact List.forall_mem_append.mpr ⟨last, List.forall_mem_singleton.mpr ne.symm⟩

theorem without (h : Shows k bids board) (b : Bid α) :
    Shows k (bids ++ [b]) (board.without b.key) where
  toProper := h.toProper.of_sublist List.filter_sublist
  inOrder := h.inOrder.sublist List.filter_sublist
  length_le := (List.length_filter_le _ board).trans h.length_le
  unreplaced e member := by
    obtain ⟨listed, other⟩ := List.mem_filter.mp member
    exact h.later listed (by simpa using other)

theorem add (positive : 0 < k) (h : Shows k bids board) {e : Standing α}
    (asked : b.standing = .ok e) (defined : Scalar.Defined e.score) :
    Shows k (bids ++ [b]) (board.add k e) where
  toKept := h.toKept.add positive defined
  unreplaced f member := by
    rcases mem_place.mp ((h.toProper.mem_add positive defined).mp member).1 with rfl | ⟨old, ne⟩
    · exact ⟨bids, b, [], rfl, asked, List.forall_mem_nil _⟩
    · exact h.later old (Bid.key_of_standing asked ▸ ne)

theorem step (positive : 0 < k) (read : size.toInt = .ok (k : Int)) (h : Shows k bids board)
    (defined : ∀ e, b.standing = .ok e → Scalar.Defined e.score) :
    Shows k (bids ++ [b]) (b.perform size board).state := by
  cases asked : b.standing with
  | ok e =>
      rw [perform_bid read asked]
      exact h.add positive asked (defined e asked)
  | error failure =>
      rw [perform_bid_of_error asked]
      exact h.without b

end Shows

theorem shows_after (positive : 0 < k) (read : size.toInt = .ok (k : Int)) {bids : List (Bid α)}
    (defined : ∀ b ∈ bids, ∀ e, b.standing = .ok e → Scalar.Defined e.score) :
    Shows k bids (after (Bid.perform size) bids []) := by
  induction bids using List.reverseRecOn with
  | nil => exact .nil k
  | append_singleton bids b ih =>
      rw [after_append]
      exact (ih fun c given => defined c (List.mem_append_left _ given)).step positive read
        (defined b (List.mem_append_right _ List.mem_cons_self))

/-! ### Bids that are all taken -/

/-- What a board of `k` places shows of the standings that were put on it one after the other. -/
structure Leads (k : Nat) (es : List (Standing α)) (board : Leaderboard α) : Prop where
  distinct : (board.map (·.key)).Nodup
  inOrder : board.Pairwise fun e f => f.score ≤ e.score ∧ (e.score ≤ f.score → e.key < f.key)
  length_eq : board.length = min k (es.map (·.key)).dedup.length
  /-- Whoever stands there has not been replaced since. -/
  unreplaced : ∀ e ∈ board, ∃ before later, es = before ++ e :: later ∧ ∀ f ∈ later, f.key ≠ e.key
  highest : (es.Pairwise fun e f => e.key = f.key → e.score ≤ f.score) →
    board = top k (latest es)

theorem leads_added (positive : 0 < k) {es : List (Standing α)}
    (defined : ∀ e ∈ es, Scalar.Defined e.score) : Leads k es (added k es) where
  distinct := (kept_added positive defined).keys
  inOrder := by
    have kept := kept_added positive defined
    refine kept.inOrder.imp_of_mem fun {e f} he hf first => ?_
    rcases ahead_iff.mp first with higher | ⟨notLower, key⟩
    · refine ⟨Scalar.le_of_lt higher, fun lower => ?_⟩
      exact absurd (Scalar.lt_of_lt_of_le higher lower) (Scalar.lt_irrefl _)
    · exact ⟨Scalar.le_of_not_lt (kept.defined e he) (kept.defined f hf) notLower, fun _ => key⟩
  length_eq := by rw [length_added positive defined, length_latest]
  unreplaced e member := mem_latest.mp (added_subset_latest positive es member)
  highest raised := added_eq_top positive defined raised

/-- A bid that cannot be read only takes its key off the board; whoever stands there was put there
by the last bid of its key.  While every bid is taken, the board shows as many of the latest
standings as it has places, the highest of all where no score falls.  So does every board of a
chronicle. -/
theorem leads_after_bids (positive : 0 < k) (read : size.toInt = .ok (k : Int))
    {bids : List (Bid α)}
    (defined : ∀ b ∈ bids, ∀ e, b.standing = .ok e → Scalar.Defined e.score) :
    Shows k bids (after (Bid.perform size) bids []) ∧
      (∀ (b : Bid α) (failure : Failure α), b.standing = .error failure → ∀ board,
        b.perform size board = .fail failure (board.without b.key)) ∧
      (∀ es, bids.mapM Bid.standing = .ok es →
        (∀ reply ∈ transcript (Bid.perform size) bids [], reply.1 = .ok ()) ∧
          Leads k es (after (Bid.perform size) bids [])) ∧
      ∀ (c : Chronicle α) (name : String) (ops : List (Chronicle.Operation α)),
        c.boardSize = size → c.boards.get? name = none → Chronicle.bidsOn name ops = bids →
        ((after Chronicle.Operation.perform ops c).boards.get? name).getD [] =
          after (Bid.perform size) bids [] := by
  refine ⟨shows_after positive read defined, fun b failure => perform_bid_of_error,
    fun es asked => ?_, ?_⟩
  · have pairs := Answer.mapM_eq_ok.mp asked
    obtain ⟨board, answers⟩ := run_bids read pairs []
    have scored : ∀ e ∈ es, Scalar.Defined e.score := fun e given => by
      obtain ⟨b, bid, named⟩ := Answer.exists_of_mem_mapM asked given
      exact defined b bid e named
    refine ⟨answers, ?_⟩
    rw [board]
    exact leads_added positive scored
  · rintro c name ops rfl new rfl
    rw [Chronicle.board_after, new]
    rfl

/-- On a board of two places `a` is cut and comes back higher, tied with `c` and before it. -/
theorem leads_after_bids_cut :
    let bids : List (Bid Amount) :=
      [⟨"a", 1.0, .null⟩, ⟨"b", 2.0, .dict [(.text "halt", .bool true)]⟩, ⟨"c", .whole 3, .null⟩,
       ⟨"a", 3.0, .dict [(.text "halt", .bool false)]⟩]
    let es : List (Standing Amount) :=
      [⟨"a", 1.0, []⟩, ⟨"b", 2.0, [(.text "halt", .bool true)]⟩, ⟨"c", 3.0, []⟩,
       ⟨"a", 3.0, [(.text "halt", .bool false)]⟩]
    0 < 2 ∧ (.int 2 : Value Amount).toInt = .ok ((2 : Nat) : Int) ∧
      bids.mapM Bid.standing = .ok es ∧ (∀ e ∈ es, Scalar.Defined e.score) ∧
      (es.Pairwise fun e f => e.key = f.key → e.score ≤ f.score) ∧
      Leads 2 es (after (Bid.perform (.int 2)) bids []) ∧
      (after (Bid.perform (.int 2)) (bids.take 3) []).map (·.key) = ["c", "b"] ∧
      (after (Bid.perform (.int 2)) bids []).map (·.key) = ["a", "c"] := by
  intro bids es
  have positive : 0 < 2 := by decide
  have read : (.int 2 : Value Amount).toInt = .ok ((2 : Nat) : Int) := rfl
  have asked : bids.mapM Bid.standing = .ok es := rfl
  have defined : ∀ e ∈ es, Scalar.Defined e.score := by
    have numbers : es.all (fun e => decide (e.score ≤ e.score)) = true := by decide +kernel
    exact fun e member => .of_le_left (of_decide_eq_true (List.all_eq_true.mp numbers e member))
  have raised : es.Pairwise fun e f => e.key = f.key → e.score ≤ f.score := by decide +kernel
  have scored : ∀ b ∈ bids, ∀ e, b.standing = .ok e → Scalar.Defined e.score := by
    intro b member e named
    obtain ⟨f, listed, same⟩ := Answer.exists_of_mapM asked member
    rw [named] at same
    exact Except.ok.inj same ▸ defined f listed
  refine ⟨positive, read, asked, defined, raised, ?_, ?_, ?_⟩
  · exact ((leads_after_bids positive read scored).2.2.1 es asked).2
  · decide +kernel
  · decide +kernel

/-- A bid whose payload has no entries, or whose score is too large for a fraction, takes its key
off the board. -/
theorem failed_bid_clears_key :
    let first : Bid Amount := ⟨"a", 1.0, .null⟩
    let unread : Bid Amount := ⟨"a", 2.0, .int 5⟩
    let large : Bid Amount := ⟨"a", .whole (10 ^ 400), .null⟩
    (unread.standing = .error .wrongKind ∧ large.standing = .error .overflow) ∧
      (after (Bid.perform (.int 2)) [first] []).map (·.key) = ["a"] ∧
      after (Bid.perform (.int 2)) [first, unread] [] = [] ∧
      after (Bid.perform (.int 2)) [first, large] [] = [] := by
  intro first unread large
  have one : after (Bid.perform (.int 2)) [first] [] = [⟨"a", 1.0, []⟩] := rfl
  have failed : unread.standing = .error .wrongKind := rfl
  have failed' : large.standing = .error .overflow := by
    have overflown : Scalar.overflown (Scalar.rounded large.score) = true := by decide +kernel
    rw [Bid.standing, Scalar.checked, if_pos overflown]
    rfl
  refine ⟨⟨failed, failed'⟩, by rw [one]; rfl, ?_, ?_⟩
  · rw [← List.singleton_append, after_append, one, after_cons, perform_bid_of_error failed]
    rfl
  · rw [← List.singleton_append, after_append, one, after_cons, perform_bid_of_error failed']
    rfl

end Leaderboard

end Colony
