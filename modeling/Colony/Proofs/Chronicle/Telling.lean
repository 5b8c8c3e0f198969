import Mathlib.Data.Nat.Init
import Mathlib.Logic.Function.Iterate
import Colony.Proofs.Chronicle.Hearing

/-!
# What a run tells

The notes of a run are those of its operations, one after the other.  From them
alone it is known what a chronicle holds that heard the run: how far each
counter has gone, what each gauge shows last, and which events have been
recorded, those included that the log no longer keeps.
-/

namespace Colony

variable {σ α β ε ω : Type}

/-- The notes of all operations of a run, in the order in which they are written. -/
def told (perform : ω → σ → Outcome σ α β) : List ω → σ → List (Note α)
  | [], _ => []
  | op :: ops, s => (perform op s).notes ++ told perform ops (perform op s).state

@[simp] theorem told_nil (perform : ω → σ → Outcome σ α β) (s : σ) : told perform [] s = [] := rfl

@[simp] theorem told_cons (perform : ω → σ → Outcome σ α β) (op : ω) (ops : List ω) (s : σ) :
    told perform (op :: ops) s =
      (perform op s).notes ++ told perform ops (perform op s).state := rfl

/-! ## The ring -/

theorem Ring.kept_foldl_push {size : Int} (positive : 0 < size) (es : List ε) (r : Ring ε)
    (short : r.kept.length ≤ size.toNat) :
    (es.foldl (fun r e => r.push size e) r).kept =
      (r.kept ++ es).drop ((r.kept ++ es).length - size.toNat) := by
  induction es generalizing r with
  | nil =>
      have fits : r.kept.length - size.toNat = 0 := by omega
      simp [fits]
  | cons e es ih =>
      have one : 0 < size.toNat := by omega
      have pushed : (r.push size e).kept =
          (r.kept ++ [e]).drop ((r.kept ++ [e]).length - size.toNat) := kept_cut positive _
      have short' : (r.push size e).kept.length ≤ size.toNat := by
        rw [pushed, List.length_drop]
        omega
      rw [List.foldl_cons, ih _ short', pushed]
      have split : r.kept ++ e :: es = (r.kept ++ [e]) ++ es := by simp
      generalize r.kept ++ [e] = xs at split
      have within : xs.length - size.toNat ≤ xs.length := Nat.sub_le _ _
      rw [split, ← List.drop_append_of_le_length within, List.drop_drop, List.length_drop]
      congr 1
      simp only [List.length_append]
      omega

theorem Ring.total_foldl_push (size : Int) (es : List ε) (r : Ring ε) :
    (es.foldl (fun r e => r.push size e) r).total = r.total + es.length := by
  induction es generalizing r with
  | nil => rfl
  | cons e es ih =>
      rw [List.foldl_cons, ih, total_push, List.length_cons]
      omega

/-! ## Parts of notes -/

def Note.draft? : Note α → Option (Draft α)
  | .event draft => some draft
  | .count _ => none
  | .gauge _ _ => none
  | .rank .. => none

def Note.counts (name : String) : Note α → Bool
  | .count other => other == name
  | .gauge _ _ => false
  | .event _ => false
  | .rank .. => false

def Note.gauge? (name : String) : Note α → Option (Value α)
  | .gauge other value => if other = name then some value else none
  | .count _ => none
  | .event _ => none
  | .rank .. => none

def drafts (notes : List (Note α)) : List (Draft α) := notes.filterMap Note.draft?

/-- What a gauge shows last. -/
def shown (name : String) (notes : List (Note α)) : Option (Value α) :=
  (notes.filterMap (·.gauge? name)).getLast?

theorem drafts_append (first last : List (Note α)) :
    drafts (first ++ last) = drafts first ++ drafts last := List.filterMap_append

theorem shown_append (name : String) (first last : List (Note α)) :
    shown name (first ++ last) = (shown name last).or (shown name first) := by
  rw [shown, List.filterMap_append, List.getLast?_append]
  rfl

def Draft.numbered (draft : Draft α) (seq : Nat) : Event α :=
  { seq := seq
    kind := draft.kind
    severity := draft.severity
    npcId := draft.npcId
    tick := draft.tick
    payload := draft.payload }

/-- The events that are recorded after so many others. -/
def eventsAfter (total : Nat) : List (Draft α) → List (Event α)
  | [] => []
  | draft :: rest => draft.numbered (total + 1) :: eventsAfter (total + 1) rest

theorem length_eventsAfter (total : Nat) (ds : List (Draft α)) :
    (eventsAfter total ds).length = ds.length := by
  induction ds generalizing total with
  | nil => rfl
  | cons draft rest ih => simp [eventsAfter, ih]

theorem eventsAfter_append (total : Nat) (first last : List (Draft α)) :
    eventsAfter total (first ++ last) =
      eventsAfter total first ++ eventsAfter (total + first.length) last := by
  induction first generalizing total with
  | nil => rfl
  | cons draft rest ih =>
      rw [List.cons_append, eventsAfter, ih, eventsAfter, List.length_cons, Nat.add_assoc,
        Nat.add_comm 1, List.cons_append]

theorem seq_of_mem_eventsAfter {e : Event α} {total : Nat} {ds : List (Draft α)}
    (member : e ∈ eventsAfter total ds) : total < e.seq ∧ e.seq ≤ total + ds.length := by
  induction ds generalizing total with
  | nil => cases member
  | cons draft rest ih =>
      rw [List.length_cons]
      rcases List.mem_cons.mp member with rfl | later
      · have seq : (draft.numbered (total + 1)).seq = total + 1 := rfl
        omega
      · have bounds := ih later
        omega

theorem map_kind_eventsAfter (total : Nat) (ds : List (Draft α)) :
    (eventsAfter total ds).map (·.kind) = ds.map (·.kind) := by
  induction ds generalizing total with
  | nil => rfl
  | cons draft rest ih =>
      rw [eventsAfter, List.map_cons, List.map_cons, ih]
      rfl

theorem countP_kind_eventsAfter (kind : String) (total : Nat) (ds : List (Draft α)) :
    (eventsAfter total ds).countP (·.kind = kind) = ds.countP (·.kind = kind) := by
  have kinds := congrArg (List.countP (· = kind)) (map_kind_eventsAfter total ds)
  rwa [List.countP_map, List.countP_map] at kinds

theorem eq_of_countP_kind_eq_one {kind : String} {ds : List (Draft α)}
    (once : ds.countP (·.kind = kind) = 1) {total : Nat} {e e' : Event α}
    (first : e ∈ eventsAfter total ds) (last : e' ∈ eventsAfter total ds)
    (isKind : e.kind = kind) (isKind' : e'.kind = kind) : e = e' := by
  rw [← countP_kind_eventsAfter kind total, List.countP_eq_length_filter] at once
  obtain ⟨only, alone⟩ := List.length_eq_one_iff.mp once
  have isOnly {d : Event α} (member : d ∈ eventsAfter total ds) (same : d.kind = kind) :
      d = only := by
    have kept : d ∈ (eventsAfter total ds).filter (·.kind = kind) :=
      List.mem_filter.mpr ⟨member, decide_eq_true same⟩
    rw [alone] at kept
    exact List.mem_singleton.mp kept
  rw [isOnly first isKind, isOnly last isKind']

theorem told_append (perform : ω → σ → Outcome σ α β) (first last : List ω) (s : σ) :
    told perform (first ++ last) s =
      told perform first s ++ told perform last (after perform first s) := by
  induction first generalizing s with
  | nil => rfl
  | cons op ops ih => rw [List.cons_append, told_cons, told_cons, ih, List.append_assoc, after_cons]

theorem unranked_told {perform : ω → σ → Outcome σ α β}
    (unranked : ∀ op s, ∀ note ∈ (perform op s).notes, ¬ note.Ranks) (ops : List ω) (s : σ) :
    ∀ note ∈ told perform ops s, ¬ note.Ranks := by
  induction ops generalizing s with
  | nil => exact fun note none => absurd none List.not_mem_nil
  | cons op ops ih =>
      intro note member
      rcases List.mem_append.mp member with first | rest
      · exact unranked op s note first
      · exact ih _ note rest

variable [Scalar α]

/-! ## What a chronicle holds -/

namespace Chronicle

variable {notes : List (Note α)}

/-- How far a counter has gone; one that never counted is at zero. -/
def tally (name : String) (c : Chronicle α) : α := (c.counters.get? name).getD 0

/-- The entry of a counter that has counted so often since it had another. -/
def counterAfter (n : Nat) (entry : Option α) : Option α :=
  (fun entry => some (entry.getD 0 + 1))^[n] entry

theorem counterAfter_add (m n : Nat) (entry : Option α) :
    counterAfter (m + n) entry = counterAfter n (counterAfter m entry) := by
  rw [Nat.add_comm]
  exact Function.iterate_add_apply _ n m entry

theorem getD_counterAfter (n : Nat) (entry : Option α) :
    (counterAfter n entry).getD 0 = (· + 1)^[n] (entry.getD 0) := by
  induction n with
  | zero => rfl
  | succ n ih =>
      rw [counterAfter_add, Function.iterate_succ_apply', ← ih]
      rfl

omit [Scalar α] in
theorem record_of_enabled {c : Chronicle α} (enabled : c.enabled = true) (draft : Draft α) :
    (c.record draft).2 =
      { c with log := c.log.push c.capacity (draft.numbered (c.log.total + 1)) } := by
  rw [record, if_pos enabled]
  rfl

theorem enabled_hear (note : Note α) (c : Chronicle α) :
    (c.hear note).2.enabled = c.enabled ∧ (c.hear note).2.capacity = c.capacity := by
  cases note with
  | count name => exact ⟨rfl, rfl⟩
  | gauge name value => exact ⟨rfl, rfl⟩
  | event draft =>
      simp only [hear, record]
      split <;> exact ⟨rfl, rfl⟩
  | rank board key score payload => exact ⟨rfl, rfl⟩

theorem log_hear {c : Chronicle α} (enabled : c.enabled = true) (note : Note α) :
    (c.hear note).2.log =
      (eventsAfter c.log.total note.draft?.toList).foldl (fun r e => r.push c.capacity e)
        c.log := by
  cases note with
  | count name => rfl
  | gauge name value => rfl
  | event draft =>
      have recorded : (c.hear (.event draft)).2 = (c.record draft).2 := rfl
      rw [recorded, record_of_enabled enabled]
      rfl
  | rank board key score payload => rfl

theorem counter_hear (name : String) (note : Note α) (c : Chronicle α) :
    (c.hear note).2.counters.get? name =
      counterAfter ([note].countP (·.counts name)) (c.counters.get? name) := by
  cases note with
  | count other =>
      by_cases same : other = name
      · subst same
        simp [hear, count, counterAfter, Note.counts, Table.get?_put_self]
      · simp [hear, count, counterAfter, Note.counts, same, Table.get?_put_of_ne same]
  | gauge other value => rfl
  | event draft =>
      simp only [hear, record]
      split <;> rfl
  | rank board key score payload => rfl

theorem gauge_hear (name : String) (note : Note α) (c : Chronicle α) :
    (c.hear note).2.gauges.get? name = (shown name [note]).or (c.gauges.get? name) := by
  cases note with
  | count other => rfl
  | gauge other value =>
      by_cases same : other = name
      · subst same
        simp [hear, gauge, shown, Note.gauge?, Table.get?_put_self]
      · simp [hear, gauge, shown, Note.gauge?, same, Table.get?_put_of_ne same]
  | event draft =>
      simp only [hear, record]
      split <;> rfl
  | rank board key score payload => rfl

/-- What has become of a chronicle that heard these notes, its boards apart. -/
structure Heard (opened : Chronicle α) (notes : List (Note α)) (c : Chronicle α) : Prop where
  enabled : c.enabled = opened.enabled
  capacity : c.capacity = opened.capacity
  log : opened.enabled = true → c.log =
    (eventsAfter opened.log.total (drafts notes)).foldl (fun r e => r.push opened.capacity e)
      opened.log
  counter : ∀ name, c.counters.get? name =
    counterAfter (notes.countP (·.counts name)) (opened.counters.get? name)
  gauge : ∀ name, c.gauges.get? name = (shown name notes).or (opened.gauges.get? name)

namespace Heard

variable {opened c : Chronicle α}

theorem refl (opened : Chronicle α) : Heard opened [] opened :=
  ⟨rfl, rfl, fun _ => rfl, fun _ => rfl, fun _ => rfl⟩

theorem onBoards (h : Heard opened notes c) (boards : Table String (Leaderboard α)) :
    Heard opened notes { c with boards := boards } :=
  ⟨h.enabled, h.capacity, h.log, h.counter, h.gauge⟩

theorem hear (h : Heard opened notes c) (note : Note α) :
    Heard opened (notes ++ [note]) (c.hear note).2 := by
  obtain ⟨enabled, capacity⟩ := enabled_hear note c
  refine ⟨enabled.trans h.enabled, capacity.trans h.capacity, fun kept => ?_, fun name => ?_,
    fun name => ?_⟩
  · have total : c.log.total = opened.log.total + (drafts notes).length := by
      rw [h.log kept, Ring.total_foldl_push, length_eventsAfter]
    have drafted : drafts [note] = note.draft?.toList := by
      rw [drafts, List.filterMap_cons]
      cases note.draft? <;> rfl
    rw [log_hear (h.enabled.trans kept), h.capacity, total, h.log kept, ← List.foldl_append,
      drafts_append, eventsAfter_append, drafted]
  · rw [counter_hear, h.counter, List.countP_append, counterAfter_add]
  · rw [gauge_hear, h.gauge, shown_append, Option.or_assoc]

theorem hearAll {more : List (Note α)} (h : Heard opened notes c)
    (written : (c.hearAll more).1 = .ok ()) :
    Heard opened (notes ++ more) (c.hearAll more).2 := by
  induction more generalizing notes c with
  | nil =>
      rw [List.append_nil]
      exact h
  | cons note more ih =>
      have first : (c.hear note).1 = .ok () := by
        rw [Chronicle.hearAll] at written
        split at written
        · rename_i next heard
          rw [heard]
        · cases written
      rw [hearAll_cons first] at written ⊢
      have rest := ih (h.hear note) written
      rwa [List.append_assoc, List.singleton_append] at rest

theorem tally (h : Heard opened notes c) (name : String) :
    c.tally name = (· + 1)^[notes.countP (·.counts name)] (opened.tally name) := by
  rw [Chronicle.tally, h.counter, getD_counterAfter]
  rfl

theorem ring (h : Heard opened notes c) (enabled : opened.enabled = true)
    (positive : 0 < opened.capacity) (empty : opened.log = {}) :
    let all := eventsAfter 0 (drafts notes)
    c.log.total = all.length ∧ c.log.kept = all.drop (all.length - c.capacity.toNat) := by
  rw [h.log enabled, h.capacity, empty]
  constructor
  · rw [Ring.total_foldl_push, Nat.zero_add]
  · exact Ring.kept_foldl_push positive _ {} (Nat.zero_le _)

end Heard

section Unranked

variable (unranked : ∀ note ∈ notes, ¬ note.Ranks)
include unranked

theorem heard_hearAll (c : Chronicle α) : Heard c notes (c.hearAll notes).2 := by
  have all := (Heard.refl c).hearAll (answer_hearAll_of_unranked unranked c)
  rwa [List.nil_append] at all

theorem capacity_hearAll (c : Chronicle α) : (c.hearAll notes).2.capacity = c.capacity :=
  (heard_hearAll unranked c).capacity

end Unranked

end Chronicle

/-! ## Runs under a chronicle -/

namespace Observed

/-- A run that ranks nobody goes on as if nobody heard it, and its chronicle has heard all its
notes. -/
theorem after_of_unranked {perform : ω → σ → Outcome σ α β}
    (unranked : ∀ op s, ∀ note ∈ (perform op s).notes, ¬ note.Ranks) (ops : List ω) (s : σ)
    (c : Chronicle α) :
    (⟨s, some c⟩ : Observed σ α).after perform ops =
      ⟨Colony.after perform ops s, some (c.hearAll (told perform ops s)).2⟩ := by
  induction ops generalizing s c with
  | nil => rfl
  | cons op ops ih =>
      have written := Chronicle.answer_hearAll_of_unranked (unranked op s) c
      have heard : c.hearAll (perform op s).notes =
          (.ok (), (c.hearAll (perform op s).notes).2) := Prod.ext written rfl
      have run : ((⟨s, some c⟩ : Observed σ α).run (perform op)).2 =
          ⟨(perform op s).state, some (c.hearAll (perform op s).notes).2⟩ := by
        simp only [Observed.run]
        rw [heard]
      have first : (⟨s, some c⟩ : Observed σ α).after perform (op :: ops) =
          ((⟨s, some c⟩ : Observed σ α).run (perform op)).2.after perform ops := rfl
      rw [first, run, ih, told_cons, Chronicle.hearAll_append written, after_cons]

end Observed

end Colony
