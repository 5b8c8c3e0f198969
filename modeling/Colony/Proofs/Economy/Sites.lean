import Mathlib.Data.List.Nodup
import Mathlib.Data.List.Perm.Basic
import Colony.Proofs.Operation
import Colony.Proofs.Order
import Colony.Proofs.Text.Listed
import Colony.Scalar.Amount

/-!
# The numbers of sites

Mines and refineries take their numbers from one counter, in the order in which
they are opened.  So the two kinds share the numbers from 1 on between them,
the status counts each kind at once, and nothing but opening a site changes
what an economy has of them.  A call for a site is refused only where its
figure is too large for a fraction, and then it takes no number.
-/

namespace Colony.Economy

/-! ## Opening sites -/

inductive Site where
  | mine
  | refinery
  deriving DecidableEq

def Site.id : Site → Nat → String
  | .mine, number => "mine-" ++ toString number
  | .refinery, number => "refinery-" ++ toString number

/-- The calls that open a site of one kind, with their numbers among the calls for both. -/
def callsFor (site : Site) (sites : List Site) : List (Site × Nat) :=
  (sites.zipIdx 1).filter (·.1 = site)

theorem callsFor_concat (site : Site) (sites : List Site) (last : Site) :
    callsFor site (sites ++ [last]) =
      callsFor site sites ++ if last = site then [(last, sites.length + 1)] else [] := by
  rw [callsFor, List.zipIdx_append, List.filter_append, callsFor]
  by_cases same : last = site <;> simp [same, Nat.add_comm]

theorem callsFor_perm (sites : List Site) :
    (callsFor .mine sites ++ callsFor .refinery sites).Perm (sites.zipIdx 1) := by
  have others : callsFor .refinery sites =
      (sites.zipIdx 1).filter fun call => !decide (call.1 = .mine) :=
    List.filter_congr fun call _ => by cases call.1 <;> rfl
  rw [others]
  exact List.filter_append_perm _ _

variable {α : Type}

/-- The kind of the site that is called for. -/
def Operation.site? : Operation α → Option Site
  | .addMine _ => some .mine
  | .addRefinery _ => some .refinery
  | .setPopulation _ _ => none
  | .tick _ => none
  | .advance _ _ => none
  | .cleanse => none

/-- What a call to open a site answers if it is the one with this number. -/
def named (call : Site × Nat) : Reply α := .site (call.1.id call.2)

/-- All that an economy has of its sites. -/
structure Sites (α : Type) where
  mines : List (Mine α)
  refineries : List (Refinery α)
  next : Nat
  mineCount : Nat
  refineryCount : Nat

def sites (e : Economy α) : Sites α :=
  ⟨e.mines, e.refineries, e.nextNumber, e.status.mines, e.status.refineries⟩

variable [Scalar α]

/-- The site that an operation opens: the one called for, unless its figure overflows. -/
def Operation.opens? : Operation α → Option Site
  | .addMine yieldRate =>
      if Scalar.overflown (Scalar.rounded yieldRate) then none else some .mine
  | .addRefinery efficiency =>
      if Scalar.overflown (Scalar.rounded efficiency) then none else some .refinery
  | .setPopulation _ _ => none
  | .tick _ => none
  | .advance _ _ => none
  | .cleanse => none

/-- The kinds of the sites that a run opens. -/
def opened (ops : List (Operation α)) : List Site := ops.filterMap (·.opens?)

theorem sites_tick (trauma : Option α) (e : Economy α) : (e.tick trauma).state.sites = e.sites := by
  refine Outcome.state_andThen (P := fun rated : Economy α => rated.sites = e.sites) rfl
    fun _ rated kept => ?_
  refine Outcome.state_andThen (P := fun read : Economy α => read.sites = e.sites) kept
    fun _ read kept => ?_
  refine Outcome.state_andThen (P := fun moved : Economy α => moved.sites = e.sites) kept
    fun _ moved kept => ?_
  exact Outcome.state_andThen (P := fun settled : Economy α => settled.sites = e.sites) kept
    fun _ _ kept => kept

theorem sites_ticks (trauma : Option α) (more : Nat) (e : Economy α) :
    (e.ticks trauma more).state.sites = e.sites := by
  induction more generalizing e with
  | zero => exact sites_tick trauma e
  | succ more ih =>
      exact Outcome.state_andThen (P := fun next : Economy α => next.sites = e.sites)
        (sites_tick trauma e) fun _ next kept => (ih next).trans kept

/-- A call for a site opens it, or is refused without a trace. -/
theorem Operation.perform_of_site? {op : Operation α} {site : Site} (calls : op.site? = some site)
    (e : Economy α) : op.opens? = some site ∨
      (op.opens? = none ∧ op.perform e = .fail .overflow e) := by
  cases op with
  | addMine yieldRate =>
      cases calls
      rcases addMine_cases yieldRate e with ⟨fits, -⟩ | ⟨large, same⟩
      · exact .inl (by simp [opens?, fits])
      · exact .inr ⟨by simp [opens?, large], by rw [perform, same]; rfl⟩
  | addRefinery efficiency =>
      cases calls
      rcases addRefinery_cases efficiency e with ⟨fits, -⟩ | ⟨large, same⟩
      · exact .inl (by simp [opens?, fits])
      · exact .inr ⟨by simp [opens?, large], by rw [perform, same]; rfl⟩
  | _ => cases calls

/-- What opens no site leaves all that there is of sites. -/
theorem Operation.sites_perform {op : Operation α} (opens : op.opens? = none) (e : Economy α) :
    (op.perform e).state.sites = e.sites := by
  have refused {site : Site} (calls : op.site? = some site) :
      (op.perform e).state.sites = e.sites := by
    rcases perform_of_site? calls e with given | ⟨-, same⟩
    · rw [opens] at given
      cases given
    · rw [same, Outcome.state_fail]
  cases op with
  | addMine yieldRate => exact refused rfl
  | addRefinery efficiency => exact refused rfl
  | setPopulation rebellion npcs =>
      rcases setPopulation_cases rebellion npcs e with
        ⟨-, same⟩ | ⟨-, ⟨failure, -, same⟩ | ⟨n, -, same⟩⟩
      all_goals
        rw [Operation.perform, same]
        rfl
  | tick trauma => exact sites_tick trauma e
  | advance times trauma =>
      simp only [Operation.perform, Outcome.map, Economy.advance]
      cases times.toInt with
      | ok n => exact sites_ticks trauma _ e
      | error failure => rfl
  | cleanse => rfl

/-- What there is of sites once sites of these kinds have been opened. -/
structure Opened (kinds : List Site) (s : Sites α) : Prop where
  mines : s.mines.map (·.number) = (callsFor .mine kinds).map (·.2)
  refineries : s.refineries.map (·.number) = (callsFor .refinery kinds).map (·.2)
  next : s.next = kinds.length + 1
  mineCount : s.mineCount = s.mines.length
  refineryCount : s.refineryCount = s.refineries.length
  yields : ∀ m ∈ s.mines, 0 ≤ m.yieldRate
  efficiencies : ∀ r ∈ s.refineries, 0 ≤ r.efficiency ∧ r.efficiency ≤ 1

namespace Opened

variable {kinds : List Site} {e : Economy α}

theorem new (config : Config α) (plagueConfig : Plague.Config α) (heard : Bool) :
    Opened [] (Economy.new config plagueConfig heard).sites where
  mines := rfl
  refineries := rfl
  next := rfl
  mineCount := rfl
  refineryCount := rfl
  yields := List.forall_mem_nil _
  efficiencies := List.forall_mem_nil _

theorem openMine (h : Opened kinds e.sites) {yieldRate : α} (nonneg : 0 ≤ yieldRate) :
    Opened (kinds ++ [.mine]) (e.openMine yieldRate).state.sites where
  mines := by
    rw [callsFor_concat, List.map_append, ← h.mines, if_pos rfl, List.map_singleton, ← h.next]
    exact List.map_append
  refineries := by
    rw [callsFor_concat, List.map_append, ← h.refineries]
    exact (List.append_nil _).symm
  next := by
    rw [List.length_append, List.length_singleton, ← h.next]
    rfl
  mineCount := by simp [Economy.openMine, withMine, sites]
  refineryCount := h.refineryCount
  yields m member := by
    rcases List.mem_append.mp member with earlier | last
    · exact h.yields m earlier
    · rw [List.mem_singleton.mp last]
      exact nonneg
  efficiencies := h.efficiencies

theorem openRefinery (h : Opened kinds e.sites) {efficiency : α}
    (range : 0 ≤ efficiency ∧ efficiency ≤ 1) :
    Opened (kinds ++ [.refinery]) (e.openRefinery efficiency).state.sites where
  mines := by
    rw [callsFor_concat, List.map_append, ← h.mines]
    exact (List.append_nil _).symm
  refineries := by
    rw [callsFor_concat, List.map_append, ← h.refineries, if_pos rfl, List.map_singleton, ← h.next]
    exact List.map_append
  next := by
    rw [List.length_append, List.length_singleton, ← h.next]
    rfl
  mineCount := h.mineCount
  refineryCount := by simp [Economy.openRefinery, withRefinery, sites]
  yields := h.yields
  efficiencies r member := by
    rcases List.mem_append.mp member with earlier | last
    · exact h.efficiencies r earlier
    · rw [List.mem_singleton.mp last]
      exact range

theorem perform (h : Opened kinds e.sites) {op : Operation α} {site : Site}
    (opens : op.opens? = some site) :
    op.site? = some site ∧ (op.perform e).answer = .ok (named (site, kinds.length + 1)) ∧
      Opened (kinds ++ [site]) (op.perform e).state.sites := by
  have next : e.nextNumber = kinds.length + 1 := h.next
  rw [← next]
  cases op with
  | addMine yieldRate =>
      rcases addMine_cases yieldRate e with ⟨fits, same⟩ | ⟨large, -⟩
      · obtain rfl : Site.mine = site := by simpa [Operation.opens?, fits] using opens
        rw [Operation.perform, same]
        exact ⟨rfl, rfl, h.openMine (Scalar.le_atLeast Scalar.defined_zero _)⟩
      · simp [Operation.opens?, large] at opens
  | addRefinery efficiency =>
      rcases addRefinery_cases efficiency e with ⟨fits, same⟩ | ⟨large, -⟩
      · obtain rfl : Site.refinery = site := by simpa [Operation.opens?, fits] using opens
        rw [Operation.perform, same]
        exact ⟨rfl, rfl, h.openRefinery
          ⟨Scalar.le_clamp Scalar.zero_lt_one _, Scalar.clamp_le Scalar.zero_lt_one _⟩⟩
      · simp [Operation.opens?, large] at opens
  | _ => cases opens

end Opened

/-! ## Runs -/

/-- What the calls for a site returned in a run, one after the other. -/
def openings : List (Operation α) → Economy α → List (Reply α)
  | [], _ => []
  | op :: ops, e =>
      (if op.site?.isSome then (op.perform e).answer.toOption.toList else []) ++
        openings ops (op.perform e).state

/-- What opens no site returns none. -/
theorem openings_cons_of_none {op : Operation α} (opens : op.opens? = none)
    (ops : List (Operation α)) (e : Economy α) :
    openings (op :: ops) e = openings ops (op.perform e).state := by
  rw [openings]
  cases calls : op.site? with
  | none => rfl
  | some site =>
      rcases Operation.perform_of_site? calls e with given | ⟨-, same⟩
      · rw [opens] at given
        cases given
      · rw [same]
        rfl

theorem Opened.after {kinds : List Site} {e : Economy α} (h : Opened kinds e.sites)
    (ops : List (Operation α)) :
    openings ops e = ((opened ops).zipIdx (kinds.length + 1)).map named ∧
      Opened (kinds ++ opened ops) (after Operation.perform ops e).sites := by
  induction ops generalizing kinds e with
  | nil => exact ⟨rfl, (List.append_nil kinds).symm ▸ h⟩
  | cons op ops ih =>
      cases opens : op.opens? with
      | none =>
          have kept := op.sites_perform opens e
          rw [openings_cons_of_none opens, opened, List.filterMap_cons_none opens]
          exact ih (kept ▸ h)
      | some site =>
          obtain ⟨calls, answered, now⟩ := h.perform opens
          obtain ⟨later, last⟩ := ih now
          rw [List.length_append, List.length_singleton] at later
          rw [List.append_assoc] at last
          rw [openings, calls, opened, List.filterMap_cons_some opens, List.zipIdx_cons,
            List.map_cons, answered]
          exact ⟨congrArg (_ :: ·) later, last⟩

/-- The sites after a run, and the ids that were given in it. -/
structure Numbered (ops : List (Operation α)) (start : Economy α) (e : Economy α) : Prop where
  /-- Each call for a site that returns is answered with its number among these calls. -/
  given : openings ops start = ((opened ops).zipIdx 1).map named
  fresh : (openings ops start).Nodup
  /-- The next call for a site takes the next number, unless its figure overflows. -/
  next : ∀ op : Operation α, ∀ site, op.site? = some site →
    (op.opens? = some site ∧
        (op.perform e).answer = .ok (named (site, (openings ops start).length + 1))) ∨
      (op.opens? = none ∧ op.perform e = .fail .overflow e)
  /-- The sites are those that the calls were answered with. -/
  held : ((e.mines.map (·.id) ++ e.refineries.map (·.id)).map .site).Perm (openings ops start)
  shared : (e.mines.map (·.number) ++ e.refineries.map (·.number)).Perm
    (List.range' 1 (e.mines.length + e.refineries.length))
  minesAscending : (e.mines.map (·.number)).Pairwise (· < ·)
  refineriesAscending : (e.refineries.map (·.number)).Pairwise (· < ·)
  mineCount : e.status.mines = e.mines.length
  refineryCount : e.status.refineries = e.refineries.length
  yields : ∀ m ∈ e.mines, 0 ≤ m.yieldRate
  efficiencies : ∀ r ∈ e.refineries, 0 ≤ r.efficiency ∧ r.efficiency ≤ 1
  untouched : ∀ op : Operation α, op.opens? = none →
    (op.perform e).state.mines = e.mines ∧ (op.perform e).state.refineries = e.refineries

namespace Opened

variable {kinds : List Site} {e : Economy α} (h : Opened kinds e.sites)
include h

theorem numbers_perm : (e.mines.map (·.number) ++ e.refineries.map (·.number)).Perm
    (List.range' 1 kinds.length) := by
  have mines : e.mines.map (·.number) = (callsFor .mine kinds).map (·.2) := h.mines
  have refineries : e.refineries.map (·.number) = (callsFor .refinery kinds).map (·.2) :=
    h.refineries
  rw [mines, refineries, ← List.map_append, ← List.zipIdx_map_snd 1 kinds]
  exact (callsFor_perm kinds).map _

theorem length_eq : e.mines.length + e.refineries.length = kinds.length := by
  simpa using h.numbers_perm.length_eq

end Opened

/-- Figures too large for a fraction take no number. -/
example :
    let ops : List (Operation Amount) :=
      [.addMine (.whole (10 ^ 400)), .addMine (.whole 3), .addRefinery (.whole (10 ^ 400)),
       .tick none, .addRefinery (.flag true)]
    let start : Economy Amount := Economy.new ⟨1, 10, 5⟩ ⟨2, 1, 100, 75, 0.5, 0.35, 0.4, 50⟩
    let e := after Operation.perform ops start
    (e.mines.map (·.id), e.refineries.map (·.id)) = (["mine-1"], ["refinery-2"]) := by
  decide +kernel

end Colony.Economy
