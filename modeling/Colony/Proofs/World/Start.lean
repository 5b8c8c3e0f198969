import Colony.Proofs.Answer
import Colony.World

/-!
# Worlds to start with

What the settings make of a new world: nobody on its roster, no trauma, an
economy at its beginning, and streams that were never drawn from.
-/

namespace Colony.World

variable {α : Type} [Scalar α] {settings : Settings α}

structure Fresh (settings : Settings α) (w : World α) : Prop where
  rebellion : settings.rebellion = .ok w.rebellion
  cleansing : settings.cleansing = .ok w.cleansing
  defaults : settings.roster = .ok w.roster.defaults
  nobody : w.roster.npcs = []
  trauma : w.trauma = []
  economy : ∃ config plague, settings.economy = .ok config ∧ settings.plague = .ok plague ∧
    w.economy = Economy.new config plague
  streams : w.streams = ⟨(settings.value .salt).shown?, .number settings.seed, []⟩
  unscripted : w.script = none

theorem fresh_of_new {w : World α} (made : World.new settings = .ok w) : Fresh settings w := by
  obtain ⟨rebellion, readRebellion, made⟩ := Answer.bind_eq_ok.mp made
  obtain ⟨cleansing, readCleansing, made⟩ := Answer.bind_eq_ok.mp made
  obtain ⟨defaults, readDefaults, made⟩ := Answer.bind_eq_ok.mp made
  obtain ⟨economy, readEconomy, made⟩ := Answer.bind_eq_ok.mp made
  obtain ⟨plague, readPlague, made⟩ := Answer.bind_eq_ok.mp made
  cases made
  exact ⟨readRebellion, readCleansing, readDefaults, rfl, rfl,
    ⟨economy, plague, readEconomy, readPlague, rfl⟩, rfl, rfl⟩

theorem start_eq_ok {start : Observed (World α) α} :
    World.start settings = .ok start ↔
      ∃ w c, Chronicle.new settings.chronicle = .ok c ∧ World.new settings = .ok w ∧
        start = ⟨w, some c⟩ := by
  rw [World.start, Answer.bind_eq_ok, exists_comm]
  refine exists_congr fun c => ?_
  rw [Answer.bind_eq_ok]
  constructor
  · rintro ⟨opened, w, made, same⟩
    exact ⟨w, opened, made, (Except.ok.inj same).symm⟩
  · rintro ⟨w, opened, made, rfl⟩
    exact ⟨opened, w, made, rfl⟩

end Colony.World
