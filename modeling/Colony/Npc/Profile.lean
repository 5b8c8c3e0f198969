import Colony.Npc.Role

/-!
# Profiles

The part of an NPC's condition that its readiness to rebel depends on.
-/

namespace Colony

structure Profile (α : Type) where
  npcId : String
  trauma : α
  efficiency : α
  morale : α
  memories : Int := 0

/-- Someone without trauma, halfway in efficiency and morale. -/
def Profile.fresh {α : Type} [Scalar α] (id : String) : Profile α := ⟨id, 0, 0.5, 0.5, 0⟩

end Colony
