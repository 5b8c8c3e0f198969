/-!
# Code points

A text is a list of code points.  Besides characters there may be halves of
surrogate pairs among them, which are no characters.  A text with a half
inside compares and is written in escapes like any other; only it cannot be
encoded, so no `String` holds it.
-/

namespace Colony

/-- A high half below U+DC00, or a low half from there on. -/
structure Half where
  code : Nat
  inRange : 0xd800 ≤ code ∧ code < 0xe000
  deriving DecidableEq

inductive Point where
  | char (c : Char)
  | half (h : Half)
  deriving DecidableEq

abbrev Points := List Point

namespace Point

def code : Point → Nat
  | .char c => c.toNat
  | .half h => h.code

def char? : Point → Option Char
  | .char c => some c
  | .half _ => none

def isHigh (p : Point) : Bool := 0xd800 ≤ p.code && p.code < 0xdc00

def isLow (p : Point) : Bool := 0xdc00 ≤ p.code && p.code < 0xe000

theorem code_injective {p q : Point} (same : p.code = q.code) : p = q := by
  have outside : ∀ (c : Char) (h : Half), c.toNat ≠ h.code := by
    intro c h
    have valid : c.toNat < 0xd800 ∨ 0xdfff < c.toNat ∧ c.toNat < 0x110000 := c.valid
    have range := h.inRange
    omega
  cases p with
  | char c =>
      cases q with
      | char d => rw [Char.toNat_inj.mp same]
      | half h => exact absurd same (outside c h)
  | half h =>
      cases q with
      | char c => exact absurd same.symm (outside c h)
      | half g =>
          cases h
          cases g
          cases same
          rfl

end Point

namespace Points

def ofString (s : String) : Points := s.toList.map .char

instance : Coe String Points := ⟨ofString⟩

/-- The text as a string, if there is no half in it. -/
def string? (ps : Points) : Option String := (ps.mapM Point.char?).map String.ofList

/-- Texts in the order of their code points. -/
def before (ps qs : Points) : Bool := decide (ps.map Point.code < qs.map Point.code)

theorem string?_ofString (s : String) : string? (ofString s) = some s := by
  have chars : ∀ cs : List Char, (cs.map Point.char).mapM Point.char? = some cs := by
    intro cs
    induction cs with
    | nil => rfl
    | cons c cs ih => simp [List.mapM_cons, Point.char?, ih]
  simp [string?, ofString, chars]

theorem eq_ofString {ps : Points} {s : String} (h : string? ps = some s) : ps = ofString s := by
  have chars : ∀ {qs : Points} {cs : List Char}, qs.mapM Point.char? = some cs →
      qs = cs.map .char := by
    intro qs
    induction qs with
    | nil =>
        rintro cs ⟨⟩
        rfl
    | cons q qs ih =>
        intro cs mapped
        rw [List.mapM_cons] at mapped
        obtain ⟨c, first, rest⟩ := Option.bind_eq_some_iff.mp mapped
        obtain ⟨ds, others, same⟩ := Option.bind_eq_some_iff.mp rest
        cases same
        cases q with
        | char d =>
            cases first
            rw [List.map_cons, ← ih others]
        | half h => cases first
  obtain ⟨cs, mapped, rfl⟩ := Option.map_eq_some_iff.mp h
  rw [ofString, String.toList_ofList]
  exact chars mapped

theorem ofString_injective {s t : String} (same : ofString s = ofString t) : s = t :=
  Option.some_inj.mp (by rw [← string?_ofString s, ← string?_ofString t, same])

end Points

end Colony
