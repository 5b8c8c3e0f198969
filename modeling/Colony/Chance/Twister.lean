/-!
# The Mersenne twister

A generator of 32-bit words with a state of 624 words.  A seed of any length
fills the state; the first words drawn then come from the state after one
twist.  Only the first two words after seeding are ever used here, as the 53
bits of one fraction.
-/

namespace Colony.Chance.Twister

def size : Nat := 624

def word (state : Array UInt32) (i : Nat) : UInt32 := state.getD i 0

/-- Appends words by the linear recurrence that spreads a single seed word. -/
def spread : Nat → Array UInt32 → Array UInt32
  | 0, state => state
  | count + 1, state =>
      let last := word state (state.size - 1)
      let mixed := last ^^^ (last >>> 30)
      spread count (state.push ((1812433253 : UInt32) * mixed + state.size.toUInt32))

/-- The state before the words of a key are mixed in. -/
def basis : Array UInt32 := spread (size - 1) #[19650218]

structure Cursor where
  state : Array UInt32
  index : Nat

def Cursor.next (c : Cursor) : Cursor :=
  if c.index + 1 < size then { c with index := c.index + 1 }
  else ⟨c.state.setIfInBounds 0 (word c.state (size - 1)), 1⟩

/-- The word at the cursor mixed with the one before it. -/
def Cursor.mixed (c : Cursor) (factor : UInt32) : UInt32 :=
  let before := word c.state (c.index - 1)
  word c.state c.index ^^^ ((before ^^^ (before >>> 30)) * factor)

def Cursor.put (c : Cursor) (w : UInt32) : Cursor :=
  Cursor.next { c with state := c.state.setIfInBounds c.index w }

/-- Mixes in the words of a key, from its word `j` on and over and over. -/
def mixKey (key : List UInt32) : Nat → Nat → Cursor → Cursor
  | 0, _, c => c
  | count + 1, j, c =>
      mixKey key count (if j + 1 < key.length then j + 1 else 0)
        (c.put (c.mixed 1664525 + key.getD j 0 + j.toUInt32))

def mixIndex : Nat → Cursor → Cursor
  | 0, c => c
  | count + 1, c => mixIndex count (c.put (c.mixed 1566083941 - c.index.toUInt32))

def seeded (key : List UInt32) : Array UInt32 :=
  let first := mixKey key (max size key.length) 0 ⟨basis, 1⟩
  let second := mixIndex (size - 1) first
  second.state.setIfInBounds 0 0x80000000

/-- The new word at a place, from two neighbours and the word 397 places on. -/
def twisted (upper lower far : UInt32) : UInt32 :=
  let y := (upper &&& 0x80000000) ||| (lower &&& 0x7fffffff)
  far ^^^ (y >>> 1) ^^^ (if y &&& 1 = 1 then 0x9908b0df else 0)

def temper (x : UInt32) : UInt32 :=
  let x := x ^^^ (x >>> 11)
  let x := x ^^^ ((x <<< 7) &&& 0x9d2c5680)
  let x := x ^^^ ((x <<< 15) &&& 0xefc60000)
  x ^^^ (x >>> 18)

/-- The word drawn at a place of the first twist, where no new word is used yet. -/
def drawn (state : Array UInt32) (i : Nat) : UInt32 :=
  temper (twisted (word state i) (word state (i + 1)) (word state (i + 397)))

def fractions : Nat := 9007199254740992

/-- The first fraction of a key, counted in steps of one by `fractions`. -/
def fraction (key : List UInt32) : Nat :=
  let state := seeded key
  (drawn state 0 >>> 5).toNat * 67108864 + (drawn state 1 >>> 6).toNat

end Colony.Chance.Twister
