import Colony.Proofs.Chance.Draw
import Colony.Proofs.Value.Closed
import Colony.Scalar.Rational

/-!
# Keys do not collide

The key of a counter is the name of its stream, a bar, and the compact text of
its scope; the text of a draw is the salt, the seed, the key and the number of
the draw between bars.  The names of streams and the texts in scopes may hold
bars themselves.  Still each part can be told from the whole, as long as no
text in a scope has a low half right after a high one: such a pair is written
like the character that it makes up.
-/

namespace Colony.Chance

open Value (Keyed Alike Closed textKeyed compacted)

variable {α : Type}

/-- A scope under text keys; no scope is the one without entries. -/
def scopeOf (entries : Option (List (Points × Value α))) : Scope α := textKeyed (entries.getD [])

/-! ## Keys -/

section Keys

variable [Scalar α]

theorem mapM_underText (entries : List (Points × Value α)) :
    (textKeyed entries).mapM underText = .ok entries := by
  rw [Answer.mapM_eq_ok, textKeyed, List.forall₂_map_left_iff]
  refine List.forall₂_same.mpr fun entry _ => ?_
  rw [underText, Value.shown?_ofPoints]
  rfl

theorem scopeText_eq {entries : Option (List (Points × Value α))}
    (keyed : Keyed (.dict (scopeOf entries))) :
    scopeText (scopeOf entries) = .ok (compacted (.dict (scopeOf entries))) := by
  have written : Value.Written (.dict (scopeOf entries)) := keyed.written
  rw [Value.Written] at written
  obtain ⟨distinct, -, -⟩ := Value.keyed_dict_iff.mp keyed
  unfold scopeText
  split
  · rename_i empty
    rw [List.isEmpty_iff.mp empty] at written ⊢
    rw [← written]
    rfl
  · rw [scopeOf, mapM_underText]
    simp only [bind, Except.bind]
    rw [Table.ofList_of_nodup distinct]
    exact written

theorem counterKey_eq (stream : Points) {entries : Option (List (Points × Value α))}
    (keyed : Keyed (.dict (scopeOf entries))) :
    counterKey stream (scopeOf entries) =
      .ok (stream ++ bar ++ Points.ofString (compacted (.dict (scopeOf entries)))) := by
  rw [counterKey, scopeText_eq keyed]
  rfl

end Keys

theorem key_eq_iff (stream stream' : Points) {text text' : String} (closed : Closed text)
    (closed' : Closed text') :
    stream ++ bar ++ Points.ofString text = stream' ++ bar ++ Points.ofString text' ↔
      stream = stream' ∧ text = text' := by
  constructor
  · intro same
    rw [List.append_assoc, List.append_assoc] at same
    obtain ⟨streams, texts⟩ := Reads.split_at_bar closed closed' same
    exact ⟨streams, String.toList_inj.mp texts⟩
  · rintro ⟨rfl, rfl⟩
    rfl

/-! ## Texts of draws -/

theorem split_at_first {β : Type} {mark : β} {s t r u : List β} (hs : mark ∉ s) (ht : mark ∉ t)
    (same : s ++ mark :: r = t ++ mark :: u) : s = t ∧ r = u := by
  have first : ∀ {s r more u : List β}, mark ∉ s ++ more → mark :: r = more ++ mark :: u →
      more = [] ∧ r = u := by
    intro s r more u free rest
    cases more with
    | nil => exact ⟨rfl, (List.cons.inj rest).2⟩
    | cons c more =>
        rw [(List.cons.inj rest).1] at free
        exact absurd (List.mem_append_right s List.mem_cons_self) free
  rcases List.append_eq_append_iff.mp same with ⟨more, rfl, rest⟩ | ⟨more, rfl, rest⟩
  · obtain ⟨rfl, texts⟩ := first ht rest
    exact ⟨(List.append_nil s).symm, texts⟩
  · obtain ⟨rfl, texts⟩ := first hs rest
    exact ⟨List.append_nil t, texts.symm⟩

theorem split_at_last {β : Type} {mark : β} {s t r u : List β} (hr : mark ∉ r) (hu : mark ∉ u)
    (same : s ++ mark :: r = t ++ mark :: u) : s = t ∧ r = u := by
  have reversed := congrArg List.reverse same
  simp only [List.reverse_append, List.reverse_cons, List.append_assoc, List.singleton_append]
    at reversed
  obtain ⟨last, front⟩ := split_at_first (by simpa using hr) (by simpa using hu) reversed
  exact ⟨List.reverse_inj.mp front, List.reverse_inj.mp last⟩

theorem bar_not_mem_of_unmarked {t : String} (unmarked : Text.Unmarked t) :
    Point.char '|' ∉ Points.ofString t := by
  intro member
  obtain ⟨c, listed, same⟩ := List.mem_map.mp member
  rw [Point.char.inj same] at listed
  cases unmarked '|' listed

theorem toString_injective {n m : Nat}
    (same : Points.ofString (toString n) = Points.ofString (toString m)) : n = m := by
  have texts : (toString (n : Int)) = toString (m : Int) := Points.ofString_injective same
  rw [Int.toString_eq_repr, Int.toString_eq_repr] at texts
  exact Int.ofNat.inj (Int.repr_inj.mp texts)

namespace Seed

theorem text?_number {n : Int} {text : String} (written : (number n).text? = some text) :
    text = toString n := by
  rw [text?, Decimal.writeInteger?] at written
  split at written
  · exact (Option.some_inj.mp written).symm
  · cases written

theorem unmarked_text? {seed : Seed} {text : String} (written : seed.text? = some text) :
    Text.Unmarked text := by
  cases seed with
  | number n =>
      rw [text?_number written]
      exact .whole n
  | flag b =>
      cases written
      cases b <;> decide

theorem text?_injective {seed other : Seed} {text : String} (written : seed.text? = some text)
    (written' : other.text? = some text) : seed = other := by
  have numeral : ∀ (n : Int) (b : Bool), (flag b).text? ≠ some (toString n) := by
    intro n b same
    have digit : ∀ c ∈ (if b then "True" else "False").toList, Text.isNumeral c = true := by
      intro c member
      rw [Option.some_inj.mp same, Int.toString_eq_repr] at member
      exact Text.isNumeral_of_mem_repr member
    cases b with
    | true => cases digit 'T' (by decide)
    | false => cases digit 'F' (by decide)
  have flags : ∀ b b', (flag b).text? = (flag b').text? → b = b' := by decide
  cases seed with
  | number n =>
      have numbered := text?_number written
      cases other with
      | number m =>
          have same : toString n = toString m := numbered.symm.trans (text?_number written')
          rw [Int.toString_eq_repr, Int.toString_eq_repr] at same
          exact congrArg number (Int.repr_inj.mp same)
      | flag b => exact absurd (numbered ▸ written') (numeral n b)
  | flag b =>
      cases other with
      | number m => exact absurd (text?_number written' ▸ written) (numeral m b)
      | flag b' => exact congrArg flag (flags b b' (written.trans written'.symm))

end Seed

namespace Streams

variable {s t : Streams} {key key' text text' : Points} {n m : Nat}

/-- Of two draws under one salt whose texts can be written, the texts tell the seeds, the keys and
the numbers. -/
theorem drawText?_eq_iff (salt : s.salt = t.salt) (made : s.drawText? key n = some text)
    (made' : t.drawText? key' m = some text') :
    text = text' ↔ s.seed = t.seed ∧ key = key' ∧ n = m := by
  constructor
  · rintro rfl
    obtain ⟨given, seed, salted, seeded, rfl⟩ := drawText?_eq_some_iff.mp made
    obtain ⟨given', seed', salted', seeded', same⟩ := drawText?_eq_some_iff.mp made'
    obtain rfl : given' = given := Option.some_inj.mp (salted'.symm.trans (salt ▸ salted))
    simp only [List.append_assoc, List.append_cancel_left_eq] at same
    obtain ⟨seeds, rest⟩ := split_at_first
      (bar_not_mem_of_unmarked (Seed.unmarked_text? seeded'))
      (bar_not_mem_of_unmarked (Seed.unmarked_text? seeded)) same
    obtain ⟨keys, numbers⟩ := split_at_last (bar_not_mem_of_unmarked (.natural m))
      (bar_not_mem_of_unmarked (.natural n)) rest
    obtain rfl := Points.ofString_injective seeds
    exact ⟨Seed.text?_injective seeded seeded', keys.symm, (toString_injective numbers).symm⟩
  · rintro ⟨seed, rfl, rfl⟩
    rw [drawText?, ← salt, ← seed] at made'
    exact Option.some_inj.mp (made.symm.trans made')

end Streams

/-! ## Keys and texts apart -/

section Apart

variable [Scalar α]

/-- Two draws under one salt have one key just if their streams have one name and their scopes
differ in nothing but the order of entries; and where both texts can be written, one text is
digested for both just if moreover they have one seed and one number. -/
theorem keys_apart (stream stream' : Points) {scope scope' : Option (List (Points × Value α))}
    (keyed : Keyed (.dict (scopeOf scope))) (keyed' : Keyed (.dict (scopeOf scope')))
    {s t : Streams} (salt : s.salt = t.salt) :
    ∃ key key', counterKey stream (scopeOf scope) = .ok key ∧
      counterKey stream' (scopeOf scope') = .ok key' ∧
      (key = key' ↔ stream = stream' ∧ Alike (.dict (scopeOf scope)) (.dict (scopeOf scope'))) ∧
      ∀ n m text text', s.drawText? key n = some text → t.drawText? key' m = some text' →
        (text = text' ↔ s.seed = t.seed ∧ stream = stream' ∧
          Alike (.dict (scopeOf scope)) (.dict (scopeOf scope')) ∧ n = m) := by
  have keys := key_eq_iff stream stream' keyed.reads keyed'.reads
  rw [keyed.compact_eq_iff keyed'] at keys
  refine ⟨_, _, counterKey_eq stream keyed, counterKey_eq stream' keyed', keys, ?_⟩
  intro n m text text' made made'
  rw [Streams.drawText?_eq_iff salt made made', keys, and_assoc]

end Apart

/-- Bars in the name of a stream and in its scope, half of a pair in the scope too; the inner
entries are put in two orders. -/
theorem keys_apart_at_bars :
    let half : Torn := ⟨[.half ⟨0xd83d, by decide⟩], rfl⟩
    let inner : List (Points × Value Rat) := [("|\x7b", .torn half), ("", .null)]
    let scope : Option (List (Points × Value Rat)) := some [("a", .dict (textKeyed inner))]
    let moved : Option (List (Points × Value Rat)) := some [("a", .dict (textKeyed inner.reverse))]
    let s : Streams := ⟨some "salt|", .number 7, []⟩
    (Keyed (.dict (scopeOf scope)) ∧ Keyed (.dict (scopeOf moved))) ∧
      ∃ key key' text text', counterKey "x|\x7b\x7d" (scopeOf scope) = .ok key ∧
        counterKey "x|\x7b\x7d" (scopeOf moved) = .ok key' ∧ key = key' ∧
        s.drawText? key 1 = some text ∧ s.drawText? key' 2 = some text' ∧ text ≠ text' := by
  intro half inner scope moved s
  have unpaired : ∀ entry ∈ inner, Value.Unpaired entry.1 := by decide
  have each : ∀ entry ∈ inner, Keyed entry.2 := by
    simp [inner, Keyed.null, Keyed.torn half (by decide)]
  have keyed : Keyed (.dict (scopeOf scope)) := Value.keyed_dict_iff.mpr
    ⟨by decide, by decide, List.forall_mem_singleton.mpr (.dict inner (by decide) unpaired each)⟩
  have keyed' : Keyed (.dict (scopeOf moved)) := Value.keyed_dict_iff.mpr
    ⟨by decide, by decide, List.forall_mem_singleton.mpr
      (.dict inner.reverse (by decide) (by simpa using unpaired) (by simpa using each))⟩
  have alike : Alike (.dict (textKeyed inner)) (.dict (textKeyed inner.reverse)) :=
    Value.alike_dict_iff.mpr
      ⟨inner, .cons ⟨rfl, .torn half⟩ (.cons ⟨rfl, .null⟩ .nil), (List.reverse_perm inner).symm⟩
  have alikeScopes : Alike (.dict (scopeOf scope)) (.dict (scopeOf moved)) :=
    Value.alike_dict_iff.mpr
      ⟨[("a", .dict (textKeyed inner.reverse))], .cons ⟨rfl, alike⟩ .nil, .refl _⟩
  have made : ∀ key n, ∃ text, s.drawText? key n = some text := fun key n =>
    ⟨_, Streams.drawText?_eq_some_iff.mpr ⟨_, _, rfl, Decimal.writeInteger?_of_lt
      (by decide : (7 : Int).natAbs < 10 ^ 1) (by decide), rfl⟩⟩
  obtain ⟨key, key', named, named', same, drawn⟩ := keys_apart "x|\x7b\x7d"
    "x|\x7b\x7d" keyed keyed' (rfl : s.salt = s.salt)
  obtain ⟨text, first⟩ := made key 1
  obtain ⟨text', second⟩ := made key' 2
  refine ⟨⟨keyed, keyed'⟩, key, key', text, text', named, named', same.mpr ⟨rfl, alikeScopes⟩,
    first, second, fun equal => ?_⟩
  obtain ⟨-, -, -, number⟩ := (drawn 1 2 text text' first second).mp equal
  cases number

/-- One character is written like the two halves that make it up, and a seed of 1 is not written
like the truth value. -/
theorem keys_collide_at_pair :
    let pair : Torn := ⟨[.half ⟨0xd83d, by decide⟩, .half ⟨0xde00, by decide⟩], rfl⟩
    let whole : Scope Rat := scopeOf (some [("a", .text (String.singleton (Char.ofNat 0x1f600)))])
    let halves : Scope Rat := scopeOf (some [("a", .torn pair)])
    ¬ Alike (.dict whole) (.dict halves) ∧ counterKey "s" whole = counterKey "s" halves ∧
      ∀ (salt key : Points) (n : Nat), ∃ text text',
        (⟨some salt, .number 1, []⟩ : Streams).drawText? key n = some text ∧
          (⟨some salt, .flag true, []⟩ : Streams).drawText? key n = some text' ∧ text ≠ text' := by
  intro pair whole halves
  refine ⟨fun alike => ?_, rfl, fun salt key n => ?_⟩
  · obtain ⟨matching, each, moved⟩ := Value.alike_dict_iff.mp alike
    obtain rfl := List.perm_singleton.mp moved
    obtain ⟨⟨-, values⟩, -⟩ := List.forall₂_cons.mp each
    cases values
  · have made : (⟨some salt, .number 1, []⟩ : Streams).drawText? key n = some _ :=
      Streams.drawText?_eq_some_iff.mpr ⟨_, _, rfl, Decimal.writeInteger?_of_lt
        (by decide : (1 : Int).natAbs < 10 ^ 1) (by decide), rfl⟩
    have made' : (⟨some salt, .flag true, []⟩ : Streams).drawText? key n = some _ :=
      Streams.drawText?_eq_some_iff.mpr ⟨_, _, rfl, rfl, rfl⟩
    refine ⟨_, _, made, made', fun same => ?_⟩
    obtain ⟨seeds, -⟩ := (Streams.drawText?_eq_iff (s := ⟨some salt, .number 1, []⟩)
      (t := ⟨some salt, .flag true, []⟩) rfl made made').mp same
    cases seeds

end Colony.Chance
