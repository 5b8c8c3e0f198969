import Colony.Proofs.Chance.Key

/-!
# Salts that run into seeds

In the text of a draw the salt stands before the seed and the stream as it is,
with bars of its own if it has any.  So two salts part all draws unless one of
them goes on where the other ends, with a bar and the seed of the other.  Then
what follows in the longer salt stands where the other has its stream, and the
streams that begin with it replay the draws under the longer salt.
-/

namespace Colony.Chance

variable {s t : Streams} {stream stream' : Points}

/-! ## What two draws share before their scopes -/

/-- The salt and the seed as they stand in the texts of draws. -/
structure Streams.Written (s : Streams) (salt : Points) (seed : String) : Prop where
  salt : s.salt = some salt
  seed : s.seed.text? = some seed

/-- What stands before the scope of a draw. -/
def opening (salt : Points) (seed : String) (stream : Points) : Points :=
  salt ++ bar ++ (Points.ofString seed ++ bar ++ stream)

/-- The salt of `t` goes on from that of `s`, with the seed of `s` and a rest between bars. -/
def Continues (s t : Streams) (rest : Points) : Prop :=
  ∃ salt seed longer, s.Written salt seed ∧ t.salt = some longer ∧
    longer ++ bar = opening salt seed rest

/-- Where `t` has the end of its salt, its seed and its stream, `s` has its stream. -/
def Replays (s t : Streams) (stream stream' : Points) : Prop :=
  ∃ rest seed, Continues s t rest ∧ t.seed.text? = some seed ∧
    stream = rest ++ (Points.ofString seed ++ bar ++ stream')

theorem exists_rest {β : Type} {mark : β} {a b more v w : List β} (unmarked : mark ∉ a)
    (same : a ++ mark :: v = more ++ mark :: (b ++ mark :: w)) :
    ∃ rest, more ++ [mark] = a ++ mark :: rest ∧ v = rest ++ (b ++ mark :: w) := by
  by_cases marked : mark ∈ more
  · obtain ⟨front, rest, rfl, unmarked'⟩ := List.eq_append_cons_of_mem marked
    rw [List.append_assoc] at same
    obtain ⟨rfl, rfl⟩ := split_at_first unmarked unmarked' same
    exact ⟨rest ++ [mark], by simp, by simp⟩
  · obtain ⟨rfl, rfl⟩ := split_at_first unmarked marked same
    exact ⟨[], rfl, rfl⟩

section Written

variable {salt salt' : Points} {seed seed' : String}
variable (written : s.Written salt seed) (written' : t.Written salt' seed')
include written written'

theorem replays_of_longer {more : Points} (differ : salt ≠ salt') (longer : salt' = salt ++ more)
    (rest : bar ++ (Points.ofString seed ++ bar ++ stream) =
      more ++ (bar ++ (Points.ofString seed' ++ bar ++ stream'))) :
    Replays s t stream stream' := by
  simp only [List.append_assoc, bar_append] at rest
  cases more with
  | nil => exact absurd (longer.trans (List.append_nil salt)).symm differ
  | cons p more =>
      obtain ⟨rfl, same⟩ := List.cons.inj rest
      obtain ⟨ending, salts, streams⟩ := exists_rest
        (bar_not_mem_of_unmarked (Seed.unmarked_text? written.seed)) same
      refine ⟨ending, seed', ⟨salt, seed, salt', written, written'.salt, ?_⟩, written'.seed, ?_⟩
      · rw [longer, opening]
        simp only [List.append_assoc, bar_append, List.cons_append, ← salts]
        rfl
      · simp only [streams, List.append_assoc, bar_append]

theorem opening_eq_of_replays (replays : Replays s t stream stream') :
    opening salt seed stream = opening salt' seed' stream' := by
  obtain ⟨rest, text, ⟨front, first, longer, begun, salted, continued⟩, seeded, rfl⟩ := replays
  obtain rfl := Option.some_inj.mp (begun.salt.symm.trans written.salt)
  obtain rfl := Option.some_inj.mp (begun.seed.symm.trans written.seed)
  obtain rfl := Option.some_inj.mp (salted.symm.trans written'.salt)
  obtain rfl := Option.some_inj.mp (seeded.symm.trans written'.seed)
  rw [opening, opening, continued, opening]
  simp only [List.append_assoc]

theorem opening_eq_iff (differ : salt ≠ salt') :
    opening salt seed stream = opening salt' seed' stream' ↔
      Replays s t stream stream' ∨ Replays t s stream' stream := by
  constructor
  · intro same
    rw [opening, opening, List.append_assoc salt, List.append_assoc salt'] at same
    rcases List.append_eq_append_iff.mp same with ⟨more, longer, rest⟩ | ⟨more, longer, rest⟩
    · exact .inl (replays_of_longer written written' differ longer rest)
    · exact .inr (replays_of_longer written' written differ.symm longer rest)
  · rintro (replays | replays)
    · exact opening_eq_of_replays written written' replays
    · exact (opening_eq_of_replays written' written replays).symm

end Written

/-! ## Texts of draws -/

theorem Streams.drawText?_eq_opening {key text : Points} {n : Nat}
    (made : s.drawText? (stream ++ bar ++ key) n = some text) :
    ∃ salt seed, s.Written salt seed ∧
      text = opening salt seed stream ++ bar ++ key ++ (bar ++ Points.ofString (toString n)) := by
  obtain ⟨salt, seed, salted, seeded, rfl⟩ := drawText?_eq_some_iff.mp made
  exact ⟨salt, seed, ⟨salted, seeded⟩, by simp only [opening, List.append_assoc]⟩

theorem closed_scopeText {scope : Scope Amount} {text : String}
    (written : scopeText scope = .ok text) : Value.Closed text := by
  unfold scopeText at written
  split at written
  · cases written
    rfl
  · obtain ⟨entries, -, compacted⟩ := Answer.bind_eq_ok.mp written
    exact Value.closed_compact Amount.unmarked_text compacted

theorem drawText?_eq_iff_replays (differ : s.salt ≠ t.salt) {scope scope' : Scope Amount}
    {key key' text text' : Points} (named : counterKey stream scope = .ok key)
    (named' : counterKey stream' scope' = .ok key') {n m : Nat}
    (made : s.drawText? key n = some text) (made' : t.drawText? key' m = some text') :
    text = text' ↔ n = m ∧ scopeText scope = scopeText scope' ∧
      (Replays s t stream stream' ∨ Replays t s stream' stream) := by
  obtain ⟨body, written, rfl⟩ := Answer.map_eq_ok.mp named
  obtain ⟨body', written', rfl⟩ := Answer.map_eq_ok.mp named'
  obtain ⟨salt, seed, begun, rfl⟩ := Streams.drawText?_eq_opening made
  obtain ⟨salt', seed', begun', rfl⟩ := Streams.drawText?_eq_opening made'
  have salts : salt ≠ salt' := by
    rintro rfl
    exact differ (begun.salt.trans begun'.salt.symm)
  rw [← opening_eq_iff begun begun' salts, written, written', Except.ok.injEq]
  constructor
  · intro same
    obtain ⟨keys, numbers⟩ := split_at_last (bar_not_mem_of_unmarked (.natural n))
      (bar_not_mem_of_unmarked (.natural m)) same
    obtain ⟨openings, texts⟩ :=
      (key_eq_iff _ _ (closed_scopeText written) (closed_scopeText written')).mp keys
    exact ⟨toString_injective numbers, texts, openings⟩
  · rintro ⟨rfl, rfl, same⟩
    rw [same]

/-- The text is digested for a draw on some stream, in some scope. -/
def Digests (s : Streams) (text : String) : Prop :=
  ∃ (stream : Points) (scope : Scope Amount) (key : Points) (n : Nat),
    counterKey stream scope = .ok key ∧ s.Digested key n text

theorem Digests.legible {text : String} (h : Digests s text) : s.Legible := by
  obtain ⟨stream, scope, key, n, -, digested⟩ := h
  exact digested.legible.1

theorem Continues.both_digest {rest : Points} (continues : Continues s t rest)
    (legible : t.Legible) : ∃ text, Digests s text ∧ Digests t text := by
  have named : ∀ stream, counterKey stream ([] : Scope Amount) =
      .ok (stream ++ bar ++ Points.ofString (Value.braced "")) := fun _ => rfl
  obtain ⟨text, digested⟩ := legible.digested ("" ++ "|" ++ Value.braced "") 0
  have made' : t.drawText? ([] ++ bar ++ Points.ofString (Value.braced "")) 0 =
      some (Points.ofString text) := digested
  obtain ⟨salt', seed', begun', whole⟩ := Streams.drawText?_eq_opening made'
  have replays : Replays s t (rest ++ (Points.ofString seed' ++ bar ++ [])) [] :=
    ⟨rest, seed', continues, begun'.seed, rfl⟩
  obtain ⟨salt, seed, longer, begun, -, -⟩ := continues
  have same := opening_eq_of_replays begun begun' replays
  refine ⟨text, ⟨rest ++ (Points.ofString seed' ++ bar ++ []), [], _, 0, named _, ?_⟩,
    ⟨[], [], _, 0, named _, made'⟩⟩
  rw [Streams.Digested, whole, ← same, Streams.drawText?_eq_some_iff]
  exact ⟨salt, seed, begun.salt, begun.seed, by simp only [opening, List.append_assoc]⟩

theorem both_digest_iff (differ : s.salt ≠ t.salt) :
    (∃ text, Digests s text ∧ Digests t text) ↔
      s.Legible ∧ t.Legible ∧ ∃ rest, Continues s t rest ∨ Continues t s rest := by
  constructor
  · rintro ⟨text, first, second⟩
    refine ⟨first.legible, second.legible, ?_⟩
    obtain ⟨stream, scope, key, n, named, made⟩ := first
    obtain ⟨stream', scope', key', m, named', made'⟩ := second
    obtain ⟨-, -, replays⟩ := (drawText?_eq_iff_replays differ named named' made made').mp rfl
    rcases replays with ⟨rest, -, continues, -⟩ | ⟨rest, -, continues, -⟩
    · exact ⟨rest, .inl continues⟩
    · exact ⟨rest, .inr continues⟩
  · rintro ⟨legible, legible', rest, continues | continues⟩
    · exact continues.both_digest legible'
    · obtain ⟨text, second, first⟩ := continues.both_digest legible
      exact ⟨text, first, second⟩

theorem Continues.bar_mem {rest : Points} (continues : Continues s t rest) :
    ∃ longer, t.salt = some longer ∧ Point.char '|' ∈ longer := by
  obtain ⟨salt, seed, longer, -, salted, whole⟩ := continues
  refine ⟨longer, salted, ?_⟩
  -- The longer salt has one bar less than what stands on the right, which has two at least.
  have bars := congrArg (List.count (Point.char '|')) whole
  simp only [opening, List.count_append] at bars
  rw [← List.count_pos_iff]
  have one : List.count (Point.char '|') bar = 1 := by decide
  omega

/-- Two salts that differ part all draws just if neither continues the other, as it is with salts
that have no bar, or if one of them cannot be digested at all.  If one does, a draw is replayed by
the same number in the same scope on the stream that begins with what is left of the longer salt,
and by no other. -/
theorem salts_apart (differ : s.salt ≠ t.salt) :
    ((∀ text, ¬ (Digests s text ∧ Digests t text)) ↔
        s.Legible → t.Legible → ∀ rest, ¬ Continues s t rest ∧ ¬ Continues t s rest) ∧
      ((∀ salt, s.salt = some salt ∨ t.salt = some salt → Point.char '|' ∉ salt) →
        ∀ text, ¬ (Digests s text ∧ Digests t text)) ∧
      ∀ {stream stream' : Points} {scope scope' : Scope Amount} {key key' : Points},
        counterKey stream scope = .ok key → counterKey stream' scope' = .ok key' →
        ∀ n m text text', s.drawText? key n = some text → t.drawText? key' m = some text' →
          (text = text' ↔ n = m ∧ scopeText scope = scopeText scope' ∧
            (Replays s t stream stream' ∨ Replays t s stream' stream)) := by
  have apart : (∀ text, ¬ (Digests s text ∧ Digests t text)) ↔
      (s.Legible → t.Legible → ∀ rest, ¬ Continues s t rest ∧ ¬ Continues t s rest) := by
    have both := both_digest_iff differ
    constructor
    · intro none legible legible' rest
      refine ⟨fun continues => ?_, fun continues => ?_⟩
      · obtain ⟨text, common⟩ := both.mpr ⟨legible, legible', rest, .inl continues⟩
        exact none text common
      · obtain ⟨text, common⟩ := both.mpr ⟨legible, legible', rest, .inr continues⟩
        exact none text common
    · intro none text common
      obtain ⟨legible, legible', rest, continues⟩ := both.mp ⟨text, common⟩
      exact continues.elim (none legible legible' rest).1 (none legible legible' rest).2
  refine ⟨apart, fun unbarred => apart.mpr fun _ _ rest => ?_,
    fun named named' n m text text' made made' =>
      drawText?_eq_iff_replays differ named named' made made'⟩
  constructor
  · intro continues
    obtain ⟨salt, salted, barred⟩ := continues.bar_mem
    exact unbarred salt (.inr salted) barred
  · intro continues
    obtain ⟨salt, salted, barred⟩ := continues.bar_mem
    exact unbarred salt (.inl salted) barred

/-- The salt of the standard settings beside another, and one salt that continues another. -/
theorem salts_apart_or_not :
    let standard : Streams := ⟨some "epoch-rng-v1", .number 4, []⟩
    let other : Streams := ⟨some "other", .number 4, []⟩
    let short : Streams := ⟨some "a", .number 5, []⟩
    let long : Streams := ⟨some "a|5|b", .number 1, []⟩
    (standard.salt ≠ other.salt ∧ ∀ text, ¬ (Digests standard text ∧ Digests other text)) ∧
      short.salt ≠ long.salt ∧ ∃ text, short.Digested "b|1|k|\x7b\x7d" 3 text ∧
        long.Digested "k|\x7b\x7d" 3 text := by
  intro standard other short long
  have differ : standard.salt ≠ other.salt := by decide
  have differ' : short.salt ≠ long.salt := by decide
  have five : Seed.text? (.number 5) = some "5" :=
    Decimal.writeInteger?_of_lt (by decide : (5 : Int).natAbs < 10 ^ 1) (by decide)
  have one : Seed.text? (.number 1) = some "1" :=
    Decimal.writeInteger?_of_lt (by decide : (1 : Int).natAbs < 10 ^ 1) (by decide)
  have continues : Continues short long "b|" := ⟨"a", "5", "a|5|b", ⟨rfl, five⟩, rfl, by decide⟩
  have replays : Replays short long "b|1|k" "k" := ⟨"b|", "1", continues, one, by decide⟩
  have named : counterKey "b|1|k" ([] : Scope Amount) = .ok "b|1|k|\x7b\x7d" := rfl
  have named' : counterKey "k" ([] : Scope Amount) = .ok "k|\x7b\x7d" := rfl
  have legible : short.Legible := ⟨"a", "5", rfl, five⟩
  have legible' : long.Legible := ⟨"a|5|b", "1", rfl, one⟩
  obtain ⟨text, made⟩ := legible.digested "b|1|k|\x7b\x7d" 3
  obtain ⟨text', made'⟩ := legible'.digested "k|\x7b\x7d" 3
  have same := ((salts_apart differ').2.2 named named' 3 3 _ _ made made').mpr
    ⟨rfl, rfl, .inl replays⟩
  obtain rfl := Points.ofString_injective same
  refine ⟨⟨differ, (salts_apart differ).2.1 ?_⟩, differ', text, made, made'⟩
  rintro salt (⟨⟨⟩⟩ | ⟨⟨⟩⟩) <;> decide

/-- A salt with a bar replays a stream of a salt without one, draw by draw. -/
theorem salts_collide :
    let s : Streams := ⟨some "a|5", .number 1, []⟩
    let t : Streams := ⟨some "a", .number 5, []⟩
    s.salt ≠ t.salt ∧ (∃ text, Digests s text ∧ Digests t text) ∧
      ∃ rolled, (s.draw "k" ([] : Scope Amount)).answer = .ok rolled ∧
        (t.draw "1|k" ([] : Scope Amount)).answer = .ok rolled := by
  intro s t
  have five : Seed.text? (.number 5) = some "5" :=
    Decimal.writeInteger?_of_lt (by decide : (5 : Int).natAbs < 10 ^ 1) (by decide)
  have one : Seed.text? (.number 1) = some "1" :=
    Decimal.writeInteger?_of_lt (by decide : (1 : Int).natAbs < 10 ^ 1) (by decide)
  have made : s.Digested "k|\x7b\x7d" 0 "a|5|1|k|\x7b\x7d|0" :=
    Streams.drawText?_eq_some_iff.mpr ⟨"a|5", "1", rfl, one, by decide⟩
  have made' : t.Digested "1|k|\x7b\x7d" 0 "a|5|1|k|\x7b\x7d|0" :=
    Streams.drawText?_eq_some_iff.mpr ⟨"a", "5", rfl, five, by decide⟩
  have named : counterKey "k" ([] : Scope Amount) = .ok "k|\x7b\x7d" := rfl
  have named' : counterKey "1|k" ([] : Scope Amount) = .ok "1|k|\x7b\x7d" := rfl
  exact ⟨by decide, ⟨_, ⟨_, _, _, 0, named, made⟩, ⟨_, _, _, 0, named', made'⟩⟩, _,
    Streams.answer_draw_eq_ok named made, Streams.answer_draw_eq_ok named' made'⟩

end Colony.Chance
