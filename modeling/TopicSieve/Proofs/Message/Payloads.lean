import TopicSieve.Consumer
import TopicSieve.Proofs.Query.Occurrence
import TopicSieve.Proofs.Text.Utf8

/-!
Records whose payload need not be text. Main statement: a pair that a payload holds in one of its
forms is found in the message's body, whatever bytes stand around it; and a payload that is text is
the body as it is.
-/

namespace TopicSieve

namespace Pattern

/-- The bytes of a pair, in the form of a pattern and in any casing, stand in a payload. -/
def WrittenIn (pattern : Pattern) (pair : Pair) (payload : Bytes) : Prop :=
  ∃ piece, Text.fold piece = Text.fold (pattern.render pair.1 pair.2) ∧
    Utf8.encode piece <:+: payload

theorem WrittenIn.occurs {pattern : Pattern} {pair : Pair} {payload : Bytes}
    (written : pattern.WrittenIn pair payload) :
    pattern.Occurs pair (Utf8.decodeLossy payload) := by
  obtain ⟨piece, folded, front, back, rfl⟩ := written
  have nonempty : piece ≠ [] := by
    rintro rfl
    exact render_ne_nil _ _ pattern ((Text.fold_eq_nil_iff _).mp folded.symm)
  apply occurs_of_piece _ folded
  rw [List.append_assoc, Utf8.decodeLossy_around nonempty]
  exact ⟨_, _, List.append_assoc _ _ _⟩

theorem WrittenIn.payload_ne_nil {pattern : Pattern} {pair : Pair} {payload : Bytes}
    (written : pattern.WrittenIn pair payload) : payload ≠ [] := by
  rintro rfl
  exact not_occurs_nil pattern pair written.occurs

end Pattern

namespace Message

theorem body_ofRecord {record : Record} {payload : Bytes} (given : record.payload = some payload) :
    (ofRecord record).body = Utf8.decodeLossy payload := by
  rw [body, ofRecord, given]
  rfl

theorem body_ofRecord_ne_nil {record : Record} {payload : Bytes}
    (given : record.payload = some payload) (nonempty : payload ≠ []) :
    (ofRecord record).body ≠ [] := by
  obtain ⟨first, rest, rfl⟩ := List.exists_cons_of_ne_nil nonempty
  rw [body_ofRecord given, Utf8.decodeLossy, ne_eq, List.map_eq_nil_iff]
  exact Utf8.pieces_cons_ne_nil first rest

/-- Malformed bytes hide no pair: neither from a map that holds the pair alone, nor from the
explanation that any map gives of the body, nor from a map all of whose pairs the payload holds. -/
theorem ofRecord_shows {record : Record} {payload : Bytes} (given : record.payload = some payload) :
    (∀ (pair : Pair) (pattern : Pattern), pair.1 ≠ [] → pattern.WrittenIn pair payload →
      (FilterMap.ofList [pair]).accepts (ofRecord record).body = true ∧
      ∀ map : FilterMap, pair ∈ map.pairs →
        ∃ found, (pair.1, some found) ∈ map.explain (ofRecord record).body) ∧
    (∀ map : FilterMap, payload ≠ [] →
      (∀ pair ∈ map.pairs, pair.1 ≠ [] → ∃ pattern : Pattern, pattern.WrittenIn pair payload) →
      map.accepts (ofRecord record).body = true) ∧
    ∀ text, Utf8.encode text = payload → (ofRecord record).body = text := by
  have bodyEq := body_ofRecord given
  have wholeMap : ∀ map : FilterMap, payload ≠ [] →
      (∀ pair ∈ map.pairs, pair.1 ≠ [] → ∃ pattern : Pattern, pattern.WrittenIn pair payload) →
      map.accepts (ofRecord record).body = true := by
    intro map nonempty written
    rw [FilterMap.accepts_iff_occurs]
    intro pair member
    refine ⟨body_ofRecord_ne_nil given nonempty, ?_⟩
    intro keyed
    obtain ⟨pattern, inPayload⟩ := written pair member keyed
    rw [bodyEq]
    exact ⟨pattern, inPayload.occurs⟩
  refine ⟨?_, wholeMap, ?_⟩
  · intro pair pattern keyed written
    constructor
    · apply wholeMap _ written.payload_ne_nil
      intro other member _
      have same : other = pair := List.mem_singleton.mp member
      exact ⟨pattern, same ▸ written⟩
    · intro map member
      have isFound : (Pattern.find? (Text.fold (ofRecord record).body) pair).isSome = true := by
        rw [Pattern.isSome_find?_iff, bodyEq]
        exact ⟨pattern, written.occurs⟩
      obtain ⟨found, foundEq⟩ := Option.isSome_iff_exists.mp isFound
      refine ⟨found, ?_⟩
      rw [← foundEq]
      exact List.mem_map_of_mem ((map.mem_searched pair).mpr ⟨member, keyed⟩)
  · rintro text rfl
    rw [bodyEq, Utf8.decodeLossy_encode]

theorem ofRecord_shows_brokenPayload :
    let pair : Pair := ("σ", "é")
    let map := FilterMap.ofList [([], "x"), pair]
    let payload : Bytes := [0xF0, 0x9F, 0x98] ++ Utf8.encode "'Σ':'É'" ++ [0xE2]
    let text : Text := "\uFFFD=1"
    let broken : Record := ⟨"orders", 0, 7, .notAvailable, [], some payload⟩
    let whole : Record := ⟨"orders", 0, 8, .notAvailable, [], some (Utf8.encode text)⟩
    (Pattern.singleQuoted.WrittenIn pair payload ∧ pair.1 ≠ [] ∧ pair ∈ map.pairs ∧
        ∀ other ∈ map.pairs, other.1 ≠ [] → ∃ pattern : Pattern, pattern.WrittenIn other payload) ∧
      ((FilterMap.ofList [pair]).accepts (ofRecord broken).body = true ∧
        (∃ found, (pair.1, some found) ∈ map.explain (ofRecord broken).body) ∧
        map.accepts (ofRecord broken).body = true) ∧
      (ofRecord whole).body = text := by
  intro pair map payload text broken whole
  have written : Pattern.singleQuoted.WrittenIn pair payload :=
    ⟨"'Σ':'É'", by decide, [0xF0, 0x9F, 0x98], [0xE2], rfl⟩
  have keyed : pair.1 ≠ [] := by decide
  have member : pair ∈ map.pairs := by decide
  have allWritten : ∀ other ∈ map.pairs, other.1 ≠ [] →
      ∃ pattern : Pattern, pattern.WrittenIn other payload := by
    have pairsEq : map.pairs = ([([], "x"), pair] : List Pair) := by decide
    rw [pairsEq, List.forall_mem_cons, List.forall_mem_singleton]
    exact ⟨fun keyless => absurd rfl keyless, fun _ => ⟨.singleQuoted, written⟩⟩
  have brokenGiven : broken.payload = some payload := rfl
  have wholeGiven : whole.payload = some (Utf8.encode text) := rfl
  obtain ⟨alone, explained⟩ := (ofRecord_shows brokenGiven).1 pair .singleQuoted keyed written
  have accepted := (ofRecord_shows brokenGiven).2.1 map written.payload_ne_nil allWritten
  exact ⟨⟨written, keyed, member, allWritten⟩, ⟨alone, explained map member, accepted⟩,
    (ofRecord_shows wholeGiven).2.2 text rfl⟩

end Message

end TopicSieve
