import TopicSieve.Proofs.Json.Printing
import TopicSieve.Proofs.Query.LastWrite
import TopicSieve.Query.Printer

/-!
The JSON form of a filter's pairs, read again by whoever consumes it. Main statement: on one line or
on several, it is an object with exactly the pairs of the map, in their order, and no name twice.
-/

namespace TopicSieve

namespace Json

def pairOfMember? : Text × Json → Option Pair
  | (name, string text) => some (name, text)
  | _ => none

def readPairs? (text : Text) : Option (List Pair) :=
  match readValue depthLimit (Cursor.start text) with
  | .ok (object members, after) =>
      if after.rest.isEmpty then members.mapM pairOfMember? else none
  | _ => none

theorem mapM_pairOfMember? (pairs : List Pair) :
    (pairs.map stringMember).mapM pairOfMember? = some pairs := by
  induction pairs with
  | nil => rfl
  | cons pair pairs ih =>
      rw [List.map_cons, List.mapM_cons, ih]
      rfl

theorem readPairs?_of_spells {source : Text} {pairs : List Pair}
    (spells : SpellsObject source pairs) : readPairs? source = some pairs := by
  have restEq : (Cursor.start source).rest = [] ++ (source ++ []) := by simp [Cursor.start]
  obtain ⟨after, readEq, afterEq⟩ := readValue_object spells 126 isGap_nil restEq
  have limitEq : depthLimit = 126 + 1 := rfl
  rw [readPairs?, limitEq, readEq]
  simp only [afterEq, List.isEmpty_nil, if_true, mapM_pairOfMember?]

end Json

namespace FilterMap

theorem eq_of_reads {map other : FilterMap} {source : Text}
    (reads : Json.readPairs? source = some map.pairs)
    (readsToo : Json.readPairs? source = some other.pairs) : other = map := by
  rw [reads] at readsToo
  exact ext_pairs (Option.some.inj readsToo).symm

theorem render_toJson {layout : Json.Layout} (gaps : layout.HasGaps) (map : FilterMap) :
    Json.SpellsObject (Json.render layout 0 map.toJson) map.pairs ∧
      Json.readPairs? (Json.render layout 0 map.toJson) = some map.pairs ∧
      ∀ other : FilterMap,
        Json.render layout 0 other.toJson = Json.render layout 0 map.toJson ↔ other = map := by
  have spells (map : FilterMap) : Json.SpellsObject (Json.render layout 0 map.toJson) map.pairs :=
    Json.spellsObject_render gaps 0 map.pairs
  have reads (map : FilterMap) := Json.readPairs?_of_spells (spells map)
  refine ⟨spells map, reads map, ?_⟩
  intro other
  constructor
  · intro same
    exact eq_of_reads (reads map) (same ▸ reads other)
  · intro same
    rw [same]

/-- The JSON form tells the map: it is an object with a member for each pair, which gives key and
value back character by character, and maps with the same form are the same. -/
theorem toJson_faithful (map : FilterMap) :
    (Json.SpellsObject map.toJson.compact map.pairs ∧
      Json.readPairs? map.toJson.compact = some map.pairs) ∧
    (Json.SpellsObject map.toJson.pretty map.pairs ∧
      Json.readPairs? map.toJson.pretty = some map.pairs) ∧
    (map.pairs.map Prod.fst).Nodup ∧
    ∀ other : FilterMap, (other.toJson.compact = map.toJson.compact ↔ other = map) ∧
      (other.toJson.pretty = map.toJson.pretty ↔ other = map) := by
  obtain ⟨compactSpells, compactReads, compactSame⟩ := render_toJson Json.compactLayout_hasGaps map
  obtain ⟨prettySpells, prettyReads, prettySame⟩ := render_toJson Json.prettyLayout_hasGaps map
  refine ⟨⟨compactSpells, compactReads⟩, ⟨prettySpells, prettyReads⟩, ?_, ?_⟩
  · rw [List.Nodup, List.pairwise_map]
    apply map.pairs_distinct.imp
    intro earlier later different same
    exact different (congrArg Text.fold same)
  · intro other
    exact ⟨compactSame other, prettySame other⟩

example : (ofList [("a", "1"), ("b\"", "\n\x01"), ("A", "é")]).toJson.compact =
    "\x7b\"b\\\"\":\"\\n\\u0001\",\"A\":\"é\"\x7d" := by
  decide

end FilterMap

end TopicSieve
