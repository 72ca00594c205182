import TopicSieve.Proofs.Query.Explanation
import TopicSieve.Proofs.Text.Folding

/-!
Inputs that differ in case. What is reported for a body and a map depends on the folded body and the
folded pairs only. Main statement: bodies that fold alike and maps whose pairs fold alike one by one
give the same answer and the same reports, so the body, the keys or the values may just as well be
folded beforehand.
-/

namespace TopicSieve

def foldPair (pair : Pair) : Pair := (Text.fold pair.1, Text.fold pair.2)

theorem foldPair_key_eq_nil_iff (pair : Pair) : (foldPair pair).1 = [] ↔ pair.1 = [] :=
  Text.fold_eq_nil_iff pair.1

theorem Pattern.find?_foldPair (foldedBody : Text) (pair : Pair) :
    find? foldedBody (foldPair pair) = find? foldedBody pair := by
  simp only [find?, foldPair, Text.fold_fold]

namespace FilterMap

def Alike (map other : FilterMap) : Prop := map.pairs.map foldPair = other.pairs.map foldPair

instance (map other : FilterMap) : Decidable (map.Alike other) :=
  inferInstanceAs (Decidable (_ = _))

def reports (map : FilterMap) (body : Text) : List (Text × Option Pattern) :=
  (map.explain body).map fun entry => (Text.fold entry.1, entry.2)

theorem reports_eq (map : FilterMap) (body : Text) :
    map.reports body = ((map.pairs.map foldPair).filter fun pair => !pair.1.isEmpty).map
      fun pair => (pair.1, Pattern.find? (Text.fold body) pair) := by
  have keyed : ((fun pair => !pair.1.isEmpty) ∘ foldPair) = fun pair : Pair => !pair.1.isEmpty := by
    funext pair
    rw [Bool.eq_iff_iff]
    simp [foldPair_key_eq_nil_iff]
  rw [List.filter_map, keyed, List.map_map, reports, explain, List.map_map, searched]
  apply List.map_congr_left
  intro pair _
  simp only [Function.comp_apply, Pattern.find?_foldPair]
  rfl

theorem accepts_iff_reports (map : FilterMap) (body : Text) :
    map.accepts body = true ↔ (∀ report ∈ map.reports body, report.2.isSome = true) ∧
      ¬ (Text.fold body = [] ∧ map.pairs.map foldPair ≠ []) := by
  simp only [accepts_iff_forall_explain, reports, List.forall_mem_map, Text.fold_eq_nil_iff, ne_eq,
    List.map_eq_nil_iff]

theorem reports_of_alike {map other : FilterMap} (maps : map.Alike other) {body text : Text}
    (bodies : Text.fold body = Text.fold text) : map.reports body = other.reports text := by
  rw [reports_eq, reports_eq, maps, bodies]

theorem accepts_of_alike {map other : FilterMap} (maps : map.Alike other) {body text : Text}
    (bodies : Text.fold body = Text.fold text) : map.accepts body = other.accepts text := by
  rw [Bool.eq_iff_iff, accepts_iff_reports, accepts_iff_reports, reports_of_alike maps bodies, maps,
    bodies]

def respell (map : FilterMap) (spell : Pair → Pair)
    (keeps : ∀ pair, foldPair (spell pair) = foldPair pair) : FilterMap where
  pairs := map.pairs.map spell
  distinct := by
    have key (pair : Pair) : Text.fold (spell pair).1 = Text.fold pair.1 :=
      congrArg Prod.fst (keeps pair)
    rw [List.pairwise_map]
    refine map.pairs_distinct.imp ?_
    intro earlier later different
    rw [sameKey_eq_false_iff, key, key]
    exact different

theorem alike_respell (map : FilterMap) {spell : Pair → Pair}
    (keeps : ∀ pair, foldPair (spell pair) = foldPair pair) :
    (map.respell spell keeps).Alike map := by
  rw [Alike, respell, List.map_map]
  exact List.map_congr_left fun pair _ => keeps pair

def foldKeys (map : FilterMap) : FilterMap :=
  map.respell (fun pair => (Text.fold pair.1, pair.2)) fun pair => by
    simp only [foldPair, Text.fold_fold]

def foldValues (map : FilterMap) : FilterMap :=
  map.respell (fun pair => (pair.1, Text.fold pair.2)) fun pair => by
    simp only [foldPair, Text.fold_fold]

/-- Case never matters: neither in the body nor in the keys nor in the values. -/
theorem results_of_alike (map other : FilterMap) (body text : Text) :
    (map.Alike other → Text.fold body = Text.fold text →
      map.accepts body = other.accepts text ∧ map.reports body = other.reports text) ∧
    (map.accepts (Text.fold body) = map.accepts body ∧
      map.reports (Text.fold body) = map.reports body) ∧
    (map.foldKeys.accepts body = map.accepts body ∧
      map.foldKeys.reports body = map.reports body) ∧
    (map.foldValues.accepts body = map.accepts body ∧
      map.foldValues.reports body = map.reports body) := by
  have same {first second : FilterMap} {left right : Text} (maps : first.Alike second)
      (bodies : Text.fold left = Text.fold right) :
      first.accepts left = second.accepts right ∧ first.reports left = second.reports right :=
    ⟨accepts_of_alike maps bodies, reports_of_alike maps bodies⟩
  exact ⟨same, same rfl (Text.fold_fold body), same (map.alike_respell _) rfl,
    same (map.alike_respell _) rfl⟩

theorem results_of_alike_status :
    let map := ofList [("Status", "İO"), ([], "x")]
    let other := ofList [("sTATUS", "i̇o"), ([], "X")]
    map.Alike other ∧ Text.fold "[STATUS=İo]" = Text.fold "[status=i̇O]" ∧
      map.accepts "[STATUS=İo]" = other.accepts "[status=i̇O]" ∧
      map.reports "[STATUS=İo]" = other.reports "[status=i̇O]" :=
  ⟨by decide, by decide, (results_of_alike _ _ _ _).1 (by decide) (by decide)⟩

end FilterMap

end TopicSieve
