import TopicSieve.Config.Reader
import TopicSieve.Config.Writer
import TopicSieve.Proofs.Text.Utf8
import TopicSieve.Proofs.Toml.Documents

/-!
Configurations that are written and read again. Main statement: the text of a configuration is read
as that configuration, so what is printed, where passwords are masked, is read as the masked one.
-/

namespace TopicSieve

/-! The settings of a table -/

def givenSettings (fields : List (Text × Option Text)) : List (Text × Text) :=
  fields.filterMap fun (name, value) => value.map fun text => (name, text)

def ConsumerOptions.fields (options : ConsumerOptions) : List (Text × Option Text) :=
  [("bootstrap_servers", options.bootstrapServers), ("group_id", options.groupId),
    ("sasl_username", options.saslUsername),
    ("sasl_password", options.saslPassword.map Secret.text), ("topic", options.topic),
    ("consumer_group_offset_utc_timestamp", options.startTime)]

def RegistryOptions.fields (options : RegistryOptions) : List (Text × Option Text) :=
  [("url", options.url), ("username", options.username),
    ("password", options.password.map Secret.text)]

namespace Config

open Toml

theorem settingsText_givenSettings (fields : List (Text × Option Text)) :
    settingsText (givenSettings fields) =
      fields.flatMap fun (name, value) => settingLine name value := by
  induction fields with
  | nil => rfl
  | cons field fields ih =>
      obtain ⟨name, value⟩ := field
      cases value with
      | none => exact ih
      | some text =>
          have first : givenSettings ((name, some text) :: fields) =
            (name, text) :: givenSettings fields := rfl
          have firstText (settings : List (Text × Text)) :
            settingsText ((name, text) :: settings) =
              writeAssignment name text ++ settingsText settings := rfl
          rw [first, firstText, ih, List.flatMap_cons]
          rfl

def writtenTables (config : Config) : List WrittenTable :=
  [⟨"consumer", givenSettings config.consumer.fields, 1⟩,
    ⟨"schema_registry", givenSettings config.registry.fields, 0⟩]

theorem consumerText_eq (options : ConsumerOptions) :
    consumerText options =
      '[' :: ("consumer" : Text) ++ "]\n" ++ settingsText (givenSettings options.fields) := by
  have header : ("[consumer]\n" : Text) = '[' :: ("consumer" : Text) ++ "]\n" := by decide
  unfold consumerText
  simp only [header, settingsText_givenSettings, ConsumerOptions.fields, List.flatMap_cons,
    List.flatMap_nil, List.append_assoc, List.append_nil]

theorem registryText_eq (options : RegistryOptions) :
    registryText options =
      '[' :: ("schema_registry" : Text) ++ "]\n" ++
        settingsText (givenSettings options.fields) := by
  have header : ("[schema_registry]\n" : Text) = '[' :: ("schema_registry" : Text) ++ "]\n" := by decide
  unfold registryText
  simp only [header, settingsText_givenSettings, RegistryOptions.fields, List.flatMap_cons,
    List.flatMap_nil, List.append_assoc, List.append_nil]

theorem document_eq (config : Config) :
    config.document = settingsText [("query", config.query)] ++
      (List.replicate 1 '\n' ++ config.writtenTables.flatMap WrittenTable.text) := by
  have feed : ("\n" : Text) = List.replicate 1 '\n' := rfl
  simp only [document, consumerText_eq, registryText_eq, feed, writtenTables, settingsText,
    WrittenTable.text, List.flatMap_cons, List.flatMap_nil, List.append_assoc, List.append_nil,
    List.replicate_zero]

theorem map_fst_givenSettings (fields : List (Text × Option Text)) :
    ((givenSettings fields).map Prod.fst).Sublist (fields.map Prod.fst) := by
  induction fields with
  | nil => exact .slnil
  | cons field fields ih =>
      obtain ⟨name, value⟩ := field
      cases value with
      | none => exact .cons name ih
      | some text => exact .cons_cons name ih

theorem lookup_givenSettings_of_not_mem {fields : List (Text × Option Text)} {name : Text}
    (absent : name ∉ fields.map Prod.fst) : (givenSettings fields).lookup name = none := by
  rw [List.lookup_eq_none_iff]
  intro setting member
  have inFields := (map_fst_givenSettings fields).subset (List.mem_map_of_mem member)
  rw [bne_iff_ne]
  rintro rfl
  exact absent inFields

theorem lookup_givenSettings {fields : List (Text × Option Text)}
    (distinct : (fields.map Prod.fst).Nodup) {name : Text} {value : Option Text}
    (member : (name, value) ∈ fields) : (givenSettings fields).lookup name = value := by
  induction fields with
  | nil => contradiction
  | cons field fields ih =>
      obtain ⟨first, given⟩ := field
      rw [List.map_cons, List.nodup_cons] at distinct
      rcases List.mem_cons.mp member with same | later
      · cases same
        cases value with
        | none => exact @lookup_givenSettings_of_not_mem fields name distinct.1
        | some text => exact List.lookup_cons_self
      · have different : (name == first) = false := by
          rw [beq_eq_false_iff_ne]
          rintro rfl
          exact distinct.1 (List.mem_map.mpr ⟨_, later, rfl⟩)
        have restEq := ih distinct.2 later
        cases given with
        | none => exact restEq
        | some text =>
            change List.lookup name ((first, text) :: givenSettings fields) = value
            rwa [List.lookup_cons, different]

theorem item?_cons (key : Text) (item : Toml.Item) (entries : Entries) (name : Text) :
    Entries.item? ((key, item) :: entries) name =
      if key = name then some item else entries.item? name := by
  rw [Entries.item?, List.find?_cons]
  by_cases same : key = name
  · simp [same]
  · rw [if_neg same, beq_eq_false_iff_ne.mpr same]
    rfl

theorem textOf_item? {entries : Entries} {settings : List (Text × Text)}
    (sets : List.Forall₂ SetsText entries settings) (name : Text) :
    textOf (entries.item? name) = .ok (settings.lookup name) := by
  induction sets with
  | nil => rfl
  | @cons entry setting entries settings first _ ih =>
      obtain ⟨key, span, value⟩ := entry
      obtain ⟨rfl, valueEq⟩ := first
      dsimp only at valueEq
      subst valueEq
      rw [item?_cons, List.lookup_cons]
      by_cases same : setting.1 = name
      · rw [if_pos same, beq_iff_eq.mpr same.symm]
        rfl
      · rw [if_neg same, beq_eq_false_iff_ne.mpr (Ne.symm same)]
        exact ih

theorem checkText_of_setsText {entries : Entries} {settings : List (Text × Text)}
    (sets : List.Forall₂ SetsText entries settings) {name : Text} {item : Toml.Item}
    (found : entries.item? name = some item) : checkText item = none := by
  have read := textOf_item? sets name
  rw [found] at read
  rw [checkText, read]
  rfl

theorem firstFault_eq_none {entries : Entries} {check : Text → Toml.Item → Option Mismatch}
    (passes : ∀ name item, entries.item? name = some item → check name item = none) :
    firstFault entries check = none := by
  rw [firstFault, List.findSome?_eq_none_iff]
  intro name _
  cases found : entries.item? name with
  | none => rfl
  | some item => exact passes name item found

theorem mapM_map_eq_ok {ε α β γ : Type} {action : β → Except ε γ} {key : α → β} {result : α → γ}
    {values : List α} (each : ∀ value ∈ values, action (key value) = .ok (result value)) :
    (values.map key).mapM action = .ok (values.map result) := by
  induction values with
  | nil => rfl
  | cons value values ih =>
      rw [List.forall_mem_cons] at each
      rw [List.map_cons, List.mapM_cons, each.1, ih each.2]
      rfl

theorem textsOf_written {entries : Entries} {fields : List (Text × Option Text)}
    (sets : List.Forall₂ SetsText entries (givenSettings fields))
    (distinct : (fields.map Prod.fst).Nodup) :
    textsOf (.entries entries) (fields.map Prod.fst) = .ok (fields.map Prod.snd) := by
  have noFault : mismatch? (.entries entries) (fields.map Prod.fst) = none := by
    refine firstFault_eq_none fun name item found => ?_
    have known : name ∈ fields.map Prod.fst := by
      apply (map_fst_givenSettings fields).subset
      rw [← names_of_setsText sets]
      by_contra absent
      rw [item?_of_not_mem absent] at found
      contradiction
    rw [if_pos (List.contains_iff_mem.mpr known)]
    exact checkText_of_setsText sets found
  have each : ∀ field ∈ fields, textOf (entries.item? field.1) = .ok field.2 := by
    intro field member
    rw [textOf_item? sets, lookup_givenSettings distinct member]
  rw [textsOf, noFault]
  exact mapM_map_eq_ok each

theorem map_mk_map_text (secret : Option Secret) :
    (secret.map Secret.text).map Secret.mk = secret := by
  cases secret <;> rfl

theorem consumerOf_written {options : ConsumerOptions} {span : Span} {inner : Entries}
    (sets : List.Forall₂ SetsText inner (givenSettings options.fields)) :
    consumerOf (some (span, .table .explicit inner)) = .ok options := by
  have textsEq : textsOf (.entries inner) consumerNames = .ok (options.fields.map Prod.snd) :=
    textsOf_written sets (by decide : consumerNames.Nodup)
  rw [consumerOf, settingsOf]
  simp only [bind, Except.bind, textsEq, ConsumerOptions.fields, List.map_cons, List.map_nil,
    map_mk_map_text]

theorem registryOf_written {options : RegistryOptions} {span : Span} {inner : Entries}
    (sets : List.Forall₂ SetsText inner (givenSettings options.fields)) :
    registryOf (some (span, .table .explicit inner)) = .ok options := by
  have textsEq : textsOf (.entries inner) registryNames = .ok (options.fields.map Prod.snd) :=
    textsOf_written sets (by decide : registryNames.Nodup)
  rw [registryOf, settingsOf]
  simp only [bind, Except.bind, textsEq, RegistryOptions.fields, List.map_cons, List.map_nil,
    map_mk_map_text]

def writtenEntries (query : Text) (spans : Span × Span × Span) (consumer registry : Entries) :
    Entries :=
  [("query", spans.1, .string query), ("consumer", spans.2.1, .table .explicit consumer),
    ("schema_registry", spans.2.2, .table .explicit registry)]

theorem ofEntries_written {config : Config} {consumer registry : Entries}
    (consumerSets : List.Forall₂ SetsText consumer (givenSettings config.consumer.fields))
    (registrySets : List.Forall₂ SetsText registry (givenSettings config.registry.fields))
    (spans : Span × Span × Span) :
    ofEntries (writtenEntries config.query spans consumer registry) = .ok config := by
  have noFault : firstFault (writtenEntries config.query spans consumer registry) checkEntry =
      none := by
    refine firstFault_eq_none fun name item found => ?_
    simp only [writtenEntries, item?_cons] at found
    split at found
    case isTrue isQuery =>
      cases found
      rw [← isQuery, checkEntry, if_neg (by decide), if_pos rfl]
      rfl
    split at found
    case isTrue isConsumer =>
      cases found
      rw [← isConsumer, checkEntry, if_pos rfl, consumerOf_written consumerSets]
      rfl
    split at found
    case isTrue isRegistry =>
      cases found
      rw [← isRegistry, checkEntry, if_neg (by decide), if_neg (by decide), if_pos rfl,
        registryOf_written registrySets]
      rfl
    case isFalse => contradiction
  have queryFound : Entries.item? (writtenEntries config.query spans consumer registry) "query" =
      some (spans.1, .string config.query) := by
    rw [writtenEntries, item?_cons, if_pos rfl]
  have consumerFound :
      Entries.item? (writtenEntries config.query spans consumer registry) "consumer" =
        some (spans.2.1, .table .explicit consumer) := by
    rw [writtenEntries, item?_cons, if_neg (by decide), item?_cons, if_pos rfl]
  have registryFound :
      Entries.item? (writtenEntries config.query spans consumer registry) "schema_registry" =
        some (spans.2.2, .table .explicit registry) := by
    rw [writtenEntries, item?_cons, if_neg (by decide), item?_cons, if_neg (by decide),
      item?_cons, if_pos rfl]
  rw [ofEntries, noFault, queryFound, consumerFound, registryFound,
    consumerOf_written consumerSets, registryOf_written registrySets]
  rfl

theorem isBareKey_of_givenSettings {fields : List (Text × Option Text)}
    (areKeys : ∀ name ∈ fields.map Prod.fst, IsBareKey name) :
    ∀ setting ∈ givenSettings fields, IsBareKey setting.1 := fun setting member =>
  areKeys setting.1 ((map_fst_givenSettings fields).subset (List.mem_map_of_mem member))

theorem parse_of_entries {document : Text} {entries : Entries} {config : Config}
    (readEq : read? document = some entries) (configEq : ofEntries entries = .ok config) :
    parse document = .ok config := by
  rw [parse, readEq]
  simp only [configEq]

/-- The text of a configuration is read as that configuration. -/
theorem parse_document (config : Config) : parse config.document = .ok config := by
  have consumerKeys : ∀ name ∈ consumerNames, IsBareKey name := by decide
  have registryKeys : ∀ name ∈ registryNames, IsBareKey name := by decide
  have settingKeys : ∀ setting ∈ [(("query" : Text), config.query)], IsBareKey setting.1 := by
    rw [List.forall_mem_singleton]
    exact (by decide : IsBareKey "query")
  have tableKeys : ∀ table ∈ config.writtenTables, IsBareKey table.name ∧
      ∀ setting ∈ table.settings, IsBareKey setting.1 := by
    rw [writtenTables, List.forall_mem_cons, List.forall_mem_singleton]
    exact ⟨⟨(by decide : IsBareKey "consumer"), isBareKey_of_givenSettings consumerKeys⟩,
      ⟨(by decide : IsBareKey "schema_registry"), isBareKey_of_givenSettings registryKeys⟩⟩
  have distinct : ([(("query" : Text), config.query)].map Prod.fst ++
      config.writtenTables.map WrittenTable.name).Nodup := by
    change [("query" : Text), "consumer", "schema_registry"].Nodup
    decide
  have distinctSettings : ∀ table ∈ config.writtenTables,
      (table.settings.map Prod.fst).Nodup := by
    rw [writtenTables, List.forall_mem_cons, List.forall_mem_singleton]
    exact ⟨(map_fst_givenSettings _).nodup (by decide : consumerNames.Nodup),
      (map_fst_givenSettings _).nodup (by decide : registryNames.Nodup)⟩
  obtain ⟨front, back, readEq, sets, tables⟩ :=
    read?_written settingKeys tableKeys distinct distinctSettings 1
  rw [← document_eq] at readEq
  obtain ⟨⟨_, querySpan, _⟩, _, ⟨rfl, rfl⟩, ⟨⟩, rfl⟩ := List.forall₂_cons_right_iff.mp sets
  obtain ⟨⟨_, consumerSpan, _⟩, _, ⟨rfl, consumer, rfl, consumerSets⟩, others, rfl⟩ :=
    List.forall₂_cons_right_iff.mp tables
  obtain ⟨⟨_, registrySpan, _⟩, _, ⟨rfl, registry, rfl, registrySets⟩, ⟨⟩, rfl⟩ :=
    List.forall₂_cons_right_iff.mp others
  have configEq :=
    ofEntries_written consumerSets registrySets (querySpan, consumerSpan, registrySpan)
  exact parse_of_entries readEq configEq

theorem startOf_of_ofBytes {path : Text} {bytes : Bytes} {config : Config}
    (loads : ofBytes path bytes = .ok config) : ∃ instant, startOf config.consumer = .ok instant := by
  unfold ofBytes at loads
  split at loads
  · contradiction
  split at loads
  · contradiction
  · next parsed _ =>
      cases startEq : startOf parsed.consumer with
      | error error =>
          rw [startEq] at loads
          contradiction
      | ok instant =>
          rw [startEq] at loads
          cases loads
          exact ⟨instant, startEq⟩

/-- What is printed of a configuration that was loaded can be loaded from any path, and gives the
masked configuration. -/
theorem ofBytes_printed {path : Text} {bytes : Bytes} {config : Config}
    (loads : ofBytes path bytes = .ok config) (other : Text) :
    ofBytes other (Utf8.encode config.printed) = .ok config.redacted := by
  obtain ⟨instant, startEq⟩ := startOf_of_ofBytes loads
  have decoded : Utf8.decode? (Utf8.encode config.printed) = some config.printed :=
    (Utf8.decode?_eq_some_iff _ _).mpr rfl
  have sameStart : startOf config.redacted.consumer = startOf config.consumer := rfl
  rw [ofBytes, decoded]
  simp only [printed, parse_document, sameStart, startEq]
  rfl

theorem redacted_redacted (config : Config) : config.redacted.redacted = config.redacted := by
  obtain ⟨query, consumer, registry⟩ := config
  simp only [redacted, Option.map_map]
  rfl

end Config

end TopicSieve
