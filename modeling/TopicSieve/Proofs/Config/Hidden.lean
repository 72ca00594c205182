import Mathlib.Data.List.Basic
import TopicSieve.Proofs.Config.Secrets

/-!
What a document holds besides passwords. Main statement: reading the configuration from a document
without its passwords comes to the same as leaving them out afterwards, faults included, however the
settings are laid out.
-/

namespace TopicSieve

namespace Config

open Toml (Entries)

def withoutText : Toml.Item → Toml.Item
  | (span, .string _) => (span, .string [])
  | item => item

def changeEntry (key : Text) (change : Toml.Item → Toml.Item) (entries : Entries) : Entries :=
  entries.map fun entry => if entry.1 = key then (entry.1, change entry.2) else entry

def withoutSetting (names : List Text) (secret : Text) : Toml.Item → Toml.Item
  | (span, .table kind entries) => (span, .table kind (changeEntry secret withoutText entries))
  | (span, .array ofTables items) =>
      (span, .array ofTables (items.modify (names.idxOf secret) withoutText))
  | item => item

def withoutPasswords (entries : Entries) : Entries :=
  changeEntry "consumer" (withoutSetting consumerNames "sasl_password")
    (changeEntry "schema_registry" (withoutSetting registryNames "password") entries)

/-! Entries -/

section

variable {key name : Text} {change : Toml.Item → Toml.Item} {entries : Entries}

theorem map_fst_changeEntry : (changeEntry key change entries).map Prod.fst =
    entries.map Prod.fst := by
  rw [changeEntry, List.map_map]
  refine List.map_congr_left fun entry _ => ?_
  by_cases isKey : entry.1 = key
  · simp [isKey]
  · simp [isKey]

theorem item?_changeEntry : (changeEntry key change entries).item? name =
    if name = key then (entries.item? name).map change else entries.item? name := by
  induction entries with
  | nil => simp [changeEntry, Entries.item?]
  | cons entry entries ih =>
      simp only [changeEntry, Entries.item?, List.map_cons, List.find?_cons] at ih ⊢
      by_cases isName : entry.1 = name
      · subst isName
        by_cases isKey : entry.1 = key
        · simp [isKey]
        · simp [isKey]
      · have differs : ((if entry.1 = key then (entry.1, change entry.2) else entry).1 == name) =
            false := by
          split <;> simp [isName]
        have entryDiffers : (entry.1 == name) = false := by simp [isName]
        rw [differs, entryDiffers]
        exact ih

theorem firstFault_changeEntry {check : Text → Toml.Item → Option Mismatch}
    (same : ∀ item, check key (change item) = check key item) :
    firstFault (changeEntry key change entries) check = firstFault entries check := by
  rw [firstFault, firstFault, map_fst_changeEntry]
  congr 1
  funext name
  rw [item?_changeEntry]
  by_cases isKey : name = key
  · rw [if_pos isKey, isKey]
    cases entries.item? key with
    | none => rfl
    | some item => exact same item
  · rw [if_neg isKey]

end

/-! Settings -/

theorem checkText_withoutText (item : Toml.Item) : checkText (withoutText item) = checkText item := by
  obtain ⟨span, value⟩ := item
  cases value <;> rfl

theorem passOver_withoutText (item : Toml.Item) : passOver (withoutText item) = passOver item := by
  obtain ⟨span, value⟩ := item
  cases value <;> rfl

theorem textOf_withoutText (item : Option Toml.Item) :
    textOf (item.map withoutText) = (textOf item).map (Option.map fun _ => []) := by
  cases item with
  | none => rfl
  | some item =>
      obtain ⟨span, value⟩ := item
      cases value <;> rfl

def Settings.without (names : List Text) (secret : Text) : Settings → Settings
  | .entries table => .entries (changeEntry secret withoutText table)
  | .items values => .items (values.modify (names.idxOf secret) withoutText)

section

variable {names : List Text} {secret : Text} (isSetting : secret ∈ names)

theorem settingsOf_withoutSetting (expected : Text) (item : Toml.Item) :
    settingsOf expected (withoutSetting names secret item) =
      (settingsOf expected item).map (Settings.without names secret) := by
  obtain ⟨span, value⟩ := item
  cases value <;> rfl

include isSetting in
theorem item?_without (settings : Settings) (name : Text) :
    (settings.without names secret).item? names name =
      if name = secret then (settings.item? names name).map withoutText
      else settings.item? names name := by
  cases settings with
  | entries entries => exact item?_changeEntry
  | items items =>
      simp only [Settings.without, Settings.item?, List.getElem?_modify]
      by_cases isSecret : name = secret
      · simp [isSecret]
      · have differs : names.idxOf secret ≠ names.idxOf name := by
          intro same
          exact isSecret (List.idxOf_inj isSetting |>.mp same).symm
        simp [isSecret, differs]

theorem findSome?_modify {change : Toml.Item → Toml.Item} {check : Toml.Item → Option Mismatch}
    (same : ∀ item, check (change item) = check item) (items : List Toml.Item) (index count : Nat) :
    ((items.modify index change).take count).findSome? check =
      (items.take count).findSome? check := by
  induction items generalizing index count with
  | nil => simp
  | cons item items ih =>
      cases count with
      | zero => simp
      | succ count =>
          cases index with
          | zero => simp [List.findSome?_cons, same]
          | succ index => simp [List.findSome?_cons, ih]

theorem mismatch?_without (settings : Settings) :
    mismatch? (settings.without names secret) names = mismatch? settings names := by
  cases settings with
  | entries entries =>
      refine firstFault_changeEntry fun item => ?_
      rw [checkText_withoutText, passOver_withoutText]
  | items items => exact findSome?_modify checkText_withoutText items _ _

def withoutTextOf (secret name : Text) (text : Option Text) : Option Text :=
  if name = secret then text.map fun _ => [] else text

theorem mapM_changed {read changed : Text → Except Mismatch (Option Text)}
    {change : Text → Option Text → Option Text} (names : List Text)
    (changedEq : ∀ name, changed name = (read name).map (change name)) :
    names.mapM changed = (names.mapM read).map (List.zipWith change names) := by
  induction names with
  | nil => rfl
  | cons name names ih =>
      simp only [List.mapM_cons, changedEq, ih]
      cases read name with
      | error => rfl
      | ok text => cases names.mapM read <;> rfl

include isSetting in
theorem textsOf_without (settings : Settings) :
    textsOf (settings.without names secret) names =
      (textsOf settings names).map (List.zipWith (withoutTextOf secret) names) := by
  rw [textsOf, textsOf, mismatch?_without]
  cases mismatch? settings names with
  | some mismatch => rfl
  | none =>
      refine mapM_changed names fun name => ?_
      rw [item?_without isSetting]
      by_cases isSecret : name = secret
      · rw [if_pos isSecret, textOf_withoutText]
        congr 1
        funext text
        rw [withoutTextOf, if_pos isSecret]
      · have unchanged : withoutTextOf secret name = id := by
          funext text
          rw [withoutTextOf, if_neg isSecret, id]
        rw [if_neg isSecret, unchanged]
        cases textOf (settings.item? names name) <;> rfl

theorem length_of_mapM {read : Text → Except Mismatch (Option Text)} {names : List Text}
    {texts : List (Option Text)} (readEq : names.mapM read = .ok texts) :
    texts.length = names.length := by
  induction names generalizing texts with
  | nil =>
      cases readEq
      rfl
  | cons name names ih =>
      simp only [List.mapM_cons, bind, Except.bind] at readEq
      cases first : read name with
      | error => simp [first] at readEq
      | ok text =>
          cases rest : names.mapM read with
          | error => simp [first, rest] at readEq
          | ok more =>
              simp only [first, rest, pure, Except.pure, Except.ok.injEq] at readEq
              rw [← readEq, List.length_cons, List.length_cons, ih rest]

theorem length_textsOf {settings : Settings} {texts : List (Option Text)}
    (readEq : textsOf settings names = .ok texts) : texts.length = names.length := by
  rw [textsOf] at readEq
  split at readEq
  · contradiction
  · exact length_of_mapM readEq

end

/-! Configurations -/

def blankSecret (secret : Option Secret) : Option Secret := secret.map fun _ => ⟨[]⟩

def blank (config : Config) : Config where
  query := config.query
  consumer := { config.consumer with saslPassword := blankSecret config.consumer.saslPassword }
  registry := { config.registry with password := blankSecret config.registry.password }

theorem consumerOf_withoutSetting (item : Option Toml.Item) :
    consumerOf (item.map (withoutSetting consumerNames "sasl_password")) =
      (consumerOf item).map fun options =>
        { options with saslPassword := blankSecret options.saslPassword } := by
  cases item with
  | none => rfl
  | some item =>
      have isSetting : ("sasl_password" : Text) ∈ consumerNames := by decide
      simp only [Option.map_some, consumerOf, settingsOf_withoutSetting]
      cases settingsOf "struct ConsumerOptions" item with
      | error => rfl
      | ok settings =>
          simp only [Except.map, bind, Except.bind, textsOf_without isSetting]
          cases textsEq : textsOf settings consumerNames with
          | error => rfl
          | ok texts =>
              have count : texts.length = 6 := length_textsOf textsEq
              match texts, count with
              | [servers, group, username, password, topic, time], _ =>
                  cases password <;> rfl

theorem registryOf_withoutSetting (item : Option Toml.Item) :
    registryOf (item.map (withoutSetting registryNames "password")) =
      (registryOf item).map fun options =>
        { options with password := blankSecret options.password } := by
  cases item with
  | none => rfl
  | some item =>
      have isSetting : ("password" : Text) ∈ registryNames := by decide
      simp only [Option.map_some, registryOf, settingsOf_withoutSetting]
      cases settingsOf "struct SchemaRegistryOptions" item with
      | error => rfl
      | ok settings =>
          simp only [Except.map, bind, Except.bind, textsOf_without isSetting]
          cases textsEq : textsOf settings registryNames with
          | error => rfl
          | ok texts =>
              have count : texts.length = 3 := length_textsOf textsEq
              match texts, count with
              | [url, username, password], _ => cases password <;> rfl

theorem faultOf_map {α β : Type} (change : α → β) (outcome : Except Mismatch α) :
    faultOf (outcome.map change) = faultOf outcome := by
  cases outcome <;> rfl

theorem firstFault_withoutPasswords (entries : Entries) :
    firstFault (withoutPasswords entries) checkEntry = firstFault entries checkEntry := by
  have consumerSame (item : Toml.Item) : checkEntry "consumer"
      (withoutSetting consumerNames "sasl_password" item) = checkEntry "consumer" item := by
    have changed := consumerOf_withoutSetting (some item)
    rw [Option.map_some] at changed
    rw [checkEntry, if_pos rfl, changed, faultOf_map, checkEntry, if_pos rfl]
  have registrySame (item : Toml.Item) : checkEntry "schema_registry"
      (withoutSetting registryNames "password" item) = checkEntry "schema_registry" item := by
    have changed := registryOf_withoutSetting (some item)
    rw [Option.map_some] at changed
    have notConsumer : ("schema_registry" : Text) ≠ "consumer" := by decide
    have notQuery : ("schema_registry" : Text) ≠ "query" := by decide
    simp only [checkEntry, if_neg notConsumer, if_neg notQuery, if_true, changed, faultOf_map]
  rw [withoutPasswords, firstFault_changeEntry consumerSame, firstFault_changeEntry registrySame]

/-- The passwords of a document have no part in whether it is a configuration, in what is wrong with
it, or in what else the configuration is. -/
theorem ofEntries_withoutPasswords (entries : Entries) :
    ofEntries (withoutPasswords entries) = (ofEntries entries).map blank := by
  have consumerItem : (withoutPasswords entries).item? "consumer" =
      (entries.item? "consumer").map (withoutSetting consumerNames "sasl_password") := by
    have notRegistry : ("consumer" : Text) ≠ "schema_registry" := by decide
    rw [withoutPasswords, item?_changeEntry, if_pos rfl, item?_changeEntry, if_neg notRegistry]
  have queryItem : (withoutPasswords entries).item? "query" = entries.item? "query" := by
    have notConsumer : ("query" : Text) ≠ "consumer" := by decide
    have notRegistry : ("query" : Text) ≠ "schema_registry" := by decide
    rw [withoutPasswords, item?_changeEntry, if_neg notConsumer, item?_changeEntry,
      if_neg notRegistry]
  have registryItem : (withoutPasswords entries).item? "schema_registry" =
      (entries.item? "schema_registry").map (withoutSetting registryNames "password") := by
    have notConsumer : ("schema_registry" : Text) ≠ "consumer" := by decide
    rw [withoutPasswords, item?_changeEntry, if_neg notConsumer, item?_changeEntry, if_pos rfl]
  rw [ofEntries, ofEntries, firstFault_withoutPasswords, consumerItem, queryItem, registryItem,
    consumerOf_withoutSetting, registryOf_withoutSetting]
  cases firstFault entries checkEntry with
  | some mismatch => rfl
  | none =>
      cases consumerOf (entries.item? "consumer") with
      | error => rfl
      | ok consumer =>
          cases textOf (entries.item? "query") with
          | error => rfl
          | ok query => cases registryOf (entries.item? "schema_registry") <;> rfl

theorem alikeButSecrets_of_blank {left right : Config} (same : left.blank = right.blank) :
    left.AlikeButSecrets right := by
  have consumerSame := congrArg Config.consumer same
  have registrySame := congrArg Config.registry same
  simp only [blank, ConsumerOptions.mk.injEq, RegistryOptions.mk.injEq] at consumerSame registrySame
  have isSome {secret other : Option Secret} (blankSame : blankSecret secret = blankSecret other) :
      secret.isSome = other.isSome := by
    simpa [blankSecret] using congrArg Option.isSome blankSame
  refine ⟨(congrArg Config.query same :), ?_, isSome consumerSame.2.2.2.1, ?_,
    isSome registrySame.2.2⟩
  · simp only [ConsumerOptions.withoutPassword, consumerSame]
  · simp only [RegistryOptions.withoutPassword, registrySame]

end Config

end TopicSieve
