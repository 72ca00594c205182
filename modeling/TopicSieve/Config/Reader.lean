import TopicSieve.Config.Basic
import TopicSieve.Message.Basic
import TopicSieve.Text.Sorted
import TopicSieve.Text.Utf8
import TopicSieve.Toml.Excerpt
import TopicSieve.Toml.Reader

/-!
Configurations from TOML documents. Settings that are missing keep their defaults, and keys that are
not known are passed over. A table of settings may also be written as a list of their values.
-/

namespace TopicSieve

/-- Why a document is no configuration: it is malformed, or a value in it has the wrong type. The place,
the excerpt and the reason that follow the first line for a malformed document are left out. -/
inductive ConfigFault where
  | malformed
  | mismatch (document : Text) (span : Span) (found : Toml.Value) (expected : Text)

def ConfigFault.message : ConfigFault → Text
  | malformed => "TOML parse error\n"
  | mismatch document span found expected =>
      Toml.excerpt document span (found.mismatch expected)

inductive ConfigError where
  | read (path : Text) (fault : InputFault)
  | parse (path : Text) (fault : ConfigFault)
  | invalidTime (text : Text) (error : TimeError)

namespace ConfigError

def cause : ConfigError → Text
  | read _ fault => fault.message
  | parse _ fault => fault.message
  | invalidTime _ error => error.message

def message (error : ConfigError) : Text :=
  match error with
  | read path _ => "Failed to read config file '" ++ path ++ "': " ++ error.cause
  | parse path _ => "Failed to parse config file '" ++ path ++ "': " ++ error.cause
  | invalidTime text _ => "Invalid consumer offset timestamp '" ++ text ++ "': " ++ error.cause

end ConfigError

namespace Config

structure Mismatch where
  item : Toml.Item
  expected : Text

/-- Where the settings of a table come from: named entries, or values in a fixed order. -/
inductive Settings where
  | entries (entries : Toml.Entries)
  | items (items : List Toml.Item)

def Settings.item? (settings : Settings) (names : List Text) (name : Text) : Option Toml.Item :=
  match settings with
  | .entries table => table.item? name
  | .items values => values[names.idxOf name]?

/-- The settings that a value holds. A date or a time counts as a table, of which no entry is
known. -/
def settingsOf (expected : Text) (item : Toml.Item) : Except Mismatch Settings :=
  match item.2 with
  | .table _ entries => .ok (.entries entries)
  | .array _ items => .ok (.items items)
  | .datetime => .ok (.entries [])
  | _ => .error ⟨item, expected⟩

def textOf (item : Option Toml.Item) : Except Mismatch (Option Text) :=
  match item with
  | none => .ok none
  | some (_, .string text) => .ok (some text)
  | some item => .error ⟨item, "a string"⟩

def consumerNames : List Text :=
  ["bootstrap_servers", "group_id", "sasl_username", "sasl_password", "topic",
    "consumer_group_offset_utc_timestamp"]

def registryNames : List Text := ["url", "username", "password"]

def faultOf {α : Type} : Except Mismatch α → Option Mismatch
  | .ok _ => none
  | .error mismatch => some mismatch

def checkText (item : Toml.Item) : Option Mismatch := faultOf (textOf (some item))

def passOver (item : Toml.Item) : Option Mismatch :=
  (item.2.tooLarge? item.1).map fun number => ⟨number, "anything at all"⟩

def firstFault (entries : Toml.Entries) (check : Text → Toml.Item → Option Mismatch) :
    Option Mismatch :=
  (Text.distinctSorted (entries.map Prod.fst)).findSome? fun name =>
    (entries.item? name).bind (check name)

def mismatch? (settings : Settings) (names : List Text) : Option Mismatch :=
  match settings with
  | .entries table =>
      firstFault table fun name item =>
        if names.contains name then checkText item else passOver item
  | .items values => (values.take names.length).findSome? checkText

def textsOf (settings : Settings) (names : List Text) : Except Mismatch (List (Option Text)) :=
  match mismatch? settings names with
  | some mismatch => .error mismatch
  | none => names.mapM fun name => textOf (settings.item? names name)

def consumerOf (item : Option Toml.Item) : Except Mismatch ConsumerOptions :=
  match item with
  | none => .ok .empty
  | some item => do
      let settings ← settingsOf "struct ConsumerOptions" item
      match ← textsOf settings consumerNames with
      | [servers, group, username, password, topic, time] =>
          .ok ⟨servers, group, username, password.map Secret.mk, topic, time⟩
      | _ => .ok .empty

def registryOf (item : Option Toml.Item) : Except Mismatch RegistryOptions :=
  match item with
  | none => .ok .empty
  | some item => do
      let settings ← settingsOf "struct SchemaRegistryOptions" item
      match ← textsOf settings registryNames with
      | [url, username, password] => .ok ⟨url, username, password.map Secret.mk⟩
      | _ => .ok .empty

def checkEntry (name : Text) (item : Toml.Item) : Option Mismatch :=
  if name = "consumer" then faultOf (consumerOf (some item))
  else if name = "query" then checkText item
  else if name = "schema_registry" then faultOf (registryOf (some item))
  else passOver item

def ofEntries (entries : Toml.Entries) : Except Mismatch Config :=
  match firstFault entries checkEntry with
  | some mismatch => .error mismatch
  | none => do
      let consumer ← consumerOf (entries.item? "consumer")
      let query ← textOf (entries.item? "query")
      let registry ← registryOf (entries.item? "schema_registry")
      .ok ⟨query.getD [], consumer, registry⟩

def parse (document : Text) : Except ConfigFault Config :=
  match Toml.read? document with
  | none => .error .malformed
  | some entries =>
      match ofEntries entries with
      | .ok config => .ok config
      | .error mismatch =>
          .error (.mismatch document mismatch.item.1 mismatch.item.2 mismatch.expected)

def startOf (options : ConsumerOptions) : Except ConfigError (Option Instant) :=
  match options.start with
  | .ok instant => .ok instant
  | .error error => .error (.invalidTime (options.startTime.getD []) error)

def ofBytes (path : Text) (bytes : Bytes) : Except ConfigError Config :=
  match Utf8.decode? bytes with
  | none => .error (.read path .notText)
  | some document =>
      match parse document with
      | .error fault => .error (.parse path fault)
      | .ok config => (startOf config.consumer).map fun _ => config

end Config

end TopicSieve
