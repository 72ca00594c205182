import TopicSieve.Instant.Reader
import TopicSieve.Text.Quoted

/-!
The configuration: a filter query for when none is given, how to reach the broker, and how to reach
the registry of schemas. Passwords are kept apart from other texts, so that no way of showing a
configuration has to remember to hide them.
-/

namespace TopicSieve

structure Secret where
  text : Text
deriving DecidableEq

def Secret.mask : Text := "***"

structure ConsumerOptions where
  bootstrapServers : Option Text
  groupId : Option Text
  saslUsername : Option Text
  saslPassword : Option Secret
  topic : Option Text
  startTime : Option Text
deriving DecidableEq

structure RegistryOptions where
  url : Option Text
  username : Option Text
  password : Option Secret
deriving DecidableEq

structure Config where
  query : Text
  consumer : ConsumerOptions
  registry : RegistryOptions
deriving DecidableEq

namespace ConsumerOptions

def empty : ConsumerOptions := ⟨none, none, none, none, none, none⟩

def start (options : ConsumerOptions) : Except TimeError (Option Instant) :=
  match options.startTime with
  | none => .ok none
  | some text => (Instant.readStrict (Text.trim text)).map some

end ConsumerOptions

def RegistryOptions.empty : RegistryOptions := ⟨none, none, none⟩

namespace Config

def empty : Config := ⟨[], .empty, .empty⟩

def topicOrDash (config : Config) : Text :=
  (config.consumer.topic.filter fun topic => !topic.isEmpty).getD "-"

def redacted (config : Config) : Config where
  query := config.query
  consumer :=
    { config.consumer with
      saslPassword := config.consumer.saslPassword.map fun _ => ⟨Secret.mask⟩ }
  registry :=
    { config.registry with password := config.registry.password.map fun _ => ⟨Secret.mask⟩ }

def debugText (text : Option Text) : Text :=
  match text with
  | none => "None"
  | some text => "Some(" ++ Text.quoted text ++ ")"

def debugSecret (secret : Option Secret) : Text :=
  match secret with
  | none => "None"
  | some _ => "Some(" ++ Secret.mask ++ ")"

def debugRecord (name : Text) (fields : List (Text × Text)) : Text :=
  name ++ " \x7b " ++ Text.join ", " (fields.map fun field => field.1 ++ ": " ++ field.2) ++ " \x7d"

def debug (config : Config) : Text :=
  let consumer := config.consumer
  let registry := config.registry
  debugRecord "AppConfig"
    [("query", Text.quoted config.query),
      ("consumer", debugRecord "ConsumerOptions"
        [("bootstrap_servers", debugText consumer.bootstrapServers),
          ("group_id", debugText consumer.groupId),
          ("sasl_username", debugText consumer.saslUsername),
          ("sasl_password", debugSecret consumer.saslPassword),
          ("topic", debugText consumer.topic),
          ("consumer_group_offset_utc_timestamp", debugText consumer.startTime)]),
      ("schema_registry", debugRecord "SchemaRegistryOptions"
        [("url", debugText registry.url), ("username", debugText registry.username),
          ("password", debugSecret registry.password)])]

end Config

end TopicSieve
