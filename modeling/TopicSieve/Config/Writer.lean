import TopicSieve.Config.Basic
import TopicSieve.Toml.Writer

/-!
Writing a configuration as a TOML document. Settings that are missing are left out.
-/

namespace TopicSieve.Config

def settingLine (name : Text) (value : Option Text) : Text :=
  match value with
  | none => []
  | some text => Toml.writeAssignment name text

def consumerText (options : ConsumerOptions) : Text :=
  "[consumer]\n" ++
    settingLine "bootstrap_servers" options.bootstrapServers ++
    settingLine "group_id" options.groupId ++
    settingLine "sasl_username" options.saslUsername ++
    settingLine "sasl_password" (options.saslPassword.map Secret.text) ++
    settingLine "topic" options.topic ++
    settingLine "consumer_group_offset_utc_timestamp" options.startTime

def registryText (options : RegistryOptions) : Text :=
  "[schema_registry]\n" ++
    settingLine "url" options.url ++
    settingLine "username" options.username ++
    settingLine "password" (options.password.map Secret.text)

def document (config : Config) : Text :=
  Toml.writeAssignment "query" config.query ++ "\n" ++ consumerText config.consumer ++ "\n" ++
    registryText config.registry

def printed (config : Config) : Text := config.redacted.document

end TopicSieve.Config
