import TopicSieve.Config.Reader
import TopicSieve.Message.Basic
import TopicSieve.Text.Blank
import TopicSieve.Text.Utf8

/-!
The settings with which a broker is reached, and the messages that its records become.
-/

namespace TopicSieve

inductive RecordTime where
  | notAvailable
  | created (millis : Int)
  | appended (millis : Int)
deriving Repr, DecidableEq

structure Record where
  topic : Text
  partition : Int
  offset : Int
  time : RecordTime
  headers : List Text
  payload : Option Bytes

def RecordTime.millis? : RecordTime → Option Int
  | notAvailable => none
  | created millis | appended millis => if millis = -1 then none else some millis

def Message.ofRecord (record : Record) : Message where
  topic := record.topic
  partition := record.partition
  offset := record.offset
  timestamp := record.time.millis?.bind Instant.ofMillis?
  headers := record.headers
  value := record.payload.map Utf8.decodeLossy

inductive ClientFault where
  | zeroInSetting
  | namelessTopic
deriving Repr, DecidableEq

def ClientFault.message : ClientFault → Text
  | zeroInSetting => "FFI null error"
  | namelessTopic => "Subscription error: Local: Invalid argument or configuration"

inductive ConsumerError where
  | missingOption (name : Text)
  | config (error : ConfigError)
  | client (fault : ClientFault)

namespace ConsumerError

def message : ConsumerError → Text
  | missingOption name => "Missing consumer option '" ++ name ++ "' in config"
  | config error => error.message
  | client fault => "Kafka client error: " ++ fault.message

def causes : ConsumerError → List Text
  | missingOption _ => []
  | config error => [error.cause]
  | client fault => [fault.message]

end ConsumerError

namespace ConsumerOptions

def nonBlank? (value : Option Text) : Option Text :=
  (value.map Text.trim).filter fun text => !text.isEmpty

def defaultGroup : Text := "topic-filter"

/-- The settings of the broker's client, sorted by name. Reading starts with the first record where
the group has no place yet, and a user name asks for an encrypted login. -/
def clientSettings (options : ConsumerOptions) : Except ConsumerError (List (Text × Text)) :=
  match nonBlank? options.bootstrapServers with
  | none => .error (.missingOption "bootstrap_servers")
  | some servers =>
      let group := (nonBlank? options.groupId).getD defaultGroup
      let common : List (Text × Text) :=
        [("auto.offset.reset", "earliest"), ("bootstrap.servers", servers),
          ("enable.partition.eof", "false"), ("group.id", group)]
      match nonBlank? options.saslUsername with
      | none => .ok common
      | some username =>
          let password := (options.saslPassword.map Secret.text).getD []
          let login : List (Text × Text) :=
            [("sasl.mechanism", "PLAIN"), ("sasl.password", password),
              ("sasl.username", username), ("security.protocol", "SASL_SSL")]
          .ok (common ++ login)

/-- The instant from which a consumer of a topic starts, if one is given. The settings are looked at
first, then the instant, and then the topic. -/
def connect (options : ConsumerOptions) (topic : Text) : Except ConsumerError (Option Instant) := do
  let settings ← options.clientSettings
  if settings.any fun setting => setting.2.contains '\x00' then .error (.client .zeroInSetting)
  else
    match Config.startOf options with
    | .error error => .error (.config error)
    | .ok instant =>
        if topic.isEmpty then .error (.client .namelessTopic) else .ok instant

end ConsumerOptions

end TopicSieve
