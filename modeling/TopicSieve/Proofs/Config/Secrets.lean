import TopicSieve.Config.Writer
import TopicSieve.Consumer

/-!
Configurations that differ only in what their passwords are. Main statement: such configurations are
shown and written alike, and so is everything else that is read off them, short of the settings with
which a broker is reached.
-/

namespace TopicSieve

def ConsumerOptions.withoutPassword (options : ConsumerOptions) : ConsumerOptions :=
  { options with saslPassword := none }

def RegistryOptions.withoutPassword (options : RegistryOptions) : RegistryOptions :=
  { options with password := none }

namespace Config

structure AlikeButSecrets (left right : Config) : Prop where
  query : left.query = right.query
  consumer : left.consumer.withoutPassword = right.consumer.withoutPassword
  saslPassword : left.consumer.saslPassword.isSome = right.consumer.saslPassword.isSome
  registry : left.registry.withoutPassword = right.registry.withoutPassword
  password : left.registry.password.isSome = right.registry.password.isSome

theorem map_const_of_isSome {left right : Option Secret} (same : left.isSome = right.isSome)
    (shown : Secret) : (left.map fun _ => shown) = right.map fun _ => shown := by
  cases left <;> cases right
  case none.none => rfl
  case some.some => rfl
  all_goals contradiction

theorem debugSecret_of_isSome {left right : Option Secret} (same : left.isSome = right.isSome) :
    debugSecret left = debugSecret right := by
  cases left <;> cases right
  case none.none => rfl
  case some.some => rfl
  all_goals contradiction

namespace AlikeButSecrets

variable {left right : Config}

theorem bootstrapServers_eq (alike : left.AlikeButSecrets right) :
    left.consumer.bootstrapServers = right.consumer.bootstrapServers :=
  (congrArg ConsumerOptions.bootstrapServers alike.consumer :)

theorem groupId_eq (alike : left.AlikeButSecrets right) :
    left.consumer.groupId = right.consumer.groupId :=
  (congrArg ConsumerOptions.groupId alike.consumer :)

theorem topic_eq (alike : left.AlikeButSecrets right) :
    left.consumer.topic = right.consumer.topic :=
  (congrArg ConsumerOptions.topic alike.consumer :)

theorem topicOrDash_eq (alike : left.AlikeButSecrets right) :
    left.topicOrDash = right.topicOrDash := by
  rw [topicOrDash, topicOrDash, alike.topic_eq]

theorem redacted_eq (alike : left.AlikeButSecrets right) : left.redacted = right.redacted := by
  obtain ⟨query, consumer, sasl, registry, password⟩ := alike
  have saslMasked := map_const_of_isSome sasl ⟨Secret.mask⟩
  have passwordMasked := map_const_of_isSome password ⟨Secret.mask⟩
  simp only [ConsumerOptions.withoutPassword, ConsumerOptions.mk.injEq] at consumer
  simp only [RegistryOptions.withoutPassword, RegistryOptions.mk.injEq] at registry
  simp only [redacted, query, consumer, registry, saslMasked, passwordMasked]

theorem printed_eq (alike : left.AlikeButSecrets right) : left.printed = right.printed := by
  rw [printed, printed, alike.redacted_eq]

theorem debug_eq (alike : left.AlikeButSecrets right) : left.debug = right.debug := by
  obtain ⟨query, consumer, sasl, registry, password⟩ := alike
  simp only [ConsumerOptions.withoutPassword, ConsumerOptions.mk.injEq] at consumer
  simp only [RegistryOptions.withoutPassword, RegistryOptions.mk.injEq] at registry
  simp only [debug, query, consumer, registry, debugSecret_of_isSome sasl,
    debugSecret_of_isSome password]

end AlikeButSecrets

theorem ofBytes_path {path : Text} {bytes : Bytes} {config : Config}
    (loads : ofBytes path bytes = .ok config) (other : Text) : ofBytes other bytes = .ok config := by
  unfold ofBytes at loads ⊢
  split at loads
  · contradiction
  · split at loads
    · contradiction
    · exact loads

end Config

theorem ConsumerOptions.connect_of_noServers {options : ConsumerOptions}
    (noServers : nonBlank? options.bootstrapServers = none) (topic : Text) :
    options.connect topic = .error (.missingOption "bootstrap_servers") := by
  have settings : options.clientSettings = .error (.missingOption "bootstrap_servers") := by
    rw [clientSettings, noServers]
  rw [connect, settings]
  rfl

end TopicSieve
