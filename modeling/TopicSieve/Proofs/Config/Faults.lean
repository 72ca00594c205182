import TopicSieve.Proofs.Config.Hidden
import TopicSieve.Proofs.Text.Utf8
import TopicSieve.Proofs.Toml.Excerpts

/-!
What the faults of configuration files tell about passwords. Main statement: two files that differ
only in what a password is are loaded or refused alike, and the text of the fault is the same unless
it shows the line of the password.
-/

namespace TopicSieve

namespace Config

/-- Two documents with different characters on one line, in the same place and as many of them. -/
structure PasswordChange where
  front : Text
  old : Text
  new : Text
  back : Text

namespace PasswordChange

def oldDocument (change : PasswordChange) : Text := change.front ++ (change.old ++ change.back)

def newDocument (change : PasswordChange) : Text := change.front ++ (change.new ++ change.back)

structure IsValid (change : PasswordChange) : Prop where
  length : change.old.length = change.new.length
  oldLine : '\n' ∉ change.old
  newLine : '\n' ∉ change.new
  entries : ∃ oldEntries newEntries, Toml.read? change.oldDocument = some oldEntries ∧
    Toml.read? change.newDocument = some newEntries ∧
    withoutPasswords oldEntries = withoutPasswords newEntries

/-- A fault of the old document that shows the line where the documents differ. -/
def IsShownBy (change : PasswordChange) (error : ConfigError) : Prop :=
  ∃ path span found expected,
    error = .parse path (.mismatch change.oldDocument span found expected) ∧
      Toml.lineOf change.oldDocument span.position = change.front.count '\n'

end PasswordChange

theorem startOf_of_alike {left right : Config} (alike : left.AlikeButSecrets right) :
    startOf left.consumer = startOf right.consumer := by
  have startTime : left.consumer.startTime = right.consumer.startTime :=
    (congrArg ConsumerOptions.startTime alike.consumer :)
  rw [startOf, startOf, ConsumerOptions.start, ConsumerOptions.start, startTime]

theorem ofEntries_of_withoutPasswords {entries others : Toml.Entries}
    (same : withoutPasswords entries = withoutPasswords others) :
    (∃ left right, ofEntries entries = .ok left ∧ ofEntries others = .ok right ∧
      left.AlikeButSecrets right) ∨
    ∃ mismatch, ofEntries entries = .error mismatch ∧ ofEntries others = .error mismatch := by
  have blankSame : (ofEntries entries).map blank = (ofEntries others).map blank := by
    rw [← ofEntries_withoutPasswords, ← ofEntries_withoutPasswords, same]
  cases entriesEq : ofEntries entries with
  | error mismatch =>
      cases othersEq : ofEntries others with
      | error other =>
          rw [entriesEq, othersEq] at blankSame
          cases blankSame
          exact Or.inr ⟨mismatch, rfl, rfl⟩
      | ok =>
          rw [entriesEq, othersEq] at blankSame
          contradiction
  | ok left =>
      cases othersEq : ofEntries others with
      | error =>
          rw [entriesEq, othersEq] at blankSame
          contradiction
      | ok right =>
          rw [entriesEq, othersEq] at blankSame
          exact Or.inl ⟨left, right, rfl, rfl,
            alikeButSecrets_of_blank (Except.ok.inj blankSame)⟩

theorem ofBytes_encode (path document : Text) : ofBytes path (Utf8.encode document) =
    match parse document with
    | .error fault => .error (.parse path fault)
    | .ok config => (startOf config.consumer).map fun _ => config := by
  have decoded := (Utf8.decode?_eq_some_iff (Utf8.encode document) document).mpr rfl
  cases outcome : parse document <;> simp only [ofBytes, decoded, outcome]

theorem message_eq_iff {path document other : Text} {span : Span} {found : Toml.Value}
    {expected : Text} :
    (ConfigError.parse path (.mismatch document span found expected)).message =
        (ConfigError.parse path (.mismatch other span found expected)).message ↔
      Toml.excerpt document span (found.mismatch expected) =
        Toml.excerpt other span (found.mismatch expected) := by
  unfold ConfigError.message
  simp only [List.append_cancel_left_eq]
  rfl

/-- Whatever the layout of a configuration file and whatever is wrong with it, what a password is in
it does not matter to whether it loads, nor to what is said about it, unless the fault is on the line
of the password: then the password is shown. -/
theorem ofBytes_of_passwordChange {change : PasswordChange} (valid : change.IsValid) (path : Text) :
    (∃ left right, ofBytes path (Utf8.encode change.oldDocument) = .ok left ∧
      ofBytes path (Utf8.encode change.newDocument) = .ok right ∧ left.AlikeButSecrets right) ∨
    ∃ error other, ofBytes path (Utf8.encode change.oldDocument) = .error error ∧
      ofBytes path (Utf8.encode change.newDocument) = .error other ∧
      (error.message = other.message ↔ ¬ change.IsShownBy error ∨ change.old = change.new) := by
  obtain ⟨entries, others, oldRead, newRead, same⟩ := valid.entries
  rw [ofBytes_encode, ofBytes_encode, parse, parse, oldRead, newRead]
  rcases ofEntries_of_withoutPasswords same with
    ⟨left, right, leftEq, rightEq, alike⟩ | ⟨mismatch, leftEq, rightEq⟩
  · simp only [leftEq, rightEq, startOf_of_alike alike]
    cases startEq : startOf right.consumer with
    | ok => exact Or.inl ⟨left, right, rfl, rfl, alike⟩
    | error error =>
        refine Or.inr ⟨error, error, rfl, rfl, ?_⟩
        have notShown : ¬ change.IsShownBy error := by
          rintro ⟨_, _, _, _, rfl, _⟩
          rw [startOf] at startEq
          split at startEq <;> cases startEq
        exact ⟨fun _ => Or.inl notShown, fun _ => rfl⟩
  · obtain ⟨⟨span, found⟩, expected⟩ := mismatch
    simp only [leftEq, rightEq]
    refine Or.inr ⟨_, _, rfl, rfl, ?_⟩
    have shownIff : change.IsShownBy
        (.parse path (.mismatch change.oldDocument span found expected)) ↔
          Toml.lineOf change.oldDocument span.position = change.front.count '\n' := by
      constructor
      · rintro ⟨_, _, _, _, errorEq, shown⟩
        cases errorEq
        exact shown
      · exact fun shown => ⟨path, span, found, expected, rfl, shown⟩
    rw [shownIff, ← ne_eq, message_eq_iff]
    exact Toml.excerpt_eq_iff valid.length valid.oldLine valid.newLine span _

def tableChange : PasswordChange :=
  ⟨"[consumer]\nsasl_password = \"", "abc", "xyz", "\"\ntopic = 1\n"⟩

def tableEntries (password : Text) : Toml.Entries :=
  [("consumer", ⟨0, 0, 10⟩, .table .explicit
    [("sasl_password", ⟨27, 27, 32⟩, .string password), ("topic", ⟨41, 41, 42⟩, .integer 1)])]

theorem tableChange_isValid : tableChange.IsValid :=
  ⟨rfl, by decide, by decide, tableEntries "abc", tableEntries "xyz", rfl, rfl, rfl⟩

theorem ofBytes_tableChange :
    (∃ left right, ofBytes "c.toml" (Utf8.encode tableChange.oldDocument) = .ok left ∧
      ofBytes "c.toml" (Utf8.encode tableChange.newDocument) = .ok right ∧
      left.AlikeButSecrets right) ∨
    ∃ error other, ofBytes "c.toml" (Utf8.encode tableChange.oldDocument) = .error error ∧
      ofBytes "c.toml" (Utf8.encode tableChange.newDocument) = .error other ∧
      (error.message = other.message ↔
        ¬ tableChange.IsShownBy error ∨ tableChange.old = tableChange.new) :=
  ofBytes_of_passwordChange tableChange_isValid "c.toml"

def inlineChange : PasswordChange :=
  ⟨"consumer = \x7b sasl_password = \"", "abc", "xyz", "\", topic = 1 \x7d\n"⟩

def inlineEntries (password : Text) : Toml.Entries :=
  [("consumer", ⟨11, 11, 47⟩, .table .inline
    [("sasl_password", ⟨29, 29, 34⟩, .string password), ("topic", ⟨44, 44, 45⟩, .integer 1)])]

/-- Whether what is said about a file that is refused is the same with the other password. -/
def PasswordChange.IsKept (change : PasswordChange) (path : Text) : Prop :=
  ∀ error, ofBytes path (Utf8.encode change.oldDocument) = .error error →
    ∃ other, ofBytes path (Utf8.encode change.newDocument) = .error other ∧
      other.message = error.message

/-- On one line with the password, a fault shows the password. -/
theorem not_isKept_inlineChange :
    inlineChange.IsValid ∧ ¬ inlineChange.IsKept "c.toml" := by
  have oldRead : Toml.read? inlineChange.oldDocument = some (inlineEntries "abc") := rfl
  have newRead : Toml.read? inlineChange.newDocument = some (inlineEntries "xyz") := rfl
  have valid : inlineChange.IsValid :=
    ⟨rfl, by decide, by decide, _, _, oldRead, newRead, rfl⟩
  refine ⟨valid, fun isKept => ?_⟩
  have refused (document : Text) (password : Text)
      (readEq : Toml.read? document = some (inlineEntries password)) :
      ofBytes "c.toml" (Utf8.encode document) =
        .error (.parse "c.toml" (.mismatch document ⟨44, 44, 45⟩ (.integer 1) "a string")) := by
    rw [ofBytes_encode, parse, readEq]
    rfl
  obtain ⟨other, otherEq, same⟩ := isKept _ (refused inlineChange.oldDocument "abc" oldRead)
  rw [refused inlineChange.newDocument "xyz" newRead] at otherEq
  cases otherEq
  have excerpts := (Toml.excerpt_eq_iff valid.length valid.oldLine valid.newLine _ _).mp
    (message_eq_iff.mp same.symm)
  revert excerpts
  decide +kernel

end Config

end TopicSieve
