import Mathlib.Data.List.Forall2
import Mathlib.Data.List.Nodup
import TopicSieve.Proofs.Toml.Strings
import TopicSieve.Toml.Reader

/-!
Documents made of settings and tables, one setting or header a line. Main statement: such a document
is read, and its entries are the settings and tables in their order.
-/

namespace TopicSieve.Toml

/-! The layout of a document -/

structure WrittenTable where
  name : Text
  settings : List (Text × Text)
  blanks : Nat

def settingsText (settings : List (Text × Text)) : Text :=
  settings.flatMap fun (name, text) => writeAssignment name text

def WrittenTable.text (table : WrittenTable) : Text :=
  '[' :: table.name ++ "]\n" ++ settingsText table.settings ++ List.replicate table.blanks '\n'

structure IsBareKey (key : Text) : Prop where
  nonempty : key ≠ []
  bare : ∀ char ∈ key, isBareKeyChar char = true

instance (key : Text) : Decidable (IsBareKey key) :=
  decidable_of_iff (key ≠ [] ∧ key.all isBareKeyChar = true)
    ⟨fun isKey => ⟨isKey.1, List.all_eq_true.mp isKey.2⟩,
      fun isKey => ⟨isKey.nonempty, List.all_eq_true.mpr isKey.bare⟩⟩

/-! What the parts of a document become -/

def Assignment.Gives (assignment : Assignment) (setting : Text × Text) : Prop :=
  assignment.path = [] ∧ assignment.key.text = setting.1 ∧ assignment.item.2 = .string setting.2

def Block.Opens (block : Block) (table : WrittenTable) : Prop :=
  block.header.path = [] ∧ block.header.key.text = table.name ∧ block.header.ofArray = false ∧
    List.Forall₂ Assignment.Gives block.assignments table.settings

def SetsText (entry : Text × Item) (setting : Text × Text) : Prop :=
  entry.1 = setting.1 ∧ entry.2.2 = .string setting.2

def SetsTable (entry : Text × Item) (table : WrittenTable) : Prop :=
  entry.1 = table.name ∧ ∃ inner, entry.2.2 = .table .explicit inner ∧
    List.Forall₂ SetsText inner table.settings

/-! Characters that nothing is passed over in front of -/

theorem isBareKeyChar_head {key : Text} (isKey : IsBareKey key) :
    ∃ first rest, key = first :: rest ∧ isBareKeyChar first = true := by
  obtain ⟨nonempty, bare⟩ := isKey
  obtain ⟨first, rest, rfl⟩ := List.exists_cons_of_ne_nil nonempty
  exact ⟨first, rest, rfl, bare first List.mem_cons_self⟩

theorem ne_of_isBareKeyChar {char other : Char} (bare : isBareKeyChar char = true)
    (notBare : isBareKeyChar other = false) : char ≠ other := by
  rintro rfl
  rw [bare] at notBare
  contradiction

theorem isSpace_eq_false {char : Char} (notBlank : char ≠ ' ') (notTab : char ≠ '\t') :
    isSpace char = false := by
  simp [isSpace, notBlank, notTab]

theorem isSpace_of_isBareKeyChar {char : Char} (bare : isBareKeyChar char = true) :
    isSpace char = false :=
  isSpace_eq_false (ne_of_isBareKeyChar bare (by decide)) (ne_of_isBareKeyChar bare (by decide))

theorem skipSpaces_of_cons {cursor : Cursor} {first : Char} {rest : Text}
    (restEq : cursor.rest = first :: rest) (notSpace : isSpace first = false) :
    skipSpaces cursor = cursor := by
  apply Cursor.dropWhile_of_head
  intro next isNext
  rw [restEq] at isNext
  cases isNext
  exact notSpace

/-! Names -/

section

variable {cursor : Cursor} {key back : Text}

theorem key?_bare (isKey : IsBareKey key) (restEq : cursor.rest = key ++ back)
    (ends : ∀ next, back.head? = some next → isBareKeyChar next = false) :
    ∃ span, Yields (key? cursor) ⟨key, span⟩ back := by
  obtain ⟨first, rest, rfl, firstBare⟩ := isBareKeyChar_head isKey
  have peekEq := Cursor.peek?_of_cons restEq
  have notDouble : first ≠ '"' := ne_of_isBareKeyChar firstBare (by decide)
  have notSingle : first ≠ '\'' := ne_of_isBareKeyChar firstBare (by decide)
  let after := cursor.drop (first :: rest).length
  refine ⟨.between cursor after, after, ?_, Cursor.rest_drop_length restEq⟩
  unfold key?
  rw [if_neg (by simp [peekEq, notDouble, notSingle]),
    Cursor.takeWhile_of_run restEq isKey.bare ends]
  rfl

theorem name?_bare (isKey : IsBareKey key) {gap : Text}
    (spaces : ∀ char ∈ gap, isSpace char = true) {next : Char} {rest : Text}
    (restEq : cursor.rest = key ++ (gap ++ next :: rest)) (visible : isSpace next = false)
    (notBare : isBareKeyChar next = false) (notDot : next ≠ '.') :
    ∃ span after, name? cursor = some ([], ⟨key, span⟩, after) ∧ after.rest = next :: rest := by
  obtain ⟨first, more, keyEq, firstBare⟩ := isBareKeyChar_head isKey
  have startEq : skipSpaces cursor = cursor := by
    rw [keyEq] at restEq
    exact skipSpaces_of_cons restEq (isSpace_of_isBareKeyChar firstBare)
  have ends : ∀ following, (gap ++ next :: rest).head? = some following →
      isBareKeyChar following = false := by
    intro following isFollowing
    cases gap with
    | nil =>
        cases isFollowing
        exact notBare
    | cons space gap =>
        cases isFollowing
        have isSpaceChar := spaces following List.mem_cons_self
        apply Bool.eq_false_iff.mpr
        intro bare
        rw [isSpace_of_isBareKeyChar bare] at isSpaceChar
        contradiction
  obtain ⟨span, after, keyRead, afterEq⟩ := key?_bare isKey restEq ends
  have gapEq : (skipSpaces after).rest = next :: rest := by
    refine Cursor.rest_dropWhile_of_run afterEq spaces ?_
    intro following isFollowing
    cases isFollowing
    exact visible
  refine ⟨span, skipSpaces after, ?_, gapEq⟩
  have keysRead : keysFrom? (cursor.rest.length + 1) cursor =
      some ([⟨key, span⟩], skipSpaces after) := by
    rw [keysFrom?, startEq, keyRead]
    simp [Cursor.peek?_of_cons gapEq, notDot]
  rw [name?, keysRead]
  rfl

end

/-! Lines -/

theorem head_writeString (text : Text) :
    ∃ quote rest, writeString text = quote :: rest ∧ (quote = '"' ∨ quote = '\'') := by
  have form := stringForm_writeString text
  generalize writeString text = written at form
  cases form with
  | basic => exact ⟨'"', _, rfl, Or.inl rfl⟩
  | literal => exact ⟨'\'', _, rfl, Or.inr rfl⟩
  | basicLines => exact ⟨'"', _, rfl, Or.inl rfl⟩
  | literalLines => exact ⟨'\'', _, rfl, Or.inr rfl⟩

section

variable {cursor : Cursor} {back : Text}

theorem value?_string (text : Text)
    (restEq : cursor.rest = writeString text ++ '\n' :: back) :
    ∃ item, Yields (value? cursor) item ('\n' :: back) ∧ item.2 = .string text := by
  obtain ⟨after, stringEq, afterEq⟩ :=
    @string?_writeString text cursor ('\n' :: back) restEq (by simp) (by simp)
  obtain ⟨quote, rest, headEq, isQuote⟩ := head_writeString text
  have peekEq : cursor.peek? = some quote := by
    rw [headEq] at restEq
    exact Cursor.peek?_of_cons restEq
  refine ⟨(.between cursor after, .string text), ⟨after, ?_, afterEq⟩, rfl⟩
  change valueFrom? (2 * cursor.rest.length + 1 + 1) depthLimit cursor = _
  rcases isQuote with rfl | rfl
  all_goals
    unfold valueFrom?
    simp [peekEq, stringEq]

theorem afterComment?_of_feed (restEq : cursor.rest = '\n' :: back) :
    afterComment? (skipSpaces cursor) = some cursor := by
  rw [skipSpaces_of_cons restEq (by decide), afterComment?, Cursor.peek?_of_cons restEq]
  rfl

theorem afterNewline?_of_feed (restEq : cursor.rest = '\n' :: back) :
    afterNewline? cursor = some (cursor.drop 1) := by
  rw [afterNewline?, restEq]
  rfl

theorem afterLine?_of_feed (restEq : cursor.rest = '\n' :: back) :
    afterLine? cursor = some (cursor.drop 1) := by
  simp [afterLine?, afterComment?_of_feed restEq, restEq, afterNewline?_of_feed restEq]

theorem assignment?_written {setting : Text × Text} (isKey : IsBareKey setting.1)
    (restEq : cursor.rest = writeAssignment setting.1 setting.2 ++ back) :
    ∃ assignment, Yields (assignment? cursor) assignment ('\n' :: back) ∧
      assignment.Gives setting := by
  obtain ⟨key, text⟩ := setting
  have lineEq : cursor.rest = key ++ ([' '] ++ '=' :: ' ' :: (writeString text ++ '\n' :: back)) := by
    simpa [writeAssignment] using restEq
  have spaces : ∀ char ∈ [' '], isSpace char = true := by
    rw [List.forall_mem_singleton]
    rfl
  obtain ⟨span, after, nameEq, afterEq⟩ := name?_bare isKey spaces lineEq rfl rfl (by decide)
  obtain ⟨quote, rest, headEq, isQuote⟩ := head_writeString text
  have behindEq : (after.drop 1).rest = [' '] ++ (writeString text ++ '\n' :: back) :=
    Cursor.rest_drop_one afterEq
  have valueEq : (skipSpaces (after.drop 1)).rest = writeString text ++ '\n' :: back := by
    refine Cursor.rest_dropWhile_of_run behindEq spaces ?_
    intro next isNext
    rw [headEq] at isNext
    cases isNext
    rcases isQuote with rfl | rfl <;> rfl
  obtain ⟨item, ⟨final, valueRead, finalEq⟩, itemEq⟩ := value?_string text valueEq
  refine ⟨⟨[], ⟨key, span⟩, item⟩, ⟨final, ?_, finalEq⟩, rfl, rfl, itemEq⟩
  rw [assignment?, nameEq]
  simp [Cursor.peek?_of_cons afterEq, valueRead]

def Begins (back : Text) : Prop := ∀ first, back.head? = some first →
  isSpace first = false ∧ first ≠ '#' ∧ first ≠ '\n' ∧ first ≠ '\r'

theorem skipLines?_blanks (begins : Begins back) (blanks : Nat) {cursor : Cursor} {steps : Nat}
    (restEq : cursor.rest = List.replicate blanks '\n' ++ back) (enough : blanks < steps) :
    ∃ after, skipLines? steps cursor = some after ∧ after.rest = back := by
  induction blanks generalizing cursor steps with
  | zero =>
      obtain ⟨steps, rfl⟩ := Nat.exists_eq_succ_of_ne_zero (by omega : steps ≠ 0)
      rw [List.replicate_zero, List.nil_append] at restEq
      refine ⟨cursor, ?_, restEq⟩
      have stays : skipSpaces cursor = cursor := by
        apply Cursor.dropWhile_of_head
        intro next isNext
        exact (begins next (restEq ▸ isNext)).1
      have noComment : afterComment? cursor = some cursor := by
        rw [afterComment?, if_pos]
        rw [bne_iff_ne]
        intro isComment
        exact (begins '#' (restEq ▸ isComment)).2.1 rfl
      have noBreak : afterNewline? cursor = none := by
        cases back with
        | nil => rw [afterNewline?, restEq]
        | cons first rest =>
            obtain ⟨_, _, notFeed, notReturn⟩ := begins first rfl
            exact afterNewline?_of_cons restEq notFeed notReturn
      rw [skipLines?, stays, noComment]
      simp [noBreak]
  | succ blanks ih =>
      obtain ⟨steps, rfl⟩ := Nat.exists_eq_succ_of_ne_zero (by omega : steps ≠ 0)
      have feedEq : cursor.rest = '\n' :: (List.replicate blanks '\n' ++ back) := restEq
      obtain ⟨after, afterRead, afterEq⟩ :=
        ih (Cursor.rest_drop_one feedEq) (Nat.lt_of_succ_lt_succ enough)
      refine ⟨after, ?_, afterEq⟩
      rw [skipLines?, afterComment?_of_feed feedEq]
      simp [afterNewline?_of_feed feedEq, afterRead]

theorem skipGap?_blanks (begins : Begins back) {blanks : Nat}
    (restEq : cursor.rest = List.replicate blanks '\n' ++ back) :
    ∃ after, skipGap? cursor = some after ∧ after.rest = back := by
  refine skipLines?_blanks begins blanks restEq ?_
  rw [restEq, List.length_append, List.length_replicate]
  omega

def EndsTable (back : Text) : Prop := ∀ first, back.head? = some first → first = '['

theorem EndsTable.begins (ends : EndsTable back) : Begins back := by
  intro first isFirst
  rw [ends first isFirst]
  decide

theorem begins_of_bareKey {key : Text} (isKey : IsBareKey key) : Begins (key ++ back) := by
  obtain ⟨first, rest, rfl, bare⟩ := isBareKeyChar_head isKey
  intro next isNext
  cases isNext
  exact ⟨isSpace_of_isBareKeyChar bare, ne_of_isBareKeyChar bare (by decide),
    ne_of_isBareKeyChar bare (by decide), ne_of_isBareKeyChar bare (by decide)⟩

theorem length_le_settingsText (settings : List (Text × Text)) :
    settings.length ≤ (settingsText settings).length := by
  induction settings with
  | nil => exact Nat.le_refl 0
  | cons setting settings ih =>
      have restEq : settingsText (setting :: settings) =
        writeAssignment setting.1 setting.2 ++ settingsText settings := rfl
      have feedLength : ("\n" : Text).length = 1 := rfl
      simp only [restEq, writeAssignment, List.length_append, List.length_cons, feedLength]
      omega

theorem assignmentsFrom?_written {settings : List (Text × Text)}
    (areKeys : ∀ setting ∈ settings, IsBareKey setting.1) (ends : EndsTable back) {blanks : Nat}
    {cursor : Cursor} {steps : Nat}
    (restEq : cursor.rest = settingsText settings ++ (List.replicate blanks '\n' ++ back))
    (enough : settings.length < steps) :
    ∃ assignments, Yields (assignmentsFrom? steps cursor) assignments back ∧
      List.Forall₂ Assignment.Gives assignments settings := by
  induction settings generalizing cursor steps with
  | nil =>
      obtain ⟨steps, rfl⟩ := Nat.exists_eq_succ_of_ne_zero (by omega : steps ≠ 0)
      obtain ⟨after, gapEq, afterEq⟩ := skipGap?_blanks ends.begins restEq
      refine ⟨[], ⟨after, ?_, afterEq⟩, .nil⟩
      have finished : after.rest.isEmpty = true ∨ after.peek? = some '[' := by
        rw [Cursor.peek?, afterEq]
        cases back with
        | nil => exact Or.inl rfl
        | cons first rest => exact Or.inr (congrArg some (ends first rfl))
      rw [assignmentsFrom?, gapEq, Option.bind_eq_bind, Option.bind_some, if_pos finished]
  | cons setting settings ih =>
      obtain ⟨steps, rfl⟩ := Nat.exists_eq_succ_of_ne_zero (by omega : steps ≠ 0)
      rw [List.forall_mem_cons] at areKeys
      let behind := settingsText settings ++ (List.replicate blanks '\n' ++ back)
      have lineEq : cursor.rest = writeAssignment setting.1 setting.2 ++ behind := by
        simpa [settingsText, behind] using restEq
      have keyEq : cursor.rest = setting.1 ++
          (" = " ++ writeString setting.2 ++ "\n" ++ behind) := by
        rw [lineEq]
        simp [writeAssignment]
      obtain ⟨start, gapEq, startEq⟩ :=
        @skipGap?_blanks cursor _ (begins_of_bareKey areKeys.1) 0 keyEq
      obtain ⟨first, more, firstEq, bare⟩ := isBareKeyChar_head areKeys.1
      have unfinished : ¬ (start.rest.isEmpty = true ∨ start.peek? = some '[') := by
        rw [Cursor.peek?, startEq, firstEq]
        simp [ne_of_isBareKeyChar bare (by decide : isBareKeyChar '[' = false)]
      rw [← keyEq, lineEq] at startEq
      obtain ⟨assignment, ⟨after, lineRead, afterEq⟩, gives⟩ :=
        assignment?_written areKeys.1 startEq
      obtain ⟨assignments, ⟨final, restRead, finalEq⟩, givesRest⟩ :=
        ih areKeys.2 (Cursor.rest_drop_one afterEq) (Nat.lt_of_succ_lt_succ enough)
      refine ⟨assignment :: assignments, ⟨final, ?_, finalEq⟩, .cons gives givesRest⟩
      rw [assignmentsFrom?, gapEq, Option.bind_eq_bind, Option.bind_some, if_neg unfinished]
      simp [lineRead, afterLine?_of_feed afterEq, restRead]

theorem endsTable_tables (tables : List WrittenTable) :
    EndsTable (tables.flatMap WrittenTable.text) := by
  intro first isFirst
  cases tables with
  | nil => contradiction
  | cons table tables => exact (Option.some.inj isFirst).symm

theorem header?_written {name : Text} (isKey : IsBareKey name)
    (restEq : cursor.rest = '[' :: (name ++ "]\n" ++ back)) :
    ∃ header, Yields (header? cursor) header ('\n' :: back) ∧ header.path = [] ∧
      header.key.text = name ∧ header.ofArray = false := by
  have nameEq : (cursor.drop 1).rest = name ++ ([] ++ ']' :: '\n' :: back) := by
    rw [Cursor.rest_drop_one restEq]
    simp
  obtain ⟨first, more, firstEq, bare⟩ := isBareKeyChar_head isKey
  have single : ((cursor.drop 1).peek? == some '[') = false := by
    rw [Cursor.peek?, nameEq, firstEq]
    simp [ne_of_isBareKeyChar bare (by decide : isBareKeyChar '[' = false)]
  obtain ⟨span, after, nameRead, afterEq⟩ :=
    name?_bare isKey (by simp) nameEq rfl rfl (by decide)
  refine ⟨⟨[], ⟨name, span⟩, false, .between cursor (after.drop 1)⟩,
    ⟨after.drop 1, ?_, Cursor.rest_drop_one afterEq⟩, rfl, rfl, rfl⟩
  rw [header?, single]
  simp [nameRead, afterEq]

theorem blocksFrom?_written {tables : List WrittenTable}
    (areKeys : ∀ table ∈ tables, IsBareKey table.name ∧
      ∀ setting ∈ table.settings, IsBareKey setting.1)
    {cursor : Cursor} {steps : Nat} (restEq : cursor.rest = tables.flatMap WrittenTable.text)
    (enough : tables.length < steps) :
    ∃ blocks, blocksFrom? steps cursor = some blocks ∧ List.Forall₂ Block.Opens blocks tables := by
  induction tables generalizing cursor steps with
  | nil =>
      obtain ⟨steps, rfl⟩ := Nat.exists_eq_succ_of_ne_zero (by omega : steps ≠ 0)
      refine ⟨[], ?_, .nil⟩
      have finished : cursor.rest.isEmpty = true := by rw [restEq]; rfl
      rw [blocksFrom?, if_pos finished]
  | cons table tables ih =>
      obtain ⟨steps, rfl⟩ := Nat.exists_eq_succ_of_ne_zero (by omega : steps ≠ 0)
      rw [List.forall_mem_cons] at areKeys
      obtain ⟨⟨isKey, areNames⟩, restKeys⟩ := areKeys
      let behind := tables.flatMap WrittenTable.text
      have headerEq : cursor.rest = '[' :: (table.name ++ "]\n" ++
          (settingsText table.settings ++ (List.replicate table.blanks '\n' ++ behind))) := by
        simpa [WrittenTable.text, behind] using restEq
      have unfinished : ¬ cursor.rest.isEmpty = true := by rw [headerEq]; exact Bool.false_ne_true
      obtain ⟨header, ⟨after, headerRead, afterEq⟩, headerPath, headerName, headerKind⟩ :=
        header?_written isKey headerEq
      have settingsEq := Cursor.rest_drop_one afterEq
      have settingsFit : table.settings.length < (after.drop 1).rest.length + 1 := by
        have bound := length_le_settingsText table.settings
        rw [settingsEq, List.length_append]
        omega
      obtain ⟨assignments, ⟨next, settingsRead, nextEq⟩, gives⟩ :=
        assignmentsFrom?_written areNames (endsTable_tables tables) settingsEq settingsFit
      obtain ⟨blocks, blocksRead, opens⟩ := ih restKeys nextEq (Nat.lt_of_succ_lt_succ enough)
      refine ⟨⟨header, assignments⟩ :: blocks, ?_,
        .cons ⟨headerPath, headerName, headerKind, gives⟩ opens⟩
      rw [blocksFrom?, if_neg unfinished]
      simp [headerRead, afterLine?_of_feed afterEq, settingsRead, blocksRead]

end

/-! Entries -/

theorem item?_of_not_mem {entries : Entries} {key : Text}
    (absent : key ∉ entries.map Prod.fst) : entries.item? key = none := by
  rw [Entries.item?, Option.map_eq_none_iff, List.find?_eq_none]
  intro entry member same
  exact absent (List.mem_map.mpr ⟨entry, member, beq_iff_eq.mp same⟩)

theorem set_of_not_mem {entries : Entries} {key : Text} (absent : key ∉ entries.map Prod.fst)
    (item : Item) : entries.set key item = entries ++ [(key, item)] := by
  rw [Entries.set, item?_of_not_mem absent]
  rfl

theorem names_of_setsText {entries : Entries} {settings : List (Text × Text)}
    (sets : List.Forall₂ SetsText entries settings) :
    entries.map Prod.fst = settings.map Prod.fst := by
  induction sets with
  | nil => rfl
  | cons first _ ih => rw [List.map_cons, List.map_cons, first.1, ih]

theorem assignAll_written {own : TableKind} (notDotted : own ≠ .dotted)
    {assignments : List Assignment} {settings : List (Text × Text)}
    (gives : List.Forall₂ Assignment.Gives assignments settings) {entries : Entries}
    (distinct : (entries.map Prod.fst ++ settings.map Prod.fst).Nodup) :
    ∃ added, entries.assignAll own assignments = some (entries ++ added) ∧
      List.Forall₂ SetsText added settings := by
  induction gives generalizing entries with
  | nil => exact ⟨[], congrArg some (List.append_nil entries).symm, .nil⟩
  | @cons assignment setting assignments settings first _ ih =>
      obtain ⟨noPath, keyEq, itemEq⟩ := first
      rw [List.map_cons, List.nodup_middle, List.nodup_cons] at distinct
      have absent : assignment.key.text ∉ entries.map Prod.fst := by
        rw [keyEq]
        exact fun member => distinct.1 (List.mem_append_left _ member)
      have assigned : entries.assign own assignment =
          some (entries ++ [(assignment.key.text, assignment.item)]) := by
        have kindOther : (own == TableKind.dotted) = false := by simpa using notDotted
        rw [Entries.assign, noPath, Entries.changeAt]
        simp [kindOther, item?_of_not_mem absent, set_of_not_mem absent]
      have distinctRest : ((entries ++ [(assignment.key.text, assignment.item)]).map Prod.fst ++
          settings.map Prod.fst).Nodup := by
        rw [List.map_append, List.map_singleton, keyEq, List.append_assoc, List.singleton_append,
          List.nodup_middle, List.nodup_cons]
        exact distinct
      obtain ⟨added, addedEq, sets⟩ := ih distinctRest
      refine ⟨(assignment.key.text, assignment.item) :: added, ?_, .cons ⟨keyEq, itemEq⟩ sets⟩
      rw [Entries.assignAll, List.foldlM_cons, assigned, Option.bind_eq_bind, Option.bind_some]
      rw [List.append_assoc] at addedEq
      exact addedEq

theorem addBlock_written {block : Block} {table : WrittenTable} (opens : block.Opens table)
    (distinct : (table.settings.map Prod.fst).Nodup) {entries : Entries}
    (absent : table.name ∉ entries.map Prod.fst) :
    ∃ entry, entries.addBlock block = some (entries ++ [entry]) ∧ SetsTable entry table := by
  obtain ⟨noPath, nameEq, single, gives⟩ := opens
  obtain ⟨inner, innerEq, sets⟩ :=
    @assignAll_written .explicit (by decide) _ _ gives [] (by simpa using distinct)
  rw [← nameEq] at absent
  refine ⟨(block.header.key.text, block.header.span, .table .explicit inner), ?_,
    nameEq, inner, rfl, sets⟩
  rw [Entries.addBlock, noPath, Entries.changeAt]
  simp only [Header.opened?, item?_of_not_mem absent, Header.close, single,
    set_of_not_mem absent, Option.bind_eq_bind, Option.bind_some, innerEq, List.nil_append]
  rfl

theorem addBlocks_written {blocks : List Block} {tables : List WrittenTable}
    (opens : List.Forall₂ Block.Opens blocks tables)
    (distinctSettings : ∀ table ∈ tables, (table.settings.map Prod.fst).Nodup) {entries : Entries}
    (distinct : (entries.map Prod.fst ++ tables.map WrittenTable.name).Nodup) :
    ∃ added, blocks.foldlM Entries.addBlock entries = some (entries ++ added) ∧
      List.Forall₂ SetsTable added tables := by
  induction opens generalizing entries with
  | nil => exact ⟨[], congrArg some (List.append_nil entries).symm, .nil⟩
  | @cons block table blocks tables first _ ih =>
      rw [List.forall_mem_cons] at distinctSettings
      rw [List.map_cons, List.nodup_middle, List.nodup_cons] at distinct
      have absent : table.name ∉ entries.map Prod.fst :=
        fun member => distinct.1 (List.mem_append_left _ member)
      obtain ⟨entry, entryEq, setsFirst⟩ := addBlock_written first distinctSettings.1 absent
      have distinctRest : ((entries ++ [entry]).map Prod.fst ++
          tables.map WrittenTable.name).Nodup := by
        rw [List.map_append, List.map_singleton, setsFirst.1, List.append_assoc,
          List.singleton_append, List.nodup_middle, List.nodup_cons]
        exact distinct
      obtain ⟨added, addedEq, sets⟩ := ih distinctSettings.2 distinctRest
      refine ⟨entry :: added, ?_, .cons setsFirst sets⟩
      rw [List.foldlM_cons, entryEq, Option.bind_eq_bind, Option.bind_some]
      rw [List.append_assoc] at addedEq
      exact addedEq

theorem length_le_tables (tables : List WrittenTable) :
    tables.length ≤ (tables.flatMap WrittenTable.text).length := by
  induction tables with
  | nil => exact Nat.le_refl 0
  | cons table tables ih =>
      have headerEq : table.text = '[' :: (table.name ++ "]\n" ++ settingsText table.settings ++
        List.replicate table.blanks '\n') := rfl
      simp only [List.flatMap_cons, headerEq, List.length_append, List.length_cons]
      omega

theorem skipMark_written {settings : List (Text × Text)} {back : Text}
    (settingKeys : ∀ setting ∈ settings, IsBareKey setting.1) (ends : EndsTable back)
    (blanks : Nat) {cursor : Cursor}
    (restEq : cursor.rest = settingsText settings ++ (List.replicate blanks '\n' ++ back)) :
    skipMark cursor = cursor := by
  have noMark : cursor.peek? ≠ some '\uFEFF' := by
    rw [Cursor.peek?, restEq]
    cases settings with
    | cons setting settings =>
        obtain ⟨first, rest, firstEq, bare⟩ :=
          isBareKeyChar_head (settingKeys setting List.mem_cons_self)
        have lineEq : settingsText (setting :: settings) =
          writeAssignment setting.1 setting.2 ++ settingsText settings := rfl
        rw [lineEq, writeAssignment, firstEq]
        intro isMark
        exact ne_of_isBareKeyChar bare (by decide) (Option.some.inj isMark)
    | nil =>
        cases blanks with
        | succ blanks => exact fun isMark => absurd (Option.some.inj isMark) (by decide)
        | zero =>
            intro isMark
            exact absurd (ends _ isMark) (by decide)
  rw [skipMark, if_neg noMark]

/-- A document of settings and tables, all of whose names are plain and different, is read. -/
theorem read?_written {settings : List (Text × Text)} {tables : List WrittenTable}
    (settingKeys : ∀ setting ∈ settings, IsBareKey setting.1)
    (tableKeys : ∀ table ∈ tables, IsBareKey table.name ∧
      ∀ setting ∈ table.settings, IsBareKey setting.1)
    (distinct : (settings.map Prod.fst ++ tables.map WrittenTable.name).Nodup)
    (distinctSettings : ∀ table ∈ tables, (table.settings.map Prod.fst).Nodup) (blanks : Nat) :
    ∃ front back, read? (settingsText settings ++ (List.replicate blanks '\n' ++
        tables.flatMap WrittenTable.text)) = some (front ++ back) ∧
      List.Forall₂ SetsText front settings ∧ List.Forall₂ SetsTable back tables := by
  let text := settingsText settings ++
    (List.replicate blanks '\n' ++ tables.flatMap WrittenTable.text)
  have startEq : (Cursor.start text).rest = text := rfl
  have noMark := skipMark_written settingKeys (endsTable_tables tables) blanks startEq
  have settingsFit : settings.length < text.length + 1 := by
    have bound := length_le_settingsText settings
    simp only [text, List.length_append]
    omega
  obtain ⟨assignments, ⟨next, settingsRead, nextEq⟩, gives⟩ :=
    assignmentsFrom?_written settingKeys (endsTable_tables tables) startEq settingsFit
  have tablesFit : tables.length < next.rest.length + 1 := by
    have bound := length_le_tables tables
    rw [nextEq]
    omega
  obtain ⟨blocks, blocksRead, opens⟩ := blocksFrom?_written tableKeys nextEq tablesFit
  obtain ⟨front, frontEq, setsFront⟩ := @assignAll_written .explicit (by decide) _ _ gives []
    (by simpa using (List.nodup_append.mp distinct).1)
  rw [List.nil_append] at frontEq
  have distinctBlocks : (front.map Prod.fst ++ tables.map WrittenTable.name).Nodup := by
    rwa [names_of_setsText setsFront]
  obtain ⟨back, backEq, setsBack⟩ := addBlocks_written opens distinctSettings distinctBlocks
  refine ⟨front, back, ?_, setsFront, setsBack⟩
  change read? text = _
  rw [read?, noMark, settingsRead]
  simp only [Option.bind_eq_bind, Option.bind_some, blocksRead, Entries.ofBlocks?, frontEq, backEq]

end TopicSieve.Toml
