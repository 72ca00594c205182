import TopicSieve.Json.Printer
import TopicSieve.Proofs.Json.Reading

/-!
What is written for strings, and for lists and objects of strings. Main statements: it spells these
strings, and on one line it stays there.
-/

namespace TopicSieve.Json

theorem hexDigits_control {code : Nat} (control : code < 0x20) :
    HexDigits (List.replicate (4 - (Text.ofNatHex code).length) '0' ++ Text.ofNatHex code) code := by
  have values : ∀ code < 0x20,
      (List.replicate (4 - (Text.ofNatHex code).length) '0' ++ Text.ofNatHex code).map
        Text.hexValue? = [some 0, some 0, some (code / 16), some (code % 16)] := by decide
  obtain ⟨first, rest, digitsEq, firstEq, restEq⟩ := List.map_eq_cons_iff.mp (values code control)
  obtain ⟨second, rest, rfl, secondEq, restEq⟩ := List.map_eq_cons_iff.mp restEq
  obtain ⟨third, rest, rfl, thirdEq, restEq⟩ := List.map_eq_cons_iff.mp restEq
  obtain ⟨fourth, rest, rfl, fourthEq, restEq⟩ := List.map_eq_cons_iff.mp restEq
  rw [List.map_eq_nil_iff] at restEq
  have isCode := HexDigits.digits firstEq secondEq thirdEq fourthEq
  have codeEq : ((0 * 16 + 0) * 16 + code / 16) * 16 + code % 16 = code := by omega
  rw [codeEq] at isCode
  rwa [digitsEq, restEq]

theorem spells_escapedChar (char : Char) {source text : Text} (spells : Spells source text) :
    Spells (escapedChar char ++ source) (char :: text) := by
  unfold escapedChar
  split
  case h_8 notQuote notBackslash _ _ _ _ _ =>
      by_cases control : char.toNat < 0x20
      · rw [if_pos control]
        have code := Spells.code (hexDigits_control control) spells
        simpa using code
      · rw [if_neg control]
        exact .plain notQuote notBackslash (Nat.le_of_not_lt control) spells
  all_goals exact Spells.letter rfl spells

theorem spells_escaped (text : Text) : Spells (text.flatMap escapedChar) text := by
  induction text with
  | nil => exact .nil
  | cons char text ih => exact spells_escapedChar char ih

theorem spellsText_stringText (text : Text) : SpellsText (stringText text) text := by
  refine ⟨text.flatMap escapedChar, ?_, spells_escaped text⟩
  rw [stringText, List.append_assoc]
  rfl

theorem feed_not_mem_stringText (text : Text) : '\n' ∉ stringText text := by
  obtain ⟨body, textEq, spells⟩ := spellsText_stringText text
  simp [textEq, spells.isString.feed_not_mem]

theorem feed_not_mem_join {parts : List Text} (absent : ∀ part ∈ parts, '\n' ∉ part) :
    '\n' ∉ Text.join [','] parts := by
  cases parts with
  | nil => exact List.not_mem_nil
  | cons part parts =>
      rw [List.forall_mem_cons] at absent
      rw [Text.join_cons]
      simpa [absent.1] using absent.2

theorem enclosed_compact (level : Nat) (opening closing : Char) (parts : List Text) :
    enclosed compactLayout level opening closing parts =
      opening :: (Text.join [','] parts ++ [closing]) := by
  cases parts with
  | nil => rfl
  | cons part parts =>
      simp only [enclosed, compactLayout, List.isEmpty_cons, Bool.false_eq_true, if_false,
        List.nil_append, List.map_id']
      simp

theorem renderItems_strings (level : Nat) (names : List Text) :
    renderItems compactLayout level (names.map string) = names.map stringText := by
  induction names with
  | nil => rfl
  | cons name names ih =>
      rw [List.map_cons, List.map_cons, renderItems, ih, render]

theorem render_strings (level : Nat) (names : List Text) :
    render compactLayout level (array (names.map string)) =
      '[' :: (Text.join [','] (names.map stringText) ++ [']']) := by
  rw [render, renderItems_strings, enclosed_compact]

theorem spellsList_render (level : Nat) (names : List Text) :
    SpellsList (render compactLayout level (array (names.map string))) names := by
  rw [render_strings]
  cases names with
  | nil => exact @SpellsList.nil [] isGap_nil
  | cons name names =>
      let items : List Padded := (name :: names).map fun name => ⟨[], stringText name, []⟩
      have textsEq : (name :: names).map stringText = items.map Padded.text := by
        simp [items, Padded.text]
      rw [textsEq]
      refine .items (List.cons_ne_nil _ _) ?_
      rw [List.forall₂_map_left_iff, List.forall₂_same]
      exact fun name _ => ⟨by simp [Padded.HasGaps, IsGap], spellsText_stringText name⟩

def laidOut (layout : Layout) (level : Nat) (member : Text × Json) : WrittenMember :=
  ⟨layout.breakAt level, member.1.flatMap escapedChar, [],
    ⟨layout.afterColon, render layout level member.2, []⟩⟩

theorem renderMembers_laidOut (layout : Layout) (level : Nat) (members : List (Text × Json)) :
    (renderMembers layout level members).map (layout.breakAt level ++ ·) =
      (members.map (laidOut layout level)).map WrittenMember.text := by
  induction members with
  | nil => rfl
  | cons member members ih =>
      obtain ⟨name, value⟩ := member
      rw [renderMembers, List.map_cons, ih]
      simp [laidOut, WrittenMember.text, Padded.text, stringText]

def printedMember (name : Text) (value : Json) : WrittenMember :=
  ⟨[], name.flatMap escapedChar, [], ⟨[], render compactLayout 1 value, []⟩⟩

theorem compact_object (members : List (Text × Json)) :
    compact (object members) = '\x7b' :: (Text.join [',']
      ((members.map fun (name, value) => printedMember name value).map WrittenMember.text) ++
        ['\x7d']) := by
  have membersEq : renderMembers compactLayout 1 members =
      (members.map fun (name, value) => printedMember name value).map WrittenMember.text :=
    (List.map_id' _).symm.trans (renderMembers_laidOut compactLayout 1 members)
  rw [compact, render, enclosed_compact, membersEq]

/-! Objects of strings, in any layout -/

structure Layout.HasGaps (layout : Layout) : Prop where
  breakAt : ∀ level, IsGap (layout.breakAt level)
  afterColon : IsGap layout.afterColon

theorem compactLayout_hasGaps : compactLayout.HasGaps := ⟨fun _ => isGap_nil, isGap_nil⟩

theorem prettyLayout_hasGaps : prettyLayout.HasGaps := by
  constructor
  · intro level char member
    rcases List.mem_cons.mp member with rfl | inSpaces
    · rfl
    · rw [List.eq_of_mem_replicate inSpaces]
      rfl
  · intro char member
    rw [List.mem_singleton.mp member]
    rfl

theorem spellsMember_laidOut {layout : Layout} (gaps : layout.HasGaps) (level : Nat)
    (pair : Text × Text) : SpellsMember (laidOut layout level (stringMember pair)) pair where
  gaps := ⟨gaps.breakAt level, isGap_nil, gaps.afterColon, isGap_nil⟩
  name := spells_escaped pair.1
  value := by
    rw [laidOut, stringMember, render]
    exact spellsText_stringText pair.2

/-- What is written for an object of strings spells these strings, in their order. -/
theorem spellsObject_render {layout : Layout} (gaps : layout.HasGaps) (level : Nat)
    (pairs : List (Text × Text)) :
    SpellsObject (render layout level (object (pairs.map stringMember))) pairs := by
  rw [render, enclosed]
  cases pairs with
  | nil => exact @SpellsObject.nil [] isGap_nil
  | cons pair pairs =>
      have members := renderMembers_laidOut layout (level + 1) ((pair :: pairs).map stringMember)
      have someMember : (renderMembers layout (level + 1)
          ((pair :: pairs).map stringMember)).isEmpty = false := rfl
      rw [someMember, if_neg Bool.false_ne_true, members, List.append_assoc, List.append_assoc]
      apply SpellsObject.members
      · exact List.cons_ne_nil _ _
      · rw [List.map_map, List.forall₂_map_left_iff, List.forall₂_same]
        intro pair _
        exact spellsMember_laidOut gaps (level + 1) pair
      · exact gaps.breakAt level

end TopicSieve.Json
