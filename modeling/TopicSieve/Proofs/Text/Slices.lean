import TopicSieve.Proofs.Text.Utf8
import TopicSieve.Text.Cursor

/-!
Texts cut by byte offsets. An offset is usable only where a character begins or the text ends; any
other cut is an error. Main statement: the encoded lengths of two beginnings of a text cut out the
characters between them.
-/

namespace TopicSieve

def Bytes.isBoundary (bytes : Bytes) (index : Nat) : Bool :=
  index == 0 ||
    match bytes[index]? with
    | none => index == bytes.length
    | some byte => byte.toNat < 0x80 || 0xC0 ≤ byte.toNat

structure BadSlice where
  first : Nat
  last : Nat

def Text.slice (text : Text) (first last : Nat) : Except BadSlice Text :=
  let bytes := Utf8.encode text
  if first ≤ last ∧ bytes.isBoundary first ∧ bytes.isBoundary last then
    match Utf8.decode? ((bytes.drop first).take (last - first)) with
    | some part => .ok part
    | none => .error ⟨first, last⟩
  else .error ⟨first, last⟩

namespace Utf8

theorem encode_append (front back : Text) : encode (front ++ back) = encode front ++ encode back :=
  List.flatMap_append

theorem length_encode (text : Text) : (encode text).length = Text.byteLength text := by
  induction text with
  | nil => rfl
  | cons char rest ih =>
      have own := String.length_utf8EncodeChar char
      have restEq : (encode (char :: rest)).length =
          (String.utf8EncodeChar char).length + (encode rest).length := List.length_append
      rw [restEq, own, ih]
      rfl

theorem isBoundary_between (front back : Text) :
    (encode (front ++ back)).isBoundary (Text.byteLength front) = true := by
  rw [encode_append, ← length_encode, Bytes.isBoundary, List.getElem?_append_right (Nat.le_refl _),
    Nat.sub_self, Bool.or_eq_true]
  right
  cases back with
  | nil => simp [encode]
  | cons char rest =>
      obtain ⟨first, more, firstEq, begins⟩ := (charForm_encode char).begins
      have headEq : (encode (char :: rest))[0]? = some first := by
        rw [encode, List.flatMap_cons, firstEq]
        rfl
      rw [headEq]
      simp only [IsTail] at begins
      simp only [Bool.or_eq_true, decide_eq_true_eq]
      omega

end Utf8

namespace Text

theorem slice_middle (front part back : Text) :
    slice (front ++ (part ++ back)) (byteLength front) (byteLength front + byteLength part) =
      .ok part := by
  have opens := Utf8.isBoundary_between front (part ++ back)
  have closes := Utf8.isBoundary_between (front ++ part) back
  rw [List.append_assoc, byteLength_append] at closes
  have cut : ((Utf8.encode (front ++ (part ++ back))).drop (byteLength front)).take
      (byteLength front + byteLength part - byteLength front) = Utf8.encode part := by
    rw [Nat.add_sub_cancel_left, Utf8.encode_append, Utf8.encode_append, ← Utf8.length_encode,
      ← Utf8.length_encode, List.drop_left, List.take_left]
  have decoded := (Utf8.decode?_eq_some_iff (Utf8.encode part) part).mpr rfl
  simp only [slice, opens, closes, cut, decoded, Nat.le_add_right, and_self, if_true]

theorem slice_between (text : Text) {first last : Nat} (ordered : first ≤ last) :
    slice text (byteLength (text.take first)) (byteLength (text.take last)) =
      .ok ((text.drop first).take (last - first)) := by
  have lastEq : text.take last = text.take first ++ (text.drop first).take (last - first) := by
    rw [← List.take_add, Nat.add_sub_cancel' ordered]
  have textEq : text = text.take first ++
      ((text.drop first).take (last - first) ++ text.drop last) := by
    rw [← List.append_assoc, ← lastEq, List.take_append_drop]
  rw [lastEq, byteLength_append]
  have cut := slice_middle (text.take first) ((text.drop first).take (last - first))
    (text.drop last)
  rwa [← textEq] at cut

end Text

namespace Cursor

variable {cursor : Cursor} {text : Text}

theorem IsIn.isBoundary (inText : cursor.IsIn text) :
    (Utf8.encode text).isBoundary cursor.offset = true := by
  have boundary := Utf8.isBoundary_between (text.take cursor.position) (text.drop cursor.position)
  rwa [List.take_append_drop, ← inText.offset_eq] at boundary

theorem IsIn.slice_drop (inText : cursor.IsIn text) (count : Nat) :
    text.slice cursor.offset (cursor.drop count).offset = .ok (cursor.rest.take count) := by
  have ordered : cursor.position ≤ (cursor.drop count).position := Nat.le_add_right _ _
  have distance : (cursor.drop count).position - cursor.position =
      (cursor.rest.take count).length := Nat.add_sub_cancel_left _ _
  have taken : cursor.rest.take (cursor.rest.take count).length = cursor.rest.take count := by
    rw [List.take_eq_take_iff, List.length_take, Nat.min_assoc, Nat.min_self]
  rw [inText.offset_eq, (inText.drop count).offset_eq, Text.slice_between text ordered, distance,
    ← inText.rest_eq, taken]

theorem IsIn.slice_dropWhile (inText : cursor.IsIn text) (test : Char → Bool) :
    text.slice cursor.offset (cursor.dropWhile test).offset =
      .ok (cursor.rest.takeWhile test) := by
  have taken := List.prefix_iff_eq_take.mp (cursor.rest.takeWhile_prefix test)
  exact (inText.slice_drop _).trans (congrArg Except.ok taken.symm)

theorem IsIn.slice_rest (inText : cursor.IsIn text) :
    text.slice cursor.offset (Text.byteLength text) = .ok cursor.rest := by
  have cut := Text.slice_between text inText.position_le
  rwa [List.take_length, ← inText.offset_eq, ← List.length_drop, List.take_length,
    ← inText.rest_eq] at cut

end Cursor

end TopicSieve
