/-!
Texts are lists of characters. This module holds the operations on them that know nothing of
character classes: cutting at a separator, joining, searching for a piece, decimal digits, and the
length of the encoded form.
-/

namespace TopicSieve

abbrev Text := List Char

instance : Coe String Text := ⟨String.toList⟩

namespace Text

def splitOn (separator : Char) : Text → List Text
  | [] => [[]]
  | head :: rest =>
      if head = separator then [] :: splitOn separator rest
      else
        match splitOn separator rest with
        | [] => [[head]]
        | piece :: pieces => (head :: piece) :: pieces

def splitFirst (separator : Char) : Text → Option (Text × Text)
  | [] => none
  | head :: rest =>
      if head = separator then some ([], rest)
      else (splitFirst separator rest).map fun (before, after) => (head :: before, after)

def join (separator : Text) : List Text → Text
  | [] => []
  | [text] => text
  | text :: next :: rest => text ++ separator ++ join separator (next :: rest)

def occursIn (piece : Text) : Text → Bool
  | [] => piece.isEmpty
  | head :: rest => piece.isPrefixOf (head :: rest) || occursIn piece rest

theorem occursIn_iff (piece text : Text) : occursIn piece text = true ↔ piece <:+: text := by
  induction text with
  | nil => simp [occursIn]
  | cons head rest ih =>
      simp only [occursIn, Bool.or_eq_true, List.isPrefixOf_iff_prefix, ih]
      exact List.infix_cons_iff.symm

def byteLength (text : Text) : Nat := text.foldr (fun char total => char.utf8Size + total) 0

@[simp] theorem byteLength_append (left right : Text) :
    byteLength (left ++ right) = byteLength left + byteLength right := by
  induction left with
  | nil => simp [byteLength]
  | cons head rest ih =>
      have step : byteLength (head :: rest ++ right) = head.utf8Size + byteLength (rest ++ right) :=
        rfl
      have cons : byteLength (head :: rest) = head.utf8Size + byteLength rest := rfl
      omega

def ofNat (number : Nat) : Text := Nat.toDigits 10 number

def ofInt : Int → Text
  | .ofNat number => ofNat number
  | .negSucc number => '-' :: ofNat (number + 1)

def padded (width number : Nat) : Text :=
  let digits := ofNat number
  List.replicate (width - digits.length) '0' ++ digits

def digitValue? (digit : Char) : Option Nat :=
  if '0' ≤ digit ∧ digit ≤ '9' then some (digit.toNat - '0'.toNat) else none

def isDigit (char : Char) : Bool := (digitValue? char).isSome

def decimalValue (digits : Text) : Nat :=
  digits.foldl (fun value digit => value * 10 + (digitValue? digit).getD 0) 0

def hexValue? (digit : Char) : Option Nat :=
  if '0' ≤ digit ∧ digit ≤ '9' then some (digit.toNat - '0'.toNat)
  else if 'a' ≤ digit ∧ digit ≤ 'f' then some (digit.toNat - 'a'.toNat + 10)
  else if 'A' ≤ digit ∧ digit ≤ 'F' then some (digit.toNat - 'A'.toNat + 10)
  else none

def ofNatHex (number : Nat) : Text := Nat.toDigits 16 number

def asciiLower (text : Text) : Text := text.map Char.toLower

def sameAscii (left right : Text) : Bool := asciiLower left == asciiLower right

theorem toNat_ofNat {code : Nat} (valid : code.isValidChar) : (Char.ofNat code).toNat = code := by
  rw [Char.ofNat, dif_pos valid]
  rfl

end Text

end TopicSieve
