import TopicSieve.Text.Basic
import TopicSieve.Text.Ranges

/-!
White space in the sense of the Unicode property `White_Space`, and trimming.
-/

namespace TopicSieve.Text

def blankRanges : Ranges :=
  [(0x9, 0xD), (0x20, 0x20), (0x85, 0x85), (0xA0, 0xA0), (0x1680, 0x1680), (0x2000, 0x200A),
   (0x2028, 0x2029), (0x202F, 0x202F), (0x205F, 0x205F), (0x3000, 0x3000)]

def isBlank (char : Char) : Bool := blankRanges.has char.toNat

def trimStart (text : Text) : Text := text.dropWhile isBlank

def trimEnd (text : Text) : Text := (text.reverse.dropWhile isBlank).reverse

def trim (text : Text) : Text := trimEnd (trimStart text)

def dropEndWhile (test : Char → Bool) (text : Text) : Text := (text.reverse.dropWhile test).reverse

end TopicSieve.Text
