import TopicSieve.Text.Basic
import TopicSieve.Text.WidthTable

/-!
How many columns a text takes on a terminal. Most characters count for themselves. Emoji sequences
count as one picture, and lam with alef as one letter.
-/

namespace TopicSieve.Text

def charWidth (char : Char) : Nat :=
  if emptyRanges.has char.toNat then 0
  else if wideRanges.has char.toNat then 2
  else if char = '\u17D8' then 3
  else 1

/-- What the end of a text can still join with. A joined emoji adds no width of its own. -/
inductive Joint where
  | none
  | sign (char : Char) (joined : Bool)
  /-- a picture; its character as long as a selector or a skin tone may follow -/
  | picture (char : Option Char) (joined : Bool)
  | joiner
  | lam
deriving Repr, DecidableEq

def jointAfter (char : Char) (joined : Bool) : Joint :=
  if pictureRanges.has char.toNat then .picture (some char) joined
  else if signRanges.has char.toNat then .sign char joined
  else if lamRanges.has char.toNat then .lam
  else .none

def isTone (char : Char) : Bool := 0x1F3FB ≤ char.toNat && char.toNat ≤ 0x1F3FF

def widthFrom (width : Nat) : Joint → Text → Nat
  | _, [] => width
  | joint, char :: rest =>
      let alone := widthFrom (width + charWidth char) (jointAfter char false) rest
      match joint with
      | .none => alone
      | .sign base joined =>
          let picture := if joined then width - 1 else width + 1
          if char = '\uFE0F' then widthFrom picture (.picture (some base) joined) rest
          else if isTone char && toneBaseRanges.has base.toNat then
            widthFrom picture (.picture none joined) rest
          else alone
      | .picture base joined =>
          if char = '\u200D' then widthFrom width .joiner rest
          else if char = '\uFE0F' then widthFrom width (.picture base joined) rest
          else if char = '\uFE0E' && base.any (fun base => turnableRanges.has base.toNat) then
            widthFrom (if joined then width + 1 else width - 1) .none rest
          else if isTone char && base.any (fun base => toneBaseRanges.has base.toNat) then
            widthFrom width (.picture none joined) rest
          else alone
      | .joiner =>
          if pictureRanges.has char.toNat then
            widthFrom width (.picture (some char) true) rest
          else if signRanges.has char.toNat then
            widthFrom (width + 1) (.sign char true) rest
          else alone
      | .lam =>
          if alefRanges.has char.toNat then widthFrom width .none rest
          else if charWidth char = 0 then widthFrom width .lam rest
          else alone

def width (text : Text) : Nat := widthFrom 0 .none text

end TopicSieve.Text
