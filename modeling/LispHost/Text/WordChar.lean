import LispHost.Text.Edition
import LispHost.Text.Letter
import LispHost.Text.Mark
import LispHost.Text.Numeral

/-!
The characters that words are made of: letters, marks, decimal digits, connecting punctuation and the
two joiners, as edition 16 of Unicode has them.
-/

set_option autoImplicit false

namespace LispHost.Text

def connectorRanges : List (Nat × Nat) :=
  [(0x5f, 0x5f), (0x203f, 0x2040), (0x2054, 0x2054), (0xfe33, 0xfe34), (0xfe4d, 0xfe4f),
    (0xff3f, 0xff3f)]

/-- The code points of letters in circles and squares, which count as symbols otherwise. -/
def framedLetterRanges : List (Nat × Nat) :=
  [(0x24b6, 0x24e9), (0x1f130, 0x1f149), (0x1f150, 0x1f169), (0x1f170, 0x1f189)]

def isConnector (c : Char) : Bool :=
  inRanges connectorRanges c.toNat

/-- Whether a character joins its neighbours, or keeps them apart, without a sign of its own. -/
def isJoiner (c : Char) : Bool :=
  c = '\u200c' || c = '\u200d'

def isWordChar (c : Char) : Bool :=
  c.isAlphanum || c = '_' ||
    inSixteen c &&
      (isLetter c || isMark c || isDecimalDigit c || isConnector c || isJoiner c ||
        inRanges framedLetterRanges c.toNat)

def isLetterOrNumber (c : Char) : Bool :=
  isLetter c || isNumber c || inRanges framedLetterRanges c.toNat

end LispHost.Text
