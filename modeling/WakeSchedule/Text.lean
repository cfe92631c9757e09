namespace WakeSchedule

section Words

/-- The ranges of the White_Space property. -/
def blankRanges : List (Nat × Nat) :=
  [(0x09, 0x0D), (0x20, 0x20), (0x85, 0x85), (0xA0, 0xA0), (0x1680, 0x1680), (0x2000, 0x200A),
    (0x2028, 0x2029), (0x202F, 0x202F), (0x205F, 0x205F), (0x3000, 0x3000)]

def isBlank (c : Char) : Bool :=
  blankRanges.any fun (low, high) => low ≤ c.toNat && c.toNat ≤ high

def trimStart (text : List Char) : List Char := text.dropWhile isBlank

def trimEnd (text : List Char) : List Char := (text.reverse.dropWhile isBlank).reverse

def trim (text : String) : String := .ofList (trimEnd (trimStart text.toList))

def piecesBy (separates : Char → Bool) : List Char → List (List Char)
  | [] => [[]]
  | c :: rest =>
      if separates c then [] :: piecesBy separates rest
      else match piecesBy separates rest with
        | [] => [[c]]
        | piece :: pieces => (c :: piece) :: pieces

def wordsOf (text : List Char) : List (List Char) :=
  (piecesBy isBlank text).filter (!·.isEmpty)

def words (text : String) : List String := (wordsOf text.toList).map .ofList

/-- The text before the first mark, and what follows that mark if there is one. -/
def cutAt (mark : Char) : List Char → List Char × Option (List Char)
  | [] => ([], none)
  | c :: rest =>
      if c = mark then ([], some rest)
      else ((c :: (cutAt mark rest).1), (cutAt mark rest).2)

end Words

section LetterCase

/-- The lower-case form of a character wherever that form is one ASCII letter, and the character
itself elsewhere. Every known name is ASCII and the Kelvin sign is the only character outside ASCII
with an ASCII letter as its lower-case form, so no comparison with a name needs more. -/
def lowerChar (c : Char) : Char := if c = '\u212A' then 'k' else c.toLower

def lowered (text : String) : String := .ofList (text.toList.map lowerChar)

end LetterCase

section Decimal

def zeroPad (width : Nat) (text : String) : String :=
  .ofList (List.replicate (width - text.length) '0') ++ text

def padNat (width number : Nat) : String := zeroPad width number.repr

/-- A minus sign counts as part of the width. -/
def padInt (width : Nat) (number : Int) : String :=
  if number < 0 then "-" ++ padNat (width - 1) number.natAbs else padNat width number.natAbs

def intText (number : Int) : String := padInt 0 number

def digitValue (c : Char) : Nat := c.toNat - '0'.toNat

def numeral (digits : List Char) : Nat := Nat.ofDigitChars 10 digits 0

inductive NumberFault
  | empty
  | badDigit
  | tooLarge
  | tooSmall
  deriving DecidableEq, Repr

def NumberFault.message : NumberFault → String
  | .empty => "cannot parse integer from empty string"
  | .badDigit => "invalid digit found in string"
  | .tooLarge => "number too large to fit in target type"
  | .tooSmall => "number too small to fit in target type"

def readUpTo (limit : Nat) (overflow : NumberFault) : List Char → Nat → Except NumberFault Nat
  | [], total => .ok total
  | c :: rest, total =>
      if !c.isDigit then .error .badDigit
      else if limit < 10 * total + digitValue c then .error overflow
      else readUpTo limit overflow rest (10 * total + digitValue c)

def readInt64 (text : String) : Except NumberFault Int :=
  match text.toList with
  | [] => .error .empty
  | ['+'] | ['-'] => .error .badDigit
  | '-' :: digits => return -(← readUpTo 0x8000000000000000 .tooSmall digits 0)
  | '+' :: digits => return (← readUpTo 0x7fffffffffffffff .tooLarge digits 0)
  | digits => return (← readUpTo 0x7fffffffffffffff .tooLarge digits 0)

end Decimal

end WakeSchedule
