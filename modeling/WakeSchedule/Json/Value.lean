import WakeSchedule.Text

namespace WakeSchedule

inductive Json
  | null
  | bool (value : Bool)
  | int (value : Int)
  /-- A number written with a fraction or an exponent. -/
  | fraction (digits : Int) (places : Nat)
  | text (value : String)
  | list (items : List Json)
  | object (members : List (String × Json))
  deriving Repr, Inhabited

namespace Json

def hexDigit (value : Nat) : Char := value.digitChar

/-- Quotes, backslashes and control characters are escaped, and nothing else. -/
def escapeChar (c : Char) : List Char :=
  if c = '"' then ['\\', '"']
  else if c = '\\' then ['\\', '\\']
  else if c = '\n' then ['\\', 'n']
  else if c = '\r' then ['\\', 'r']
  else if c = '\t' then ['\\', 't']
  else if c = '\x08' then ['\\', 'b']
  else if c = '\x0c' then ['\\', 'f']
  else if c.toNat < 32 then
    ['\\', 'u', '0', '0', hexDigit (c.toNat / 16), hexDigit (c.toNat % 16)]
  else [c]

def quoted (text : String) : String :=
  "\"" ++ .ofList (text.toList.flatMap escapeChar) ++ "\""

def numberText (digits : Int) (places : Nat) : String :=
  (if digits < 0 then "-" else "") ++ (digits.natAbs / Nat.pow 10 places).repr ++ "."
    ++ padNat places (digits.natAbs % Nat.pow 10 places)

def newLine (depth : Nat) : String := "\n" ++ .ofList (List.replicate (2 * depth) ' ')

def bracketed (opening closing : String) (depth : Nat) : List String → String
  | [] => opening ++ closing
  | lines => opening ++ newLine (depth + 1)
      ++ String.intercalate ("," ++ newLine (depth + 1)) lines ++ newLine depth ++ closing

mutual

def indented (depth : Nat) : Json → String
  | null => "null"
  | bool value => if value then "true" else "false"
  | int value => intText value
  | fraction digits places => numberText digits places
  | text value => quoted value
  | list items => bracketed "[" "]" depth (indentedItems (depth + 1) items)
  | object members => bracketed "\x7b" "\x7d" depth (indentedMembers (depth + 1) members)

def indentedItems (depth : Nat) : List Json → List String
  | [] => []
  | item :: items => indented depth item :: indentedItems depth items

def indentedMembers (depth : Nat) : List (String × Json) → List String
  | [] => []
  | (key, value) :: members =>
      (quoted key ++ ": " ++ indented depth value) :: indentedMembers depth members

end

def pretty (value : Json) : String := indented 0 value

end Json

end WakeSchedule
