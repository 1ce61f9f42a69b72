import LedgerRules.Json.Basic

/-!
# Writing JSON text

Values are written without blanks.  Characters below the space and the ones that
end or escape text are escaped; all others stand for themselves.
-/

namespace LedgerRules

namespace Json

/-- How a character is written inside text. -/
def writtenCharacter (character : Char) : String :=
  if character = '"' then "\\\""
  else if character = '\\' then "\\\\"
  else if character = '\n' then "\\n"
  else if character = '\r' then "\\r"
  else if character = '\t' then "\\t"
  else if character.toNat < 0x20 then "\\u" ++ hexText 4 character.toNat
  else character.toString

/-- Text between quotes. -/
def writtenText (text : String) : String :=
  "\"" ++ String.join (text.toList.map writtenCharacter) ++ "\""

/-- A double as a number, or as a word when it is none. -/
def writtenDouble : Double → String
  | .nan => "NaN"
  | .infinite negative => if negative then "-Infinity" else "Infinity"
  | double => double.text

mutual

/-- The text of a value. -/
def render : Json → String
  | .null => "null"
  | .bool value => if value then "true" else "false"
  | .int value => toString value
  | .float value => writtenDouble value
  | .str value => writtenText value
  | .arr items => "[" ++ String.intercalate "," (renderItems items) ++ "]"
  | .obj fields =>
      "\x7b" ++ String.intercalate "," (renderFields fields) ++ "\x7d"

def renderItems : List Json → List String
  | [] => []
  | item :: rest => render item :: renderItems rest

/-- The texts of the fields of an object. -/
def renderFields : List (String × Json) → List String
  | [] => []
  | (key, value) :: rest =>
      (writtenText key ++ ":" ++ render value) :: renderFields rest

end

end Json

end LedgerRules
