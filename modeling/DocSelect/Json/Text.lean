/-
# JSON text

Values are written compactly, without any spaces, or indented, one entry per line.  Both forms
write the same scalars.  In a string only quotes, backslashes and control characters are
escaped.
-/
import DocSelect.Json
import DocSelect.Decimal.Layout

namespace DocSelect

namespace Json

/-! ## Scalars -/

/-- The letter that stands for a character behind a backslash. -/
def escapeLetter? : Char → Option Char
  | '"' => some '"'
  | '\\' => some '\\'
  | '\n' => some 'n'
  | '\r' => some 'r'
  | '\t' => some 't'
  | '\x08' => some 'b'
  | '\x0c' => some 'f'
  | _ => none

/-- A character as it is written in a string.  Control characters without a letter of their own
are written by number. -/
def escapedChar (c : Char) : List Char :=
  match escapeLetter? c with
  | some letter => ['\\', letter]
  | none =>
    if c.toNat < 0x20 then
      ['\\', 'u', '0', '0', Nat.digitChar (c.toNat / 16), Nat.digitChar (c.toNat % 16)]
    else [c]

/-- A string with its quotes. -/
def quoted (s : String) : String :=
  String.ofList ('"' :: s.toList.flatMap escapedChar ++ ['"'])

/-- A number in a document. -/
def floatText (x : Float) : String :=
  Decimal.documentLayout.text x

/-! ## Compact form -/

mutual

/-- The compact text of a value. -/
def compact : Json → String
  | null => "null"
  | bool b => if b then "true" else "false"
  | int n => toString n
  | float x => floatText x
  | str s => quoted s
  | arr items => "[" ++ ",".intercalate (compactItems items) ++ "]"
  | obj fields => "\x7b" ++ ",".intercalate (compactFields fields) ++ "\x7d"

/-- The compact texts of the items of an array. -/
def compactItems : List Json → List String
  | [] => []
  | item :: items => compact item :: compactItems items

/-- The compact texts of the fields of an object. -/
def compactFields : List (String × Json) → List String
  | [] => []
  | (name, value) :: fields => (quoted name ++ ":" ++ compact value) :: compactFields fields

end

/-! ## Indented form -/

/-- Entries between brackets, each on a line of its own and indented by two spaces more than
the brackets.  Without entries the brackets close at once. -/
def bracketed (opening closing : String) (depth : Nat) (entries : List String) : String :=
  let indent (n : Nat) := "\n" ++ String.ofList (List.replicate (2 * n) ' ')
  if entries.isEmpty then opening ++ closing
  else
    opening ++ indent (depth + 1) ++ ("," ++ indent (depth + 1)).intercalate entries ++
      indent depth ++ closing

mutual

/-- The indented text of a value inside `depth` brackets. -/
def indentedAt (depth : Nat) : Json → String
  | null => "null"
  | bool b => if b then "true" else "false"
  | int n => toString n
  | float x => floatText x
  | str s => quoted s
  | arr items => bracketed "[" "]" depth (indentedItems (depth + 1) items)
  | obj fields => bracketed "\x7b" "\x7d" depth (indentedFields (depth + 1) fields)

/-- The indented texts of the items of an array. -/
def indentedItems (depth : Nat) : List Json → List String
  | [] => []
  | item :: items => indentedAt depth item :: indentedItems depth items

/-- The indented texts of the fields of an object. -/
def indentedFields (depth : Nat) : List (String × Json) → List String
  | [] => []
  | (name, value) :: fields =>
    (quoted name ++ ": " ++ indentedAt depth value) :: indentedFields depth fields

end

/-- The indented text of a value. -/
def indented (json : Json) : String :=
  indentedAt 0 json

end Json

/-- The compact text of a document. -/
def Document.compact (document : Document) : String :=
  (Json.obj document).compact

end DocSelect
