/-
# Inspection texts

For inspection a value is shown with all that it is made of.  Its `Shape` is a tree of names,
quoted texts, lists, and records with named or with numbered parts; the text of a shape is the
tree on a single line.
-/

namespace DocSelect

/-- The make-up of a value. -/
inductive Shape where
  /-- A word that stands as it is. -/
  | word (s : String)
  /-- A text, shown in quotes. -/
  | text (s : String)
  | list (items : List Shape)
  /-- A record with numbered parts.  Without a name it is a bare tuple. -/
  | tuple (name : String) (parts : List Shape)
  /-- A record with named parts. -/
  | record (name : String) (parts : List (String × Shape))

namespace Shape

/-- The letter that stands for a character behind a backslash. -/
def escapeLetter? : Char → Option Char
  | '"' => some '"'
  | '\\' => some '\\'
  | '\n' => some 'n'
  | '\r' => some 'r'
  | '\t' => some 't'
  | '\x00' => some '0'
  | _ => none

/-- A character as it is written in a quoted text.  Control characters without a letter of their
own are written by number, and beyond the ASCII characters every one stands for itself. -/
def escapedChar (c : Char) : List Char :=
  match escapeLetter? c with
  | some letter => ['\\', letter]
  | none =>
    if c.toNat < 0x20 ∨ c.toNat = 0x7f then
      ['\\', 'u', '\x7b'] ++ Nat.toDigits 16 c.toNat ++ ['\x7d']
    else [c]

/-- A text in quotes. -/
def quoted (s : String) : String :=
  String.ofList ('"' :: s.toList.flatMap escapedChar ++ ['"'])

mutual

/-- The text of a shape. -/
def line : Shape → String
  | word s => s
  | text s => quoted s
  | list items => "[" ++ ", ".intercalate (lines items) ++ "]"
  | tuple name parts => name ++ "(" ++ ", ".intercalate (lines parts) ++ ")"
  | record name parts => name ++ " \x7b " ++ ", ".intercalate (namedLines parts) ++ " \x7d"

/-- The texts of a list of shapes. -/
def lines : List Shape → List String
  | [] => []
  | shape :: shapes => line shape :: lines shapes

/-- The texts of named parts. -/
def namedLines : List (String × Shape) → List String
  | [] => []
  | (name, shape) :: parts => (name ++ ": " ++ line shape) :: namedLines parts

end

/-- The shape of a value that may be absent. -/
def option {α : Type} (f : α → Shape) : Option α → Shape
  | some a => tuple "Some" [f a]
  | none => word "None"

/-- The shape of a truth value. -/
def bool (b : Bool) : Shape :=
  word (if b then "true" else "false")

/-- The shape of a natural number. -/
def nat (n : Nat) : Shape :=
  word (toString n)

end Shape

end DocSelect
