/-
# Text patterns of the store

The store tests a text against a regular expression, searched for anywhere in the text.  The
patterns that predicates need are built from five kinds of pieces, so they are kept as lists
of pieces and turned into text at the end.  A piece that stands for one character of its own
is written so that the store reads it as that character and nothing else.
-/

namespace DocSelect

/-- A piece of a text pattern. -/
inductive Piece where
  /-- The start of the text. -/
  | start
  /-- The end of the text. -/
  | stop
  /-- A character that stands for itself. -/
  | literal (c : Char)
  /-- Any single character. -/
  | anyChar
  /-- Any run of characters, the empty run included. -/
  | anyRun
deriving DecidableEq

/-- A pattern is the sequence of its pieces. -/
abbrev Pattern := List Piece

/-- The characters that would mean something else if they stood bare in a pattern. -/
def metacharacters : List Char :=
  "\\.+*?()|[]\x7b\x7d^$#&-~".toList

/-- A character as it is written in a pattern to stand for itself. -/
def escaped (c : Char) : List Char :=
  if c ∈ metacharacters then ['\\', c] else [c]

/-- How a piece is written. -/
def Piece.chars : Piece → List Char
  | start => ['^']
  | stop => ['$']
  | literal c => escaped c
  | anyChar => ['.']
  | anyRun => ['.', '*']

namespace Pattern

/-- The text of a pattern, as the store reads it. -/
def text (p : Pattern) : String :=
  String.ofList (p.flatMap Piece.chars)

/-- The pieces that stand for a text, character by character. -/
def literally (t : String) : Pattern :=
  t.toList.map Piece.literal

/-- Where in a text a literal is looked for. -/
inductive Place where
  | atStart
  | atEnd
  | whole
  | anywhere
deriving DecidableEq

/-- The pattern that looks for a literal at a place. -/
def seeking (place : Place) (t : String) : Pattern :=
  match place with
  | .atStart => .start :: literally t
  | .atEnd => literally t ++ [.stop]
  | .whole => .start :: literally t ++ [.stop]
  | .anywhere => .anyRun :: literally t ++ [.anyRun]

/-! ## Wildcards -/

/-- What a character of a wildcard text stands for: `%` for any run, `_` for any single
character, and every other one for itself. -/
def wildcard : Char → Piece
  | '%' => .anyRun
  | '_' => .anyChar
  | c => .literal c

/-- The pattern of a wildcard text.  It is tied to the start and to the end of the subject,
except where the text itself begins or ends with a run. -/
def ofWildcards (t : String) : Pattern :=
  let cs := t.toList
  (if cs.head? = some '%' then [] else [.start]) ++ cs.map wildcard ++
    (if cs.getLast? = some '%' then [] else [.stop])

end Pattern

end DocSelect
