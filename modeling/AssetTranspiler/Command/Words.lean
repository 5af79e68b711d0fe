/-!
Splitting a command into words as a POSIX shell does: blanks separate words, quotes join them, and a
backslash takes the next character literally. There are no comments and no expansions.
-/

namespace AssetTranspiler.Command

inductive Problem where
  | noClosingQuote
  | noEscapedCharacter
  deriving DecidableEq, Repr

def Problem.message : Problem → String
  | .noClosingQuote => "No closing quotation"
  | .noEscapedCharacter => "No escaped character"

inductive Mode where
  | gap
  | word
  | single
  | double
  | escape
  | doubleEscape
  deriving DecidableEq, Repr

def isSeparator (c : Char) : Bool :=
  c == ' ' || c == '\t' || c == '\r' || c == '\n'

def addFront (cs : List Char) : List (List Char) → List (List Char)
  | [] => [cs]
  | w :: ws => (cs ++ w) :: ws

/-- What an unquoted character that is no separator does: the mode after it, and what it adds to the
word. -/
def enter (c : Char) : Mode × List Char :=
  if c = '\'' then (.single, [])
  else if c = '"' then (.double, [])
  else if c = '\\' then (.escape, [])
  else (.word, [c])

/-- The words of the rest of a command. Except between words, the first of them is what is still to
be added to the current word. -/
def scan : Mode → List Char → Except Problem (List (List Char))
  | .gap, [] => .ok []
  | .word, [] => .ok [[]]
  | .single, [] => .error .noClosingQuote
  | .double, [] => .error .noClosingQuote
  | .escape, [] => .error .noEscapedCharacter
  | .doubleEscape, [] => .error .noEscapedCharacter
  | .gap, c :: r =>
      if isSeparator c then scan .gap r
      else (scan (enter c).1 r).map (addFront (enter c).2)
  | .word, c :: r =>
      if isSeparator c then (scan .gap r).map ([] :: ·)
      else (scan (enter c).1 r).map (addFront (enter c).2)
  | .single, c :: r =>
      if c = '\'' then scan .word r else (scan .single r).map (addFront [c])
  | .double, c :: r =>
      if c = '"' then scan .word r
      else if c = '\\' then scan .doubleEscape r
      else (scan .double r).map (addFront [c])
  | .escape, c :: r => (scan .word r).map (addFront [c])
  | .doubleEscape, c :: r =>
      (scan .double r).map (addFront (if c = '"' ∨ c = '\\' then [c] else ['\\', c]))

def words (command : String) : Except Problem (List String) :=
  (scan .gap command.toList).map (·.map String.ofList)

theorem scan_gap_separator {c : Char} {r : List Char} (h : isSeparator c = true) :
    scan .gap (c :: r) = scan .gap r := by
  simp [scan, h]

theorem addFront_append (a b : List Char) (ws : List (List Char)) :
    addFront a (addFront b ws) = addFront (a ++ b) ws := by
  cases ws <;> simp [addFront]

end AssetTranspiler.Command
