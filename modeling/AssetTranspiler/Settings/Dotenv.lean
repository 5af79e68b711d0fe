import AssetTranspiler.Text.Character

/-!
Files that assign environment variables, one `NAME=value` after the other. A value may be quoted;
an unquoted one ends with its line, or at a number sign that follows white space. What cannot be read
is passed over up to the end of its line.
-/

namespace AssetTranspiler.Dotenv

open Text

def isLineBreak (c : Char) : Bool :=
  c == '\n' || c == '\r'

def isInlineBlank (c : Char) : Bool :=
  isBlank c && !isLineBreak c

def afterLineBreak : List Char → List Char
  | '\r' :: '\n' :: r => r
  | '\n' :: r => r
  | '\r' :: r => r
  | s => s

def afterExport (s : List Char) : List Char :=
  match "export".toList.isPrefixOf? s with
  | some (c :: r) => if isInlineBlank c then r.dropWhile isInlineBlank else s
  | _ => s

def name? (s : List Char) : Option (Option (List Char) × List Char) :=
  match s with
  | '#' :: _ => some (none, s)
  | '\'' :: r =>
      let name := r.takeWhile (· != '\'')
      match r.drop name.length with
      | '\'' :: rest => if name.isEmpty then none else some (some name, rest)
      | _ => none
  | _ =>
      let name := s.takeWhile fun c => !isBlank c && c != '=' && c != '#'
      if name.isEmpty then none else some (some name, s.drop name.length)

/-- The quoted text up to the first closing quote that no backslash precedes. -/
def unescapedClose? (q : Char) : List Char → Option (List Char × List Char)
  | [] => none
  | '\\' :: c :: r =>
      if c = q then (unescapedClose? q r).map fun (v, rest) => ('\\' :: c :: v, rest)
      else (unescapedClose? q (c :: r)).map fun (v, rest) => ('\\' :: v, rest)
  | c :: r =>
      if c = q then some ([], r) else (unescapedClose? q r).map fun (v, rest) => (c :: v, rest)

def lastClose? (q : Char) : List Char → Option (List Char × List Char)
  | [] => none
  | c :: r =>
      match lastClose? q r with
      | some (v, rest) => some (c :: v, rest)
      | none => if c = q then some ([], r) else none

/-- The text inside quotes, and what follows: a quote after a backslash closes only when no other
quote does. -/
def quoted? (q : Char) (s : List Char) : Option (List Char × List Char) :=
  (unescapedClose? q s).or (lastClose? q s)

def decodeEscapes (meaning : Char → Option Char) : List Char → List Char
  | [] => []
  | '\\' :: c :: r =>
      match meaning c with
      | some d => d :: decodeEscapes meaning r
      | none => '\\' :: decodeEscapes meaning (c :: r)
  | c :: r => c :: decodeEscapes meaning r

def singleEscape? : Char → Option Char
  | '\\' => some '\\'
  | '\'' => some '\''
  | _ => none

def doubleEscape? : Char → Option Char
  | '\\' => some '\\'
  | '\'' => some '\''
  | '"' => some '"'
  | 'a' => some '\x07'
  | 'b' => some '\x08'
  | 'f' => some '\x0c'
  | 'n' => some '\n'
  | 'r' => some '\r'
  | 't' => some '\t'
  | 'v' => some '\x0b'
  | _ => none

def withoutComment : List Char → List Char
  | [] => []
  | c :: r =>
      if isBlank c && ((c :: r).dropWhile isBlank).head? == some '#' then []
      else c :: withoutComment r

def value? (s : List Char) : Option (List Char × List Char) :=
  match s with
  | '\'' :: r => (quoted? '\'' r).map fun (v, rest) => (decodeEscapes singleEscape? v, rest)
  | '"' :: r => (quoted? '"' r).map fun (v, rest) => (decodeEscapes doubleEscape? v, rest)
  | _ =>
      let line := s.takeWhile fun c => !isLineBreak c
      some (dropRightWhile isBlank (withoutComment line), s.drop line.length)

def lineEnd? (s : List Char) : Option (List Char) :=
  let afterComment :=
    match s.dropWhile isInlineBlank with
    | '#' :: r => r.dropWhile fun c => !isLineBreak c
    | r => r
  match afterComment with
  | [] => some []
  | c :: r => if isLineBreak c then some (afterLineBreak (c :: r)) else none

def nextLine (s : List Char) : List Char :=
  match s.dropWhile fun c => !isLineBreak c with
  | [] => []
  | _ :: r => r

structure Entry where
  name : Option (List Char)
  value : Option (List Char)
  deriving DecidableEq, Repr

def entry (s : List Char) : Except (List Char) (Entry × List Char) :=
  let s := afterExport s
  match name? s with
  | none => .error s
  | some (name, r) =>
      match r.dropWhile isInlineBlank with
      | '=' :: v =>
          let v := v.dropWhile isInlineBlank
          match value? v with
          | none => .error v
          | some (value, rest) =>
              match lineEnd? rest with
              | some next => .ok (⟨name, some value⟩, next)
              | none => .error rest
      | r =>
          match lineEnd? r with
          | some next => .ok (⟨name, none⟩, next)
          | none => .error r

/-- The entries of a text; `fuel` bounds their number. -/
def entries : Nat → List Char → List Entry
  | 0, _ => []
  | fuel + 1, s =>
      match s.dropWhile isBlank with
      | [] => []
      | s =>
          match entry s with
          | .ok (e, next) => e :: entries fuel next
          | .error rest => entries fuel (nextLine rest)

def assign (name : String) (value : Option String) :
    List (String × Option String) → List (String × Option String)
  | [] => [(name, value)]
  | e :: es => if e.1 = name then (name, value) :: es else e :: assign name value es

/-- The variables that a text assigns: of several assignments to one name the last counts, in the
place of the first. -/
def read (text : String) : List (String × Option String) :=
  let chars := unifyLineBreaks text.toList
  (entries (chars.length + 1) chars).foldl
    (fun vars e =>
      match e.name with
      | none => vars
      | some name => assign (String.ofList name) (e.value.map String.ofList) vars)
    []

end AssetTranspiler.Dotenv
