import AssetTranspiler.Text.Character
import AssetTranspiler.Text.Nesting
import AssetTranspiler.Text.Search

/-!
Reading the engine's report of a thrown value. The report names the place of the throw, quotes the
source around it, and after a blank line repeats the value, followed by the stack. A thrown text may
itself have been encoded as a JSON string, which is undone.
-/

namespace AssetTranspiler.Report

open Nesting Text

/-- The rest of a report's first line after its location: a file name without white space or colon, a
colon, a line number, a colon and a blank. -/
def afterLocation? (line : List Char) : Option (List Char) :=
  let file := line.takeWhile fun c => !isBlank c && c != ':'
  match line.drop file.length with
  | ':' :: r =>
      let number := r.takeWhile isDigit
      match r.drop number.length with
      | ':' :: ' ' :: rest => if file.isEmpty || number.isEmpty then none else some rest
      | _ => none
  | _ => none

def isFrame (line : List Char) : Bool :=
  match line with
  | [] => false
  | c :: _ => isBlank c && "at ".toList.isPrefixOf (line.dropWhile isBlank)

def valueOf (tail : List Char) : List Char :=
  dropRightWhile isBlank
    (['\n'].intercalate ((tail.splitOn '\n').takeWhile fun line => !isFrame line))

/-- The thrown value of a report: what follows the blank line, or else the rest of the first line. A
report without a location is its own value. -/
def thrownChars (report : List Char) : List Char :=
  match afterLocation? (report.takeWhile (· != '\n')) with
  | none => report
  | some rest =>
      match cut? ['\n', '\n'] ((report.dropWhile (· != '\n')).drop 1) with
      | none => rest
      | some (_, tail) =>
          let value := valueOf tail
          if value.isEmpty then rest else value

def thrownValue (report : String) : String :=
  String.ofList (thrownChars report.toList)

def errorPrefix : List Char := "Error: ".toList

def literal? (s : List Char) : Option (List Char) :=
  match Literal.read? (s.dropWhile isJsonSpace) with
  | some (value, rest) => if rest.all isJsonSpace then some value else none
  | none => none

def withoutPrefix (message : List Char) : List Char :=
  (errorPrefix.isPrefixOf? message).getD message

/-- Undoes the JSON encoding of a thrown text; other messages stay as they are, unless the attempt to
read them takes more than there is of the stack. -/
def decodeChars (stack : Stack) (message : List Char) : Option (List Char) :=
  match literal? (withoutPrefix message) with
  | some value => some (errorPrefix ++ value)
  | none => if stack.exhausts (withoutPrefix message) then none else some message

def decode (stack : Stack) (message : String) : Option String :=
  (decodeChars stack message.toList).map String.ofList

def message (stack : Stack) (report : String) : Option String :=
  decode stack (thrownValue report)

theorem thrownChars_of_no_location {report : List Char}
    (h : afterLocation? (report.takeWhile (· != '\n')) = none) : thrownChars report = report := by
  simp [thrownChars, h]

theorem decodeChars_of_no_literal {stack : Stack} {m : List Char}
    (h : literal? (withoutPrefix m) = none) :
    decodeChars stack m = if stack.exhausts (withoutPrefix m) then none else some m := by
  simp [decodeChars, h]

end AssetTranspiler.Report
