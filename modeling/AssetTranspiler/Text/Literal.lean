import AssetTranspiler.Text.Character

namespace AssetTranspiler.Literal

open Text

def shortEscape? : Char → Option Char
  | '"' => some '"'
  | '\\' => some '\\'
  | '\n' => some 'n'
  | '\r' => some 'r'
  | '\t' => some 't'
  | '\x08' => some 'b'
  | '\x0c' => some 'f'
  | _ => none

def unescape? : Char → Option Char
  | '"' => some '"'
  | '\\' => some '\\'
  | '/' => some '/'
  | 'b' => some '\x08'
  | 'f' => some '\x0c'
  | 'n' => some '\n'
  | 'r' => some '\r'
  | 't' => some '\t'
  | _ => none

def escape (c : Char) : List Char :=
  match shortEscape? c with
  | some e => ['\\', e]
  | none =>
      if ' ' ≤ c ∧ c ≤ '~' then [c]
      else (units c).flatMap fun u => '\\' :: 'u' :: hex 4 u

def quote (s : List Char) : List Char :=
  '"' :: s.flatMap escape ++ ['"']

def isRaw (c : Char) : Bool :=
  c != '"' && c != '\\' && 0x20 ≤ c.toNat

/-- Reads up to the closing quote: the value, and what follows. Two units that form a surrogate pair
are one character; a unit that is half a pair has no value. -/
def readBody? : List Char → Option (List Char × List Char)
  | [] => none
  | '"' :: r => some ([], r)
  | '\\' :: 'u' :: a :: b :: c :: d :: r => do
      let u ← hex4? a b c d
      if isHighSurrogate u then
        match r with
        | '\\' :: 'u' :: a' :: b' :: c' :: d' :: r' =>
            let v ← hex4? a' b' c' d'
            if isLowSurrogate v then
              let (s, rest) ← readBody? r'
              return (ofSurrogates u v :: s, rest)
            else none
        | _ => none
      else if isLowSurrogate u then none
      else
        let (s, rest) ← readBody? r
        return (Char.ofNat u :: s, rest)
  | '\\' :: e :: r => do
      let c ← unescape? e
      let (s, rest) ← readBody? r
      return (c :: s, rest)
  | c :: r => do
      if isRaw c then
        let (s, rest) ← readBody? r
        return (c :: s, rest)
      else none

def read? : List Char → Option (List Char × List Char)
  | '"' :: r => readBody? r
  | _ => none

theorem unescape?_of_shortEscape? {c e : Char} (h : shortEscape? c = some e) :
    unescape? e = some c := by
  unfold shortEscape? at h
  split at h <;> cases h <;> rfl

end AssetTranspiler.Literal
