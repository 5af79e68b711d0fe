import AssetTranspiler.Text.Category
import AssetTranspiler.Text.Search

namespace AssetTranspiler.Path

open Text

def startsExtension (s : List Char) : Bool :=
  ".js".toList.isPrefixOf s || ".es6".toList.isPrefixOf s

/-- Whether nothing but a final line break follows the line that begins here. -/
def isLastLine (s : List Char) : Bool :=
  match s.dropWhile (· != '\n') with
  | [] => true
  | ['\n'] => true
  | _ => false

/-- Cuts the last line at the first extension on it. -/
def withoutExtension : List Char → List Char
  | [] => []
  | c :: r =>
      if startsExtension (c :: r) && isLastLine (c :: r) then (c :: r).dropWhile (· != '\n')
      else c :: withoutExtension r

def logicalChars (filename loadPath : List Char) : List Char :=
  let below := if loadPath.isEmpty then filename else removeFirst loadPath filename
  match withoutExtension below with
  | '/' :: r => r
  | s => s

def logical (filename loadPath : String) : String :=
  String.ofList (logicalChars filename.toList loadPath.toList)

def pluginAssetsAt? (s : List Char) : Option (List Char) :=
  ("/plugins/".toList.isPrefixOf? s).bind fun below =>
    let name := below.takeWhile fun c => isWord c || c == '-'
    if !name.isEmpty && "/assets".toList.isPrefixOf (below.drop name.length) then some name
    else none

def pluginAssets? : List Char → Option (List Char)
  | [] => none
  | c :: r => (pluginAssetsAt? (c :: r)).or (pluginAssets? r)

def sourceUrl (loadPath logicalPath : String) : String :=
  match pluginAssets? loadPath.toList with
  | some name => "plugins/" ++ String.ofList name ++ "/assets/javascripts/" ++ logicalPath
  | none => logicalPath

end AssetTranspiler.Path
