import AssetTranspiler.Path.Registry
import AssetTranspiler.Text.Search

/-!
Which assets are transpiled. Files built by ember-cli never are; those with the extension .es6
always are; of the others, scripts are selected by where they lie below the application's root.
-/

namespace AssetTranspiler

open Text

def scriptRoot : List Char := "app/assets/javascripts".toList

def testRoot : List Char := "test/javascripts".toList

def emberCliDist : String := "/app/assets/javascripts/discourse/dist/"

def bootstrapScripts : List String :=
  ["start-discourse", "onpopstate-handler", "google-tag-manager", "google-universal-analytics-v3",
    "google-universal-analytics-v4", "activate-account", "auto-redirect", "embed-application",
    "app-boot"]

namespace Path

def isEmberCli (filename : String) : Bool :=
  occurs emberCliDist.toList filename.toList

def relativeChars (root filename : List Char) : List Char :=
  (if root.isEmpty then filename else removeFirst root filename).dropWhile (· == '/')

def relative (root filename : String) : String :=
  String.ofList (relativeChars root.toList filename.toList)

def isNestedIn (top path : List Char) : Bool :=
  match (top ++ ['/']).isPrefixOf? path with
  | none => false
  | some below =>
      let directory := below.takeWhile (· != '/')
      !directory.isEmpty && directory.length < below.length

def isBootstrap (path : List Char) : Bool :=
  bootstrapScripts.any fun name => path == scriptRoot ++ '/' :: name.toList ++ ".js".toList

def isExcluded (path : List Char) : Bool :=
  (scriptRoot ++ "/locales/".toList).isPrefixOf path ||
    (scriptRoot ++ "/plugins/".toList).isPrefixOf path

def selectsScript (registry : PathRegistry) (path : List Char) : Bool :=
  if isExcluded path then false
  else
    isBootstrap path || registry.prefixes.any (fun p => p.toList.isPrefixOf path) ||
      isNestedIn scriptRoot path || isNestedIn testRoot path

def hasEs6Extension (filename : List Char) : Bool :=
  ".es6".toList.isSuffixOf filename || ".es6.erb".toList.isSuffixOf filename

def hasJsExtension (filename : List Char) : Bool :=
  ".js".toList.isSuffixOf filename || ".js.erb".toList.isSuffixOf filename

def shouldTranspile (root : String) (registry : PathRegistry) (filename : String) : Bool :=
  if isEmberCli filename then false
  else if hasEs6Extension filename.toList then true
  else if hasJsExtension filename.toList then
    selectsScript registry (relativeChars root.toList filename.toList)
  else false

theorem shouldTranspile_of_isEmberCli {root filename : String} {registry : PathRegistry}
    (h : isEmberCli filename = true) : shouldTranspile root registry filename = false := by
  simp [shouldTranspile, h]

end Path

def skipMarker : List Char := "// discourse-skip-module".toList

def startsMarked (s : List Char) : Bool :=
  match skipMarker.isPrefixOf? s with
  | none => false
  | some [] => true
  | some (c :: _) => c == '\n'

/-- Whether the marker is found on a line of its own; `fresh` tells whether a line begins here. -/
def findsMarker : Bool → List Char → Bool
  | _, [] => false
  | fresh, c :: r => fresh && startsMarked (c :: r) || findsMarker (c == '\n') r

def skipsModule (source : String) : Bool :=
  findsMarker true source.toList

end AssetTranspiler
