import AssetTranspiler.Plugin.Registry
import AssetTranspiler.Text.Character
import AssetTranspiler.Text.Search

/-!
Module names. An asset of a registered plugin is named after the plugin; any other asset is named by
its logical path without ember-cli's app and addon directories.
-/

namespace AssetTranspiler.ModuleName

open Text

def pluginNamespace : String := "discourse/plugins"

def manifest : String := "plugin.rb"

def emberCliChars (path : List Char) : List Char :=
  replaceAll "admin/addon".toList "admin".toList
    (replaceAll "addon/".toList [] (replaceAll "app/".toList [] path))

def emberCli (path : String) : String :=
  String.ofList (emberCliChars path.toList)

def baseName (path : List Char) : List Char :=
  ((path.reverse.dropWhile (· == '/')).takeWhile (· != '/')).reverse

def pluginsMarker (appRoot : List Char) : List Char :=
  '/' :: baseName appRoot ++ "/plugins/".toList

/-- The plugin directory that begins the text: the marker and one component, which a slash must
follow. -/
def directoryAt? (marker s : List Char) : Option (List Char) :=
  (marker.isPrefixOf? s).bind fun below =>
    let component := below.takeWhile (· != '/')
    if !component.isEmpty && component.length < below.length then some (marker ++ component)
    else none

/-- The text up to the end of the last plugin directory that begins on its first line. -/
def lastOnLine? (marker : List Char) : List Char → Option (List Char)
  | [] => none
  | c :: r =>
      if c = '\n' then none
      else
        match lastOnLine? marker r with
        | some d => some (c :: d)
        | none => directoryAt? marker (c :: r)

def directory? (marker : List Char) : List Char → Option (List Char)
  | [] => none
  | c :: r => (lastOnLine? marker (c :: r)).or (directory? marker r)

def owner? (plugins : PluginRegistry) (appRoot rootPath : String) : Option Plugin :=
  (directory? (pluginsMarker appRoot.toList) rootPath.toList).bind fun d =>
    plugins.findByPath? (String.ofList d ++ "/" ++ manifest)

def inPlugin (plugin : Plugin) (path : String) : String :=
  pluginNamespace ++ "/" ++ plugin.name ++ "/" ++
    String.ofList (removeFirst "javascripts/".toList path.toList)

def resolve (plugins : PluginRegistry) (appRoot : String) (rootPath logicalPath : Option String) :
    Option String :=
  logicalPath.map fun path =>
    match rootPath.bind (owner? plugins appRoot) with
    | some plugin => inPlugin plugin path
    | none => emberCli path

/-- The module name that a caller asks for: the service's own plugins and root stand in for those that
the caller does not name. -/
def resolveFor (shared : PluginRegistry) (configured : String) (plugins : Option PluginRegistry)
    (appRoot rootPath logicalPath : Option String) : Option String :=
  resolve (plugins.getD shared) (appRoot.getD configured) rootPath logicalPath

theorem resolve_of_no_root (plugins : PluginRegistry) (appRoot path : String) :
    resolve plugins appRoot none (some path) = some (emberCli path) := rfl

end AssetTranspiler.ModuleName
