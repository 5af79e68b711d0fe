import AssetTranspiler.Path.Logical
import AssetTranspiler.Transpiler
import AssetTranspiler.Value.Json

namespace AssetTranspiler

structure Asset where
  filename : String := ""
  loadPath : String := ""
  data : Value := .null

namespace Asset

def withSourceUrl (data : Value) (url : String) : String :=
  "eval(" ++ data.json ++ " + \"\\n//# sourceURL=" ++ url ++ "\");\n"

def logicalPath (a : Asset) : String :=
  Path.logical a.filename a.loadPath

def content (a : Asset) : Value :=
  if a.data.truthy then a.data else .str ""

def isWrapped (a : Asset) (settings : Settings) : Bool :=
  !settings.isProduction && !Path.isEmberCli a.filename

def wrap (a : Asset) (settings : Settings) (data : Value) : Value :=
  if a.isWrapped settings then
    .str (withSourceUrl data (Path.sourceUrl a.loadPath a.logicalPath))
  else data

def process (a : Asset) : Job Value := do
  let s ← get
  let data ←
    if Path.shouldTranspile s.settings.appRoot s.paths a.filename then
      Transpiler.transpile a.content (some a.loadPath) (some a.logicalPath)
    else pure a.content
  return a.wrap s.settings data

end Asset
end AssetTranspiler
