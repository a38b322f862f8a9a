import ServerLink.Environment.Registry

/-!
# What the host hands over

* `Context` — the workspace and the providers.
* `Context.text`, `Context.tallText` — how it is shown, on one line and on many.
-/

namespace ServerLink.Environment

/-- What the host hands over at an activation. -/
structure Context where
  workspaceRoot : Path
  registry : Registry

namespace Context

/-- A context on one line. -/
def text (c : Context) : String :=
  "ExtensionContext \x7b workspace_root: " ++ c.workspaceRoot.quoted ++ ", registry: "
    ++ c.registry.text ++ ", notifier: \"dyn Notifier\" \x7d"

/-- The names of the providers, one a line. -/
def tallIds (ids : List String) : String :=
  if ids.isEmpty then "[]"
  else
    "[\n" ++ String.join (ids.map fun id => "            " ++ Text.quote id ++ ",\n") ++ "        ]"

/-- A context on many lines. -/
def tallText (c : Context) : String :=
  "ExtensionContext \x7b\n    workspace_root: " ++ c.workspaceRoot.quoted
    ++ ",\n    registry: ExtensionRegistry \x7b\n        discovery: " ++ tallIds c.registry.ids
    ++ ",\n    \x7d,\n    notifier: \"dyn Notifier\",\n\x7d"

end Context

end ServerLink.Environment
