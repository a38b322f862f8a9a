import ServerLink.Environment.Provider

/-!
# The registry of providers

* `Registry` — providers by the names of their extensions, each name once, in ascending order.
* `Registry.register`, `unregister`, `find?`, `ids` — its operations.
* `Registry.text` — the names, as shown in messages.
-/

namespace ServerLink.Environment

/-- Providers by the names of their extensions, in ascending order. -/
structure Registry where
  entries : List (String × Provider)

namespace Registry

/-- A registry without providers. -/
def empty : Registry := ⟨[]⟩

/-- Puts an entry in its place. -/
def insertEntry (id : String) (p : Provider) : List (String × Provider) → List (String × Provider)
  | [] => [(id, p)]
  | (n, q) :: rest =>
    if id = n then (id, p) :: rest
    else if id < n then (id, p) :: (n, q) :: rest
    else (n, q) :: insertEntry id p rest

/-- Registers a provider; it takes the place of another of the same name. -/
def register (r : Registry) (id : String) (p : Provider) : Registry := ⟨insertEntry id p r.entries⟩

/-- The provider of a name. -/
def find? (r : Registry) (id : String) : Option Provider := r.entries.lookup id

/-- Removes a provider; tells whether there was one. -/
def unregister (r : Registry) (id : String) : Registry × Bool :=
  (⟨r.entries.filter (·.1 != id)⟩, (r.find? id).isSome)

/-- The names, in ascending order. -/
def ids (r : Registry) : List String := r.entries.map (·.1)

/-- The names as shown in messages. -/
def text (r : Registry) : String :=
  "ExtensionRegistry \x7b discovery: " ++ Text.quoteList r.ids ++ " \x7d"

end Registry

end ServerLink.Environment
