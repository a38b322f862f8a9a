import ServerLink.Proofs.Url.Files
import ServerLink.Watch

/-!
# Changes on their way to the server

A change is sent with the address of its path, when that is an identifier.  `Change.isNamed` says of
the path which changes these are: the path is absolute, and none of its bytes is one that addresses
leave as it is and identifiers refuse.

* **`fileEvents_forall₂`** — the named changes are sent, each once and in order, and nothing else.
  What is sent holds the kind, and the escapes in it are undone to the path.
* `fileEvents_bar` — a file whose name has a bar in it is not told to the server.
-/

namespace ServerLink.Watch

/-- Whether a change has a name on the wire. -/
def Change.isNamed (c : Change) : Bool := c.path.isAbsolute && !c.path.bytes.any Url.isRefused

/-- An event that tells a change. -/
structure Tells (c : Change) (event : Json) (place : List Char) (spelled : Path) : Prop where
  said : event = .obj [("type", .int c.kind.number),
    ("uri", .str (String.ofList ("file://".toList ++ place)))]
  undone : Escape.undo (Utf8.encode place) = spelled.bytes
  same : spelled.components = c.path.components
  /-- A path without doubled slashes and dots comes back byte by byte. -/
  exactly : (c.path.pieces = [[]] ∨ ∀ n ∈ c.path.pieces, Path.isIdle n = false) → spelled = c.path

lemma event?_eq (c : Change) :
    c.event? = if c.isNamed then
        some (.obj [("type", .int c.kind.number),
          ("uri", .str (String.ofList (Url.fileText c.path)))])
      else none := by
  rw [Change.event?, Url.identifier?_ofFile?, Change.isNamed]
  split_ifs <;> rfl

lemma tells_of_isNamed {c : Change} (h : c.isNamed = true) :
    Tells c (.obj [("type", .int c.kind.number),
      ("uri", .str (String.ofList (Url.fileText c.path)))])
      (Escape.bytes Url.ofPath c.path.plain.bytes) c.path.plain := by
  have habsolute : c.path.isAbsolute = true := (Bool.and_eq_true_iff.1 h).1
  refine ⟨rfl, ?_, Path.components_plain habsolute, ?_⟩
  · simpa [Escape.undo] using Escape.undo_bytes Url.percent_mem c.path.plain.bytes []
  · rintro (hroot | hpieces)
    · have hbytes := Path.bytes_of_isAbsolute habsolute
      rw [Path.plain_of_isAbsolute habsolute]
      rw [hroot] at hbytes ⊢
      exact congrArg Path.mk hbytes.symm
    · exact Path.plain_eq_self habsolute hpieces

/-- **What is sent of a batch**: an event for each change that has a name, in order. -/
theorem fileEvents_forall₂ (changes : List Change) :
    List.Forall₂ (fun c event => ∃ place spelled, Tells c event place spelled)
      (changes.filter Change.isNamed) (fileEvents changes) := by
  induction changes with
  | nil => exact .nil
  | cons c rest ih =>
    rw [fileEvents, List.filterMap_cons, event?_eq, List.filter_cons]
    cases h : c.isNamed with
    | false => exact ih
    | true => exact .cons ⟨_, _, tells_of_isNamed h⟩ ih

/-- **A bar in a name is neither escaped nor allowed**: the change is dropped. -/
theorem fileEvents_bar :
    (Path.ofString "/a|b.toml").isAbsolute = true
      ∧ fileEvents [⟨.ofString "/a|b.toml", .created⟩] = [] := by
  decide

end ServerLink.Watch
