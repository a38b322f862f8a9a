import Mathlib
import ServerLink.Proofs.Connection.Workspace
import ServerLink.Proofs.Url.Folder

/-!
# The folder of a workspace as it is announced

With the handshake the server is told one folder: the root of the workspace, by address and by name.
The address is the one that is told as the root.  The name is taken out of the address, where the
characters that an address cannot have stand as escapes, and nobody undoes them.

* `Called` — what the name of a folder is, given its path and its address.
* `called_given` — a root that is given as an absolute path is called so, whatever the working
  directory.
* **`folder_of_run`** — every handshake that a run sends announces its root in this way.  A folder
  whose name needs no escape goes by its own name, and no other does; `spaced_escaped` is one that
  does not.
-/

namespace ServerLink.Connection

open Process Rpc
open ServerLink.Path (slash)

variable {config : Config} {home root : Path} {processId : Nat} {moves : List Move} {c : Connection}

/-! ## An absolute root -/

/-- An absolute path is the same seen from any directory. -/
lemma components_of_madeAbsolute?_of_isAbsolute {q : Path} (h : root.isAbsolute = true)
    (hq : root.madeAbsolute? home = some q) : q.components = root.components := by
  have hanywhere : root.madeAbsolute? home = root.madeAbsolute? ⟨[slash]⟩ := by
    simp only [Path.madeAbsolute?, h, Bool.not_true, Bool.false_eq_true, if_false]
  rw [hanywhere] at hq
  rw [Path.components_of_madeAbsolute? rfl hq, Path.join, if_pos h]

lemma getLast?_steps {n : Bytes} (h : root.isAbsolute = true)
    (hlast : root.components.getLast? = some (.name n)) : root.steps.getLast? = some n := by
  obtain ⟨front, hfront⟩ := List.getLast?_eq_some_iff.1 hlast
  have hroot := Path.components_of_isAbsolute h
  rw [hfront] at hroot
  cases front with
  | nil => cases hroot
  | cons first front => simp [Path.steps, hfront, Path.Component.bytes]

/-! ## What a folder is called -/

/-- What the folder of a path is called, next to its address. -/
structure Called (root : Path) (name uri : String) : Prop where
  /-- The address is that of the path. -/
  address : uri = String.ofList (Url.directoryText root)
  /-- The name is the last component, escaped. -/
  escaped : ∀ n, root.components.getLast? = some (.name n) →
    name = String.ofList (Escape.bytes Url.ofPath n)
  /-- Without the escapes it is the last component. -/
  undone : ∀ n, root.components.getLast? = some (.name n) → Escape.undo (Utf8.ofString name) = n
  /-- In a path of text the last component is text. -/
  isText : ∀ text, root = .ofString text → ∀ n, root.components.getLast? = some (.name n) →
    ∃ own, n = Utf8.ofString own
  /-- The folder goes by its own name just if no character of the name has an escape. -/
  own : ∀ own, root.components.getLast? = some (.name (Utf8.ofString own)) →
    (name = own ↔ ∀ ch ∈ own.toList, Escape.Keeps Url.ofPath ch)
  /-- The root of all paths goes by its address. -/
  bare : root.components = [.root] → name = uri

/-- **The root that is given** is called by its last component, escaped. -/
lemma called_given {url : Url} (h : config.workspaceRoot.isAbsolute = true)
    (hurl : givenRoot? config home = some url) :
    Called config.workspaceRoot url.folderName url.text := by
  obtain ⟨q, hq, hdirectory⟩ := Option.bind_eq_some_iff.1 hurl
  have hcomponents := components_of_madeAbsolute?_of_isAbsolute h hq
  have hsteps : q.steps = config.workspaceRoot.steps := by rw [Path.steps, hcomponents, Path.steps]
  have habsolute : q.isAbsolute = true :=
    Path.isAbsolute_of_components (hcomponents.trans (Path.components_of_isAbsolute h))
  have hfolder := Url.folderName_ofDirectory? habsolute hdirectory
  have hname : ∀ n, config.workspaceRoot.components.getLast? = some (.name n) →
      url.folderName = String.ofList (Escape.bytes Url.ofPath n) := by
    intro n hn
    rw [hfolder, hsteps, getLast?_steps h hn]
  refine ⟨?_, hname, fun n hn => ?_, ?_, fun own hown => ?_, fun hroot => ?_⟩
  · have hsame : Url.directoryText q = Url.directoryText config.workspaceRoot := by
      unfold Url.directoryText
      rw [hsteps]
    rw [Url.text, Url.chars_of_ofDirectory? habsolute hdirectory, hsame]
  · have hundo := Escape.undo_bytes Url.percent_mem n []
    rw [List.append_nil] at hundo
    rw [hname n hn, Utf8.ofString_ofList, hundo, Escape.undo, List.append_nil]
  · rintro text htext n hn
    rw [htext, ← Path.fileName?_eq_some_iff] at hn
    obtain ⟨cs, rfl⟩ := Path.exists_text_of_fileName? hn
    exact ⟨String.ofList cs, (Utf8.ofString_ofList cs).symm⟩
  · rw [hname _ hown, String.ofList_eq, Utf8.ofString, Escape.bytes_encode_eq_iff]
  · have hnone : q.steps = [] := by rw [hsteps, Path.steps, hroot]; rfl
    rw [hfolder, hnone]
    rfl

/-! ## What a handshake announces -/

/-- The folders that a handshake tells, when there is one. -/
def folders (name uri : String) : Json :=
  .arr [.obj [("name", .str name), ("uri", .str uri)]]

/-- The handshake tells one folder, with the address of the root. -/
lemma folders_of_openHandshake {client : Editor.Client} {url : Url} {said : Json}
    (h : client.openHandshake (some url) = .ok said) :
    said.field? "workspaceFolders" = some (folders url.folderName url.text) := by
  rw [handshakeParams_of_openHandshake h]
  cases client.version <;> rfl

/-- **Each handshake announces the root** under the last component of its path, escaped. -/
theorem folder_of_run (hroot : config.workspaceRoot.isAbsolute = true)
    (h : (new config home processId).moves? moves = some c) {id params : Json}
    (hsaid : .request ⟨version, id, Editor.Client.handshakeMethod, some params⟩ ∈
      (new config home processId).said moves) :
    ∃ name uri, params.field? "workspaceFolders" = some (folders name uri)
      ∧ params.field? "rootUri" = some (.str uri) ∧ Called config.workspaceRoot name uri := by
  obtain ⟨client, url, said, hurl, hparams, hopen⟩ := (announces_said h _ hsaid).opens id _ rfl
  cases hparams
  exact ⟨url.folderName, url.text, folders_of_openHandshake hopen, rootUri_of_openHandshake hopen,
    called_given hroot hurl⟩

/-! ## A name with a blank -/

/-- A connection to a server on the workspace `/srv/my app`. -/
def annexe : Connection :=
  new { workshop.config with workspaceRoot := .ofString "/srv/my app//" } ⟨[slash]⟩ 1

def annexeOpened : Connection := (annexe.moves? opening).getD annexe

/-- The handshake's parameters. -/
def annexeGreeting : Json := annexe.client.handshakeParams
  (some (⟨"file".toList, some [], "/srv/my%20app/".toList, none, none⟩, "file:///srv/my%20app/"))

set_option maxRecDepth 8000 in
lemma annexe_opening : annexe.moves? opening = some annexeOpened := rfl

set_option maxRecDepth 8000 in
lemma annexe_said : annexe.said opening
    = [.request ⟨version, .int 1, Editor.Client.handshakeMethod, some annexeGreeting⟩] := rfl

/-- The folder is told by the last component of its path. -/
theorem folder_annexe : ∃ name uri, annexe.config.workspaceRoot.isAbsolute = true
    ∧ annexe.moves? opening = some annexeOpened
    ∧ .request ⟨version, .int 1, Editor.Client.handshakeMethod, some annexeGreeting⟩ ∈
      annexe.said opening
    ∧ annexeGreeting.field? "workspaceFolders" = some (folders name uri)
    ∧ annexeGreeting.field? "rootUri" = some (.str uri)
    ∧ Called annexe.config.workspaceRoot name uri := by
  have hsaid : .request ⟨version, .int 1, Editor.Client.handshakeMethod, some annexeGreeting⟩ ∈
      annexe.said opening := by
    rw [annexe_said]
    exact List.mem_singleton_self _
  obtain ⟨name, uri, hfolders, huri, hcalled⟩ :=
    folder_of_run (by decide +kernel) annexe_opening hsaid
  exact ⟨name, uri, by decide +kernel, annexe_opening, hsaid, hfolders, huri, hcalled⟩

/-- **A name with a blank** is announced with an escape in its place. -/
theorem spaced_escaped : ∃ uri, annexe.moves? opening = some annexeOpened
    ∧ .request ⟨version, .int 1, Editor.Client.handshakeMethod, some annexeGreeting⟩ ∈
      annexe.said opening
    ∧ annexe.config.workspaceRoot.components.getLast? = some (.name (Utf8.ofString "my app"))
    ∧ annexeGreeting.field? "workspaceFolders" = some (folders "my%20app" uri)
    ∧ "my%20app" ≠ "my app" :=
  ⟨"file:///srv/my%20app/", annexe_opening, by rw [annexe_said]; exact List.mem_singleton_self _,
    by decide +kernel, rfl, by decide⟩

end ServerLink.Connection
