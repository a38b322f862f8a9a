import Mathlib
import ServerLink.Proofs.Connection.Abides
import ServerLink.Proofs.Connection.Farewell
import ServerLink.Proofs.Connection.Wire
import ServerLink.Proofs.Files.Walk
import ServerLink.Proofs.Watch.Batch
import ServerLink.Proofs.Watch.Events

/-!
# The workspace as the server is told of it

The server hears of the workspace twice.  The handshake names its root, as it was given and seen
from the directory of the program; the changes of watched files name what is below the root, by the
place at which the watcher found it.

**What stays.**  `Placed`: the configuration is the one that was given, a start names its root, and
what the worker holds is a batch that was gathered.

**What is said.**  `announces_said`: the handshake has `Url.directoryText` of the root, and each
message about files has the events of one batch.

**Whether the two agree.**  **`workspace_of_run`**: the address of a file that changed is that of
the root with the way to the file behind it just if the root was given as its real path, with no
`..` and no link in it.  `linked_apart` is a root that is a link.
-/

namespace ServerLink.Connection

open Process Rpc

variable {c d : Connection} {m : Move} {n : Nat}

/-! ## What a run keeps -/

/-- The address of the root that a start carries with it. -/
def StartStage.root? : StartStage → Option Url
  | .spawned root | .answering root | .equipped root => some root
  | _ => none

/-- The address of the root that a call carries with it. -/
def Call.root? : Call → Option Url
  | .start s => s.root?
  | _ => none

/-- A call that carries a root carried it before, or it is a start that launches. -/
lemma root_of_step {l l' : Life} {k : Nat} {new : Call} {root : Url} (hstep : l.Step m l')
    (hc' : l'.calls[k]? = some new) (hroot : new.root? = some root) :
    (∃ old, l.calls[k]? = some old ∧ old.root? = some root) ∨ ∃ outcome, m = .launch k outcome := by
  have hset : ∀ {n : Nat} {call : Call}, call.root? = none → (l.calls.set n call)[k]? = some new →
      ∃ old, l.calls[k]? = some old ∧ old.root? = some root := by
    intro n call hcall hget
    rcases Life.getElem?_turned hget with ⟨-, hsame⟩ | ⟨-, rfl⟩
    · exact ⟨new, hsame, hroot⟩
    · rw [hcall] at hroot
      cases hroot
  have hbegun : ∀ {call : Call}, call.root? = none → (l.calls ++ [call])[k]? = some new →
      ∃ old, l.calls[k]? = some old ∧ old.root? = some root := by
    intro call hcall hget
    rcases Life.getElem?_begun hget with hsame | rfl
    · exact ⟨new, hsame, hroot⟩
    · rw [hcall] at hroot
      cases hroot
  have hkept : ∀ {n : Nat} {old : Call} (call : Call), l.calls[n]? = some old →
      call.root? = old.root? → (l.calls.set n call)[k]? = some new →
      ∃ old, l.calls[k]? = some old ∧ old.root? = some root := by
    intro n old call hc hsame hget
    rcases Life.getElem?_turned hget with ⟨-, hstays⟩ | ⟨rfl, rfl⟩
    · exact ⟨new, hstays, hroot⟩
    · exact ⟨old, hc, hsame.symm.trans hroot⟩
  cases hstep with
  | other | exit | record | report => exact .inl ⟨new, hc', hroot⟩
  | callStart | callStop | callDocument => exact .inl (hbegun rfl hc')
  | @answer n root' hc => exact .inl (hkept (.start (.answering root')) hc rfl hc')
  | @installHandlers n root' hc => exact .inl (hkept (.start (.equipped root')) hc rfl hc')
  | @launch n pid root' hc =>
    by_cases hn : n = k
    · exact .inr ⟨.ok pid, by rw [hn]⟩
    · exact .inl ⟨new, by rwa [Life.put, List.getElem?_set_ne hn] at hc', hroot⟩
  | @sendShutdown n s hc hfree hs =>
    rcases hs with rfl | ⟨id, rfl⟩ <;> exact .inl (hset rfl hc')
  | _ => exact .inl (hset rfl hc')

lemma getElem?_set_eq {calls : List Call} {new call : Call}
    (h : (calls.set n new)[n]? = some call) :
    call = new := by
  rcases Life.getElem?_turned h with ⟨hne, -⟩ | ⟨-, hsame⟩
  · exact absurd rfl hne
  · exact hsame

/-- A launch takes the root from the configuration. -/
lemma root_of_launch {outcome : Except SystemError Nat} {new : Call} {root : Url}
    (h : c.launch n outcome = some d) (hc' : d.calls[n]? = some new)
    (hroot : new.root? = some root) :
    c.rootUrl? = some root := by
  have hfail : ∀ (b : Connection) e, (b.failStart n e).calls[n]? ≠ some new := by
    intro b e hget
    have hnew : new = .start (.done (.error e)) := by cases e <;> exact getElem?_set_eq hget
    rw [hnew] at hroot
    cases hroot
  rw [launch] at h
  split at h
  · split at h
    · cases h; exact absurd hc' (hfail _ _)
    · split at h
      · cases h; exact absurd hc' (hfail _ _)
      · rename_i root' hroot'
        dsimp only at h
        split at h
        · cases h; exact absurd hc' (hfail _ _)
        · cases h
          rw [getElem?_set_eq hc'] at hroot
          rw [hroot', ← hroot]
          rfl
  · cases h

/-- The root as a start takes it from the configuration. -/
def givenRoot? (config : Config) (home : Path) : Option Url :=
  (config.workspaceRoot.madeAbsolute? home).bind Url.ofDirectory?

/-- What a run has made of the configuration and of the batches that were gathered. -/
structure Placed (config : Config) (home : Path) (moves : List Move) (c : Connection) : Prop where
  configured : c.config = config
  housed : c.home = home
  rooted : ∀ (n : Nat) (call : Call) (root : Url), c.calls[n]? = some call →
    call.root? = some root → givenRoot? config home = some root
  held : ∀ events, c.forwarder = .holding events →
    ∃ changes, .receiveBatch changes ∈ moves ∧ events = Watch.fileEvents changes

variable {moves : List Move} {config : Config} {home : Path} {processId : Nat}

lemma placed_new : Placed config home [] (new config home processId) where
  configured := rfl
  housed := rfl
  rooted n call root hc := by simp [new] at hc
  held events hevents := by simp [new] at hevents

/-- **Every run keeps its place.** -/
lemma Placed.step (h : Placed config home moves c) (hm : c.move? m = some d) :
    Placed config home (moves ++ [m]) d := by
  have hrooted : ∀ (n : Nat) (call : Call) (root : Url), d.calls[n]? = some call →
      call.root? = some root → givenRoot? config home = some root := by
    intro n call root hc' hroot
    rcases root_of_step (step_of_move? hm) hc' hroot with ⟨old, hold, hsame⟩ | ⟨outcome, rfl⟩
    · exact h.rooted n old root hold hsame
    · have hlaunch := root_of_launch hm hc' hroot
      rwa [rootUrl?, h.configured, h.housed] at hlaunch
  by_cases hbatch : ∃ changes, m = .receiveBatch changes
  · obtain ⟨changes, rfl⟩ := hbatch
    obtain ⟨hconfig, hhome, hheld⟩ := abides_receiveBatch hm
    refine ⟨hconfig.trans h.configured, hhome.trans h.housed, hrooted, fun events hevents => ?_⟩
    rcases hheld events hevents with hbefore | rfl
    · obtain ⟨earlier, hmem, hsame⟩ := h.held events hbefore
      exact ⟨earlier, List.mem_append_left _ hmem, hsame⟩
    · exact ⟨changes, by simp, rfl⟩
  · obtain ⟨hconfig, hhome, hheld⟩ := abides_of_move? hm fun changes hc => hbatch ⟨changes, hc⟩
    refine ⟨hconfig.trans h.configured, hhome.trans h.housed, hrooted, fun events hevents => ?_⟩
    obtain ⟨earlier, hmem, hsame⟩ := h.held events (hheld events hevents)
    exact ⟨earlier, List.mem_append_left _ hmem, hsame⟩

/-! ## What is said -/

/-- What a message says of the workspace. -/
structure Announces (config : Config) (home : Path) (moves : List Move) (o : Outgoing) : Prop where
  opens : ∀ id params, o = .request ⟨version, id, Editor.Client.handshakeMethod, params⟩ →
    ∃ (client : Editor.Client) (url : Url) (said : Json), givenRoot? config home = some url
      ∧ params = some said ∧ client.openHandshake (some url) = .ok said
  files : ∀ params, o = .notification ⟨version, filesMethod, params⟩ →
    ∃ changes, .receiveBatch changes ∈ moves
      ∧ params = some (.obj [("changes", .arr (Watch.fileEvents changes))])

lemma mem_request {s : Session} {method : String} {params : Option Json} {o : Outgoing}
    (h : s.request? method params = some o) : ∃ id, o = .request ⟨version, id, method, params⟩ := by
  rw [Session.request?, Option.ite_none_right_eq_some] at h
  exact ⟨_, (Option.some.inj h.2).symm⟩

lemma mem_notification {s : Session} {method : String} {params : Option Json} {o : Outgoing}
    (h : s.notification? method params = some o) : o = .notification ⟨version, method, params⟩ := by
  rw [Session.notification?, Option.ite_none_right_eq_some] at h
  exact (Option.some.inj h.2).symm

/-- A handshake that can be opened tells the root it is opened with. -/
lemma handshakeParams_of_openHandshake {client : Editor.Client} {url : Url} {said : Json}
    (h : client.openHandshake (some url) = .ok said) :
    said = client.handshakeParams (some (url, url.text)) := by
  rw [Editor.Client.openHandshake] at h
  split_ifs at h
  rcases identify_cases url with hidentify | ⟨e, hidentify⟩
  · simp only [hidentify, Except.map, Except.ok.injEq] at h
    exact h.symm
  · simp [hidentify, Except.map] at h

lemma rootUri_of_openHandshake {client : Editor.Client} {url : Url} {said : Json}
    (h : client.openHandshake (some url) = .ok said) :
    said.field? "rootUri" = some (.str url.text) := by
  rw [handshakeParams_of_openHandshake h]
  rfl

lemma Announces.root {o : Outgoing} (h : Announces config home moves o) (id : Json)
    (params : Option Json)
    (ho : o = .request ⟨version, id, Editor.Client.handshakeMethod, params⟩) :
    ∃ url said, givenRoot? config home = some url ∧ params = some said
      ∧ said.field? "rootUri" = some (.str url.text) := by
  obtain ⟨client, url, said, hurl, hparams, hopen⟩ := h.opens id params ho
  exact ⟨url, said, hurl, hparams, rootUri_of_openHandshake hopen⟩

/-- A message under another method says nothing of the workspace. -/
lemma Announces.of_method {o : Outgoing} {method : String} {params : Option Json}
    (ho : (∃ id, o = .request ⟨version, id, method, params⟩)
      ∨ o = .notification ⟨version, method, params⟩)
    (hroot : method ≠ Editor.Client.handshakeMethod) (hfiles : method ≠ filesMethod) :
    Announces config home moves o := by
  rcases ho with ⟨id, rfl⟩ | rfl
  · exact ⟨fun _ _ ho => absurd (congrArg Request.method (Outgoing.request.inj ho)) hroot, nofun⟩
  · exact ⟨nofun, fun _ ho =>
      absurd (congrArg Notification.method (Outgoing.notification.inj ho)) hfiles⟩

lemma method_ne (r : Report) :
    r.method ≠ Editor.Client.handshakeMethod ∧ r.method ≠ filesMethod := by
  cases r <;> simp [Report.method, Editor.Client.handshakeMethod, filesMethod]

/-- What a client that is ready tells. -/
lemma mem_tells {method : String} {params : Except EditorError Json} {o : Outgoing}
    (h : c.tells method params = some o) :
    ∃ said, params = .ok said ∧ o = .notification ⟨version, method, some said⟩ := by
  rw [tells] at h
  split_ifs at h
  obtain ⟨said, hsaid, ho⟩ := Option.bind_eq_some_iff.1 h
  cases params with
  | error e => cases hsaid
  | ok p => exact ⟨p, rfl, (Option.some.inj hsaid) ▸ mem_notification ho⟩

/-- **A message says of the workspace** what the configuration and the batches have it say. -/
lemma announces_of_message? {o : Outgoing} (h : Placed config home moves c)
    (ho : c.message? m = some o) : Announces config home moves o := by
  cases m with
  | sendInitialize n =>
    -- the handshake alone names the root
    rw [message?] at ho
    split at ho
    · rename_i url hc
      obtain ⟨said, hsaid, hrequest⟩ := Option.bind_eq_some_iff.1 ho
      obtain ⟨id, rfl⟩ := mem_request hrequest
      refine ⟨fun id' params hparams => ?_, by intros; contradiction⟩
      cases hparams
      cases hopen : c.client.openHandshake (some url) with
      | error e =>
        rw [hopen] at hsaid
        cases hsaid
      | ok given =>
        rw [hopen] at hsaid
        cases hsaid
        exact ⟨c.client, url, said, h.rooted n _ url hc rfl, rfl, hopen⟩
    · cases ho
  | sendShutdown n =>
    rw [message?] at ho
    split at ho
    · split_ifs at ho
      exact .of_method (.inl (mem_request ho)) (by decide) (by decide)
    · cases ho
  | finishInitialize | finishShutdown =>
    rw [message?] at ho
    split at ho
    · obtain ⟨-, -, hnote⟩ := Option.bind_eq_some_iff.1 ho
      exact .of_method (.inr (mem_notification hnote)) (by decide) (by decide)
    · cases ho
  | sendDocument n =>
    rw [message?] at ho
    split at ho
    · rename_i r _
      obtain ⟨said, -, hsaid⟩ := mem_tells ho
      exact .of_method (.inr hsaid) (method_ne r).1 (method_ne r).2
    · cases ho
  | forward =>
    -- and the worker alone tells of files, those of the batch that it holds
    rw [message?] at ho
    split at ho
    · rename_i events hevents
      split_ifs at ho
      obtain ⟨said, hparams, rfl⟩ := mem_tells ho
      cases hparams
      obtain ⟨changes, hbatch, rfl⟩ := h.held events hevents
      refine ⟨by intros; contradiction, fun params hparams => ?_⟩
      cases hparams
      exact ⟨changes, hbatch, rfl⟩
    · cases ho
  | loop m =>
    cases m with
    | dispatch =>
      rw [message?] at ho
      split at ho
      · cases ho
        constructor <;> (intros; contradiction)
      · cases ho
    | _ => cases ho
  | _ => cases ho

lemma Announces.append {o : Outgoing} (h : Announces config home moves o) (later : List Move) :
    Announces config home (moves ++ later) o where
  opens := h.opens
  files params ho := by
    obtain ⟨changes, hbatch, hparams⟩ := h.files params ho
    exact ⟨changes, List.mem_append_left _ hbatch, hparams⟩

/-- **All that a run says of the workspace.** -/
lemma announces_said (h : (new config home processId).moves? moves = some c) :
    ∀ o ∈ (new config home processId).said moves, Announces config home moves o := by
  refine (moves?_induction
    (P := fun moves c => Placed config home moves c ∧
      ∀ o ∈ (new config home processId).said moves, Announces config home moves o)
    h ⟨placed_new, by simp [said]⟩ fun hmoves ⟨hplaced, hsaid⟩ hm => ⟨hplaced.step hm, ?_⟩).2
  rw [said_concat hmoves]
  intro o ho
  rcases List.mem_append.1 ho with ho | ho
  · exact (hsaid o ho).append _
  · exact (announces_of_message? hplaced (Option.mem_toList.1 ho)).append _

/-! ## Whether the two agree -/

/-- What a watcher of a root reports: changes in events about paths below it. -/
def Reports (w : Watch.Watcher) (changes : List Watch.Change) : Prop :=
  ∃ isFile t, ∃ relatives : List (List Bytes), (∀ names ∈ relatives, ∀ n ∈ names, Path.IsName n) ∧
    changes = (Watch.collect w.root w.pattern isFile [] t
      (relatives.map fun names => w.root.descend ⟨Path.glue names⟩)).1

/-- The place at which a watcher stands. -/
lemma exists_place {files : Files} {root : Path} {pattern : Glob.Pattern} {w : Watch.Watcher}
    (sound : files.Sound) (hw : Watch.Watcher.begin files home root pattern = .ok w) :
    ∃ place, files.follow Files.mostLinks [] (home.join root).components = .ok place
      ∧ w.root.components = .root :: place.map .name := by
  rw [Watch.Watcher.begin] at hw
  cases hlocate : files.locate [] (home.join root) with
  | error e => simp [hlocate] at hw
  | ok place =>
    simp only [hlocate, Except.ok.injEq] at hw
    rw [Files.locate] at hlocate
    split_ifs at hlocate
    cases hfollow : files.follow Files.mostLinks [] (home.join root).components with
    | error e => simp [hfollow] at hlocate
    | ok q =>
      simp only [hfollow] at hlocate
      split_ifs at hlocate
      obtain rfl : q = place := Except.ok.inj hlocate
      obtain ⟨e, he, -⟩ := Files.exists_of_follow sound ⟨_, rfl, rfl⟩ hfollow
      have hnames : ∀ n ∈ q, Path.IsName n := fun n hn =>
        (sound.name (List.nil_append q ▸ he) n hn).1
      refine ⟨q, rfl, ?_⟩
      rw [← hw]
      exact (Path.components_root _).trans (by rw [Path.trail_glue hnames])

/-- What the server is told of a changed file, and whether that is the root with the way to the file
behind it. -/
structure Locates (files : Files) (given : Path) (w : Watch.Watcher) (rootUri : List Char)
    (event : Json) (names : List Bytes) : Prop where
  named : ∀ n ∈ names, Path.IsName n
  told : event.field? "uri" =
    some (.str (String.ofList (Url.fileText (w.root.descend ⟨Path.glue names⟩))))
  agrees : Url.fileText (w.root.descend ⟨Path.glue names⟩) =
      rootUri ++ Escape.bytes Url.ofPath (Path.glue names) ↔
    files.IsReal given ∧ (names ≠ [] ∨ w.root.components = [.root])

/-- **The files of a workspace are told below its root** just if the root was given as its real
path. -/
theorem workspace_of_run {files : Files} {w : Watch.Watcher} (sound : files.Sound)
    (hhome : home.isAbsolute = true)
    (hw : Watch.Watcher.begin files home config.workspaceRoot config.watch = .ok w)
    (h : (new config home processId).moves? moves = some c)
    (hreports : ∀ changes, .receiveBatch changes ∈ moves → Reports w changes)
    {id params news : Json}
    (hroot : .request ⟨version, id, Editor.Client.handshakeMethod, some params⟩ ∈
      (new config home processId).said moves)
    (hnews : .notification ⟨version, filesMethod, some news⟩ ∈
      (new config home processId).said moves) :
    ∃ rootUri events, params.field? "rootUri" = some (.str (String.ofList rootUri))
      ∧ news.field? "changes" = some (.arr events)
      ∧ ∀ event ∈ events, ∃ names,
        Locates files (home.join config.workspaceRoot) w rootUri event names := by
  -- both addresses are compared by the components of the paths behind them
  obtain ⟨place, hfollow, hplace⟩ := exists_place sound hw
  have hsaid := announces_said h
  obtain ⟨url, said, hurl, hparams, hrootUri⟩ := (hsaid _ hroot).root id (some params) rfl
  obtain ⟨changes, hbatch, hevents⟩ := (hsaid _ hnews).files (some news) rfl
  cases hparams
  obtain ⟨given, hgiven, hdirectory⟩ := Option.bind_eq_some_iff.1 hurl
  have hcomponents := Path.components_of_madeAbsolute? hhome hgiven
  have habsolute : given.isAbsolute = true :=
    Path.isAbsolute_of_components
      (hcomponents.trans (Path.components_of_isAbsolute (Path.isAbsolute_join hhome)))
  have hreal : w.root.isAbsolute = true := Path.isAbsolute_of_components hplace
  refine ⟨Url.directoryText given, Watch.fileEvents changes, ?_, ?_, fun event hevent => ?_⟩
  · rw [hrootUri, Url.text, Url.chars_of_ofDirectory? habsolute hdirectory]
  · cases hevents
    rfl
  obtain ⟨isFile, t, relatives, hnames, hchanges⟩ := hreports changes hbatch
  obtain ⟨change, hchange, hevent⟩ := List.mem_filterMap.1 hevent
  rw [hchanges] at hchange
  obtain ⟨names, hrelative, hpath⟩ := List.mem_map.1 (Watch.path_mem_of_mem_collect hchange)
  rw [Watch.event?_eq, Option.ite_none_right_eq_some, Option.some.injEq] at hevent
  have hbelow := Path.components_descend w.root (hnames names hrelative)
  refine ⟨names, hnames names hrelative, ?_, ?_⟩
  · rw [← hevent.2, hpath]
    rfl
  · refine (Url.fileText_eq_append_iff hreal habsolute hbelow).trans (and_congr_left fun _ => ?_)
    rw [hplace, hcomponents, Files.isReal_iff sound hfollow]
    exact eq_comm

/-! ## A root that is a directory, and one that is a link -/

/-- A configuration that watches the TOML files of the workspace `/w`. -/
def library : Config :=
  { workshop.config with watch := ⟨"*.toml", .star :: ".toml".toList.map .literal⟩ }

/-- A connection to a server on that workspace. -/
def shelf : Connection := new library ⟨[Path.slash]⟩ 1

def shelfOpened : Connection := (shelf.moves? opening).getD shelf

/-- The answer to the handshake is in hand. -/
def shelfAnswered : Connection :=
  { shelfOpened with session := { shelfOpened.session with phase := .handing consent } }

/-- The handshake is closed, and a file at a path is told as new. -/
def noticing (root path : String) : List Move :=
  [.loop .dispatch, .finishInitialize 0 (.ok (.ofString root)),
    .receiveBatch [⟨.ofString path, .created⟩], .forward]

def noticed (root path : String) : Connection :=
  (shelfAnswered.moves? (noticing root path)).getD shelf

/-- The handshake, and then a new file. -/
def arrival (root path : String) : List Move :=
  opening ++ .loop (.absorb (Frame.ofMessage consent)) :: noticing root path

lemma shelf_absorb :
    shelfOpened.move? (.loop (.absorb (Frame.ofMessage consent))) = some shelfAnswered := by
  have habsorb : shelfOpened.session.decoder.absorb (Frame.ofMessage consent)
      = ⟨⟨[], [consent]⟩, [], none⟩ := Frame.absorb_ofMessage (by decide) rfl
  simp only [move?, Rpc.Session.move?, habsorb]
  rfl

set_option maxRecDepth 4000 in
lemma shelf_opening : shelf.moves? opening = some shelfOpened := rfl

lemma shelf_arrival {root path : String} (h : shelfAnswered.moves? (noticing root path) = some c) :
    shelf.moves? (arrival root path) = some c
    ∧ shelf.said (arrival root path)
      = shelf.said opening ++ shelfAnswered.said (noticing root path) := by
  constructor
  · rw [arrival, moves?_append, shelf_opening, Option.bind_some, moves?, shelf_absorb,
      Option.bind_some, h]
  · rw [arrival, said_append shelf_opening, said_cons shelf_absorb rfl]

/-- What is said of the file. -/
def news (uri : String) : Json :=
  .obj [("changes", .arr [.obj [("type", .int 1), ("uri", .str uri)]])]

/-- A tree in which `/w` is a directory with a file. -/
def shelves : Files := ⟨[([Utf8.ofString "w"], .directory),
  ([Utf8.ofString "w", Utf8.ofString "a.toml"], .file [])]⟩

/-- A tree in which `/w` is a link to a directory with a file. -/
def annex : Files := ⟨[([Utf8.ofString "x"], .directory),
  ([Utf8.ofString "x", Utf8.ofString "a.toml"], .file []),
    ([Utf8.ofString "w"], .link (.ofString "x"))]⟩

/-- The watcher of the TOML files below a directory. -/
def lookout (files : Files) (root : String) : Watch.Watcher :=
  ⟨.ofString root, library.watch, .scan files (.ofString root) (.ofString root) library.watch⟩

/-- The handshake's parameters. -/
def greeting : Json := shelf.client.handshakeParams
  (some (⟨"file".toList, some [], "/w/".toList, none, none⟩, "file:///w/"))

set_option maxRecDepth 8000 in
lemma said_opening : shelf.said opening
    = [.request ⟨version, .int 1, Editor.Client.handshakeMethod, some greeting⟩] := rfl

lemma reports_lookout {files : Files} {root path : String}
    (h : (Watch.collect (.ofString root) library.watch (fun _ => true) [] .empty
      [(Path.ofString root).descend (.ofString "a.toml")]).1 = [⟨.ofString path, .created⟩]) :
    ∀ changes, .receiveBatch changes ∈ arrival root path →
      Reports (lookout files root) changes := by
  intro changes hchanges
  obtain rfl : changes = [⟨.ofString path, .created⟩] := by
    simpa [arrival, opening, noticing] using hchanges
  exact ⟨fun _ => true, .empty, [[Utf8.ofString "a.toml"]], by decide, h.symm⟩

/-- What is said of a new file, once it is known what is said after the handshake. -/
lemma said_arrival {root path u : String} (h : shelfAnswered.moves? (noticing root path) = some c)
    (hsaid : shelfAnswered.said (noticing root path)
      = [.notification ⟨version, Editor.Client.readyMethod, some (.obj [])⟩,
        .notification ⟨version, filesMethod, some (news u)⟩]) :
    .request ⟨version, .int 1, Editor.Client.handshakeMethod, some greeting⟩ ∈
      shelf.said (arrival root path)
    ∧ .notification ⟨version, filesMethod, some (news u)⟩ ∈ shelf.said (arrival root path) := by
  rw [(shelf_arrival h).2, said_opening, hsaid]
  simp

set_option maxRecDepth 8000 in
/-- A file of the workspace is told below its root. -/
theorem workspace_shelves : ∃ rootUri events,
    Watch.Watcher.begin shelves ⟨[Path.slash]⟩ library.workspaceRoot library.watch
      = .ok (lookout shelves "/w")
    ∧ shelf.moves? (arrival "/w" "/w/a.toml") = some (noticed "/w" "/w/a.toml")
    ∧ greeting.field? "rootUri" = some (.str (String.ofList rootUri))
    ∧ (news "file:///w/a.toml").field? "changes" = some (.arr events)
    ∧ ∀ event ∈ events, ∃ names,
        Locates shelves (.ofString "/w") (lookout shelves "/w") rootUri event names := by
  have hbegin : Watch.Watcher.begin shelves ⟨[Path.slash]⟩ library.workspaceRoot library.watch
      = .ok (lookout shelves "/w") := rfl
  have hrun : shelfAnswered.moves? (noticing "/w" "/w/a.toml") = some (noticed "/w" "/w/a.toml") :=
    rfl
  have hmoves := (shelf_arrival hrun).1
  obtain ⟨hgreeting, hfile⟩ := said_arrival (u := "file:///w/a.toml") hrun rfl
  obtain ⟨rootUri, events, hroot, hevents, hall⟩ := workspace_of_run (by decide) rfl hbegin hmoves
    (reports_lookout (by decide +kernel)) hgreeting hfile
  exact ⟨rootUri, events, hbegin, hmoves, hroot, hevents, hall⟩

set_option maxRecDepth 8000 in
/-- **A root that is a link** is told as it was given, and the file below it by its real place. -/
theorem linked_apart : ∃ rootUri fileUri,
    Watch.Watcher.begin annex ⟨[Path.slash]⟩ library.workspaceRoot library.watch
      = .ok (lookout annex "/x")
    ∧ shelf.moves? (arrival "/x" "/x/a.toml") = some (noticed "/x" "/x/a.toml")
    ∧ (∀ changes, .receiveBatch changes ∈ arrival "/x" "/x/a.toml" →
      Reports (lookout annex "/x") changes)
    ∧ .request ⟨version, .int 1, Editor.Client.handshakeMethod, some greeting⟩ ∈
      shelf.said (arrival "/x" "/x/a.toml")
    ∧ .notification ⟨version, filesMethod, some (news (String.ofList fileUri))⟩ ∈
      shelf.said (arrival "/x" "/x/a.toml")
    ∧ greeting.field? "rootUri" = some (.str (String.ofList rootUri))
    ∧ ¬ rootUri <+: fileUri := by
  have hrun : shelfAnswered.moves? (noticing "/x" "/x/a.toml") = some (noticed "/x" "/x/a.toml") :=
    rfl
  obtain ⟨hgreeting, hfile⟩ := said_arrival (u := "file:///x/a.toml") hrun rfl
  exact ⟨"file:///w/".toList, "file:///x/a.toml".toList, rfl, (shelf_arrival hrun).1,
    reports_lookout (by decide +kernel), hgreeting, hfile, rfl, by decide⟩

end ServerLink.Connection
