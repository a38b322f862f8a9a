import Mathlib
import ServerLink.Proofs.Rpc.Turns

/-!
# What is queued and what is written

**Messages.**  `Outgoing` is what may be queued: the request of a call, a notification, or a reply.
`Exchange.sends` is the message that a step queues, and `queued past` are all those of a run.

**The invariant.**  `entered past` is all that entered the queue in a run, marks included, and `left
past` what the loop took off it.  `Session.Drains`: what left is the front of what entered, and
while the loop works the rest is still in the queue, in order; the messages that left were written,
except the last where the stream refused it, and the marks that left were acknowledged.
`Runs.drains` is the invariant of a run, and `Runs.writes` what it says of messages alone: they are
written in the order in which they were queued, each once.
-/

namespace ServerLink.Rpc

/-- A message on its way to the server. -/
inductive Outgoing where
  | request (r : Request)
  | notification (n : Notification)
  | reply (r : Response)

def Outgoing.text : Outgoing → String
  | request r => r.text
  | notification n => n.text
  | reply r => r.text

def Outbound.text? : Outbound → Option String
  | message text => some text
  | mark _ => none

def Outbound.ticket? : Outbound → Option Nat
  | message _ => none
  | mark ticket => some ticket

namespace Session

def textsQueued (s : Session) : List String := s.outbox.filterMap Outbound.text?

/-- Whether the loop works: it has not ended. -/
def works (s : Session) : Bool :=
  match s.phase with
  | .running | .handing _ => true
  | _ => false

/-- What was written are the first of the texts, and the queue of a loop that works has the rest. -/
structure Writes (s : Session) (texts : List String) : Prop where
  written : s.written <+: texts
  rest : s.works = true → texts = s.written ++ s.textsQueued

/-- Of what entered the queue as the `line`, `taken` has left it. -/
structure Drains (s : Session) (line taken : List Outbound) : Prop where
  first : taken <+: line
  rest : s.works = true → line = taken ++ s.outbox
  written : s.written <+: taken.filterMap Outbound.text?
  all : s.works = true → s.written = taken.filterMap Outbound.text?
  acknowledged : s.acknowledged = taken.filterMap Outbound.ticket?

/-- The text that a move adds to the queue. -/
def adds (s : Session) : Move → List String
  | .post text => [text]
  | .dispatch =>
    match s.inHand? with
    | some (.request r) => [(s.replyTo r).1.text]
    | _ => []
  | _ => []

/-- What a move adds to the queue. -/
def puts (s : Session) : Move → List Outbound
  | .mark => [.mark s.nextTicket]
  | m => (s.adds m).map .message

/-- What a move of the loop takes off the queue. -/
def takes (s : Session) : Move → List Outbound
  | .write _ | .acknowledge => s.outbox.take 1
  | _ => []

variable {s t : Session} {line taken : List Outbound}

lemma Drains.quiet (h : s.Drains line taken) (houtbox : t.outbox = s.outbox)
    (hwritten : t.written = s.written) (hack : t.acknowledged = s.acknowledged)
    (hworks : t.works = true → s.works = true) : t.Drains (line ++ []) (taken ++ []) := by
  rw [List.append_nil, List.append_nil]
  refine ⟨h.first, fun hw => ?_, hwritten ▸ h.written, fun hw => ?_, hack.trans h.acknowledged⟩
  · rw [houtbox]
    exact h.rest (hworks hw)
  · rw [hwritten]
    exact h.all (hworks hw)

lemma Drains.add (h : s.Drains line taken) {o : Outbound} (houtbox : t.outbox = s.outbox ++ [o])
    (hwritten : t.written = s.written) (hack : t.acknowledged = s.acknowledged)
    (hworks : t.works = true → s.works = true) : t.Drains (line ++ [o]) (taken ++ []) := by
  rw [List.append_nil]
  refine ⟨h.first.trans (List.prefix_append _ _), fun hw => ?_, hwritten ▸ h.written, fun hw => ?_,
    hack.trans h.acknowledged⟩
  · rw [houtbox, ← List.append_assoc, ← h.rest (hworks hw)]
  · rw [hwritten]
    exact h.all (hworks hw)

lemma Drains.ended (h : s.Drains line taken) (hwritten : t.written = s.written)
    (hack : t.acknowledged = s.acknowledged) (hworks : t.works = false) :
    t.Drains (line ++ []) (taken ++ []) := by
  have hno : ∀ {p : Prop}, t.works = true → p := by simp [hworks]
  rw [List.append_nil, List.append_nil]
  exact ⟨h.first, hno, hwritten ▸ h.written, hno, hack.trans h.acknowledged⟩

/-- The front of the queue of a loop that works is what leaves next. -/
lemma Drains.leaves (h : s.Drains line taken) (hworks : s.works = true) {o : Outbound}
    {rest : List Outbound} (hfront : s.outbox = o :: rest) :
    line = (taken ++ [o]) ++ rest := by
  rw [h.rest hworks, hfront, List.append_assoc]
  rfl

/-- The front of the queue leaves it: a message is written, a mark acknowledged. -/
lemma Drains.leave (h : s.Drains line taken) (hworks : s.works = true) {o : Outbound}
    {rest : List Outbound} (hfront : s.outbox = o :: rest) (houtbox : t.outbox = rest)
    (hwritten : t.written = s.written ++ o.text?.toList)
    (hack : t.acknowledged = s.acknowledged ++ o.ticket?.toList) :
    t.Drains (line ++ []) (taken ++ [o]) := by
  have hleaves := h.leaves hworks hfront
  have htexts : t.written = (taken ++ [o]).filterMap Outbound.text? := by
    rw [hwritten, h.all hworks, List.filterMap_append]
    cases o <;> rfl
  rw [List.append_nil]
  refine ⟨⟨rest, hleaves.symm⟩, fun _ => houtbox ▸ hleaves, htexts ▸ List.prefix_rfl,
    fun _ => htexts, ?_⟩
  rw [hack, h.acknowledged, List.filterMap_append]
  cases o <;> rfl

lemma Drains.writes (h : s.Drains line taken) : s.Writes (line.filterMap Outbound.text?) := by
  refine ⟨h.written.trans (h.first.filterMap _), fun hw => ?_⟩
  rw [h.rest hw, List.filterMap_append, ← h.all hw]
  rfl

/-- Only a request in hand adds to the queue when it is handed out. -/
lemma adds_dispatch_of_not_request (h : ∀ r, s.inHand? ≠ some (.request r)) :
    s.adds .dispatch = [] := by
  rw [adds]
  split
  · exact absurd ‹_› (h _)
  · rfl

lemma works_of_running (h : s.phase = .running) : s.works = true := by
  rw [works, h]

lemma works_of_inHand {m : Inbound} (h : s.inHand? = some m) : s.works = true := by
  rw [inHand?] at h
  split at h
  · rename_i hphase
    rw [works, hphase]
  · exact absurd h (by simp)

/-- **Every move keeps the order of the queue.** -/
theorem Moves.drains {m : Move} (h : Moves s m t) (hd : s.Drains line taken) :
    t.Drains (line ++ s.puts m) (taken ++ s.takes m) := by
  cases h with
  | allot | register | withdraw | cancelAll | stop | install => exact hd.quiet rfl rfl rfl id
  | post text hopen | mark hopen => exact hd.add rfl rfl rfl id
  | @write text rest hphase hstop hfront =>
    have htakes : s.takes (.write none) = [.message text] := by rw [takes, hfront]; rfl
    rw [htakes]
    exact hd.leave (works_of_running hphase) hfront rfl rfl (List.append_nil _).symm
  | @refused why text rest shown hphase hstop hfront =>
    -- the message has left the queue, but the stream did not take it
    have htakes : s.takes (.write (some why)) = [.message text] := by rw [takes, hfront]; rfl
    have hleaves := hd.leaves (works_of_running hphase) hfront
    have hack : s.acknowledged = (taken ++ [Outbound.message text]).filterMap Outbound.ticket? := by
      rw [hd.acknowledged, List.filterMap_append]
      exact (List.append_nil _).symm
    show Drains _ (line ++ []) _
    rw [List.append_nil, htakes]
    refine ⟨⟨rest, hleaves.symm⟩, nofun, ?_, nofun, hack⟩
    rw [List.filterMap_append]
    exact hd.written.trans (List.prefix_append _ _)
  | @acknowledge ticket rest hphase hstop hfront =>
    have htakes : s.takes .acknowledge = [.mark ticket] := by rw [takes, hfront]; rfl
    rw [htakes]
    exact hd.leave (works_of_running hphase) hfront rfl (List.append_nil _).symm rfl
  | absorb => exact hd.quiet rfl rfl rfl id
  | arrive _ hphase | deliver hphase => exact hd.quiet rfl rfl rfl fun _ => works_of_running hphase
  | answer hanswer =>
    have hputs : s.puts .dispatch = [] := by simp only [puts, adds, hanswer.1, List.map_nil]
    rw [hputs]
    exact hd.quiet rfl rfl rfl fun _ => works_of_inHand hanswer.1
  | @reply r shown hhand =>
    have hputs : s.puts .dispatch = [.message (s.replyTo r).1.text] := by
      simp only [puts, adds, hhand, List.map_cons, List.map_nil]
    rw [hputs]
    exact hd.add rfl rfl rfl fun _ => works_of_inHand hhand
  | ignore hphase hanswer hrequest =>
    have hputs : s.puts .dispatch = [] := by
      simp only [puts, adds_dispatch_of_not_request hrequest, List.map_nil]
    rw [hputs]
    exact hd.quiet rfl rfl rfl fun _ => by rw [works, hphase]
  | observeStop | fault | loseStream | wake | close | drop => exact hd.ended rfl rfl rfl

end Session

/-! ## Runs -/

def Call.request (c : Call) (params : Option Json) : Request :=
  ⟨version, .int c.id, c.method, params⟩

/-- The message that a turn of a caller queues. -/
def Call.sends (c : Call) (s : Session) : Turn → Option Outgoing
  | .post =>
    match c.stage, c.params with
    | .registered, .ok params => if s.isOpen then some (.request (c.request params)) else none
    | _, _ => none
  | _ => none

/-- The message that a step queues. -/
def Exchange.sends (e : Exchange) : Step → Option Outgoing
  | .turn n t => e.calls[n]?.bind (·.sends e.session t)
  | .notify method params =>
    if e.session.isOpen then some (.notification ⟨version, method, params⟩) else none
  | .session .dispatch =>
    match e.session.inHand? with
    | some (.request r) => some (.reply (e.session.replyTo r).1)
    | _ => none
  | _ => none

/-- The messages that were queued, in order. -/
def queued (past : List (Exchange × Step)) : List Outgoing := past.filterMap fun x => x.1.sends x.2

lemma queued_append (past : List (Exchange × Step)) (e : Exchange) (st : Step) :
    queued (past ++ [(e, st)]) = queued past ++ (e.sends st).toList := by
  rw [queued, List.filterMap_append, ← queued]
  cases h : e.sends st with
  | none => simp [h]
  | some o => simp [h]

/-- A caller queues the request of its call. -/
lemma Call.request_of_sends {c : Call} {s : Session} {t : Turn} {o : Outgoing}
    (h : c.sends s t = some o) :
    ∃ params, c.params = .ok params ∧ o = .request (c.request params) := by
  unfold sends at h
  split at h
  · split at h
    · rw [Option.ite_none_right_eq_some] at h
      exact ⟨_, ‹_›, (Option.some.inj h.2).symm⟩
    · exact absurd h (by simp)
  · exact absurd h (by simp)

/-- A session queues nothing but replies. -/
lemma Exchange.reply_of_sends {e : Exchange} {m : Move} {o : Outgoing}
    (h : e.sends (.session m) = some o) : ∃ r, o = .reply r := by
  cases m with
  | dispatch =>
    rw [sends] at h
    split at h
    · exact ⟨_, (Option.some.inj h).symm⟩
    · exact absurd h (by simp)
  | _ => exact absurd h (by simp [sends])

/-- A notification is queued by whoever tells it. -/
lemma Exchange.notify_of_sends {e : Exchange} {st : Step} {n : Notification}
    (h : e.sends st = some (.notification n)) :
    e.session.isOpen = true ∧ st = .notify n.method n.params := by
  cases st with
  | begin => exact absurd h (by simp [sends])
  | turn m t =>
    rw [sends, Option.bind_eq_some_iff] at h
    obtain ⟨c, -, h⟩ := h
    obtain ⟨params, -, h⟩ := Call.request_of_sends h
    exact absurd h (by simp)
  | notify method params =>
    rw [sends, Option.ite_none_right_eq_some] at h
    obtain ⟨hopen, h⟩ := h
    cases h
    exact ⟨hopen, rfl⟩
  | session m =>
    obtain ⟨r, h⟩ := reply_of_sends h
    exact absurd h (by simp)

/-- What a step adds to the queue. -/
def Exchange.enters (e : Exchange) : Step → List Outbound
  | .session .mark => [.mark e.session.nextTicket]
  | st => (e.sends st).toList.map fun o => .message o.text

/-- What a step takes off the queue. -/
def Exchange.leaves (e : Exchange) : Step → List Outbound
  | .session m => e.session.takes m
  | _ => []

/-- What entered the queue, in order. -/
def entered (past : List (Exchange × Step)) : List Outbound := past.flatMap fun x => x.1.enters x.2

/-- What left the queue, in order. -/
def left (past : List (Exchange × Step)) : List Outbound := past.flatMap fun x => x.1.leaves x.2

@[simp] lemma entered_append (past later : List (Exchange × Step)) :
    entered (past ++ later) = entered past ++ entered later := List.flatMap_append

@[simp] lemma entered_singleton (x : Exchange × Step) : entered [x] = x.1.enters x.2 := by
  simp [entered]

@[simp] lemma left_append (past later : List (Exchange × Step)) :
    left (past ++ later) = left past ++ left later := List.flatMap_append

@[simp] lemma left_singleton (x : Exchange × Step) : left [x] = x.1.leaves x.2 := by
  simp [left]

lemma Exchange.enters_eq_sends {e : Exchange} {st : Step} (h : st ≠ .session .mark) :
    e.enters st = (e.sends st).toList.map fun o => .message o.text := by
  rw [enters]
  exact fun hmark => h hmark

lemma Exchange.texts_enters (e : Exchange) (st : Step) :
    (e.enters st).filterMap Outbound.text? = (e.sends st).toList.map Outgoing.text := by
  by_cases hmark : st = .session .mark
  · rw [hmark]
    rfl
  · rw [enters_eq_sends hmark]
    cases e.sends st <;> rfl

/-- The messages among what entered the queue are those that were queued. -/
lemma texts_entered (past : List (Exchange × Step)) :
    (entered past).filterMap Outbound.text? = (queued past).map Outgoing.text := by
  induction past using List.reverseRecOn with
  | nil => rfl
  | append_singleton past x ih =>
    obtain ⟨e, st⟩ := x
    rw [entered_append, List.filterMap_append, ih, queued_append, List.map_append,
      entered_singleton, Exchange.texts_enters]

section Turn

variable {c d : Call} {s s' : Session} {t : Turn} {line taken : List Outbound}

lemma Call.Takes.drains (h : c.Takes s t s' d) (hd : s.Drains line taken) :
    s'.Drains (line ++ (c.sends s t).toList.map fun o => .message o.text) taken := by
  have quiet : s.Drains (line ++ []) (taken ++ []) := hd.quiet rfl rfl rfl fun hw => hw
  rw [List.append_nil taken] at quiet
  cases h with
  | register hstage =>
    have hd' := (Session.Moves.register c.id).drains hd
    rw [show s.takes _ = [] from rfl, List.append_nil taken] at hd'
    exact hd'
  | spoil hstage hparams =>
    have hsends : c.sends s .post = none := by simp only [sends, hstage, hparams]
    rw [hsends]
    exact quiet
  | @post params hstage hparams hopen =>
    have hsends : c.sends s .post = some (.request (c.request params)) := by
      simp only [sends, hstage, hparams, hopen, if_true]
    have hd' := (Session.Moves.post (Session.requestText c.id c.method params) hopen).drains hd
    rw [show s.takes _ = [] from rfl, List.append_nil] at hd'
    rw [hsends]
    exact hd'
  | refuse hstage hparams hopen =>
    have hsends : c.sends s .post = none := by
      simp only [sends, hstage, hparams, hopen, Bool.false_eq_true, if_false]
    rw [hsends]
    exact quiet
  | unsend | giveUp =>
    have hd' := (Session.Moves.withdraw c.id).drains hd
    rw [show s.takes _ = [] from rfl, List.append_nil taken] at hd'
    exact hd'
  | finish | expire => exact quiet

end Turn

namespace Exchange

variable {e f : Exchange} {st : Step} {past : List (Exchange × Step)}

lemma adds_eq_sends (e : Exchange) {m : Move} (hcallers : m.isCallers = false) :
    e.session.adds m = (e.sends (.session m)).toList.map Outgoing.text := by
  cases m with
  | allot | register | post | withdraw => exact absurd hcallers (by simp [Move.isCallers])
  | dispatch =>
    rw [Session.adds, sends]
    split
    · rfl
    · rfl
  | _ => rfl

lemma puts_eq_enters (e : Exchange) {m : Move} (hcallers : m.isCallers = false) :
    e.session.puts m = e.enters (.session m) := by
  by_cases hmark : m = .mark
  · rw [hmark]
    rfl
  · rw [enters_eq_sends (by simpa using hmark), Session.puts, adds_eq_sends e hcallers,
      List.map_map]
    · rfl
    · exact fun h => hmark h

/-- **Every step keeps the order of the queue.** -/
lemma Steps.drains {line taken : List Outbound} (h : Steps e st f)
    (hd : e.session.Drains line taken) :
    f.session.Drains (line ++ e.enters st) (taken ++ e.leaves st) := by
  cases h with
  | begin => exact Session.Moves.allot.drains hd
  | @turn n t c d s hc h =>
    have hsends : e.sends (.turn n t) = c.sends e.session t := by rw [sends, hc]; rfl
    rw [enters_eq_sends (by simp), hsends, show e.leaves (.turn n t) = [] from rfl,
      List.append_nil]
    exact h.drains hd
  | notify method params hopen =>
    have hd' := (Session.Moves.post (Notification.text ⟨version, method, params⟩) hopen).drains hd
    rw [enters_eq_sends (by simp), sends, if_pos hopen]
    exact hd'
  | unheard method params hopen =>
    rw [enters_eq_sends (by simp), sends, if_neg (by simp [hopen])]
    exact hd.quiet rfl rfl rfl fun hw => hw
  | session hcallers h =>
    rw [← puts_eq_enters e hcallers]
    exact (Session.moves_of_move? h).drains hd

/-- **What left the queue is the front of what entered it**, was written or acknowledged, and while
the loop works the rest is still there. -/
theorem Runs.drains (h : Runs past e) : e.session.Drains (entered past) (left past) := by
  induction h with
  | start => exact ⟨List.prefix_rfl, fun _ => rfl, List.prefix_rfl, fun _ => rfl, rfl⟩
  | step _ next ih =>
    rw [entered_append, left_append, entered_singleton, left_singleton]
    exact (steps_of_step? next).drains ih

/-- **Messages are written in the order in which they were queued**, each once. -/
theorem Runs.writes (h : Runs past e) : e.session.Writes ((queued past).map Outgoing.text) := by
  rw [← texts_entered]
  exact h.drains.writes

end Exchange

end ServerLink.Rpc
