import Mathlib
import ServerLink.Proofs.Frame.Decode
import ServerLink.Transport.Framed

/-!
# Receiving, call after call

How a row of `receive` calls works its way through a stream.

**The invariant.**  `Decoder.Follows d taken given` says where a decoder stands once the bytes
`taken` have been absorbed and the messages `given` were handed out: what is queued are the further
messages of `decode taken`, and the buffer is what that decoding leaves.  Absorbing a chunk and
handing out a message keep it.

**Two kinds of runs.**  `Framed.run` is any interleaving of arriving chunks and calls, each of which
may be abandoned after some number of chunks.  `Framed.receiveAll` is a caller that goes on past
framing errors until the stream reports its end; `receiveAll_chunk` computes it chunk by chunk.
-/

namespace ServerLink

namespace Frame

/-- The decoder has absorbed `taken` and handed out `given`. -/
structure Decoder.Follows (d : Decoder) (taken : Bytes) (given : List String) : Prop where
  queue : given ++ d.queue = (decode taken).bodies.map message
  buffer : d.buffer = (decode taken).rest

lemma Decoder.follows_empty : Decoder.empty.Follows [] [] := by
  constructor
  · simp [decode_nil, Decoder.empty]
  · simp [decode_nil, Decoder.empty]

variable {d : Decoder} {taken : Bytes} {given : List String}

/-- What comes of a chunk depends on the stream so far and not on where it was cut. -/
lemma Decoder.Follows.fault_absorb (h : d.Follows taken given) (chunk : Bytes) :
    (d.absorb chunk).fault = (decode (taken ++ chunk)).fault := by
  rw [decode_append, ← h.buffer]
  rfl

/-- Absorbing a chunk keeps the invariant. -/
lemma Decoder.Follows.absorb (h : d.Follows taken given) (chunk : Bytes) :
    (d.absorb chunk).decoder.Follows (taken ++ chunk) given := by
  constructor
  · rw [decode_append, ← h.buffer, List.map_append, ← h.queue, List.append_assoc]
    rfl
  · rw [decode_append, ← h.buffer]
    rfl

lemma Decoder.Follows.handOut {m : String} {q : List String} (h : d.Follows taken given)
    (hq : d.queue = m :: q) : Decoder.Follows ⟨d.buffer, q⟩ taken (given ++ [m]) := by
  constructor
  · rw [← h.queue, hq]
    simp
  · exact h.buffer

/-- A decoder with nothing queued has handed out all there is. -/
lemma Decoder.Follows.all_given (h : d.Follows taken given) (hq : d.queue = []) :
    given = (decode taken).bodies.map message := by
  rw [← h.queue, hq, List.append_nil]

end Frame

/-- Whether a stream of frames failed because the stream beneath it did. -/
def FrameError.isTransport : FrameError → Bool
  | transport _ => true
  | _ => false

/-- A header is never rejected for a failure of the stream. -/
lemma Frame.readLength_isTransport {block : List Char} {e : FrameError}
    (h : readLength block = .error e) : e.isTransport = false := by
  unfold readLength at h
  split at h
  · cases h; rfl
  · split at h
    · cases h; rfl
    · split at h
      · cases h; rfl
      · simp at h

lemma Frame.fault_isTransport {s : Bytes} {e : FrameError} (h : (decode s).fault = some e) :
    e.isTransport = false := by
  have hrest := take_rest s
  rw [h] at hrest
  obtain ⟨block, rest, -, he⟩ := take_eq_rejected_iff.1 hrest
  exact readLength_isTransport he

namespace Transport

open ServerLink.Frame

def Delivery.text? : Delivery → Option String
  | .message text => some text
  | _ => none

def texts (ds : List Delivery) : List String := ds.filterMap Delivery.text?

@[simp] lemma texts_nil : texts [] = [] := rfl

@[simp] lemma texts_message (m : String) (ds : List Delivery) :
    texts (.message m :: ds) = m :: texts ds := rfl

@[simp] lemma texts_failed (e : FrameError) (ds : List Delivery) :
    texts (.failed e :: ds) = texts ds := rfl

@[simp] lemma texts_waiting (ds : List Delivery) : texts (.waiting :: ds) = texts ds := rfl

lemma texts_cons (d : Delivery) (ds : List Delivery) : texts (d :: ds) = texts [d] ++ texts ds :=
  List.filterMap_append (l := [d])

@[simp] lemma texts_append (a b : List Delivery) : texts (a ++ b) = texts a ++ texts b :=
  List.filterMap_append

@[simp] lemma texts_messages (q : List String) : texts (q.map .message) = q := by
  induction q with
  | nil => rfl
  | cons m q ih => rw [List.map_cons, texts_message, ih]

/-- A stream that carries the chunks and then ends, or is held open behind them. -/
def Scripted.carrying (chunks : List Bytes) (holdsOpen : Bool) : Scripted :=
  ⟨chunks, holdsOpen, [], false, false, false⟩

namespace Framed

/-! ## One call -/

section Call

variable {b : Bytes} {q : List String} {s : Scripted} {k : Nat}

lemma receiveWithin_queued (m : String) :
    receiveWithin k ⟨⟨b, m :: q⟩, s⟩ = (.message m, ⟨⟨b, q⟩, s⟩) := by
  cases k <;> rfl

lemma receiveWithin_zero : receiveWithin 0 ⟨⟨b, []⟩, s⟩ = (.waiting, ⟨⟨b, []⟩, s⟩) := by
  rw [receiveWithin]
  rfl

lemma receiveWithin_fault {c : Bytes} {rest : List Bytes} {e : FrameError}
    (hopen : s.closed = false) (hin : s.inbound = c :: rest)
    (hfault : (Decoder.absorb ⟨b, []⟩ c).fault = some e) :
    receiveWithin (k + 1) ⟨⟨b, []⟩, s⟩ =
      (.failed e, ⟨(Decoder.absorb ⟨b, []⟩ c).decoder, { s with inbound := rest }⟩) := by
  rw [receiveWithin]
  simp [Decoder.next?, Scripted.receive, hopen, hin, hfault]

lemma receiveWithin_goesOn {c : Bytes} {rest : List Bytes} (hopen : s.closed = false)
    (hin : s.inbound = c :: rest) (hfault : (Decoder.absorb ⟨b, []⟩ c).fault = none) :
    receiveWithin (k + 1) ⟨⟨b, []⟩, s⟩ =
      receiveWithin k ⟨(Decoder.absorb ⟨b, []⟩ c).decoder, { s with inbound := rest }⟩ := by
  rw [receiveWithin]
  simp [Decoder.next?, Scripted.receive, hopen, hin, hfault]

lemma receiveWithin_dry (hopen : s.closed = false) (hin : s.inbound = [])
    (hheld : s.holdsOpen = true) :
    receiveWithin k ⟨⟨b, []⟩, s⟩ = (.waiting, ⟨⟨b, []⟩, s⟩) := by
  cases k with
  | zero => exact receiveWithin_zero
  | succ k =>
    rw [receiveWithin]
    simp [Decoder.next?, Scripted.receive, hopen, hin, hheld]

lemma receiveWithin_closed (hclosed : s.closed = true) :
    receiveWithin (k + 1) ⟨⟨b, []⟩, s⟩ = (.failed (.transport closedText), ⟨⟨b, []⟩, s⟩) := by
  rw [receiveWithin]
  simp [Decoder.next?, Scripted.receive, hclosed]

def endOfStream : FrameError := .transport "No more responses available"

lemma receiveWithin_ended (hopen : s.closed = false) (hin : s.inbound = [])
    (hheld : s.holdsOpen = false) :
    receiveWithin (k + 1) ⟨⟨b, []⟩, s⟩ = (.failed endOfStream, ⟨⟨b, []⟩, s⟩) := by
  rw [receiveWithin]
  simp [Decoder.next?, Scripted.receive, hopen, hin, hheld, endOfStream]

/-- How long a call is ready to wait does not matter once it may take every chunk there is. -/
lemma receiveWithin_patient (hopen : s.closed = false) (hk : s.inbound.length < k) :
    receiveWithin k ⟨⟨b, q⟩, s⟩ = receive ⟨⟨b, q⟩, s⟩ := by
  rw [receive]
  generalize hj : s.inbound.length + 1 = j
  replace hj : s.inbound.length < j := by omega
  generalize hin : s.inbound = chunks at hk hj
  induction chunks generalizing b q s k j with
  | nil =>
    cases q with
    | cons m q => rw [receiveWithin_queued, receiveWithin_queued]
    | nil =>
      obtain ⟨k, rfl⟩ : ∃ i, k = i + 1 := ⟨k - 1, by simp at hk; omega⟩
      obtain ⟨j, rfl⟩ : ∃ i, j = i + 1 := ⟨j - 1, by simp at hj; omega⟩
      cases hheld : s.holdsOpen with
      | true => rw [receiveWithin_dry hopen hin hheld, receiveWithin_dry hopen hin hheld]
      | false => rw [receiveWithin_ended hopen hin hheld, receiveWithin_ended hopen hin hheld]
  | cons c rest ih =>
    cases q with
    | cons m q => rw [receiveWithin_queued, receiveWithin_queued]
    | nil =>
      rw [List.length_cons] at hk hj
      obtain ⟨k, rfl⟩ : ∃ i, k = i + 1 := ⟨k - 1, by omega⟩
      obtain ⟨j, rfl⟩ : ∃ i, j = i + 1 := ⟨j - 1, by omega⟩
      cases hfault : (Decoder.absorb ⟨b, []⟩ c).fault with
      | some e => rw [receiveWithin_fault hopen hin hfault, receiveWithin_fault hopen hin hfault]
      | none =>
        rw [receiveWithin_goesOn hopen hin hfault, receiveWithin_goesOn hopen hin hfault]
        exact ih (s := { s with inbound := rest }) hopen j rfl (by omega) (by omega)

/-- **What a call can come to.**  It hands out what is queued; with nothing queued it is abandoned,
or waits, or meets the failure of the stream, or absorbs a chunk and then fails or goes on. -/
inductive Receives : Nat → Framed → Delivery → Framed → Prop where
  | queued {k : Nat} {b : Bytes} {m : String} {q : List String} {s : Scripted} :
      Receives k ⟨⟨b, m :: q⟩, s⟩ (.message m) ⟨⟨b, q⟩, s⟩
  | abandoned {b : Bytes} {s : Scripted} :
      Receives 0 ⟨⟨b, []⟩, s⟩ .waiting ⟨⟨b, []⟩, s⟩
  | dry {k : Nat} {b : Bytes} {s : Scripted} (hopen : s.closed = false) (hin : s.inbound = [])
      (hheld : s.holdsOpen = true) :
      Receives (k + 1) ⟨⟨b, []⟩, s⟩ .waiting ⟨⟨b, []⟩, s⟩
  | broken {k : Nat} {b : Bytes} {s : Scripted} {why : String}
      (hs : s.closed = true ∨ s.holdsOpen = false) :
      Receives (k + 1) ⟨⟨b, []⟩, s⟩ (.failed (.transport why)) ⟨⟨b, []⟩, s⟩
  | fault {k : Nat} {b c : Bytes} {rest : List Bytes} {s : Scripted} {e : FrameError}
      (hopen : s.closed = false) (hin : s.inbound = c :: rest)
      (hfault : (Decoder.absorb ⟨b, []⟩ c).fault = some e) :
      Receives (k + 1) ⟨⟨b, []⟩, s⟩ (.failed e)
        ⟨(Decoder.absorb ⟨b, []⟩ c).decoder, { s with inbound := rest }⟩
  | goesOn {k : Nat} {b c : Bytes} {rest : List Bytes} {s : Scripted} {r : Delivery} {g : Framed}
      (hopen : s.closed = false) (hin : s.inbound = c :: rest)
      (hfault : (Decoder.absorb ⟨b, []⟩ c).fault = none)
      (later : Receives k ⟨(Decoder.absorb ⟨b, []⟩ c).decoder, { s with inbound := rest }⟩ r g) :
      Receives (k + 1) ⟨⟨b, []⟩, s⟩ r g

/-- Every call comes to one of these. -/
lemma receives (k : Nat) (f : Framed) :
    Receives k f (f.receiveWithin k).1 (f.receiveWithin k).2 := by
  induction k generalizing f with
  | zero =>
    obtain ⟨⟨b, _ | ⟨m, q⟩⟩, s⟩ := f
    · rw [receiveWithin_zero]
      exact .abandoned
    · rw [receiveWithin_queued]
      exact .queued
  | succ k ih =>
    obtain ⟨⟨b, _ | ⟨m, q⟩⟩, s⟩ := f
    · cases hopen : s.closed with
      | true =>
        rw [receiveWithin_closed hopen]
        exact .broken (.inl hopen)
      | false =>
        cases hin : s.inbound with
        | nil =>
          cases hheld : s.holdsOpen with
          | true =>
            rw [receiveWithin_dry hopen hin hheld]
            exact .dry hopen hin hheld
          | false =>
            rw [receiveWithin_ended hopen hin hheld]
            exact .broken (.inr hheld)
        | cons c rest =>
          cases hfault : (Decoder.absorb ⟨b, []⟩ c).fault with
          | some e =>
            rw [receiveWithin_fault hopen hin hfault]
            exact .fault hopen hin hfault
          | none =>
            rw [receiveWithin_goesOn hopen hin hfault]
            exact .goesOn hopen hin hfault (ih _)
    · rw [receiveWithin_queued]
      exact .queued

end Call

/-! ## Runs of calls and chunks -/

/-- What can happen to a stream with a reader: a chunk arrives, or there is a call, which is
abandoned once it has taken as many chunks as it has `patience` for and still waits. -/
inductive Event where
  | arrive (chunk : Bytes)
  | receive (patience : Nat)

def arrive (f : Framed) (chunk : Bytes) : Framed :=
  { f with stream := { f.stream with inbound := f.stream.inbound ++ [chunk] } }

/-- What a run of events delivers, one outcome for each call, and what it leaves. -/
def run : Framed → List Event → List Delivery × Framed
  | f, [] => ([], f)
  | f, .arrive chunk :: later => run (f.arrive chunk) later
  | f, .receive patience :: later =>
    let (d, g) := f.receiveWithin patience
    let (ds, last) := run g later
    (d :: ds, last)

lemma run_arrive (f : Framed) (chunk : Bytes) (later : List Event) :
    f.run (.arrive chunk :: later) = (f.arrive chunk).run later := rfl

lemma run_receive (f : Framed) (k : Nat) (later : List Event) :
    f.run (.receive k :: later) =
      ((f.receiveWithin k).1 :: ((f.receiveWithin k).2.run later).1,
        ((f.receiveWithin k).2.run later).2) := rfl

/-- From `f`, where `taken` was absorbed and `given` handed out, a call with outcome `r` took the
chunks `used` and left `g`. -/
structure Called (f : Framed) (taken : Bytes) (given : List String) (used : List Bytes)
    (r : Delivery) (g : Framed) : Prop where
  inbound : f.stream.inbound = used ++ g.stream.inbound
  closed : g.stream.closed = false
  held : g.stream.holdsOpen = true
  follows : g.decoder.Follows (taken ++ used.flatten) (given ++ texts [r])
  failed : ∀ e, r = .failed e → (decode (taken ++ used.flatten)).fault = some e
  waiting : r = .waiting → g.decoder.queue = []

/-- **One call keeps the invariant**, on a stream that is held open: it takes some chunks, hands out
a message or none, and fails only for a rejected header.  A call that comes to nothing had to wait
or took as many chunks as it had patience for. -/
lemma Receives.called {k : Nat} {f g : Framed} {r : Delivery} (hr : Receives k f r g)
    {taken : Bytes} {given : List String} (hopen : f.stream.closed = false)
    (hheld : f.stream.holdsOpen = true) (h : f.decoder.Follows taken given) :
    ∃ used, Called f taken given used r g
      ∧ (r = .waiting → g.stream.inbound = [] ∨ used.length = k) := by
  induction hr generalizing taken with
  | queued =>
    exact ⟨[], ⟨rfl, hopen, hheld, by simpa using h.handOut rfl, by simp, by simp⟩, by simp⟩
  | abandoned =>
    exact ⟨[], ⟨rfl, hopen, hheld, by simpa using h, by simp, fun _ => rfl⟩, fun _ => .inr rfl⟩
  | dry _ hin _ =>
    exact ⟨[], ⟨rfl, hopen, hheld, by simpa using h, by simp, fun _ => rfl⟩, fun _ => .inl hin⟩
  | broken hs => simp_all
  | @fault k b c rest s e _ hin hfault =>
    refine ⟨[c], ⟨hin, hopen, hheld, by simpa using h.absorb c, ?_, by simp⟩, by simp⟩
    rintro e' he
    cases he
    rw [List.flatten_singleton, ← h.fault_absorb, hfault]
  | @goesOn k b c rest s r g _ hin _ _ ih =>
    -- the rest of the call starts with one chunk more taken
    obtain ⟨used, hc, hw⟩ := ih hopen hheld (h.absorb c)
    refine ⟨c :: used, ⟨?_, hc.closed, hc.held, ?_, ?_, hc.waiting⟩, ?_⟩
    · rw [hin, List.cons_append]
      exact congrArg _ hc.inbound
    · simpa using hc.follows
    · simpa using hc.failed
    · intro hwait
      exact (hw hwait).imp_right fun hl => by rw [List.length_cons, hl]

/-- The bytes that arrive in a run. -/
def arrived : List Event → Bytes
  | [] => []
  | .arrive chunk :: later => chunk ++ arrived later
  | .receive _ :: later => arrived later

/-- **A run keeps the invariant.**  Every byte was taken or still waits to be taken, and a call
fails only where what was taken until then has a rejected header. -/
lemma run_follows (events : List Event) {f : Framed} {taken : Bytes} {given : List String}
    (hopen : f.stream.closed = false) (hheld : f.stream.holdsOpen = true)
    (h : f.decoder.Follows taken given) :
    ∃ more : Bytes,
      more ++ (f.run events).2.stream.inbound.flatten = f.stream.inbound.flatten ++ arrived events
      ∧ (f.run events).2.stream.closed = false
      ∧ (f.run events).2.stream.holdsOpen = true
      ∧ (f.run events).2.decoder.Follows (taken ++ more) (given ++ texts (f.run events).1)
      ∧ ∀ e, .failed e ∈ (f.run events).1 →
        ∃ p, p <+: taken ++ more ∧ (decode p).fault = some e := by
  -- on the events, with the invariant of the stream so far for any `taken` and `given`
  induction events generalizing f taken given with
  | nil => exact ⟨[], by simp [arrived, run], hopen, hheld, by simpa [run] using h, by simp [run]⟩
  | cons event later ih =>
    cases event with
    | arrive chunk =>
      obtain ⟨more, hbytes, hrest⟩ := ih (f := f.arrive chunk) hopen hheld h
      refine ⟨more, ?_, hrest⟩
      rw [run_arrive, hbytes, arrived, arrive, List.flatten_append, List.flatten_singleton,
        List.append_assoc]
    | receive k =>
      obtain ⟨used, hc, -⟩ := (receives k f).called hopen hheld h
      obtain ⟨more, hbytes, hopen', hheld', hfollows, hfailed⟩ := ih hc.closed hc.held hc.follows
      rw [run_receive, arrived]
      refine ⟨used.flatten ++ more, ?_, hopen', hheld', ?_, ?_⟩
      · rw [List.append_assoc, hbytes, hc.inbound, List.flatten_append, List.append_assoc]
      · rw [texts_cons, ← List.append_assoc, ← List.append_assoc]
        exact hfollows
      · intro e he
        rw [← List.append_assoc]
        rcases List.mem_cons.1 he with hnow | hlater
        · exact ⟨_, List.prefix_append _ _, hc.failed e hnow.symm⟩
        · exact hfailed e hlater

/-! ## Behind a rejected header -/

/-- From `f` a call with outcome `r` left `g`, and a header that is rejected with `e` stands at the
front all the while: what is queued is still handed out, and any chunk ends the call with `e`. -/
structure Stuck (e : FrameError) (f : Framed) (r : List Delivery) (g : Framed) : Prop where
  front : take g.decoder.buffer = .rejected e
  grown : f.decoder.buffer <+: g.decoder.buffer
  queue : f.decoder.queue = texts r ++ g.decoder.queue

/-- A chunk behind a rejected header is kept, and it cuts nothing off. -/
lemma absorb_stuck {b : Bytes} {e : FrameError} (h : take b = .rejected e) (c : Bytes) :
    (Decoder.absorb ⟨b, []⟩ c).decoder = ⟨b ++ c, []⟩ ∧
      (Decoder.absorb ⟨b, []⟩ c).fault = some e := by
  have hd := decode_of_rejected (take_append_of_rejected h c)
  simp [Decoder.absorb, hd]

/-- **One call behind a rejected header.**  If it takes a chunk it fails as the header does. -/
lemma Receives.stuck {k : Nat} {f g : Framed} {r : Delivery} {e : FrameError}
    (hr : Receives k f r g) (h : take f.decoder.buffer = .rejected e) :
    Stuck e f [r] g ∧ (g.stream.inbound ≠ f.stream.inbound → r = .failed e) := by
  cases hr with
  | @fault k b c rest s e' _ _ hfault =>
    obtain ⟨hdecoder, hfault'⟩ := absorb_stuck h c
    have he : e' = e := Option.some.inj (hfault.symm.trans hfault')
    rw [hdecoder, he]
    exact ⟨⟨take_append_of_rejected h c, List.prefix_append b c, rfl⟩, fun _ => rfl⟩
  | @goesOn k b c rest s r g _ _ hfault _ =>
    exact absurd (hfault.symm.trans (absorb_stuck h c).2) (by simp)
  | _ => exact ⟨⟨h, List.prefix_rfl, rfl⟩, fun hne => absurd rfl hne⟩

lemma run_stuck (events : List Event) {f : Framed} {e : FrameError}
    (h : take f.decoder.buffer = .rejected e) :
    Stuck e f (f.run events).1 (f.run events).2 := by
  induction events generalizing f with
  | nil => exact ⟨h, List.prefix_rfl, rfl⟩
  | cons event later ih =>
    cases event with
    | arrive chunk =>
      obtain ⟨hfront, hgrown, hqueue⟩ := ih (f := f.arrive chunk) h
      exact ⟨hfront, hgrown, hqueue⟩
    | receive k =>
      obtain ⟨⟨hfront, hgrown, hqueue⟩, -⟩ := (receives k f).stuck h
      obtain ⟨hfront', hgrown', hqueue'⟩ := ih hfront
      rw [run_receive]
      refine ⟨hfront', hgrown.trans hgrown', ?_⟩
      rw [texts_cons, List.append_assoc, ← hqueue', hqueue]

/-! ## A caller that goes on until the end -/

/-- A call that delivers a message or fails for a header makes progress: it takes a chunk, or else
shortens the queue. -/
lemma Receives.shrinks {k : Nat} {f g : Framed} {r : Delivery} (hr : Receives k f r g) :
    (∀ m, r = .message m → g.stream.inbound.length < f.stream.inbound.length ∨
      g.stream.inbound.length = f.stream.inbound.length
        ∧ g.decoder.queue.length < f.decoder.queue.length)
    ∧ ∀ e, r = .failed e → e.isTransport = false →
        g.stream.inbound.length < f.stream.inbound.length := by
  induction hr with
  | queued => exact ⟨fun _ _ => .inr ⟨rfl, by simp⟩, by simp⟩
  | abandoned => simp
  | dry => simp
  | broken => simp [FrameError.isTransport]
  | fault _ hin _ => simp [hin]
  | goesOn _ hin _ _ ih =>
    obtain ⟨hmessage, hfailed⟩ := ih
    simp only [hin, List.length_cons] at hmessage hfailed ⊢
    refine ⟨fun m hm => .inl ?_, fun e he ht => ?_⟩
    · have := hmessage m hm
      omega
    · have := hfailed e he ht
      omega

/-- What is left to be taken and to be handed out. -/
def measure (f : Framed) : Nat × Nat := (f.stream.inbound.length, f.decoder.queue.length)

lemma receive_message_shrinks {f g : Framed} {m : String} (h : f.receive = (.message m, g)) :
    Prod.Lex (· < ·) (· < ·) g.measure f.measure := by
  have hr := receives (f.stream.inbound.length + 1) f
  rw [← receive, h] at hr
  rw [Prod.lex_def]
  exact hr.shrinks.1 m rfl

lemma receive_failed_shrinks {f g : Framed} {e : FrameError} (h : f.receive = (.failed e, g))
    (he : e.isTransport = false) : Prod.Lex (· < ·) (· < ·) g.measure f.measure := by
  have hr := receives (f.stream.inbound.length + 1) f
  rw [← receive, h] at hr
  rw [Prod.lex_def]
  exact .inl (hr.shrinks.2 e rfl he)

/-- The deliveries of a caller that calls again after every message and every framing error, until
the stream itself fails or makes it wait. -/
def receiveAll (f : Framed) : List Delivery :=
  match _h : f.receive with
  | (.message m, g) => .message m :: receiveAll g
  | (.failed e, g) =>
    if _he : e.isTransport = true then [.failed e] else .failed e :: receiveAll g
  | (.waiting, _) => []
termination_by f.measure
decreasing_by
  · exact receive_message_shrinks (by assumption)
  · exact receive_failed_shrinks (by assumption) (by simpa using _he)

lemma receiveAll_of_message {f g : Framed} {m : String} (h : f.receive = (.message m, g)) :
    receiveAll f = .message m :: receiveAll g := by
  rw [receiveAll]
  split <;> simp_all

lemma receiveAll_of_failed {f g : Framed} {e : FrameError} (h : f.receive = (.failed e, g)) :
    receiveAll f = if e.isTransport = true then [.failed e] else .failed e :: receiveAll g := by
  rw [receiveAll]
  split <;> simp_all

lemma receiveAll_of_waiting {f g : Framed} (h : f.receive = (.waiting, g)) :
    receiveAll f = [] := by
  rw [receiveAll]
  split <;> simp_all

lemma receiveAll_congr {f g : Framed} (h : f.receive = g.receive) :
    receiveAll f = receiveAll g := by
  obtain ⟨d, k, hg⟩ : ∃ d k, g.receive = (d, k) := ⟨_, _, rfl⟩
  cases d with
  | message m => rw [receiveAll_of_message hg, receiveAll_of_message (h.trans hg)]
  | failed e => rw [receiveAll_of_failed hg, receiveAll_of_failed (h.trans hg)]
  | waiting => rw [receiveAll_of_waiting hg, receiveAll_of_waiting (h.trans hg)]

section Flat

variable {b : Bytes}

lemma receiveAll_queued (s : Scripted) (q : List String) :
    receiveAll ⟨⟨b, q⟩, s⟩ = q.map .message ++ receiveAll ⟨⟨b, []⟩, s⟩ := by
  induction q with
  | nil => rfl
  | cons m q ih =>
    rw [receiveAll_of_message (receiveWithin_queued m), ih, List.map_cons, List.cons_append]

lemma receiveAll_ended : receiveAll ⟨⟨b, []⟩, .carrying [] false⟩ = [.failed endOfStream] := by
  have hcall : receive ⟨⟨b, []⟩, .carrying [] false⟩ = (.failed endOfStream, _) :=
    receiveWithin_ended rfl rfl rfl
  exact (receiveAll_of_failed hcall).trans (if_pos rfl)

/-- **Chunk by chunk.**  A chunk that completes a rejected header delivers that failure first, and
only then the messages of the frames it completes in front of the header. -/
lemma receiveAll_chunk (c : Bytes) (chunks : List Bytes) :
    receiveAll ⟨⟨b, []⟩, .carrying (c :: chunks) false⟩ =
      (decode (b ++ c)).fault.toList.map .failed
        ++ ((decode (b ++ c)).bodies.map message).map .message
        ++ receiveAll ⟨⟨(decode (b ++ c)).rest, []⟩, .carrying chunks false⟩ := by
  have habsorb : (Decoder.absorb ⟨b, []⟩ c).decoder =
      ⟨(decode (b ++ c)).rest, (decode (b ++ c)).bodies.map message⟩ := by
    simp [Decoder.absorb]
  rw [List.append_assoc, ← receiveAll_queued, ← habsorb]
  cases hfault : (decode (b ++ c)).fault with
  | some e =>
    have hcall : receive ⟨⟨b, []⟩, .carrying (c :: chunks) false⟩ =
        (.failed e, ⟨(Decoder.absorb ⟨b, []⟩ c).decoder, .carrying chunks false⟩) :=
      receiveWithin_fault rfl rfl hfault
    rw [receiveAll_of_failed hcall, fault_isTransport hfault]
    rfl
  | none =>
    -- the call goes on as one that begins after the chunk
    have hcall : receive ⟨⟨b, []⟩, .carrying (c :: chunks) false⟩ =
        receive ⟨(Decoder.absorb ⟨b, []⟩ c).decoder, .carrying chunks false⟩ :=
      (receiveWithin_goesOn rfl rfl hfault).trans (receiveWithin_patient rfl (Nat.lt_succ_self _))
    rw [receiveAll_congr hcall]
    rfl

end Flat

end Framed

end Transport

end ServerLink
