import Mathlib
import ServerLink.Proofs.Frame.Header
import ServerLink.Proofs.Frame.Prefix
import ServerLink.Proofs.Transport.Reception

/-!
# The round trip of frames

Bodies are sent as frames, the stream arrives in any chunks, and calls are made in between, some of
them abandoned while they wait.  The calls that come to an end return the bodies.

**What is returned.**  `Reads body text`: the text of a body that is one, and its lossy decoding
otherwise.

**The invariant** is `Decoder.Follows` with a prefix of the stream.  Since the whole stream decodes
to the bodies sent, what was handed out and what is queued are the first of them, no header is
rejected, and nothing is left once the last one has been handed out.
-/

namespace ServerLink.Transport

open ServerLink.Frame

def sent (bodies : List Bytes) : Bytes := (bodies.map encode).flatten

/-- What a caller reads of a body: its text, if it is one, and its lossy decoding otherwise. -/
def Reads (body : Bytes) (text : String) : Prop :=
  (∀ t, body = Utf8.ofString t → text = t)
    ∧ ((∀ t, body ≠ Utf8.ofString t) → text = Utf8.toStringLossy body)

lemma reads_message (body : Bytes) : Reads body (message body) := by
  constructor
  · rintro t rfl
    exact Utf8.toStringLossy_ofString t
  · intro _
    rfl

lemma forall₂_reads (bodies : List Bytes) : List.Forall₂ Reads bodies (bodies.map message) := by
  rw [List.forall₂_map_right_iff]
  exact List.forall₂_same.2 fun body _ => reads_message body

namespace Framed

section Sent

variable {bodies : List Bytes} (hlimit : ∀ body ∈ bodies, body.length ≤ limit)

include hlimit

/-- A decoder that follows what was sent has handed out the first bodies and queued the next. -/
lemma queued_of_sent {d : Decoder} {taken : Bytes} {given : List String}
    (h : d.Follows taken given) (htaken : taken <+: sent bodies) :
    given ++ d.queue <+: bodies.map message := by
  have hpre := bodies_mono htaken
  rw [sent, decode_encodes hlimit] at hpre
  rw [h.queue]
  exact hpre.map message

lemma not_failed_of_sent {taken p : Bytes} {e : FrameError} (htaken : taken <+: sent bodies)
    (hp : p <+: taken) : (decode p).fault ≠ some e := by
  have hsound : (decode (sent bodies)).fault = none := by rw [sent, decode_encodes hlimit]
  rw [fault_mono (hp.trans htaken) hsound]
  simp

/-- Once all is handed out the decoder is as it was in the beginning. -/
lemma decoder_of_all_given {d : Decoder} {taken : Bytes} {given : List String}
    (h : d.Follows taken given) (htaken : taken <+: sent bodies)
    (hall : given.length = bodies.length) : d = .empty := by
  have hlen : (given ++ d.queue).length = (decode taken).bodies.length := by
    rw [h.queue, List.length_map]
  have hqueue : d.queue = [] := by
    have := (queued_of_sent hlimit h htaken).length_le
    rw [List.length_append, List.length_map] at this
    exact List.eq_nil_of_length_eq_zero (by omega)
  have htaken' : taken = sent bodies := by
    rw [hqueue, List.append_nil] at hlen
    refine htaken.eq_of_length_le ?_
    refine (bodies_le_iff List.prefix_rfl htaken ?_).1 (hall.symm.trans hlen).le
    rw [sent, decode_encodes hlimit]
  have hbuffer : d.buffer = [] := by
    rw [h.buffer, htaken', sent, decode_encodes hlimit]
  obtain ⟨buffer, queue⟩ := d
  obtain rfl : buffer = [] := hbuffer
  obtain rfl : queue = [] := hqueue
  rfl

/-- **Progress.**  Where the frame of the next body has arrived, a call that is not abandoned
returns that body. -/
lemma receive_next {f : Framed} {taken : Bytes} {given : List String}
    (hopen : f.stream.closed = false) (hheld : f.stream.holdsOpen = true)
    (h : f.decoder.Follows taken given)
    (hsent : taken ++ f.stream.inbound.flatten <+: sent bodies) {front back : List Bytes}
    {body : Bytes} (hbodies : bodies = front ++ body :: back) (hgiven : given.length = front.length)
    (hhere : sent (front ++ [body]) <+: taken ++ f.stream.inbound.flatten) :
    f.receive.1 = .message (message body) := by
  obtain ⟨used, hc, hwait⟩ := (receives (f.stream.inbound.length + 1) f).called hopen hheld h
  rw [← receive] at hc hwait
  have hin := hc.inbound
  have htaken : taken ++ used.flatten <+: taken ++ f.stream.inbound.flatten := by
    rw [hin, List.flatten_append, ← List.append_assoc]
    exact List.prefix_append _ _
  have hqueued := queued_of_sent hlimit hc.follows (htaken.trans hsent)
  cases hr : f.receive.1 with
  | failed e =>
    exact absurd (hc.failed e hr) (not_failed_of_sent hlimit (htaken.trans hsent) List.prefix_rfl)
  | message m =>
    -- the messages handed out are the first ones, so the new one is at its place
    rw [hr, hbodies, List.map_append, List.map_cons, texts_message, texts_nil] at hqueued
    have hat := List.IsPrefix.getElem hqueued (i := given.length) (by simp)
    simpa [hgiven] using hat
  | waiting =>
    -- then every chunk was taken, and the next body is among what is decoded
    have hall : taken ++ used.flatten = taken ++ f.stream.inbound.flatten := by
      rcases hwait hr with hnil | hlen
      · rw [hin, hnil, List.append_nil]
      · have := congrArg List.length hin
        rw [List.length_append] at this
        omega
    have hgiven' := hc.follows.all_given (hc.waiting hr)
    rw [hr, hall] at hgiven'
    have hle := (bodies_mono hhere).length_le
    have hfront : ∀ b ∈ front ++ [body], b.length ≤ limit := fun b hb => by
      refine hlimit b ?_
      rw [hbodies]
      simp only [List.mem_append, List.mem_cons] at hb ⊢
      tauto
    have hcount := congrArg List.length hgiven'
    rw [sent, decode_encodes hfront] at hle
    simp at hle hcount
    omega

end Sent

/-- **The round trip.**  Bodies within the limit are sent as frames, any part of that stream has
arrived in any chunks, and calls were made in between, each with any patience.  Then no call failed,
and those that returned a message returned the first bodies, in order, each once.  Where the frame
of the next body has arrived, another call returns that body; and once the last one has been
returned, buffer and queue are empty. -/
theorem run_returns_sent (bodies : List Bytes) (hlimit : ∀ body ∈ bodies, body.length ≤ limit)
    (events : List Event) (harrived : arrived events <+: sent bodies) :
    let r := (ofStream (.carrying [] true)).run events
    (∀ e, .failed e ∉ r.1)
    ∧ List.Forall₂ Reads (bodies.take (texts r.1).length) (texts r.1)
    ∧ (∀ front body back, bodies = front ++ body :: back → (texts r.1).length = front.length →
      sent (front ++ [body]) <+: arrived events →
      ∃ text, r.2.receive.1 = .message text ∧ Reads body text)
    ∧ ((texts r.1).length = bodies.length → r.2.decoder = .empty) := by
  intro r
  obtain ⟨taken, hbytes, hopen, hheld, hfollows, hfailed⟩ :=
    run_follows events (f := ofStream (.carrying [] true)) rfl rfl Decoder.follows_empty
  change r.2.decoder.Follows taken (texts r.1) at hfollows
  change taken ++ r.2.stream.inbound.flatten = arrived events at hbytes
  have htaken : taken <+: sent bodies :=
    List.IsPrefix.trans ⟨_, hbytes⟩ harrived
  have hgiven : texts r.1 <+: bodies.map message :=
    (List.prefix_append _ _).trans (queued_of_sent hlimit hfollows htaken)
  refine ⟨?_, ?_, ?_, ?_⟩
  · intro e he
    obtain ⟨p, hp, hfault⟩ := hfailed e he
    exact not_failed_of_sent hlimit htaken hp hfault
  · have htexts := List.prefix_iff_eq_take.1 hgiven
    rw [← List.map_take] at htexts
    have hforall := forall₂_reads (bodies.take (texts r.1).length)
    rwa [← htexts] at hforall
  · intro front body back hbodies hlen hhere
    rw [← hbytes] at harrived hhere
    exact ⟨_, receive_next hlimit hopen hheld hfollows harrived hbodies hlen hhere,
      reads_message body⟩
  · exact decoder_of_all_given hlimit hfollows htaken

/-- An empty body, one with a separator and two bytes of a character, and one that is no text. -/
def awkward : List Bytes := [[], Utf8.ofString "\r\n\r\nContent-Length: é", [0x7B, 0xFF, 0x7D]]

/-- The stream of awkward bodies arrives in two chunks and a call is abandoned in between. -/
theorem run_returns_sent_awkward :
    (∀ body ∈ awkward, body.length ≤ limit)
    ∧ List.Forall₂ Reads
      (awkward.take (texts ((ofStream (.carrying [] true)).run [.arrive ((sent awkward).take 50),
        .receive 2, .receive 1, .arrive ((sent awkward).drop 50), .receive 9]).1).length)
      (texts ((ofStream (.carrying [] true)).run [.arrive ((sent awkward).take 50),
        .receive 2, .receive 1, .arrive ((sent awkward).drop 50), .receive 9]).1) := by
  have hlimit : ∀ body ∈ awkward, body.length ≤ limit := by decide
  have harrived : arrived [.arrive ((sent awkward).take 50), .receive 2, .receive 1,
      .arrive ((sent awkward).drop 50), .receive 9] <+: sent awkward := by
    simp [arrived]
  exact ⟨hlimit, (run_returns_sent awkward hlimit _ harrived).2.1⟩

end Framed

end ServerLink.Transport
