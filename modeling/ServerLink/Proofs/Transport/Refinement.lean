import Mathlib
import ServerLink.Proofs.Frame.Header
import ServerLink.Proofs.Transport.Reception

/-!
# The incremental decoder refines the one-shot one

`Frame.Cut` cuts a byte string at once; a row of calls cuts what arrives, chunk by chunk.

**Agreement.**  `texts_receiveAll`: a caller that goes on past framing errors is handed exactly the
messages of the one-shot cut, for any bytes and any chunks, and is told the end last.

**A rejected header.**  `calls_rejected`: it stays at the front of the buffer, and every call that
takes a chunk fails with the same error.

**Termination.**  `cut_total` and `Leads.shorter`: every string can be cut, and each frame cut off
shortens it.
-/

namespace ServerLink

namespace Frame

lemma cut_total (s : Bytes) : ∃ bodies left, Cut s bodies left :=
  ⟨_, _, cut_iff.2 ⟨rfl, rfl⟩⟩

lemma Cut.unique {s left left' : Bytes} {bodies bodies' : List Bytes} (h : Cut s bodies left)
    (h' : Cut s bodies' left') : bodies = bodies' ∧ left = left' := by
  obtain ⟨rfl, rfl⟩ := cut_iff.1 h
  exact cut_iff.1 h'

lemma Leads.shorter {s body rest : Bytes} (h : Leads s body rest) : rest.length < s.length :=
  take_shorter (take_eq_whole_iff.2 h)

end Frame

namespace Transport

open ServerLink.Frame

namespace Framed

/-! ## Agreement -/

/-- What a caller is handed who starts with `b` in the buffer, if no whole frame is in it. -/
lemma texts_receiveAll (chunks : List Bytes) {b : Bytes} (hb : (decode b).bodies = []) :
    texts (receiveAll ⟨⟨b, []⟩, .carrying chunks false⟩) =
      (decode (b ++ chunks.flatten)).bodies.map message := by
  induction chunks generalizing b with
  | nil => simp [receiveAll_ended, hb]
  | cons c chunks ih =>
    have hcut := decode_rest (b ++ c)
    have hfailed : texts ((decode (b ++ c)).fault.toList.map .failed) = [] := by
      cases (decode (b ++ c)).fault <;> rfl
    rw [receiveAll_chunk, texts_append, texts_append, texts_messages, hfailed, List.nil_append,
      ih (by rw [hcut]), List.flatten_cons, ← List.append_assoc b,
      decode_append (b ++ c), List.map_append]

lemma getLast?_receiveAll (chunks : List Bytes) (b : Bytes) :
    (receiveAll ⟨⟨b, []⟩, .carrying chunks false⟩).getLast? = some (.failed endOfStream) := by
  induction chunks generalizing b with
  | nil => rw [receiveAll_ended, List.getLast?_singleton]
  | cons c chunks ih => rw [receiveAll_chunk, List.getLast?_append, ih, Option.some_or]

/-! ## Behind a rejected header -/

/-- What calls come to behind a rejected header, whatever chunks still arrive. -/
lemma calls_rejected {f : Framed} {e : FrameError} (h : Rejects f.decoder.buffer e)
    (events : List Event) :
    Rejects (f.run events).2.decoder.buffer e
      ∧ f.decoder.buffer <+: (f.run events).2.decoder.buffer
      ∧ f.decoder.queue = texts (f.run events).1 ++ (f.run events).2.decoder.queue := by
  obtain ⟨hfront, hgrown, hqueue⟩ := run_stuck events (take_eq_rejected_iff.2 h)
  exact ⟨take_eq_rejected_iff.1 hfront, hgrown, hqueue⟩

/-- A call behind a rejected header that takes a chunk. -/
lemma call_rejected {f : Framed} {e : FrameError} (h : Rejects f.decoder.buffer e) (k : Nat)
    (htook : (f.receiveWithin k).2.stream.inbound ≠ f.stream.inbound) :
    (f.receiveWithin k).1 = .failed e :=
  ((receives k f).stuck (take_eq_rejected_iff.2 h)).2 htook

/-- **The incremental decoder refines the one-shot one.**  Any bytes in any chunks are handed out as
the one-shot cut gives them, to a caller that goes on past framing errors until the end.  Behind a
rejected header, wherever it came from and whatever happens then, only what was queued before is
handed out, and a call that takes a chunk fails with the error of that header.  Every string can be
cut in one way only, and each frame shortens it. -/
theorem receiveAll_refines_cut :
    (∀ (chunks : List Bytes) (bodies : List Bytes) (left : Bytes),
      Cut chunks.flatten bodies left →
        texts (receiveAll (ofStream (.carrying chunks false))) = bodies.map message
        ∧ (receiveAll (ofStream (.carrying chunks false))).getLast? = some (.failed endOfStream))
    ∧ (∀ (f : Framed) (e : FrameError), Rejects f.decoder.buffer e → ∀ events : List Event,
      Rejects (f.run events).2.decoder.buffer e
      ∧ f.decoder.buffer <+: (f.run events).2.decoder.buffer
      ∧ f.decoder.queue = texts (f.run events).1 ++ (f.run events).2.decoder.queue
      ∧ ∀ k, ((f.run events).2.receiveWithin k).2.stream.inbound ≠ (f.run events).2.stream.inbound →
        ((f.run events).2.receiveWithin k).1 = .failed e)
    ∧ (∀ s : Bytes, (∃ bodies left, Cut s bodies left)
      ∧ ∀ bodies left bodies' left', Cut s bodies left → Cut s bodies' left' →
        bodies = bodies' ∧ left = left')
    ∧ ∀ s body rest : Bytes, Leads s body rest → rest.length < s.length := by
  refine ⟨?_, ?_, ?_, ?_⟩
  · intro chunks bodies left hcut
    obtain ⟨rfl, -⟩ := cut_iff.1 hcut
    refine ⟨?_, getLast?_receiveAll chunks []⟩
    exact texts_receiveAll chunks (by rw [decode_nil])
  · intro f e he events
    obtain ⟨hfront, hgrown, hqueue⟩ := calls_rejected he events
    exact ⟨hfront, hgrown, hqueue, fun k htook => call_rejected hfront k htook⟩
  · intro s
    exact ⟨cut_total s, fun _ _ _ _ h h' => h.unique h'⟩
  · intro s body rest h
    exact h.shorter

/-- The frame of an empty object. -/
def emptyObject : Bytes := Utf8.ofString "Content-Length: 2\r\n\r\n\x7b\x7d"

/-- A header block without a number, and bytes behind it. -/
def spoiled : Bytes := Utf8.ofString "Content-Length: x\r\n\r\nbehind"

lemma take_emptyObject : take (emptyObject ++ spoiled) = .whole [0x7B, 0x7D] spoiled := rfl

lemma take_spoiled : take spoiled = .rejected (.badLength "x") := rfl

lemma cut_spoiled : Cut (emptyObject ++ spoiled) [[0x7B, 0x7D]] spoiled := by
  refine cut_iff.2 ?_
  rw [decode_of_whole take_emptyObject, decode_of_rejected take_spoiled]
  exact ⟨rfl, rfl⟩

/-- A frame and a rejected header, cut within the frame, and what is left of them: the message is
handed out, and the next chunk meets the header again. -/
theorem receiveAll_refines_cut_spoiled :
    texts (receiveAll (ofStream
      (.carrying [emptyObject.take 7, emptyObject.drop 7 ++ spoiled] false))) = ["\x7b\x7d"]
    ∧ (∃ f : Framed, f.decoder = ⟨spoiled, []⟩ ∧ f.receive.1 = .failed (.badLength "x"))
    ∧ spoiled.length < (emptyObject ++ spoiled).length := by
  have hcut : Cut [emptyObject.take 7, emptyObject.drop 7 ++ spoiled].flatten [[0x7B, 0x7D]]
      spoiled :=
    cut_spoiled
  refine ⟨(receiveAll_refines_cut.1 _ _ _ hcut).1, ?_, ?_⟩
  · refine ⟨⟨⟨spoiled, []⟩, .carrying [emptyObject] false⟩, rfl, ?_⟩
    refine (receiveAll_refines_cut.2.1 _ _ (take_eq_rejected_iff.1 take_spoiled) []).2.2.2 2 ?_
    rw [run, receiveWithin_fault rfl rfl (absorb_stuck take_spoiled emptyObject).2]
    simp [Scripted.carrying]
  · exact receiveAll_refines_cut.2.2.2 _ _ _ (take_eq_whole_iff.1 take_emptyObject)

end Framed

end Transport

end ServerLink
