import Mathlib
import ServerLink.Proofs.Frame.Prefix
import ServerLink.Proofs.Transport.Refinement

/-!
# What a rejected header holds back

A chunk that completes a rejected header ends the call at once.  The frames that the same chunk
completes in front of the header wait in the queue, and a caller that stops at the first framing
error never sees them.

**What is heard.**  `heard` are the chunks in front of the one that completes a rejected header.
`beforeFault_eq`: their frames are what a caller is handed before the first framing error.

**The exact condition.**  `length_le_beforeFault_iff`: the frames in the first `n` bytes are handed
out before the error just if the stream is cut behind them and before the end of the rejected
header.  Without a rejected header the cuts carry no meaning.
-/

namespace ServerLink.Transport

open ServerLink.Frame

namespace Framed

/-! ## The chunks that are heard -/

/-- The chunks in front of the one that completes a rejected header, once `taken` has been taken. -/
def heard (taken : Bytes) : List Bytes → List Bytes
  | [] => []
  | c :: chunks =>
    match (decode (taken ++ c)).fault with
    | some _ => []
    | none => c :: heard (taken ++ c) chunks

/-- Only what decoding leaves of the bytes already taken matters. -/
lemma heard_rest (chunks : List Bytes) (s : Bytes) :
    heard (decode s).rest chunks = heard s chunks := by
  induction chunks generalizing s with
  | nil => rfl
  | cons c chunks ih =>
    have h := decode_append s c
    have hfault : (decode ((decode s).rest ++ c)).fault = (decode (s ++ c)).fault := by rw [h]
    have hrest : (decode ((decode s).rest ++ c)).rest = (decode (s ++ c)).rest := by rw [h]
    rw [heard, heard, hfault, ← ih, hrest, ih]

lemma heard_eq_take (chunks : List Bytes) (taken : Bytes) :
    ∃ k, heard taken chunks = chunks.take k := by
  induction chunks generalizing taken with
  | nil => exact ⟨0, rfl⟩
  | cons c chunks ih =>
    rw [heard]
    cases (decode (taken ++ c)).fault with
    | some e => exact ⟨0, rfl⟩
    | none =>
      obtain ⟨k, hk⟩ := ih (taken ++ c)
      exact ⟨k + 1, by rw [hk, List.take_succ_cons]⟩

lemma fault_heard (chunks : List Bytes) {taken : Bytes} (h : (decode taken).fault = none) :
    (decode (taken ++ (heard taken chunks).flatten)).fault = none := by
  induction chunks generalizing taken with
  | nil => simpa [heard] using h
  | cons c chunks ih =>
    rw [heard]
    cases hc : (decode (taken ++ c)).fault with
    | some e => simpa using h
    | none => simpa using ih hc

lemma take_prefix_heard {chunks : List Bytes} {taken : Bytes} {k : Nat}
    (h : (decode (taken ++ (chunks.take k).flatten)).fault = none) :
    chunks.take k <+: heard taken chunks := by
  induction chunks generalizing taken k with
  | nil => simp
  | cons c chunks ih =>
    cases k with
    | zero => simp
    | succ k =>
      rw [List.take_succ_cons, List.flatten_cons, ← List.append_assoc] at h
      rw [List.take_succ_cons, heard, fault_mono (List.prefix_append _ _) h]
      exact (List.prefix_cons_inj c).2 (ih h)

/-! ## What is handed out before the first framing error -/

def isFraming : Delivery → Bool
  | .failed e => !e.isTransport
  | _ => false

/-- The messages that calls return before the first one that returns a framing error. -/
def beforeFault (chunks : List Bytes) : List String :=
  texts ((receiveAll (ofStream (.carrying chunks false))).takeWhile (!isFraming ·))

lemma takeWhile_messages (q : List String) (ds : List Delivery) :
    (q.map Delivery.message ++ ds).takeWhile (!isFraming ·) =
      q.map Delivery.message ++ ds.takeWhile (!isFraming ·) := by
  induction q with
  | nil => rfl
  | cons m q ih => rw [List.map_cons, List.cons_append, List.takeWhile_cons_of_pos rfl, ih]; rfl

lemma texts_takeWhile (chunks : List Bytes) {b : Bytes} (hb : decode b = ⟨[], b, none⟩) :
    texts ((receiveAll ⟨⟨b, []⟩, .carrying chunks false⟩).takeWhile (!isFraming ·)) =
      (decode (b ++ (heard b chunks).flatten)).bodies.map message := by
  induction chunks generalizing b with
  | nil =>
    rw [receiveAll_ended, heard, List.flatten_nil, List.append_nil, hb]
    rfl
  | cons c chunks ih =>
    rw [receiveAll_chunk, heard]
    cases hc : (decode (b ++ c)).fault with
    | some e =>
      have hframing : isFraming (.failed e) = true := by
        rw [isFraming, fault_isTransport hc]
        rfl
      simp [hframing, hb]
    | none =>
      have hrest : decode (decode (b ++ c)).rest = ⟨[], (decode (b ++ c)).rest, none⟩ := by
        rw [decode_rest, hc]
      rw [Option.toList_none, List.map_nil, List.nil_append, takeWhile_messages, texts_append,
        texts_messages, ih hrest, heard_rest, List.flatten_cons, ← List.append_assoc,
        decode_append (b ++ c), List.map_append]

/-- **What is handed out before the first framing error** are the messages of the chunks heard. -/
theorem beforeFault_eq (chunks : List Bytes) :
    beforeFault chunks = (decode (heard [] chunks).flatten).bodies.map message :=
  texts_takeWhile chunks decode_nil

lemma heard_of_sound {chunks : List Bytes} (h : (decode chunks.flatten).fault = none) :
    heard [] chunks = chunks := by
  have hpre : chunks.take chunks.length <+: heard [] chunks :=
    take_prefix_heard (by rw [List.take_length, List.nil_append, h])
  obtain ⟨k, hk⟩ := heard_eq_take chunks []
  rw [List.take_length] at hpre
  have hsub : heard [] chunks <+: chunks := hk ▸ List.take_prefix k chunks
  exact hsub.eq_of_length_le hpre.length_le

/-- What calls return before the first framing error are the first messages of the stream. -/
lemma beforeFault_isFirst (chunks : List Bytes) :
    beforeFault chunks <+: (decode chunks.flatten).bodies.map message := by
  obtain ⟨k, hk⟩ := heard_eq_take chunks []
  rw [beforeFault_eq, hk]
  exact (bodies_mono (List.take_prefix k chunks).flatten).map message

/-! ## The exact condition -/

/-- The stream is cut, or begins, at `low` or behind it and in front of `high`. -/
def CutBetween (chunks : List Bytes) (low high : Nat) : Prop :=
  ∃ k, low ≤ (chunks.take k).flatten.length ∧ (chunks.take k).flatten.length < high

section Rejected

variable {chunks : List Bytes} {block rest : Bytes} {e : FrameError}
  (hs : Splits (decode chunks.flatten).rest block rest)
  (he : readLength (Utf8.decodeLossy block) = .error e)

include hs he

/-- **The frames in the first `n` bytes are handed out before the error** just if the stream is cut
behind them and before the end of the rejected header. -/
lemma length_le_beforeFault_iff {n : Nat} {front : List Bytes}
    (hf : decode (chunks.flatten.take n) = ⟨front, [], none⟩) :
    front.length ≤ (beforeFault chunks).length ↔
      CutBetween chunks n (chunks.flatten.length - rest.length) := by
  have hcuts : ∀ k, (chunks.take k).flatten <+: chunks.flatten :=
    fun k => (List.take_prefix k chunks).flatten
  have hn : (chunks.flatten.take n).length = n := by
    refine List.length_take_of_le ?_
    by_contra hlt
    -- otherwise nothing would be left for the rejected header
    rw [List.take_of_length_le (by omega)] at hf
    have := congrArg List.length hs.cut
    simp [hf, separator] at this
  have hbodies : ∀ k, front.length ≤ (decode (chunks.take k).flatten).bodies.length ↔
      n ≤ (chunks.take k).flatten.length := by
    intro k
    rw [bodies_le_iff (List.take_prefix n _) (hcuts k) hf, hn]
  have hsound : ∀ k, (decode (chunks.take k).flatten).fault = none ↔
      (chunks.take k).flatten.length < chunks.flatten.length - rest.length :=
    fun k => fault_prefix_iff (hcuts k) hs he
  rw [beforeFault_eq, List.length_map]
  constructor
  · intro hle
    obtain ⟨k, hk⟩ := heard_eq_take chunks []
    have hfault := fault_heard chunks (congrArg Decoded.fault decode_nil)
    rw [List.nil_append, hk] at hfault
    rw [hk] at hle
    exact ⟨k, (hbodies k).1 hle, (hsound k).1 hfault⟩
  · rintro ⟨k, hlow, hhigh⟩
    have hheard : chunks.take k <+: heard [] chunks := take_prefix_heard ((hsound k).2 hhigh)
    exact ((hbodies k).2 hlow).trans (bodies_mono hheard.flatten).length_le

/-- Every frame in front of the rejected header is handed out before the error just if the stream is
cut between them or within the header. -/
lemma beforeFault_eq_iff : beforeFault chunks = (decode chunks.flatten).bodies.map message ↔
    CutBetween chunks (chunks.flatten.length - (decode chunks.flatten).rest.length)
      (chunks.flatten.length - rest.length) := by
  obtain ⟨frames, hcut, hframes⟩ := decode_frames chunks.flatten
  have hlen : chunks.flatten.length - (decode chunks.flatten).rest.length = frames.length := by
    have := congrArg List.length hcut
    rw [List.length_append] at this
    omega
  have htake : chunks.flatten.take frames.length = frames := by
    rw [hcut, List.take_left']
    rfl
  rw [hlen, ← length_le_beforeFault_iff hs he (htake.symm ▸ hframes)]
  constructor
  · intro h
    rw [h, List.length_map]
  · intro h
    refine (beforeFault_isFirst chunks).eq_of_length_le ?_
    rwa [List.length_map]

end Rejected

/-- Two ways to cut a stream with a rejected header: if every row of frames that one lets through is
let through by the other, no fewer messages come before the error. -/
lemma beforeFault_length_le {a b : List Bytes} {block rest : Bytes} {e : FrameError}
    (hab : a.flatten = b.flatten) (hs : Splits (decode a.flatten).rest block rest)
    (he : readLength (Utf8.decodeLossy block) = .error e)
    (h : ∀ n front, Cut (a.flatten.take n) front [] →
      CutBetween a n (a.flatten.length - rest.length) →
      CutBetween b n (a.flatten.length - rest.length)) :
    (beforeFault a).length ≤ (beforeFault b).length := by
  obtain ⟨k, hk⟩ := heard_eq_take a []
  -- the frames that `a` lets through
  obtain ⟨frames, hcut, hframes⟩ := decode_frames (a.take k).flatten
  have hpre : frames <+: a.flatten :=
    List.IsPrefix.trans ⟨_, hcut.symm⟩ (List.take_prefix k a).flatten
  have htake : a.flatten.take frames.length = frames := List.prefix_iff_eq_take.1 hpre |>.symm
  have hfront := htake.symm ▸ hframes
  have hlen : (decode (a.take k).flatten).bodies.length = (beforeFault a).length := by
    rw [beforeFault_eq, List.length_map, hk]
  have hbetween := (length_le_beforeFault_iff hs he hfront).1 hlen.le
  have hb := h _ _ (cut_nil_iff.2 hfront) hbetween
  rw [hab] at hs hfront hb
  rw [← hlen]
  exact (length_le_beforeFault_iff hs he hfront).2 hb

/-- **When chunk boundaries carry no meaning.**  Two ways to cut a stream without a rejected header
always agree: every message is handed out.  On a stream with one, all messages in front of it are
handed out before the error just if a cut falls behind their frames and within the header, and the
two ways agree just if each row of frames at the front is cut off from the end of the header by both
or by neither. -/
theorem chunk_boundaries_meaningless_iff (a b : List Bytes) (hab : a.flatten = b.flatten)
    {bodies : List Bytes} {left : Bytes} (hcut : Cut a.flatten bodies left) :
    ((∀ e, ¬ Rejects left e) →
      beforeFault a = bodies.map message ∧ beforeFault b = bodies.map message)
    ∧ ∀ (block rest : Bytes) (e : FrameError), Splits left block rest →
      readLength (Utf8.decodeLossy block) = .error e →
      (beforeFault a = bodies.map message ↔
        CutBetween a (a.flatten.length - left.length) (a.flatten.length - rest.length))
      ∧ (beforeFault a = beforeFault b ↔ ∀ n front, Cut (a.flatten.take n) front [] →
        (CutBetween a n (a.flatten.length - rest.length) ↔
          CutBetween b n (a.flatten.length - rest.length))) := by
  obtain ⟨rfl, rfl⟩ := cut_iff.1 hcut
  constructor
  · intro hsound
    have hfault : (decode a.flatten).fault = none := by
      have hrest := take_rest a.flatten
      cases hf : (decode a.flatten).fault with
      | none => rfl
      | some e => rw [hf] at hrest; exact absurd (take_eq_rejected_iff.1 hrest) (hsound e)
    refine ⟨?_, ?_⟩
    · rw [beforeFault_eq, heard_of_sound hfault]
    · rw [hab] at hfault ⊢
      rw [beforeFault_eq, heard_of_sound hfault]
  · intro block rest e hs he
    refine ⟨beforeFault_eq_iff hs he, ?_⟩
    constructor
    · intro heq n front hfront
      rw [cut_nil_iff] at hfront
      rw [← length_le_beforeFault_iff hs he hfront, heq]
      rw [hab] at hs hfront ⊢
      exact length_le_beforeFault_iff hs he hfront
    · intro h
      -- both are fronts of the same messages, so their lengths decide
      have hle := beforeFault_length_le hab hs he fun n front hf => (h n front hf).1
      have hge := beforeFault_length_le hab.symm (hab ▸ hs) he fun n front hf hb => by
        rw [← hab] at hf hb ⊢
        exact (h n front hf).2 hb
      have hpre : beforeFault a <+: beforeFault b :=
        List.prefix_of_prefix_length_le (hab ▸ beforeFault_isFirst a) (beforeFault_isFirst b) hle
      exact hpre.eq_of_length_le hge

lemma splits_spoiled : Splits spoiled (Utf8.ofString "Content-Length: x")
    (Utf8.ofString "behind") := by
  have hno : (0x0D : UInt8) ∉ Utf8.ofString "Content-Length: x" := by decide
  have hsplit := splits_of_notMem hno (Utf8.ofString "behind")
  exact hsplit

/-- A frame and a rejected header behind it, cut between the two: the message is handed out before
the error. -/
theorem chunk_boundaries_meaningless_between :
    [emptyObject, spoiled].flatten = [emptyObject ++ spoiled].flatten
    ∧ Cut [emptyObject, spoiled].flatten [[0x7B, 0x7D]] spoiled
    ∧ beforeFault [emptyObject, spoiled] = ["\x7b\x7d"] := by
  have hab : [emptyObject, spoiled].flatten = [emptyObject ++ spoiled].flatten := rfl
  have hcut : Cut [emptyObject, spoiled].flatten [[0x7B, 0x7D]] spoiled := cut_spoiled
  have he : readLength (Utf8.decodeLossy (Utf8.ofString "Content-Length: x")) =
      .error (.badLength "x") := rfl
  refine ⟨hab, hcut, ?_⟩
  exact (((chunk_boundaries_meaningless_iff _ _ hab hcut).2 _ _ _ splits_spoiled he).1).2
    ⟨1, by decide, by decide⟩

lemma decode_spoiled :
    decode (emptyObject ++ spoiled) = ⟨[[0x7B, 0x7D]], spoiled, some (.badLength "x")⟩ := by
  rw [decode_of_whole take_emptyObject, decode_of_rejected take_spoiled]

lemma decode_emptyObject : decode emptyObject = ⟨[[0x7B, 0x7D]], [], none⟩ := by
  have htake : take emptyObject = .whole [0x7B, 0x7D] [] := rfl
  rw [decode_of_whole htake, decode_nil]

/-- A frame and a rejected header behind it: in one chunk the message is not handed out before the
error, in two it is. -/
theorem chunk_boundary_matters :
    ¬ ∀ a b : List Bytes, a.flatten = b.flatten → beforeFault a = beforeFault b := by
  intro h
  have hsame := h [emptyObject ++ spoiled] [emptyObject, spoiled] rfl
  have hone : heard [] [emptyObject ++ spoiled] = [] := by
    rw [heard, List.nil_append, decode_spoiled]
  have htwo : heard [] [emptyObject, spoiled] = [emptyObject] := by
    rw [heard, List.nil_append, decode_emptyObject, heard, decode_spoiled]
  rw [beforeFault_eq, beforeFault_eq, hone, htwo, List.flatten_nil, List.flatten_singleton,
    decode_nil, decode_emptyObject] at hsame
  exact absurd hsame (by simp)

end Framed

end ServerLink.Transport
