import Mathlib
import ServerLink.Proofs.Frame.Decode

/-!
# Decoding a prefix of a stream

What has arrived of a stream is a prefix of it, and what is decoded of it grows with it.

* `bodies_mono`, `fault_mono` — nothing that was decoded is taken back.
* **`bodies_le_iff`** — a row of frames is decoded with the last byte of the row and no earlier.
* **`fault_prefix_iff`** — a rejected header is met with the last byte of its header block.
-/

namespace ServerLink.Frame

/-! ## Frames of a prefix -/

lemma bodies_mono {p s : Bytes} (h : p <+: s) : (decode p).bodies <+: (decode s).bodies := by
  obtain ⟨t, rfl⟩ := h
  rw [decode_append]
  exact List.prefix_append _ _

lemma fault_mono {p s : Bytes} (h : p <+: s) (hs : (decode s).fault = none) :
    (decode p).fault = none := by
  obtain ⟨t, rfl⟩ := h
  cases hp : (decode p).fault with
  | none => rfl
  | some e => rw [decode_append_of_fault hp] at hs; exact absurd hs (by simp)

lemma cut_nil_iff {s : Bytes} {bodies : List Bytes} :
    Cut s bodies [] ↔ decode s = ⟨bodies, [], none⟩ := by
  rw [cut_iff]
  constructor
  · rintro ⟨rfl, hrest⟩
    have htake := take_rest s
    rw [hrest] at htake
    cases hf : (decode s).fault with
    | none => rw [← hrest, ← hf]
    | some e =>
      rw [hf] at htake
      have hnil : take [] = .incomplete := rfl
      exact absurd (hnil.symm.trans htake) (by simp)
  · intro h
    rw [h]
    exact ⟨rfl, rfl⟩

/-- The frames that are cut off are a piece of the stream of their own. -/
lemma decode_frames (s : Bytes) :
    ∃ frames, s = frames ++ (decode s).rest ∧ decode frames = ⟨(decode s).bodies, [], none⟩ := by
  fun_induction decode s with
  | case1 s h => exact ⟨[], rfl, decode_nil⟩
  | case2 s e h => exact ⟨[], rfl, decode_nil⟩
  | case3 s body rest h later ih =>
    obtain ⟨frame, hs, hframe⟩ := (take_eq_whole_iff.1 h).frame
    obtain ⟨frames, hrest, hframes⟩ := ih
    refine ⟨frame ++ frames, ?_, ?_⟩
    · rw [List.append_assoc, ← hrest, hs]
    · rw [decode_of_whole (hframe frames), hframes]

/-- A row of whole frames has all its bodies in none of its proper prefixes. -/
lemma bodies_le_iff {frames p s : Bytes} {bodies : List Bytes} (hf : frames <+: s) (hp : p <+: s)
    (h : decode frames = ⟨bodies, [], none⟩) :
    bodies.length ≤ (decode p).bodies.length ↔ frames.length ≤ p.length := by
  constructor
  · intro hle
    by_contra hlt
    obtain ⟨q, rfl⟩ := List.prefix_of_prefix_length_le hp hf (by omega)
    -- nothing is cut off behind the prefix, so its last bytes would be left
    rw [decode_append, Decoded.mk.injEq] at h
    obtain ⟨hbodies, hrest, -⟩ := h
    have hnone : (decode ((decode p).rest ++ q)).bodies = [] := by
      rw [← List.length_eq_zero_iff]
      have := congrArg List.length hbodies
      rw [List.length_append] at this
      omega
    have hempty := (rest_of_bodies_nil hnone).symm.trans hrest
    rw [List.append_eq_nil_iff] at hempty
    simp [hempty.2] at hlt
  · intro hle
    have := (bodies_mono (List.prefix_of_prefix_length_le hf hp hle)).length_le
    rwa [h] at this

/-! ## The end of a rejected header -/

lemma take_of_not_splits {s : Bytes} (h : ∀ block rest, ¬ Splits s block rest) :
    take s = .incomplete := by
  cases hcut : cutBlock? [] s with
  | none => rw [take, hcut]
  | some blockRest => exact absurd (cutBlock?_nil_iff.1 hcut) (h _ _)

/-- A header block is rejected as soon as it is closed. -/
lemma Splits.closed {s block rest : Bytes} (h : Splits s block rest) :
    Splits (block ++ separator) block [] := by
  refine ⟨by simp, fun b r hb => ?_⟩
  exact h.first b (r ++ rest) (by rw [h.cut, hb, List.append_assoc])

/-- Nothing splits a stream that ends before its first separator does. -/
lemma Splits.not_before {s p block rest : Bytes} (h : Splits s block rest) (hp : p <+: s)
    (hlt : p.length < (block ++ separator).length) : ∀ b r, ¬ Splits p b r := by
  intro b r hb
  obtain ⟨t, rfl⟩ := hp
  obtain ⟨rfl, -⟩ := (hb.append t).unique h
  have := congrArg List.length hb.cut
  rw [List.length_append] at this
  omega

/-- **A rejected header is met with its last byte.** -/
lemma fault_prefix_iff {p s block rest : Bytes} {e : FrameError} (hp : p <+: s)
    (hs : Splits (decode s).rest block rest)
    (he : readLength (Utf8.decodeLossy block) = .error e) :
    (decode p).fault = none ↔ p.length < s.length - rest.length := by
  obtain ⟨frames, hcut, hframes⟩ := decode_frames s
  have hwhole : s = frames ++ (block ++ separator) ++ rest := by
    rw [List.append_assoc, ← hs.cut, ← hcut]
  have hlen : s.length - rest.length = (frames ++ (block ++ separator)).length := by
    have := congrArg List.length hwhole
    rw [List.length_append] at this
    omega
  rw [hlen]
  constructor
  · intro hnone
    by_contra hle
    have hfault : (decode (frames ++ (block ++ separator))).fault = some e := by
      have htake := take_eq_rejected_iff.2 ⟨block, [], hs.closed, he⟩
      rw [decode_append, hframes, List.nil_append, decode_of_rejected htake]
    have hpre : frames ++ (block ++ separator) <+: p :=
      List.prefix_of_prefix_length_le ⟨rest, hwhole.symm⟩ hp (by omega)
    rw [fault_mono hpre hnone] at hfault
    exact absurd hfault (by simp)
  · intro hlt
    rcases Nat.lt_or_ge p.length frames.length with hin | hout
    · have hpre : p <+: frames :=
        List.prefix_of_prefix_length_le hp ⟨_, hcut.symm⟩ (by omega)
      exact fault_mono hpre (by rw [hframes])
    · -- what follows the frames does not reach the end of the header block
      obtain ⟨p', rfl⟩ := List.prefix_of_prefix_length_le ⟨_, hcut.symm⟩ hp hout
      have hp' : p' <+: (decode s).rest := by
        rw [hcut] at hp
        exact (List.prefix_append_right_inj frames).1 hp
      have htake := take_of_not_splits
        (hs.not_before hp' (by rw [List.length_append, List.length_append] at hlt; omega))
      rw [decode_append, hframes, List.nil_append, decode_of_incomplete htake]

end ServerLink.Frame
