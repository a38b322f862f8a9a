import Mathlib
import ServerLink.Frame

/-!
# Cutting a stream into frames

What `decode` does, said without the recursion, and what becomes of it when more bytes arrive.

**The rule.**  `Leads s body rest` says that a whole frame stands at the front of `s`: its header
block is closed by the first separator, the block gives a length, and so many bytes follow.
`Cut s bodies left` takes frames off the front for as long as there are any.  `cut_iff` is the
equivalence with `decode`.

**Stability.**  Whatever stands at the front of a stream, a whole frame or a rejected header, stands
there whatever follows (`take_append_of_whole`, `take_append_of_rejected`).  Hence `decode_append`:
decoding what was left together with what came later continues the decoding, and the place of a cut
between two chunks does not matter.
-/

namespace ServerLink.Frame

/-- The empty line that closes a header block. -/
def separator : Bytes := [0x0D, 0x0A, 0x0D, 0x0A]

/-- The first separator of `s` stands between `block` and `rest`. -/
structure Splits (s block rest : Bytes) : Prop where
  cut : s = block ++ separator ++ rest
  first : ∀ b r : Bytes, s = b ++ separator ++ r → block.length ≤ b.length

/-- A whole frame with the given body stands at the front of `s`, and `rest` follows it. -/
def Leads (s body rest : Bytes) : Prop :=
  ∃ block, Splits s block (body ++ rest)
    ∧ readLength (Utf8.decodeLossy block) = .ok body.length

/-- A header block that is rejected stands at the front of `s`. -/
def Rejects (s : Bytes) (e : FrameError) : Prop :=
  ∃ block rest, Splits s block rest ∧ readLength (Utf8.decodeLossy block) = .error e

/-- The frames at the front of `s` have these bodies, no other whole frame follows, and `left` is
what stands behind them. -/
inductive Cut : Bytes → List Bytes → Bytes → Prop where
  | stop {s : Bytes} (h : ∀ body rest, ¬ Leads s body rest) : Cut s [] s
  | frame {s body rest left : Bytes} {bodies : List Bytes} (h : Leads s body rest)
      (later : Cut rest bodies left) : Cut s (body :: bodies) left

/-! ## The first separator -/

lemma splits_separator (rest : Bytes) : Splits (separator ++ rest) [] rest :=
  ⟨by simp, fun b r _ => by simp⟩

/-- A separator that is not the first thing is found behind the first byte. -/
lemma splits_cons_iff {a : UInt8} {s block rest : Bytes}
    (h : ∀ r, a :: s ≠ separator ++ r) :
    Splits (a :: s) block rest ↔ ∃ b, block = a :: b ∧ Splits s b rest := by
  constructor
  · rintro ⟨hcut, hfirst⟩
    cases block with
    | nil => exact absurd hcut (h rest)
    | cons x b =>
      simp only [List.cons_append, List.cons.injEq] at hcut
      obtain ⟨rfl, hcut⟩ := hcut
      refine ⟨b, rfl, hcut, fun b' r hb' => ?_⟩
      have := hfirst (a :: b') r (by rw [hb']; rfl)
      simpa using this
  · rintro ⟨b, rfl, hcut, hfirst⟩
    refine ⟨by rw [hcut]; rfl, fun b' r hb' => ?_⟩
    cases b' with
    | nil => exact absurd hb' (h r)
    | cons x b' =>
      simp only [List.cons_append, List.cons.injEq] at hb'
      simpa using hfirst b' r hb'.2

/-- The search finds the first separator. -/
lemma cutBlock?_eq_some_iff {read s block rest : Bytes} :
    cutBlock? read s = some (block, rest) ↔ ∃ b, block = read.reverse ++ b ∧ Splits s b rest := by
  fun_induction cutBlock? read s with
  | case1 read tail =>
    rw [Option.some.injEq, Prod.mk.injEq]
    constructor
    · rintro ⟨rfl, rfl⟩
      exact ⟨[], by simp, splits_separator tail⟩
    · rintro ⟨b, rfl, hs⟩
      have hb : b = [] := by
        have := hs.first [] tail rfl
        simpa using this
      subst hb
      have := hs.cut
      simpa [separator] using this
  | case2 read a tail hne ih =>
    have h : ∀ r, a :: tail ≠ separator ++ r := by
      intro r hr
      simp only [separator, List.cons_append, List.nil_append, List.cons.injEq] at hr
      exact hne r hr.1 hr.2
    rw [ih]
    constructor
    · rintro ⟨b, rfl, hs⟩
      exact ⟨a :: b, by simp, (splits_cons_iff h).2 ⟨b, rfl, hs⟩⟩
    · rintro ⟨_, rfl, hs⟩
      obtain ⟨c, rfl, hc⟩ := (splits_cons_iff h).1 hs
      exact ⟨c, by simp, hc⟩
  | case3 read =>
    refine iff_of_false (by simp) ?_
    rintro ⟨b, -, hs⟩
    have := congrArg List.length hs.cut
    simp [separator] at this

lemma cutBlock?_nil_iff {s block rest : Bytes} :
    cutBlock? [] s = some (block, rest) ↔ Splits s block rest := by
  rw [cutBlock?_eq_some_iff]
  simp

lemma Splits.unique {s block rest block' rest' : Bytes} (h : Splits s block rest)
    (h' : Splits s block' rest') : block = block' ∧ rest = rest' := by
  have := (cutBlock?_nil_iff.2 h).symm.trans (cutBlock?_nil_iff.2 h')
  simpa using this

/-- **The first separator stays the first** when more bytes arrive: an earlier one would have to
end before the old one does, that is, within the old bytes. -/
lemma Splits.append {s block rest : Bytes} (h : Splits s block rest) (t : Bytes) :
    Splits (s ++ t) block (rest ++ t) := by
  refine ⟨by rw [h.cut]; simp, fun b r hb => ?_⟩
  by_contra hlt
  have hle : (b ++ separator).length ≤ s.length := by
    have := congrArg List.length h.cut
    simp only [List.length_append] at this ⊢
    omega
  have hpre : b ++ separator <+: s := by
    refine List.prefix_of_prefix_length_le ⟨r, hb.symm⟩ (List.prefix_append s t) hle
  obtain ⟨r', hr'⟩ := hpre
  exact hlt (h.first b r' hr'.symm)

/-- A block without a carriage return is closed by the separator that follows it. -/
lemma splits_of_notMem {block : Bytes} (h : (0x0D : UInt8) ∉ block) (rest : Bytes) :
    Splits (block ++ separator ++ rest) block rest := by
  refine ⟨rfl, fun b r hb => ?_⟩
  by_contra hlt
  have hlt : b.length < block.length := by omega
  have hget := congrArg (fun l => l[b.length]?) hb
  simp only [List.append_assoc] at hget
  rw [List.getElem?_append_left hlt, List.getElem?_append_right le_rfl, Nat.sub_self] at hget
  exact h (List.mem_of_getElem? hget)

/-! ## The front of a stream -/

lemma take_eq_whole_iff {s body rest : Bytes} : take s = .whole body rest ↔ Leads s body rest := by
  constructor
  · intro h
    unfold take at h
    split at h
    · simp at h
    · rename_i block tail hcut
      split at h
      · simp at h
      · rename_i n hn
        split at h
        · simp at h
        · rename_i hlen
          simp only [Front.whole.injEq] at h
          obtain ⟨rfl, rfl⟩ := h
          refine ⟨block, by simpa using cutBlock?_nil_iff.1 hcut, ?_⟩
          rw [hn, List.length_take_of_le (by omega)]
  · rintro ⟨block, hs, hn⟩
    have hcut := cutBlock?_nil_iff.2 hs
    simp [take, hcut, hn]

lemma take_eq_rejected_iff {s : Bytes} {e : FrameError} :
    take s = .rejected e ↔ Rejects s e := by
  constructor
  · intro h
    unfold take at h
    split at h
    · simp at h
    · rename_i block tail hcut
      split at h
      · rename_i e' he
        simp only [Front.rejected.injEq] at h
        exact ⟨block, tail, cutBlock?_nil_iff.1 hcut, by rw [he, h]⟩
      · split at h <;> simp at h
  · rintro ⟨block, tail, hs, he⟩
    simp [take, cutBlock?_nil_iff.2 hs, he]

/-- A whole frame is a piece of the stream that can be cut off in front of anything. -/
lemma Leads.frame {s body rest : Bytes} (h : Leads s body rest) :
    ∃ frame, s = frame ++ rest ∧ ∀ t, take (frame ++ t) = .whole body t := by
  obtain ⟨block, hs, hn⟩ := h
  refine ⟨block ++ separator ++ body, by rw [hs.cut]; simp, fun t => ?_⟩
  refine take_eq_whole_iff.2 ⟨block, ⟨by simp, fun b r hb => ?_⟩, hn⟩
  -- the separator that closes the block ends before the body, so it does not depend on `t`
  by_contra hlt
  have hle : (b ++ separator).length ≤ (block ++ separator).length := by
    simp only [List.length_append]
    omega
  have hpre : b ++ separator <+: block ++ separator := by
    refine List.prefix_of_prefix_length_le ⟨r, hb.symm⟩ ⟨body ++ t, by simp⟩ hle
  obtain ⟨r', hr'⟩ := hpre
  exact hlt (hs.first b (r' ++ (body ++ rest)) (by rw [hs.cut, ← hr']; simp))

/-- **A whole frame stays one** when more bytes arrive. -/
lemma take_append_of_whole {s body rest : Bytes} (h : take s = .whole body rest) (t : Bytes) :
    take (s ++ t) = .whole body (rest ++ t) := by
  obtain ⟨frame, rfl, hframe⟩ := (take_eq_whole_iff.1 h).frame
  rw [List.append_assoc, hframe]

/-- **A rejected header stays rejected** when more bytes arrive. -/
lemma take_append_of_rejected {s : Bytes} {e : FrameError} (h : take s = .rejected e) (t : Bytes) :
    take (s ++ t) = .rejected e := by
  obtain ⟨block, rest, hs, he⟩ := take_eq_rejected_iff.1 h
  exact take_eq_rejected_iff.2 ⟨block, rest ++ t, hs.append t, he⟩

/-! ## Decoding -/

lemma decode_of_incomplete {s : Bytes} (h : take s = .incomplete) : decode s = ⟨[], s, none⟩ := by
  rw [decode]
  split <;> simp_all

lemma decode_of_rejected {s : Bytes} {e : FrameError} (h : take s = .rejected e) :
    decode s = ⟨[], s, some e⟩ := by
  rw [decode]
  split <;> simp_all

lemma decode_of_whole {s body rest : Bytes} (h : take s = .whole body rest) :
    decode s = ⟨body :: (decode rest).bodies, (decode rest).rest, (decode rest).fault⟩ := by
  rw [decode]
  split <;> simp_all

lemma decode_nil : decode [] = ⟨[], [], none⟩ := decode_of_incomplete rfl

/-- **Decoding goes on where it stopped.**  The bytes left over, with whatever arrives behind them,
are decoded as if nothing had been decoded before. -/
theorem decode_append (s t : Bytes) :
    decode (s ++ t) = ⟨(decode s).bodies ++ (decode ((decode s).rest ++ t)).bodies,
      (decode ((decode s).rest ++ t)).rest, (decode ((decode s).rest ++ t)).fault⟩ := by
  -- on the frames of `s`: the first one is still the first with `t` behind
  fun_induction decode s with
  | case1 s h => simp
  | case2 s e h => simp
  | case3 s body rest h later ih =>
    rw [decode_of_whole (take_append_of_whole h t), ih]
    simp [later]

/-- Nothing more can be cut off what decoding leaves, and a fault stays where it is. -/
lemma decode_rest (s : Bytes) :
    decode (decode s).rest = ⟨[], (decode s).rest, (decode s).fault⟩ := by
  fun_induction decode s with
  | case1 s h => exact decode_of_incomplete h
  | case2 s e h => exact decode_of_rejected h
  | case3 s body rest h later ih => exact ih

/-- What stands at the front of the bytes that decoding leaves: a rejected header if there was a
fault, and otherwise the beginning of a frame. -/
lemma take_rest (s : Bytes) :
    take (decode s).rest = match (decode s).fault with
      | some e => .rejected e
      | none => .incomplete := by
  have hd := decode_rest s
  cases ht : take (decode s).rest with
  | incomplete =>
    rw [decode_of_incomplete ht, Decoded.mk.injEq] at hd
    rw [← hd.2.2]
  | rejected e =>
    rw [decode_of_rejected ht, Decoded.mk.injEq] at hd
    rw [← hd.2.2]
  | whole body rest =>
    rw [decode_of_whole ht, Decoded.mk.injEq] at hd
    exact absurd hd.1 (by simp)

lemma rest_of_bodies_nil {s : Bytes} (h : (decode s).bodies = []) : (decode s).rest = s := by
  cases ht : take s with
  | incomplete => rw [decode_of_incomplete ht]
  | rejected e => rw [decode_of_rejected ht]
  | whole body rest => rw [decode_of_whole ht] at h; exact absurd h (by simp)

/-- After a fault nothing more is decoded, whatever arrives. -/
lemma decode_append_of_fault {s : Bytes} {e : FrameError} (h : (decode s).fault = some e)
    (t : Bytes) :
    decode (s ++ t) = ⟨(decode s).bodies, (decode s).rest ++ t, some e⟩ := by
  have hrest := take_rest s
  rw [h] at hrest
  rw [decode_append, decode_of_rejected (take_append_of_rejected hrest t), List.append_nil]

/-- Decoding cuts frames off for as long as there are any, and stops for good. -/
theorem cut_iff {s left : Bytes} {bodies : List Bytes} :
    Cut s bodies left ↔ (decode s).bodies = bodies ∧ (decode s).rest = left := by
  constructor
  · intro h
    induction h with
    | @stop s h =>
      cases ht : take s with
      | incomplete => simp [decode_of_incomplete ht]
      | rejected e => simp [decode_of_rejected ht]
      | whole body rest => exact absurd (take_eq_whole_iff.1 ht) (h body rest)
    | frame h _ ih =>
      obtain ⟨rfl, rfl⟩ := ih
      simp [decode_of_whole (take_eq_whole_iff.2 h)]
  · rintro ⟨rfl, rfl⟩
    fun_induction decode s with
    | case1 s h => exact .stop fun body rest hl => by simp [take_eq_whole_iff.2 hl] at h
    | case2 s e h => exact .stop fun body rest hl => by simp [take_eq_whole_iff.2 hl] at h
    | case3 s body rest h later ih => exact .frame (take_eq_whole_iff.1 h) ih

end ServerLink.Frame
