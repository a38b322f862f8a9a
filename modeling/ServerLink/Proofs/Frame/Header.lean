import Mathlib
import ServerLink.Proofs.Frame.Decode
import ServerLink.Proofs.Text.Blank
import ServerLink.Proofs.Text.Decimal
import ServerLink.Proofs.Text.Utf8

/-!
# Reading back one's own header

The header that `encode` writes gives the length that it was written for, so a frame that was
written is found again at the front of any stream.

* `readLength_lengthLine` — the block in front of the separator gives the length.
* **`take_encode`** — a frame that was written leads the stream that begins with it.
* `decode_encodes` — so does a whole row of frames.
-/

namespace ServerLink.Frame

def lengthLabel : List Char := "Content-Length: ".toList

/-- The one line of the header for a length. -/
def lengthLine (length : Nat) : List Char := lengthLabel ++ Nat.toDigits 10 length

/-! ## The line as text -/

/-- Nothing but the blank in front of the digits is trimmed off the value. -/
lemma trim_blank_digits (length : Nat) :
    Text.trim (' ' :: Nat.toDigits 10 length) = Nat.toDigits 10 length := by
  rw [Text.trim_cons (by decide), Text.trim_of_forall]
  intro c hc
  exact Text.isBlank_of_isDigit (Decimal.isDigit_toDigits length c hc)

lemma lengthValue?_line (length : Nat) :
    lengthValue? (lengthLine length) = some (Nat.toDigits 10 length) := by
  have hsplit : Text.splitAtFirst ':' (lengthLine length)
      = some ("Content-Length".toList, ' ' :: Nat.toDigits 10 length) := rfl
  have hname : Text.sameIgnoringCase (Text.trim "Content-Length".toList) lengthName = true := by
    decide
  rw [lengthValue?, hsplit]
  simp only [hname, if_true, trim_blank_digits]

/-- The line has neither a carriage return nor a line feed, nor anything else that is no ASCII
character above the blank. -/
lemma toNat_lengthLine {length : Nat} {c : Char} (h : c ∈ lengthLine length) :
    32 ≤ c.toNat ∧ c.toNat < 0x80 := by
  rw [lengthLine, List.mem_append] at h
  rcases h with h | h
  · have hall : lengthLabel.all (fun d => 32 ≤ d.toNat && d.toNat < 0x80) = true := rfl
    have hc := List.all_eq_true.1 hall c h
    rwa [Bool.and_eq_true, decide_eq_true_eq, decide_eq_true_eq] at hc
  · have hd := Decimal.isDigit_toDigits length c h
    rw [Char.isDigit, Bool.and_eq_true, decide_eq_true_eq, decide_eq_true_eq] at hd
    have hlow : 48 ≤ c.toNat := hd.1
    have hhigh : c.toNat ≤ 57 := hd.2
    omega

/-- **The header line that is written gives the length it was written for**, up to the limit. -/
lemma readLength_lengthLine {length : Nat} (h : length ≤ limit) :
    readLength (lengthLine length) = .ok length := by
  have hfeed : '\n' ∉ lengthLine length := by
    intro hc
    exact absurd (toNat_lengthLine hc).1 (by decide)
  have hne : lengthLine length ≠ [] := List.append_ne_nil_of_left_ne_nil (by decide) _
  have hbound : length < Decimal.limit64 := lt_of_le_of_lt h (by simp [limit, Decimal.limit64])
  rw [readLength, Text.lines_of_notMem hfeed hne, List.findSome?_cons, lengthValue?_line]
  simp only [Decimal.natBelow?_toDigits hbound, Nat.not_lt.2 h, if_false]

/-! ## The frame as bytes -/

def headerBlock (length : Nat) : Bytes := Utf8.encode (lengthLine length)

lemma header_bytes (length : Nat) :
    Utf8.ofString (header length) = headerBlock length ++ separator := by
  have hdigits : Utf8.ofString (Decimal.ofNat length) = Utf8.encode (Nat.toDigits 10 length) := by
    rw [Utf8.ofString, Decimal.ofNat, String.toList_ofList]
  have hline : Utf8.ofString ("Content-Length: " ++ Decimal.ofNat length) = headerBlock length := by
    rw [Utf8.ofString_append, hdigits, headerBlock, lengthLine, Utf8.encode_append]
    rfl
  calc Utf8.ofString (header length)
      = Utf8.ofString ("Content-Length: " ++ Decimal.ofNat length) ++ Utf8.ofString "\r\n\r\n" :=
        Utf8.ofString_append _ _
    _ = headerBlock length ++ separator := by rw [hline]; rfl

lemma encode_eq (body : Bytes) : encode body = headerBlock body.length ++ separator ++ body := by
  rw [encode, header_bytes]

lemma return_notMem_headerBlock (length : Nat) : (0x0D : UInt8) ∉ headerBlock length := by
  intro h
  rw [headerBlock, Utf8.encode, List.mem_flatMap] at h
  obtain ⟨c, hc, hb⟩ := h
  have hn := toNat_lengthLine hc
  rw [Utf8.encodeChar_ascii hn.2, List.mem_singleton] at hb
  have := congrArg UInt8.toNat hb
  rw [Utf8.toNat_toUInt8 (by omega)] at this
  simp at this
  omega

/-- **A frame that was written is found at the front of what begins with it.** -/
theorem take_encode {body : Bytes} (h : body.length ≤ limit) (rest : Bytes) :
    take (encode body ++ rest) = .whole body rest := by
  rw [take_eq_whole_iff]
  refine ⟨headerBlock body.length, ?_, ?_⟩
  · rw [encode_eq, List.append_assoc]
    exact splits_of_notMem (return_notMem_headerBlock _) _
  · rw [headerBlock, Utf8.decodeLossy_encode, readLength_lengthLine h]

/-- A row of frames decodes to its bodies, and nothing is left. -/
theorem decode_encodes {bodies : List Bytes} (h : ∀ b ∈ bodies, b.length ≤ limit) :
    decode (bodies.map encode).flatten = ⟨bodies, [], none⟩ := by
  induction bodies with
  | nil => exact decode_of_incomplete rfl
  | cons body bodies ih =>
    rw [List.map_cons, List.flatten_cons, decode_of_whole (take_encode (h body (by simp)) _),
      ih fun b hb => h b (by simp [hb])]

/-- A message that arrives whole is there to be taken, and nothing else is. -/
lemma absorb_ofMessage {text : String} (h : (Utf8.ofString text).length ≤ limit)
    (hclean : complaint? (Utf8.ofString text) = none) :
    Decoder.empty.absorb (ofMessage text) = ⟨⟨[], [text]⟩, [], none⟩ := by
  have hdecode : decode (ofMessage text) = ⟨[Utf8.ofString text], [], none⟩ := by
    have hrow : decode ([Utf8.ofString text].map encode).flatten = _ :=
      decode_encodes (by simpa using h)
    simpa [ofMessage] using hrow
  simp [Decoder.absorb, Decoder.empty, hdecode, hclean, message, Utf8.toStringLossy_ofString]

end ServerLink.Frame
