import KeyChords.Text.Quoted

/-! # UTF-8

A decoder that reads one byte at a time. Between characters it expects a lead byte; inside one it
knows how many continuation bytes are owed and the bounds of the next, so overlong forms, surrogates
and values past U+10FFFF are refused at the first byte that rules them out. A refusal covers the
bytes of the unfinished character that were still acceptable. Every text is read back from the bytes
that encode it.
-/

namespace KeyChords.Text.Utf8

/-- Why bytes are no UTF-8. -/
inductive Reason where
  | invalidStart
  | invalidContinuation
  | unexpectedEnd
  deriving DecidableEq, Repr

/-- The wording of a reason. -/
def Reason.message : Reason → String
  | .invalidStart => "invalid start byte"
  | .invalidContinuation => "invalid continuation byte"
  | .unexpectedEnd => "unexpected end of data"

/-- **A place where a byte sequence stops being UTF-8**: the position and the value of the first
byte of the malformed character, how many of its bytes were acceptable, and what was wrong next. -/
structure Malformed where
  position : Nat
  lead : UInt8
  width : Nat
  reason : Reason
  deriving DecidableEq, Repr

/-- The wording of bytes that are no UTF-8. -/
def Malformed.message (malformed : Malformed) : String :=
  let place :=
    if malformed.width = 1 then
      "byte 0x" ++ String.ofList (hexDigits 2 malformed.lead.toNat) ++ " in position " ++
        toString malformed.position
    else
      "bytes in position " ++ toString malformed.position ++ "-" ++
        toString (malformed.position + malformed.width - 1)
  "'utf-8' codec can't decode " ++ place ++ ": " ++ malformed.reason.message

/-- A character whose lead byte is read and whose continuation bytes are not. -/
structure Pending where
  position : Nat
  lead : UInt8
  width : Nat
  owed : Nat
  low : UInt8
  high : UInt8
  bits : Nat

/-- The fault of a character that is not completed. -/
def Pending.malformed (pending : Pending) (reason : Reason) : Malformed :=
  ⟨pending.position, pending.lead, pending.width, reason⟩

/-- What a lead byte past ASCII begins; the bytes that begin nothing have no answer. -/
def Pending.ofLead? (position : Nat) (lead : UInt8) : Option Pending :=
  let pending (owed : Nat) (low high : UInt8) (offset : Nat) : Option Pending :=
    some ⟨position, lead, 1, owed, low, high, lead.toNat - offset⟩
  if lead < 0xc2 then none
  else if lead < 0xe0 then pending 0 0x80 0xbf 0xc0
  else if lead = 0xe0 then pending 1 0xa0 0xbf 0xe0
  else if lead = 0xed then pending 1 0x80 0x9f 0xe0
  else if lead < 0xf0 then pending 1 0x80 0xbf 0xe0
  else if lead = 0xf0 then pending 2 0x90 0xbf 0xf0
  else if lead < 0xf4 then pending 2 0x80 0xbf 0xf0
  else if lead = 0xf4 then pending 2 0x80 0x8f 0xf0
  else none

/-- Reads on from a position, in the middle of a character or between two. -/
def decodeFrom (position : Nat) : Option Pending → List UInt8 → Except Malformed (List Char)
  | none, [] => .ok []
  | some pending, [] => .error (pending.malformed .unexpectedEnd)
  | none, byte :: rest =>
    if byte < 0x80 then
      (Char.ofNat byte.toNat :: ·) <$> decodeFrom (position + 1) none rest
    else
      match Pending.ofLead? position byte with
      | none => .error ⟨position, byte, 1, .invalidStart⟩
      | some pending => decodeFrom (position + 1) (some pending) rest
  | some pending, byte :: rest =>
    if pending.low ≤ byte ∧ byte ≤ pending.high then
      let bits := 64 * pending.bits + (byte.toNat - 0x80)
      match pending.owed with
      | 0 => (Char.ofNat bits :: ·) <$> decodeFrom (position + 1) none rest
      | owed + 1 =>
        decodeFrom (position + 1)
          (some ⟨pending.position, pending.lead, pending.width + 1, owed, 0x80, 0xbf, bits⟩) rest
    else .error (pending.malformed .invalidContinuation)

/-- **The bytes of a text.** -/
def encode (text : String) : List UInt8 :=
  text.toList.flatMap String.utf8EncodeChar

/-- **The text that bytes encode**, if they encode one. -/
def decode (bytes : List UInt8) : Except Malformed String :=
  String.ofList <$> decodeFrom 0 none bytes

/-! ## Reading back what was written -/

private theorem toNat_byte {value : Nat} (small : value < 256) :
    (UInt8.ofNat value).toNat = value := by
  simp only [UInt8.toNat_ofNat']
  omega

private theorem ofLead?_two (position : Nat) {bits : Nat} (low : 2 ≤ bits) (high : bits < 32) :
    Pending.ofLead? position (UInt8.ofNat (bits + 192)) =
      some ⟨position, UInt8.ofNat (bits + 192), 1, 0, 0x80, 0xbf, bits⟩ := by
  have value := toNat_byte (show bits + 192 < 256 by omega)
  unfold Pending.ofLead?
  simp only [UInt8.lt_iff_toNat_lt, value, UInt8.reduceToNat]
  rw [if_neg (by omega), if_pos (by omega)]
  simp

private theorem ofLead?_three (position : Nat) {bits : Nat} (high : bits < 16) :
    Pending.ofLead? position (UInt8.ofNat (bits + 224)) =
      some ⟨position, UInt8.ofNat (bits + 224), 1, 1, if bits = 0 then 0xa0 else 0x80,
        if bits = 13 then 0x9f else 0xbf, bits⟩ := by
  have value := toNat_byte (show bits + 224 < 256 by omega)
  unfold Pending.ofLead?
  simp only [UInt8.lt_iff_toNat_lt, ← UInt8.toNat_inj, value, UInt8.reduceToNat]
  rw [if_neg (by omega), if_neg (by omega)]
  by_cases first : bits = 0
  · subst first; rfl
  · rw [if_neg (by omega)]
    by_cases surrogate : bits = 13
    · subst surrogate; rfl
    · rw [if_neg (by omega), if_pos (by omega)]
      simp [first, surrogate]

private theorem ofLead?_four (position : Nat) {bits : Nat} (high : bits < 5) :
    Pending.ofLead? position (UInt8.ofNat (bits + 240)) =
      some ⟨position, UInt8.ofNat (bits + 240), 1, 2, if bits = 0 then 0x90 else 0x80,
        if bits = 4 then 0x8f else 0xbf, bits⟩ := by
  have cases : bits = 0 ∨ bits = 1 ∨ bits = 2 ∨ bits = 3 ∨ bits = 4 := by omega
  rcases cases with rfl | rfl | rfl | rfl | rfl <;> rfl

private theorem decodeFrom_continuation (position : Nat) (pending : Pending) {bits : Nat}
    (rest : List UInt8) (small : bits < 64) (low : pending.low.toNat ≤ bits + 128)
    (high : bits + 128 ≤ pending.high.toNat) :
    decodeFrom position (some pending) (UInt8.ofNat (bits + 128) :: rest) =
      match pending.owed with
      | 0 => (Char.ofNat (64 * pending.bits + bits) :: ·) <$> decodeFrom (position + 1) none rest
      | owed + 1 =>
        decodeFrom (position + 1)
          (some ⟨pending.position, pending.lead, pending.width + 1, owed, 0x80, 0xbf,
            64 * pending.bits + bits⟩) rest := by
  have value := toNat_byte (show bits + 128 < 256 by omega)
  rw [decodeFrom, if_pos]
  · simp only [value]
    cases pending.owed <;> simp
  · simp only [UInt8.le_iff_toNat_le, value]
    exact ⟨low, high⟩

private theorem decodeFrom_encodeChar (position : Nat) (c : Char) (rest : List UInt8) :
    decodeFrom position none (String.utf8EncodeChar c ++ rest) =
      (c :: ·) <$> decodeFrom (position + (String.utf8EncodeChar c).length) none rest := by
  have valid : c.toNat < 55296 ∨ 57343 < c.toNat ∧ c.toNat < 1114112 := c.valid
  have back := Char.ofNat_toNat c
  generalize code : c.toNat = v at valid back
  have bytes : String.utf8EncodeChar c =
      if v ≤ 127 then [UInt8.ofNat v]
      else if v ≤ 2047 then [UInt8.ofNat (v / 64 + 192), UInt8.ofNat (v % 64 + 128)]
      else if v ≤ 65535 then
        [UInt8.ofNat (v / 4096 + 224), UInt8.ofNat (v / 64 % 64 + 128),
          UInt8.ofNat (v % 64 + 128)]
      else
        [UInt8.ofNat (v / 262144 + 240), UInt8.ofNat (v / 4096 % 64 + 128),
          UInt8.ofNat (v / 64 % 64 + 128), UInt8.ofNat (v % 64 + 128)] := by
    have value : c.val.toNat = v := code
    unfold String.utf8EncodeChar
    simp only [value]
    split
    · rfl
    · split
      · rw [show v / 64 % 32 = v / 64 by omega]
      · split
        · rw [show v / 4096 % 16 = v / 4096 by omega]
        · rw [show v / 262144 % 8 = v / 262144 by omega]
  rw [bytes]
  split
  · rename_i ascii
    have value := toNat_byte (show v < 256 by omega)
    simp only [List.cons_append, List.nil_append, List.length_cons, List.length_nil]
    rw [decodeFrom, if_pos (by simp only [UInt8.lt_iff_toNat_lt, value, UInt8.reduceToNat]; omega)]
    simp only [value, back]
  · have lead (bits : Nat) (low : 192 ≤ bits) (high : bits < 256) :
        ¬ (UInt8.ofNat bits < 0x80) := by
      simp only [UInt8.lt_iff_toNat_lt, toNat_byte high, UInt8.reduceToNat]
      omega
    split
    · simp only [List.cons_append, List.nil_append, List.length_cons, List.length_nil]
      rw [decodeFrom, if_neg (lead _ (by omega) (by omega))]
      simp only [@ofLead?_two position (v / 64) (by omega) (by omega)]
      rw [decodeFrom_continuation _ _ _ (by omega) (by simp) (by simp; omega)]
      simp only [show 64 * (v / 64) + v % 64 = v by omega, back, Nat.add_assoc]
    · split
      · simp only [List.cons_append, List.nil_append, List.length_cons, List.length_nil]
        rw [decodeFrom, if_neg (lead _ (by omega) (by omega))]
        simp only [@ofLead?_three position (v / 4096) (by omega)]
        rw [decodeFrom_continuation _ _ _ (by omega)
          (by dsimp only; split <;> (simp only [UInt8.reduceToNat]; omega))
          (by dsimp only; split <;> (simp only [UInt8.reduceToNat]; omega))]
        simp only
        rw [decodeFrom_continuation _ _ _ (by omega) (by simp) (by simp; omega)]
        simp only [show 64 * (64 * (v / 4096) + v / 64 % 64) + v % 64 = v by omega, back,
          Nat.add_assoc]
      · simp only [List.cons_append, List.nil_append, List.length_cons, List.length_nil]
        rw [decodeFrom, if_neg (lead _ (by omega) (by omega))]
        simp only [@ofLead?_four position (v / 262144) (by omega)]
        rw [decodeFrom_continuation _ _ _ (by omega)
          (by dsimp only; split <;> (simp only [UInt8.reduceToNat]; omega))
          (by dsimp only; split <;> (simp only [UInt8.reduceToNat]; omega))]
        simp only
        rw [decodeFrom_continuation _ _ _ (by omega) (by simp) (by simp; omega)]
        simp only
        rw [decodeFrom_continuation _ _ _ (by omega) (by simp) (by simp; omega)]
        simp only [show 64 * (64 * (64 * (v / 262144) + v / 4096 % 64) + v / 64 % 64) + v % 64 = v
          by omega, back, Nat.add_assoc]

/-- **A text is read back from the bytes that encode it.** -/
theorem decode_encode (text : String) : decode (encode text) = .ok text := by
  have whole (position : Nat) (chars : List Char) :
      decodeFrom position none (chars.flatMap String.utf8EncodeChar) = .ok chars := by
    induction chars generalizing position with
    | nil => rfl
    | cons c rest hyp =>
      simp only [List.flatMap_cons, decodeFrom_encodeChar, hyp]
      rfl
  unfold decode encode
  rw [whole]
  simp [Functor.map, Except.map]

end KeyChords.Text.Utf8
