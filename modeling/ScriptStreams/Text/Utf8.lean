import ScriptStreams.Bytes
/-!
# UTF-8 with replacement

Reading bytes as text never fails: every maximal ill-formed subpart (a longest start of a
well-formed sequence that cannot be continued, or one byte that starts none) reads as one
replacement character.
-/
namespace ScriptStreams.Text

def replacement : Char := Char.ofNat 0xfffd

/-- What a lead byte announces: how many bytes follow, the bits it contributes and the range its
first follower must lie in. -/
structure Lead where
  followers : Nat
  bits : Nat
  low : Nat
  high : Nat

/-- The well-formed lead bytes of two to four byte sequences. The ranges of the first follower
exclude overlong forms, surrogates and values above 0x10ffff. -/
def lead? (b : UInt8) : Option Lead :=
  let n := b.toNat
  if 0xc2 ≤ n ∧ n ≤ 0xdf then some ⟨1, n - 0xc0, 0x80, 0xbf⟩
  else if n = 0xe0 then some ⟨2, 0, 0xa0, 0xbf⟩
  else if n = 0xed then some ⟨2, 0xd, 0x80, 0x9f⟩
  else if 0xe1 ≤ n ∧ n ≤ 0xef then some ⟨2, n - 0xe0, 0x80, 0xbf⟩
  else if n = 0xf0 then some ⟨3, 0, 0x90, 0xbf⟩
  else if 0xf1 ≤ n ∧ n ≤ 0xf3 then some ⟨3, n - 0xf0, 0x80, 0xbf⟩
  else if n = 0xf4 then some ⟨3, 4, 0x80, 0x8f⟩
  else none

def isFollower (low high : Nat) (b : UInt8) : Bool := low ≤ b.toNat && b.toNat ≤ high

/-- The code point so far, with six more bits. -/
def extend (bits : Nat) (b : UInt8) : Nat := bits * 64 + (b.toNat - 0x80)

/-- The characters that `bytes` writes, ill-formed parts replaced. -/
def decodeLossy : Bytes → List Char
  | [] => []
  | b₀ :: rest₀ =>
    if b₀.toNat < 0x80 then Char.ofNat b₀.toNat :: decodeLossy rest₀ else
    match lead? b₀ with
    | none => replacement :: decodeLossy rest₀
    | some lead =>
      match rest₀ with
      | [] => [replacement]
      | b₁ :: rest₁ =>
        if !isFollower lead.low lead.high b₁ then replacement :: decodeLossy (b₁ :: rest₁) else
        let n₁ := extend lead.bits b₁
        if lead.followers = 1 then Char.ofNat n₁ :: decodeLossy rest₁ else
        match rest₁ with
        | [] => [replacement]
        | b₂ :: rest₂ =>
          if !isFollower 0x80 0xbf b₂ then replacement :: decodeLossy (b₂ :: rest₂) else
          let n₂ := extend n₁ b₂
          if lead.followers = 2 then Char.ofNat n₂ :: decodeLossy rest₂ else
          match rest₂ with
          | [] => [replacement]
          | b₃ :: rest₃ =>
            if !isFollower 0x80 0xbf b₃ then replacement :: decodeLossy (b₃ :: rest₃) else
            Char.ofNat (extend n₂ b₃) :: decodeLossy rest₃

/-- The text that `bytes` writes, ill-formed parts replaced, as `RuntimeGuard::new_str` reads it. -/
def ofBytesLossy (bytes : Bytes) : String := String.ofList (decodeLossy bytes)

/-- The text that `bytes` writes, if they are well-formed. -/
def ofBytes? (bytes : Bytes) : Option String := String.fromUTF8? ⟨bytes.toArray⟩

/-- The UTF-8 form of a text. -/
def toBytes (text : String) : Bytes := text.toUTF8.data.toList

theorem decodeLossy_ascii (b : UInt8) (rest : Bytes) (h : b.toNat < 0x80) :
    decodeLossy (b :: rest) = Char.ofNat b.toNat :: decodeLossy rest := by
  rw [decodeLossy.eq_def]; simp [h]

-- a surrogate and a start broken off read as three and one replacement characters
example : decodeLossy [0xed, 0xa0, 0x80] = [replacement, replacement, replacement] ∧
    decodeLossy [0xe1, 0x80, 0x41] = [replacement, 'A'] := by
  decide

end ScriptStreams.Text
