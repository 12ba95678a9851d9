import ScriptStreams.Text.Utf8
/-!
# Well-formed text

Reading with replacement leaves well-formed text alone. The bytes of a character are a lead byte and as many followers as it
announces (`lead?_two`, `lead?_three`, `lead?_four`), so a character reads as itself, and so does every text
(`ofBytesLossy_toBytes`).
-/
namespace ScriptStreams.Text

theorem lead?_of_ascii {b : UInt8} (ascii : b.toNat < 0x80) : lead? b = none := by
  unfold lead?
  generalize b.toNat = n at ascii
  dsimp only
  repeat rw [if_neg (by omega)]

section Sequences

variable {b₀ b₁ b₂ b₃ : UInt8} {lead : Lead}

theorem not_ascii_of_lead (leads : lead? b₀ = some lead) : ¬ b₀.toNat < 0x80 := by
  intro ascii
  rw [lead?_of_ascii ascii] at leads
  cases leads

theorem decodeLossy_two (leads : lead? b₀ = some lead) (two : lead.followers = 1)
    (second : isFollower lead.low lead.high b₁ = true) (rest : Bytes) :
    decodeLossy (b₀ :: b₁ :: rest) = Char.ofNat (extend lead.bits b₁) :: decodeLossy rest := by
  rw [decodeLossy.eq_def]
  simp [not_ascii_of_lead leads, leads, second, two]

theorem decodeLossy_three (leads : lead? b₀ = some lead) (three : lead.followers = 2)
    (second : isFollower lead.low lead.high b₁ = true) (third : isFollower 0x80 0xbf b₂ = true) (rest : Bytes) :
    decodeLossy (b₀ :: b₁ :: b₂ :: rest) = Char.ofNat (extend (extend lead.bits b₁) b₂) :: decodeLossy rest := by
  rw [decodeLossy.eq_def]
  simp [not_ascii_of_lead leads, leads, second, third, three]

theorem decodeLossy_four (leads : lead? b₀ = some lead) (four : lead.followers = 3)
    (second : isFollower lead.low lead.high b₁ = true) (third : isFollower 0x80 0xbf b₂ = true)
    (fourth : isFollower 0x80 0xbf b₃ = true) (rest : Bytes) :
    decodeLossy (b₀ :: b₁ :: b₂ :: b₃ :: rest) =
      Char.ofNat (extend (extend (extend lead.bits b₁) b₂) b₃) :: decodeLossy rest := by
  rw [decodeLossy.eq_def]
  simp [not_ascii_of_lead leads, leads, second, third, fourth, four]

end Sequences

theorem toNat_byte {n : Nat} (small : n < 256) : (UInt8.ofNat n).toNat = n := by
  rw [UInt8.toNat_ofNat']
  exact Nat.mod_eq_of_lt small

/-- The byte behind the first one that carries the six bits `n`. -/
def follower (n : Nat) : UInt8 := UInt8.ofNat (n + 0x80)

theorem isFollower_follower {low high n : Nat} (six : n < 64) (above : low ≤ n + 0x80) (below : n + 0x80 ≤ high) :
    isFollower low high (follower n) = true := by
  unfold isFollower follower
  rw [toNat_byte (by omega), decide_eq_true above, decide_eq_true below, Bool.and_self]

theorem isFollower_later {n : Nat} (six : n < 64) : isFollower 0x80 0xbf (follower n) = true :=
  isFollower_follower six (by omega) (by omega)

theorem extend_follower {n : Nat} (bits : Nat) (six : n < 64) : extend bits (follower n) = bits * 64 + n := by
  unfold extend follower
  rw [toNat_byte (by omega), Nat.add_sub_cancel]

theorem lead?_two {n : Nat} (least : 2 ≤ n) (five : n < 32) :
    lead? (UInt8.ofNat (n + 0xc0)) = some ⟨1, n, 0x80, 0xbf⟩ := by
  have range : 0xc2 ≤ n + 0xc0 ∧ n + 0xc0 ≤ 0xdf := by omega
  unfold lead?
  rw [toNat_byte (by omega), if_pos range, Nat.add_sub_cancel]

/-- The first byte of three, and six bits behind it that make neither an overlong form nor a surrogate. -/
theorem lead?_three {n m : Nat} (four : n < 16) (six : m < 64) (long : n = 0 → 32 ≤ m) (plain : n = 13 → m < 32) :
    ∃ low high, lead? (UInt8.ofNat (n + 0xe0)) = some ⟨2, n, low, high⟩ ∧ isFollower low high (follower m) = true := by
  unfold lead?
  rw [toNat_byte (by omega)]
  dsimp only
  rw [if_neg (by omega)]
  by_cases zero : n = 0
  · subst zero
    exact ⟨0xa0, 0xbf, rfl, isFollower_follower six (by have := long rfl; omega) (by omega)⟩
  by_cases thirteen : n = 13
  · subst thirteen
    exact ⟨0x80, 0x9f, rfl, isFollower_follower six (by omega) (by have := plain rfl; omega)⟩
  · refine ⟨0x80, 0xbf, ?_, isFollower_later six⟩
    rw [if_neg (by omega), if_neg (by omega), if_pos (by omega), Nat.add_sub_cancel]

/-- The first byte of four, and six bits behind it that make neither an overlong form nor more than there are
characters. -/
theorem lead?_four {n m : Nat} (most : n ≤ 4) (six : m < 64) (long : n = 0 → 16 ≤ m) (within : n = 4 → m < 16) :
    ∃ low high, lead? (UInt8.ofNat (n + 0xf0)) = some ⟨3, n, low, high⟩ ∧ isFollower low high (follower m) = true := by
  unfold lead?
  rw [toNat_byte (by omega)]
  dsimp only
  rw [if_neg (by omega), if_neg (by omega), if_neg (by omega), if_neg (by omega)]
  by_cases zero : n = 0
  · subst zero
    exact ⟨0x90, 0xbf, rfl, isFollower_follower six (by have := long rfl; omega) (by omega)⟩
  by_cases four : n = 4
  · subst four
    exact ⟨0x80, 0x8f, rfl, isFollower_follower six (by omega) (by have := within rfl; omega)⟩
  · refine ⟨0x80, 0xbf, ?_, isFollower_later six⟩
    rw [if_neg (by omega), if_pos (by omega), Nat.add_sub_cancel]

/-- A character reads as itself, whatever follows it. -/
theorem decodeLossy_encodeChar (c : Char) (rest : Bytes) :
    decodeLossy (String.utf8EncodeChar c ++ rest) = c :: decodeLossy rest := by
  have range : c.val.toNat < 0xd800 ∨ (0xdfff < c.val.toNat ∧ c.val.toNat < 0x110000) := c.valid
  have back : Char.ofNat c.val.toNat = c := Char.ofNat_toNat c
  unfold String.utf8EncodeChar
  generalize c.val.toNat = v at range back ⊢
  dsimp only
  have last : v % 64 < 64 := by omega
  have middle : v / 64 % 64 < 64 := by omega
  by_cases one : v ≤ 0x7f
  · have ascii : (UInt8.ofNat v).toNat = v := toNat_byte (by omega)
    rw [if_pos one, List.singleton_append, decodeLossy_ascii _ _ (by omega), ascii, back]
  rw [if_neg one]
  by_cases two : v ≤ 0x7ff
  · have leads : lead? (UInt8.ofNat (v / 64 % 32 + 0xc0)) = _ := lead?_two (by omega) (by omega)
    have same : v / 64 % 32 * 64 + v % 64 = v := by omega
    rw [if_pos two]
    refine (decodeLossy_two leads rfl (isFollower_later last) rest).trans ?_
    rw [extend_follower _ last, same, back]
  rw [if_neg two]
  by_cases three : v ≤ 0xffff
  · obtain ⟨low, high, leads, second⟩ := lead?_three (n := v / 4096 % 16) (by omega) middle (by omega) (by omega)
    have same : (v / 4096 % 16 * 64 + v / 64 % 64) * 64 + v % 64 = v := by omega
    rw [if_pos three]
    refine (decodeLossy_three leads rfl second (isFollower_later last) rest).trans ?_
    rw [extend_follower _ middle, extend_follower _ last, same, back]
  · have first : v / 4096 % 64 < 64 := by omega
    obtain ⟨low, high, leads, second⟩ := lead?_four (n := v / 262144 % 8) (by omega) first (by omega) (by omega)
    have same : ((v / 262144 % 8 * 64 + v / 4096 % 64) * 64 + v / 64 % 64) * 64 + v % 64 = v := by omega
    rw [if_neg three]
    refine (decodeLossy_four leads rfl second (isFollower_later middle) (isFollower_later last) rest).trans ?_
    rw [extend_follower _ first, extend_follower _ middle, extend_follower _ last, same, back]

theorem toBytes_eq (text : String) : toBytes text = text.toList.flatMap String.utf8EncodeChar := by
  unfold toBytes String.toUTF8
  rw [← String.utf8Encode_toList, List.utf8Encode, List.data_toByteArray]

/-- **A text reads as itself.** -/
theorem ofBytesLossy_toBytes (text : String) : ofBytesLossy (toBytes text) = text := by
  have chars (cs : List Char) : decodeLossy (cs.flatMap String.utf8EncodeChar) = cs := by
    induction cs with
    | nil => rfl
    | cons c cs ih => rw [List.flatMap_cons, decodeLossy_encodeChar, ih]
  rw [ofBytesLossy, toBytes_eq, chars, String.ofList_toList]

end ScriptStreams.Text
