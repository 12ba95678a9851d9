import ScriptStreams.AddressSpace
/-!
# Devices that cannot be told apart

`Device.Simulates d e R`: from states that `R` relates, seeks, sizes and reads give the same answers on
both devices and lead to related states. Then swapped quantities agree, and so does all that is made of single bytes
and full reads: lines, strings and whole loads of an address space. These ask for less (`Device.Resembles`): a plain read
may be cut short on one device and not on the other, if what is put together from reads is the same.
-/
namespace ScriptStreams

variable {σ τ : Type}

/-- The same answer, in related states. -/
def Agree {α : Type} (R : σ → τ → Prop) (x : α × σ) (y : α × τ) : Prop := x.1 = y.1 ∧ R x.2 y.2

structure Device.Simulates (d : Device σ) (e : Device τ) (R : σ → τ → Prop) : Prop where
  seek : ∀ offset whence {s : σ} {t : τ}, R s t → Agree R (d.seek offset whence s) (e.seek offset whence t)
  size : ∀ {s : σ} {t : τ}, R s t → d.size s = e.size t
  read : ∀ n {s : σ} {t : τ}, R s t → Agree R (d.read n s) (e.read n t)

/-- Devices that agree on seeks, sizes, single bytes and full reads. -/
structure Device.Resembles (d : Device σ) (e : Device τ) (R : σ → τ → Prop) : Prop where
  seek : ∀ offset whence {s : σ} {t : τ}, R s t → Agree R (d.seek offset whence s) (e.seek offset whence t)
  size : ∀ {s : σ} {t : τ}, R s t → d.size s = e.size t
  nextByte : ∀ {s : σ} {t : τ}, R s t → Agree R (d.nextByte s) (e.nextByte t)
  readFull : ∀ want {s : σ} {t : τ}, R s t → Agree R (d.readFull want want s) (e.readFull want want t)

/-! ## What is put together from reads -/

namespace Device.Resembles

variable {d : Device σ} {e : Device τ} {R : σ → τ → Prop} {s : σ} {t : τ}

theorem takeLine (h : d.Resembles e R) (limit : Nat) (hr : R s t) :
    Agree R (d.takeLine limit s) (e.takeLine limit t) := by
  induction limit generalizing s t with
  | zero => exact ⟨rfl, hr⟩
  | succ limit ih =>
    obtain ⟨same, related⟩ := h.nextByte hr
    unfold Device.takeLine
    generalize d.nextByte s = x at same related
    generalize e.nextByte t = y at same related
    obtain ⟨b, s'⟩ := x
    obtain ⟨b', t'⟩ := y
    obtain rfl : b = b' := same
    cases b with
    | none => exact ⟨rfl, related⟩
    | some b =>
      obtain ⟨same, after⟩ := ih related
      dsimp only
      split
      · exact ⟨rfl, related⟩
      · exact ⟨by simp only [same], after⟩

theorem takeString (h : d.Resembles e R) (limit : Nat) (hr : R s t) :
    (d.takeString limit s).1 = (e.takeString limit t).1 ∧ Agree R (d.takeString limit s).2 (e.takeString limit t).2 := by
  induction limit generalizing s t with
  | zero => exact ⟨rfl, rfl, hr⟩
  | succ limit ih =>
    obtain ⟨same, related⟩ := h.nextByte hr
    unfold Device.takeString
    generalize d.nextByte s = x at same related
    generalize e.nextByte t = y at same related
    obtain ⟨b, s'⟩ := x
    obtain ⟨b', t'⟩ := y
    obtain rfl : b = b' := same
    cases b with
    | none => exact ⟨rfl, rfl, related⟩
    | some b =>
      obtain ⟨same, -, after⟩ := ih related
      dsimp only
      split
      · exact ⟨rfl, rfl, related⟩
      · exact ⟨by simp only [same], rfl, after⟩

theorem readLine (h : d.Resembles e R) (n : Nat) (hr : R s t) : Agree R (d.readLine n s) (e.readLine n t) := by
  cases n with
  | zero => exact ⟨rfl, hr⟩
  | succ limit =>
    obtain ⟨same, related⟩ := h.takeLine limit hr
    exact ⟨by simp only [Device.readLine, same], related⟩

theorem readCString (h : d.Resembles e R) (pos : Int) (n : Nat) (hr : R s t) :
    Agree R (d.readCString pos n s) (e.readCString pos n t) := by
  cases n with
  | zero => exact ⟨rfl, hr⟩
  | succ limit =>
    -- the same position is reached, by a seek or by staying
    have reached : Agree R (if pos = -1 then ((0 : Int), s) else d.seek pos .start s)
        (if pos = -1 then ((0 : Int), t) else e.seek pos .start t) := by
      split
      · exact ⟨rfl, hr⟩
      · exact h.seek pos .start hr
    unfold Device.readCString
    dsimp only
    generalize (if pos = -1 then ((0 : Int), s) else d.seek pos .start s) = x at reached
    generalize (if pos = -1 then ((0 : Int), t) else e.seek pos .start t) = y at reached
    obtain ⟨same, related⟩ := reached
    rw [same]
    split
    · exact ⟨rfl, related⟩
    · obtain ⟨string, consumed, after⟩ := h.takeString limit related
      exact ⟨by simp only [string, consumed], after⟩

/-- **A load** ends alike, and leaves the same ranges. -/
theorem load (h : d.Resembles e R) (a : Allocator) (space : AddressSpace) (filePos : Int) (start stop : Nat) (patchable : Bool)
    (hr : R s t) :
    (space.load a d filePos start stop patchable s).1 = (space.load a e filePos start stop patchable t).1 ∧
      Agree R (space.load a d filePos start stop patchable s).2 (space.load a e filePos start stop patchable t).2 := by
  obtain ⟨same, moved⟩ := h.seek filePos .start hr
  have full := h.readFull (stop - start) moved
  unfold AddressSpace.load
  split
  · exact ⟨rfl, rfl, hr⟩
  · dsimp only
    rw [same, h.size moved, full.1]
    split
    · exact ⟨rfl, rfl, moved⟩
    · split
      · exact ⟨rfl, rfl, moved⟩
      · split
        · exact ⟨rfl, rfl, moved⟩
        · split <;> exact ⟨rfl, rfl, full.2⟩

end Device.Resembles

/-! ## Devices that agree on every read -/

namespace Device.Simulates

variable {d : Device σ} {e : Device τ} {R : σ → τ → Prop} {s : σ} {t : τ}

theorem tell (h : d.Simulates e R) (hr : R s t) : Agree R (d.tell s) (e.tell t) := h.seek 0 .current hr

theorem nextByte (h : d.Simulates e R) (hr : R s t) : Agree R (d.nextByte s) (e.nextByte t) := by
  obtain ⟨same, related⟩ := h.read 1 hr
  exact ⟨by simp only [Device.nextByte, same], related⟩

theorem readFull (h : d.Simulates e R) (fuel want : Nat) (hr : R s t) :
    Agree R (d.readFull fuel want s) (e.readFull fuel want t) := by
  induction fuel generalizing want s t with
  | zero => exact ⟨rfl, hr⟩
  | succ fuel ih =>
    obtain ⟨same, related⟩ := h.read want hr
    unfold Device.readFull
    dsimp only
    split
    · exact ⟨rfl, hr⟩
    · rw [same]
      split
      · exact ⟨rfl, related⟩
      · obtain ⟨rest, after⟩ := ih _ related
        exact ⟨by rw [rest], after⟩

theorem resembles (h : d.Simulates e R) : d.Resembles e R where
  seek := h.seek
  size := h.size
  nextByte := h.nextByte
  readFull want _ _ hr := h.readFull want want hr

theorem readLine (h : d.Simulates e R) (n : Nat) (hr : R s t) : Agree R (d.readLine n s) (e.readLine n t) :=
  h.resembles.readLine n hr

theorem readCString (h : d.Simulates e R) (pos : Int) (n : Nat) (hr : R s t) :
    Agree R (d.readCString pos n s) (e.readCString pos n t) := h.resembles.readCString pos n hr

theorem readSwapped (h : d.Simulates e R) (bigEndian : Bool) (n : Nat) (hr : R s t) :
    Agree R (d.readSwapped bigEndian n s) (e.readSwapped bigEndian n t) := by
  obtain ⟨same, related⟩ := h.read n hr
  unfold Device.readSwapped
  dsimp only
  rw [same]
  split <;> exact ⟨rfl, related⟩

theorem load (h : d.Simulates e R) (a : Allocator) (space : AddressSpace) (filePos : Int) (start stop : Nat) (patchable : Bool)
    (hr : R s t) :
    (space.load a d filePos start stop patchable s).1 = (space.load a e filePos start stop patchable t).1 ∧
      Agree R (space.load a d filePos start stop patchable s).2 (space.load a e filePos start stop patchable t).2 :=
  h.resembles.load a space filePos start stop patchable hr

end Device.Simulates
end ScriptStreams
