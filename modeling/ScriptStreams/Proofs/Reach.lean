import ScriptStreams.AddressSpace
/-!
# States a device passes through

Lines, strings, swapped quantities and loads are made of seeks and reads alone. `Device.Reach d s t`
says that seeks and reads lead from `s` to `t`; every composite operation stays within it, so what
seeks and reads preserve, all of them preserve (`Reach.preserves`).
-/
namespace ScriptStreams

variable {σ : Type}

inductive Device.Reach (d : Device σ) (s : σ) : σ → Prop where
  | refl : Reach d s s
  | seek {t : σ} (offset : Int) (whence : Whence) : Reach d s t → Reach d s (d.seek offset whence t).2
  | read {t : σ} (n : Nat) : Reach d s t → Reach d s (d.read n t).2

namespace Device

variable {d : Device σ} {s t u : σ}

theorem Reach.trans (hst : d.Reach s t) (htu : d.Reach t u) : d.Reach s u := by
  induction htu with
  | refl => exact hst
  | seek offset whence _ ih => exact ih.seek offset whence
  | read n _ ih => exact ih.read n

theorem Reach.preserves {P : σ → Prop} (hseek : ∀ offset whence s, P s → P (d.seek offset whence s).2)
    (hread : ∀ n s, P s → P (d.read n s).2) (h : d.Reach s t) (hs : P s) : P t := by
  induction h with
  | refl => exact hs
  | seek offset whence _ ih => exact hseek offset whence _ ih
  | read n _ ih => exact hread n _ ih

variable (d)

theorem reach_tell (s : σ) : d.Reach s (d.tell s).2 := Reach.refl.seek 0 .current

theorem reach_nextByte (s : σ) : d.Reach s (d.nextByte s).2 := Reach.refl.read 1

theorem reach_takeLine (limit : Nat) (s : σ) : d.Reach s (d.takeLine limit s).2 := by
  induction limit generalizing s with
  | zero => exact .refl
  | succ limit ih =>
    have step := d.reach_nextByte s
    unfold takeLine
    split
    · next h => rwa [h] at step
    · next b s' h =>
      rw [h] at step
      split
      · exact step
      · exact step.trans (ih s')

theorem reach_takeString (limit : Nat) (s : σ) : d.Reach s (d.takeString limit s).2.2 := by
  induction limit generalizing s with
  | zero => exact .refl
  | succ limit ih =>
    have step := d.reach_nextByte s
    unfold takeString
    split
    · next h => rwa [h] at step
    · next b s' h =>
      rw [h] at step
      split
      · exact step
      · exact step.trans (ih s')

theorem reach_readLine (n : Nat) (s : σ) : d.Reach s (d.readLine n s).2 := by
  cases n with
  | zero => exact .refl
  | succ limit => exact d.reach_takeLine limit s

theorem reach_readCString (pos : Int) (n : Nat) (s : σ) : d.Reach s (d.readCString pos n s).2 := by
  cases n with
  | zero => exact .refl
  | succ limit =>
    by_cases hp : pos = -1
    · simp only [readCString, hp, if_true, Int.reduceLT, if_false]
      exact d.reach_takeString limit s
    · have moved : d.Reach s (d.seek pos .start s).2 := Reach.refl.seek pos .start
      simp only [readCString, hp, if_false]
      split
      · exact moved
      · exact moved.trans (d.reach_takeString limit _)

theorem reach_readSwapped (bigEndian : Bool) (n : Nat) (s : σ) : d.Reach s (d.readSwapped bigEndian n s).2 := by
  have step : d.Reach s (d.read n s).2 := Reach.refl.read n
  unfold readSwapped
  split
  next t s' h =>
    rw [h] at step
    split <;> exact step

theorem reach_readFull (fuel want : Nat) (s : σ) : d.Reach s (d.readFull fuel want s).2 := by
  induction fuel generalizing want s with
  | zero => exact .refl
  | succ fuel ih =>
    have step : d.Reach s (d.read want s).2 := Reach.refl.read want
    unfold readFull
    split
    · exact .refl
    · dsimp only
      split
      · exact step
      · exact step.trans (ih _ _)

end Device

/-- A load seeks once and then reads. -/
theorem AddressSpace.reach_load (a : Allocator) (d : Device σ) (space : AddressSpace) (filePos : Int) (start stop : Nat)
    (patchable : Bool) (s : σ) : d.Reach s (space.load a d filePos start stop patchable s).2.2 := by
  have moved : d.Reach s (d.seek filePos .start s).2 := Device.Reach.refl.seek filePos .start
  unfold AddressSpace.load
  dsimp only
  repeat' split
  all_goals first
    | exact .refl
    | exact moved
    | exact moved.trans (d.reach_readFull _ _ _)

end ScriptStreams
