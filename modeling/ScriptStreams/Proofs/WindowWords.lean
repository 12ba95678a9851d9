import Mathlib.Algebra.Group.Nat.Defs
import Mathlib.Algebra.Ring.Int.Defs
import ScriptStreams.Session.TableStep
/-!
# Windows in machine words

A window is kept in three unsigned words and answers in signed ones; its positions are cast to and fro, and it adds up the
address that it asks memory for without looking for a carry. `WindowWords` does just that, with words that wrap round.
Next to it the window with plain numbers is put over memory that may answer anything of at most the length asked for,
something else each time (`LiveMemory`), and that keeps a record of what it was asked for. From a window that was accepted
on, whatever is done with it, both give the same answers and ask for the same (`Window.confined_of_run`): no sum and no
cast leaves the range of words, and no address is asked for outside of the window.
-/
namespace ScriptStreams

variable {σ ρ : Type}

/-- Memory that is asked for up to `n` bytes at an address, and that may change with every request. -/
abbrev LiveMemory (ρ : Type) := (addr n : Nat) → ρ → Bytes × ρ

/-- The same memory with a record of the addresses and lengths it was asked for, the newest first. -/
def LiveMemory.recorded (ask : LiveMemory ρ) : LiveMemory (ρ × List (Nat × Nat)) := fun addr n (s, asked) =>
  let (bs, s) := ask addr n s
  (bs, s, (addr, n) :: asked)

namespace WindowStep

/-- A step on any device. -/
def on (d : Device σ) : WindowStep → σ → Answer × σ
  | seek offset whence, s =>
    let (p, s) := d.seek offset whence s
    (.number p, s)
  | read buffer, s =>
    let ((count, buffer), s) := d.readInto buffer s
    (.transfer count buffer, s)
  | tell, s =>
    let (p, s) := d.tell s
    (.number p, s)
  | size, s => (.number (d.size s), s)

def onAll (d : Device σ) : List WindowStep → σ → List Answer × σ
  | [], s => ([], s)
  | step :: rest, s =>
    let (answer, s) := step.on d s
    let (answers, s) := onAll d rest s
    (answer :: answers, s)

/-- An offset that is a signed word. -/
def Worded : WindowStep → Prop
  | seek offset _ => -2 ^ 63 ≤ offset ∧ offset < 2 ^ 63
  | _ => True

end WindowStep

namespace Window

/-- A read of a window of live memory. -/
def readLive (ask : LiveMemory ρ) (n : Nat) (x : Window × ρ) : Transfer × Window × ρ :=
  let (w, s) := x
  let want := min n (w.size - w.pos)
  if want = 0 then (⟨0, []⟩, w, s)
  else
    match ask (w.start + w.pos) want s with
    | ([], s) => (⟨-1, []⟩, w, s)
    | (bs, s) => (⟨bs.length, bs⟩, { w with pos := w.pos + bs.length }, s)

def live (ask : LiveMemory ρ) : Device (Window × ρ) where
  seek offset whence x :=
    let (p, w) := x.1.seek offset whence
    (p, w, x.2)
  size x := x.1.size
  read := readLive ask

end Window

/-- A window in unsigned words. -/
structure WindowWords where
  start : UInt64
  size : UInt64
  pos : UInt64

namespace WindowWords

def ofWindow (w : Window) : WindowWords := ⟨.ofNat w.start, .ofNat w.size, .ofNat w.pos⟩

/-- The sum of two signed words, if it is one. -/
def checkedAdd (a b : Int64) : Option Int64 :=
  if -2 ^ 63 ≤ a.toInt + b.toInt ∧ a.toInt + b.toInt < 2 ^ 63 then some (a + b) else none

/-- Where an offset counts from, cast to a signed word. -/
def base (w : WindowWords) : Whence → Int64
  | .start => 0
  | .current => w.pos.toInt64
  | .finish => w.size.toInt64

def seek (w : WindowWords) (offset : Int64) (whence : Whence) : Int64 × WindowWords :=
  match checkedAdd (w.base whence) offset with
  | some target => if 0 ≤ target then (target, { w with pos := target.toUInt64 }) else (-1, w)
  | none => (-1, w)

/-- The bytes from the position on, none behind the end. -/
def available (w : WindowWords) : UInt64 := if w.pos ≤ w.size then w.size - w.pos else 0

/-- The address is added up without a look at the carry, and the count is cast to a signed word. -/
def read (ask : LiveMemory ρ) (n : Nat) (x : WindowWords × ρ) : Transfer × WindowWords × ρ :=
  let (w, s) := x
  let want := min n w.available.toNat
  if want = 0 then (⟨0, []⟩, w, s)
  else
    match ask (w.start + w.pos).toNat want s with
    | ([], s) => (⟨-1, []⟩, w, s)
    | (bs, s) => (⟨(Int64.ofNat bs.length).toInt, bs⟩, { w with pos := w.pos + .ofNat bs.length }, s)

def device (ask : LiveMemory ρ) : Device (WindowWords × ρ) where
  seek offset whence x :=
    let (p, w) := x.1.seek (.ofInt offset) whence
    (p.toInt, w, x.2)
  size x := x.1.size.toInt64.toInt
  read := read ask

end WindowWords

namespace Window

theorem seek_eq (w : Window) (offset : Int) (whence : Whence) :
    let target := (whence.base w.pos w.size : Int) + offset
    w.seek offset whence =
      if 0 ≤ target ∧ target ≤ maxPosition then (target, { w with pos := target.toNat }) else (-1, w) := by
  intro target
  unfold seek landing
  by_cases lands : 0 ≤ target ∧ target ≤ maxPosition
  · rw [if_pos lands, if_pos lands]
    dsimp only
    rw [Int.toNat_of_nonneg lands.1]
  · rw [if_neg lands, if_neg lands]

/-- A seek lands on a position, or nothing moves. -/
theorem seek_cases (w : Window) (offset : Int) (whence : Whence) :
    (∃ k : Nat, k ≤ maxPosition ∧ (k : Int) = whence.base w.pos w.size + offset ∧
        w.seek offset whence = ((k : Int), { w with pos := k })) ∨
      ¬ (0 ≤ whence.base w.pos w.size + offset ∧ whence.base w.pos w.size + offset ≤ maxPosition) ∧
        w.seek offset whence = (-1, w) := by
  rw [seek_eq]
  by_cases lands : 0 ≤ whence.base w.pos w.size + offset ∧ whence.base w.pos w.size + offset ≤ maxPosition
  · obtain ⟨k, at_target⟩ := Int.eq_ofNat_of_zero_le lands.1
    rw [if_pos lands, at_target]
    exact .inl ⟨k, by omega, rfl, rfl⟩
  · rw [if_neg lands]
    exact .inr ⟨lands, rfl⟩

end Window

/-! ## Words that hold their numbers -/

namespace WindowWords

variable {m n : Nat}

theorem lt_of_le_maxPosition (h : n ≤ maxPosition) : n < 2 ^ 63 := Nat.lt_of_le_of_lt h (by decide)

theorem toNat_ofNat (h : n < addressLimit) : (UInt64.ofNat n).toNat = n := UInt64.toNat_ofNat_of_lt' h

theorem toInt_ofNat (h : n ≤ maxPosition) : (UInt64.ofNat n).toInt64.toInt = n :=
  Int64.toInt_ofNat_of_lt (lt_of_le_maxPosition h)

theorem toNat_available {w : Window} (size : w.size < addressLimit) (pos : w.pos < addressLimit) :
    (ofWindow w).available.toNat = w.size - w.pos := by
  have order : UInt64.ofNat w.pos ≤ UInt64.ofNat w.size ↔ w.pos ≤ w.size := by
    rw [UInt64.le_iff_toNat_le, toNat_ofNat size, toNat_ofNat pos]
  unfold available ofWindow
  dsimp only
  split
  · next le => rw [UInt64.toNat_sub_of_le _ _ le, toNat_ofNat size, toNat_ofNat pos]
  · next lt => exact (Nat.sub_eq_zero_of_le (Nat.le_of_not_le (mt order.2 lt))).symm

/-- A sum of addresses that is an address is the one of numbers. -/
theorem toNat_add (sum : m + n < addressLimit) : (UInt64.ofNat m + UInt64.ofNat n).toNat = m + n := by
  rw [← UInt64.ofNat_add, toNat_ofNat sum]

theorem checkedAdd_eq_some_iff {a b c : Int64} : checkedAdd a b = some c ↔ c.toInt = a.toInt + b.toInt := by
  unfold checkedAdd
  split
  · next inside =>
    have sum : (a + b).toInt = a.toInt + b.toInt := by
      rw [Int64.toInt_add]
      exact Int.bmod_eq_of_le (by omega) (by omega)
    rw [Option.some_inj, ← Int64.toInt_inj, sum, eq_comm]
  · next outside =>
    have lower := c.le_toInt
    have upper := c.toInt_lt
    simp only [reduceCtorEq, false_iff]
    omega

theorem toInt_base {w : Window} (size : w.size ≤ maxPosition) (pos : w.pos ≤ maxPosition) (whence : Whence) :
    ((ofWindow w).base whence).toInt = whence.base w.pos w.size := by
  cases whence with
  | start => rfl
  | current => exact toInt_ofNat pos
  | finish => exact toInt_ofNat size

/-- **A seek in words** is the seek in numbers. -/
theorem seek_ofWindow {w : Window} (size : w.size ≤ maxPosition) (pos : w.pos ≤ maxPosition) {offset : Int}
    (worded : -2 ^ 63 ≤ offset ∧ offset < 2 ^ 63) (whence : Whence) :
    ((ofWindow w).seek (.ofInt offset) whence).1.toInt = (w.seek offset whence).1 ∧
      ((ofWindow w).seek (.ofInt offset) whence).2 = ofWindow (w.seek offset whence).2 := by
  have sum : ∀ target, checkedAdd ((ofWindow w).base whence) (.ofInt offset) = some target ↔
      target.toInt = (whence.base w.pos w.size : Int) + offset := by
    intro target
    rw [checkedAdd_eq_some_iff, toInt_base size pos, Int64.toInt_ofInt_of_le worded.1 worded.2]
  have top : (maxPosition : Int) = 2 ^ 63 - 1 := rfl
  rcases w.seek_cases offset whence with ⟨k, short, lands, sought⟩ | ⟨misses, sought⟩
  · have value : (Int64.ofNat k).toInt = k := Int64.toInt_ofNat_of_lt (lt_of_le_maxPosition short)
    have positive : 0 ≤ Int64.ofNat k := Int64.le_iff_toInt_le.2 (by rw [value]; exact Int.natCast_nonneg k)
    have target := (sum (Int64.ofNat k)).2 (value.trans lands)
    simp only [seek, target, if_pos positive, sought]
    exact ⟨value, rfl⟩
  · rw [sought, seek]
    split
    · next target found =>
      have value := (sum target).1 found
      have bound := target.toInt_lt
      have negative : ¬ 0 ≤ target := by
        rw [Int64.le_iff_toInt_le, value, Int64.toInt_zero]
        omega
      rw [if_neg negative]
      exact ⟨rfl, rfl⟩
    · exact ⟨rfl, rfl⟩

end WindowWords

namespace Window

/-- The numbers of a window are such that words hold them: size and position signed ones, the end an address. -/
structure Fits (w : Window) : Prop where
  size_le : w.size ≤ maxPosition
  pos_le : w.pos ≤ maxPosition
  end_lt : w.start + w.size < addressLimit

/-- What a window becomes, and what memory was asked for: the same range, and nothing outside of it. -/
structure Confined (w₀ : Window) (x : Window × ρ × List (Nat × Nat)) : Prop where
  start : x.1.start = w₀.start
  size : x.1.size = w₀.size
  fits : x.1.Fits
  asked : ∀ q ∈ x.2.2, 0 < q.2 ∧ w₀.start ≤ q.1 ∧ q.1 + q.2 ≤ w₀.start + w₀.size

variable {ask : LiveMemory ρ} {w w₀ : Window} {s : ρ} {n : Nat} {x : Window × ρ × List (Nat × Nat)}

theorem fits_of_create? {m : MemoryReader} {start size : Nat} (accepted : create? m start size = some w) : w.Fits := by
  obtain ⟨rfl, -, short, inside⟩ := create?_eq_some_iff.1 accepted
  exact ⟨short, Nat.zero_le _, inside⟩

/-! ## Numbers and words -/

/-- **A read in words** is the read in numbers. -/
theorem read_ofWindow (modest : ∀ addr n s, (ask addr n s).1.length ≤ n) (fits : w.Fits) (n : Nat) (s : ρ) :
    WindowWords.read ask n (.ofWindow w, s) =
      ((readLive ask n (w, s)).1, .ofWindow (readLive ask n (w, s)).2.1, (readLive ask n (w, s)).2.2) := by
  obtain ⟨short, inside, addressable⟩ := fits
  have limit : maxPosition < addressLimit := by decide
  have available : (WindowWords.ofWindow w).available.toNat = w.size - w.pos :=
    WindowWords.toNat_available (by omega) (by omega)
  simp only [WindowWords.read, readLive, available]
  split
  · rfl
  · next wanted =>
    have address : ((WindowWords.ofWindow w).start + (WindowWords.ofWindow w).pos).toNat = w.start + w.pos :=
      WindowWords.toNat_add (by omega)
    have length := modest (w.start + w.pos) (min n (w.size - w.pos)) s
    rw [address]
    cases answer : ask (w.start + w.pos) (min n (w.size - w.pos)) s with
    | mk bs s' =>
      rw [answer] at length
      cases bs with
      | nil => rfl
      | cons b bs =>
        have count : (Int64.ofNat (b :: bs).length).toInt = (b :: bs).length := by
          refine Int64.toInt_ofNat_of_lt (WindowWords.lt_of_le_maxPosition ?_)
          dsimp only at length
          omega
        simp only [count, WindowWords.ofWindow, UInt64.ofNat_add]

/-- **A step in words** is the step in numbers. -/
theorem on_ofWindow (modest : ∀ addr n s, (ask addr n s).1.length ≤ n) (fits : w.Fits) {step : WindowStep}
    (worded : step.Worded) (s : ρ) :
    step.on (WindowWords.device ask) (.ofWindow w, s) =
      ((step.on (live ask) (w, s)).1, .ofWindow (step.on (live ask) (w, s)).2.1, (step.on (live ask) (w, s)).2.2) := by
  cases step with
  | seek offset whence =>
    obtain ⟨value, moved⟩ := WindowWords.seek_ofWindow fits.size_le fits.pos_le worded whence
    simp only [WindowStep.on, WindowWords.device, live, value, moved]
  | read buffer =>
    have read := read_ofWindow modest fits buffer.length s
    simp only [WindowStep.on, Device.readInto, WindowWords.device, live, read]
  | tell =>
    have worded : -2 ^ 63 ≤ (0 : Int) ∧ (0 : Int) < 2 ^ 63 := by decide
    obtain ⟨value, moved⟩ := WindowWords.seek_ofWindow fits.size_le fits.pos_le worded .current
    simp only [WindowStep.on, Device.tell, WindowWords.device, live, value, moved]
  | size =>
    have size := WindowWords.toInt_ofNat fits.size_le
    simp only [WindowStep.on, WindowWords.device, live, WindowWords.ofWindow, size]

/-! ## One step further -/

theorem seek_zero (w : Window) : (w.seek 0 .current).2 = w := by
  rcases w.seek_cases 0 .current with ⟨k, -, lands, sought⟩ | ⟨-, sought⟩
  · have same : k = w.pos := by
      simp only [Whence.base] at lands
      omega
    rw [sought, same]
  · rw [sought]

theorem Confined.seek (confined : Confined w₀ x) (offset : Int) (whence : Whence) :
    Confined w₀ ((x.1.seek offset whence).2, x.2) := by
  obtain ⟨start, size, fits, asked⟩ := confined
  rcases x.1.seek_cases offset whence with ⟨k, short, -, sought⟩ | ⟨-, sought⟩ <;> rw [sought]
  · exact ⟨start, size, ⟨fits.size_le, short, fits.end_lt⟩, asked⟩
  · exact ⟨start, size, fits, asked⟩

/-- A read wants nothing, or hands on what memory gives for an address in the window. -/
theorem readLive_cases (ask : LiveMemory ρ) (n : Nat) (w : Window) (s : ρ) :
    readLive ask n (w, s) = (⟨0, []⟩, w, s) ∨
      ∃ want count, 0 < want ∧ want ≤ w.size - w.pos ∧
        let got := ask (w.start + w.pos) want s
        readLive ask n (w, s) = (⟨count, got.1⟩, { w with pos := w.pos + got.1.length }, got.2) := by
  unfold readLive
  dsimp only
  split
  · exact .inl rfl
  · next wanted =>
    refine .inr ⟨min n (w.size - w.pos), ?_⟩
    cases ask (w.start + w.pos) (min n (w.size - w.pos)) s with
    | mk bs s' =>
      cases bs with
      | nil => exact ⟨-1, Nat.pos_of_ne_zero wanted, Nat.min_le_right _ _, rfl⟩
      | cons b bs => exact ⟨_, Nat.pos_of_ne_zero wanted, Nat.min_le_right _ _, rfl⟩

theorem Confined.read (modest : ∀ addr n s, (ask addr n s).1.length ≤ n) (confined : Confined w₀ x) (n : Nat) :
    Confined w₀ (readLive ask.recorded n x).2 := by
  obtain ⟨w, s, asked⟩ := x
  obtain ⟨start, size, fits, before⟩ := confined
  dsimp only at start size fits before
  rcases readLive_cases ask.recorded n w (s, asked) with read | ⟨want, count, positive, left, read⟩
  · rw [read]
    exact ⟨start, size, fits, before⟩
  · have length : (ask.recorded (w.start + w.pos) want (s, asked)).1.length ≤ want := modest _ _ _
    have short := fits.size_le
    rw [read]
    refine ⟨start, size, ⟨short, ?_, fits.end_lt⟩, ?_⟩
    · dsimp only
      omega
    · intro q listed
      rcases List.mem_cons.1 listed with rfl | listed
      · dsimp only
        omega
      · exact before q listed

theorem Confined.on (modest : ∀ addr n s, (ask addr n s).1.length ≤ n) (confined : Confined w₀ x) (step : WindowStep) :
    Confined w₀ (step.on (live ask.recorded) x).2 := by
  cases step with
  | seek offset whence => exact confined.seek offset whence
  | read buffer => exact confined.read modest buffer.length
  | tell => exact confined.seek 0 .current
  | size => exact confined

/-- Over memory that always answers alike, a step on the device is the step on the window. -/
theorem perform_eq_on {m : MemoryReader} (steady : ∀ addr n s, (ask addr n s).1 = m.read addr n) (w : Window) (s : ρ)
    (step : WindowStep) : step.perform m w = ((step.on (live ask) (w, s)).1, (step.on (live ask) (w, s)).2.1) := by
  cases step with
  | seek offset whence => rfl
  | read buffer =>
    have same : ((live ask).read buffer.length (w, s)).1 = (w.read m buffer.length).1 ∧
        ((live ask).read buffer.length (w, s)).2.1 = (w.read m buffer.length).2 := by
      simp only [live, readLive, Window.read]
      split
      · exact ⟨rfl, rfl⟩
      · rw [← steady (w.start + w.pos) _ s]
        cases ask (w.start + w.pos) (min buffer.length (w.size - w.pos)) s with
        | mk bs s' => cases bs <;> exact ⟨rfl, rfl⟩
    simp only [WindowStep.perform, WindowStep.on, Device.readInto, Window.device, same]
  | tell => simp only [WindowStep.perform, WindowStep.on, Device.tell, Window.device, live, seek_zero]
  | size => rfl

/-! ## Any number of steps -/

theorem Confined.onAll (modest : ∀ addr n s, (ask addr n s).1.length ≤ n) (confined : Confined w₀ x)
    (steps : List WindowStep) : Confined w₀ (WindowStep.onAll (live ask.recorded) steps x).2 := by
  induction steps generalizing x with
  | nil => exact confined
  | cons step rest ih => exact ih (confined.on modest step)

theorem onAll_ofWindow (modest : ∀ addr n s, (ask addr n s).1.length ≤ n) (confined : Confined w₀ x)
    {steps : List WindowStep} (worded : ∀ step ∈ steps, step.Worded) :
    let run := WindowStep.onAll (live ask.recorded) steps x
    WindowStep.onAll (WindowWords.device ask.recorded) steps (.ofWindow x.1, x.2) = (run.1, .ofWindow run.2.1, run.2.2) := by
  induction steps generalizing x with
  | nil => rfl
  | cons step rest ih =>
    obtain ⟨first, later⟩ := List.forall_mem_cons.1 worded
    have modest' : ∀ addr n s, (ask.recorded addr n s).1.length ≤ n := fun addr n s => modest addr n s.1
    have rest := ih (confined.on modest step) later
    dsimp only at rest ⊢
    simp only [WindowStep.onAll, on_ofWindow modest' confined.fits first, rest]

theorem performAll_eq_onAll {m : MemoryReader} (steady : ∀ addr n s, (ask addr n s).1 = m.read addr n) (w : Window)
    (s : ρ) (steps : List WindowStep) :
    WindowStep.performAll m w steps =
      ((WindowStep.onAll (live ask) steps (w, s)).1, (WindowStep.onAll (live ask) steps (w, s)).2.1) := by
  induction steps generalizing w s with
  | nil => rfl
  | cons step rest ih =>
    simp only [WindowStep.performAll, WindowStep.onAll, perform_eq_on steady w s]
    rw [ih]

/-- What is delivered was given by memory for an address in the window, and ends in the window. -/
theorem Confined.delivered (modest : ∀ addr n s, (ask addr n s).1.length ≤ n) (confined : Confined w₀ x) (n : Nat) :
    let bs := (readLive ask.recorded n x).1.bytes
    bs = [] ∨ ∃ addr k, bs = (ask addr k x.2.1).1 ∧ w₀.start ≤ addr ∧ addr + bs.length ≤ w₀.start + w₀.size := by
  obtain ⟨w, s, asked⟩ := x
  obtain ⟨start, size, -, -⟩ := confined
  dsimp only at start size
  rcases readLive_cases ask.recorded n w (s, asked) with read | ⟨want, count, positive, left, read⟩
  · rw [read]
    exact .inl rfl
  · have length : (ask.recorded (w.start + w.pos) want (s, asked)).1.length ≤ want := modest _ _ _
    rw [read]
    refine .inr ⟨w.start + w.pos, want, rfl, by omega, ?_⟩
    dsimp only
    omega

/-- **A window keeps to its range, and its arithmetic to the words it is done in.** Take any window that was accepted, any
memory that gives at most as many bytes as it is asked for, and any sequence of steps with offsets that are signed words.
Then start and size are what they were and the position is one; memory was asked only for addresses in the window, which
ends within the address space; telling gives the position and measuring the size, and moves nothing; a seek gives the new
position or -1, and then moves nothing; and what a read delivers is in the window. Done in words that wrap round, all of it
comes to the same answers, requests and numbers. Over memory that stands still the answers are those of `performAll`. -/
theorem confined_of_run {m : MemoryReader} {start size : Nat} (accepted : create? m start size = some w₀)
    (ask : LiveMemory ρ) (modest : ∀ addr n s, (ask addr n s).1.length ≤ n) (s₀ : ρ) (steps : List WindowStep)
    (worded : ∀ step ∈ steps, step.Worded) :
    let d := live ask.recorded
    let run := WindowStep.onAll d steps (w₀, s₀, [])
    let w := run.2.1
    (w.start = w₀.start ∧ w.size = w₀.size ∧ w.pos ≤ maxPosition) ∧
      (∀ q ∈ run.2.2.2, 0 < q.2 ∧ w₀.start ≤ q.1 ∧ q.1 + q.2 ≤ w₀.start + w₀.size) ∧
      w₀.start + w₀.size < addressLimit ∧
      d.tell run.2 = ((w.pos : Int), run.2) ∧ d.size run.2 = w₀.size ∧
      (∀ offset whence, let target := (whence.base w.pos w.size : Int) + offset
        d.seek offset whence run.2 =
          if 0 ≤ target ∧ target ≤ maxPosition then (target, { w with pos := target.toNat }, run.2.2)
          else (-1, run.2)) ∧
      (∀ n, let bs := (d.read n run.2).1.bytes
        bs = [] ∨ ∃ addr k, bs = (ask addr k run.2.2.1).1 ∧ w₀.start ≤ addr ∧
          addr + bs.length ≤ w₀.start + w₀.size) ∧
      WindowStep.onAll (WindowWords.device ask.recorded) steps (.ofWindow w₀, s₀, []) =
        (run.1, .ofWindow w, run.2.2) ∧
      ∀ still : MemoryReader, (∀ addr n s, (ask addr n s).1 = still.read addr n) →
        WindowStep.performAll still w₀ steps = (run.1, w) := by
  intro d run w
  have begins : Confined w₀ (w₀, s₀, []) := ⟨rfl, rfl, fits_of_create? accepted, by simp⟩
  have confined : Confined w₀ run.2 := begins.onAll modest steps
  have seeks : ∀ offset whence, let target := (whence.base w.pos w.size : Int) + offset
      d.seek offset whence run.2 =
        if 0 ≤ target ∧ target ≤ maxPosition then (target, { w with pos := target.toNat }, run.2.2)
        else (-1, run.2) := by
    intro offset whence target
    show ((w.seek offset whence).1, (w.seek offset whence).2, run.2.2) = _
    rw [seek_eq]
    split <;> rfl
  have tells : d.tell run.2 = ((w.pos : Int), run.2) := by
    have inside := confined.fits.pos_le
    refine (seeks 0 .current).trans ?_
    simp only [Whence.base, Int.add_zero, Int.toNat_natCast]
    exact if_pos ⟨Int.natCast_nonneg w.pos, Int.ofNat_le.2 inside⟩
  refine ⟨⟨confined.start, confined.size, confined.fits.pos_le⟩, confined.asked, (fits_of_create? accepted).end_lt,
    tells, congrArg Int.ofNat confined.size, seeks, confined.delivered modest, onAll_ofWindow modest begins worded, ?_⟩
  intro still steady
  have steady' : ∀ addr n s, (ask.recorded addr n s).1 = still.read addr n := fun addr n s => steady addr n s.1
  exact performAll_eq_onAll steady' w₀ (s₀, []) steps

/-- Memory that gives at most three bytes at a time, others each time. -/
def trickle : LiveMemory Nat := fun _ n s => (Bytes.counting s (min n 3), s + 1)

/-- Steps that park a window far behind its end, fetch it back to its last bytes, and move on from there. -/
def parkAndReturn : List WindowStep :=
  [.seek 0x7fffffffffffffff .start, .seek 1 .current, .read [0, 0], .seek (-5) .finish, .read [0, 0, 0, 0, 0, 0, 0, 0],
    .read [0, 0, 0, 0], .tell]

/-- A window that ends right in front of the last address. -/
def nearTop : Window := { start := 0xffffffffffffffef, size := 16 }

theorem confined_of_run_trickle :
    let run := WindowStep.onAll (live trickle.recorded) parkAndReturn (nearTop, 0, [])
    (∀ addr n s, (trickle addr n s).1.length ≤ n) ∧ run.2.1.pos = 16 ∧
      run.2.2.2 = [(0xfffffffffffffffd, 2), (0xfffffffffffffffa, 5)] ∧
      (∀ q ∈ run.2.2.2, 0 < q.2 ∧ nearTop.start ≤ q.1 ∧ q.1 + q.2 ≤ nearTop.start + nearTop.size) ∧
      WindowStep.onAll (WindowWords.device trickle.recorded) parkAndReturn (.ofWindow nearTop, 0, []) =
        (run.1, .ofWindow run.2.1, run.2.2) := by
  intro run
  have modest : ∀ addr n s, (trickle addr n s).1.length ≤ n := by
    intro addr n s
    simp only [trickle, Bytes.counting, List.length_map, List.length_range]
    exact Nat.min_le_left n 3
  have accepted : create? ⟨fun _ _ => [], fun _ => 0⟩ 0xffffffffffffffef 16 = some nearTop := by decide
  have worded : ∀ step ∈ parkAndReturn, step.Worded := by simp [parkAndReturn, WindowStep.Worded]
  obtain ⟨-, asked, -, -, -, -, -, words, -⟩ := confined_of_run accepted trickle modest 0 parkAndReturn worded
  exact ⟨modest, by decide +kernel, by decide +kernel, asked, words⟩

end Window
end ScriptStreams
