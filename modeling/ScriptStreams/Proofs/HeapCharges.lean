import Mathlib.Algebra.Ring.Nat
import ScriptStreams.Proofs.Windows
/-!
# What scripts cost the heap

A value is recorded by the heap when it is made, and values are made in few places: where a script method hands over
data or the file name, and for a capsule. So the heap after an operation is the heap before it, charged with the values
handed over (`World.Charged`), and over a whole script the counters go up by the number and the payloads of those that live on
the heap (`Session.heap_of_script`).
-/
namespace ScriptStreams

/-! ## Charges -/

/-- Byte strings, texts and capsules live on the heap. -/
def Value.onHeap : Value → Bool
  | .bytes _ | .text _ | .capsule _ => true
  | .none | .bool _ | .int _ => false

namespace HeapStats

variable (h : HeapStats)

/-- The counters after all these values were made. -/
def chargeAll (values : List Value) : HeapStats := values.foldl charge h

theorem charge_of_light {v : Value} (light : v.onHeap = false) : h.charge v = h := by
  cases v with
  | none | bool | int => rfl
  | bytes | text | capsule => cases light

theorem chargeAll_append (first second : List Value) : h.chargeAll (first ++ second) = (h.chargeAll first).chargeAll second :=
  List.foldl_append

/-- The first counter counts the values that live on the heap. -/
theorem objects_chargeAll (values : List Value) :
    (h.chargeAll values).objects = h.objects + values.countP Value.onHeap := by
  induction values generalizing h with
  | nil => rfl
  | cons v rest ih =>
    have first : (h.charge v).objects = h.objects + if v.onHeap then 1 else 0 := by cases v <;> rfl
    show ((h.charge v).chargeAll rest).objects = _
    rw [ih, first, List.countP_cons]
    omega

/-- The second counter adds up their payloads. -/
theorem bytes_chargeAll (values : List Value) :
    (h.chargeAll values).bytes = h.bytes + (values.filterMap Value.payload?).sum := by
  induction values generalizing h with
  | nil => rfl
  | cons v rest ih =>
    show ((h.charge v).chargeAll rest).bytes = _
    rw [ih]
    cases payload : v.payload? with
    | none => simp [charge, payload]
    | some n => simp [charge, payload, record, Nat.add_assoc]

end HeapStats

/-! ## Operations -/

/-- The heap was charged with these values and nothing else. -/
def World.Charged (values : List Value) (w w' : World) : Prop := w'.lock.heap = w.lock.heap.chargeAll values

namespace World.Charged

variable {α : Type} {w w' w'' : World} {values more : List Value}

theorem refl (w : World) : Charged [] w w := rfl

theorem trans (first : Charged values w w') (second : Charged more w' w'') : Charged (values ++ more) w w'' := by
  rw [Charged, HeapStats.chargeAll_append, ← first]
  exact second

theorem of_quiet (quiet : w.Quiet w') : Charged [] w w' := congrArg RuntimeLock.heap quiet.1

/-- What a quiet end adds costs nothing. -/
theorem quiet (charged : Charged values w w') (quiet : w'.Quiet w'') : Charged values w w'' := by
  have both := charged.trans (.of_quiet quiet)
  rwa [List.append_nil] at both

/-- A value that does not live on the heap is free. -/
theorem light {v : Value} (charged : Charged [] w w') (light : v.onHeap = false) : Charged [v] w w' :=
  charged.trans (w'.lock.heap.charge_of_light light).symm

theorem make (w : World) (literal : Literal) : Charged [(w.make literal).1] w (w.make literal).2 :=
  w.lock.heap.make_snd literal

theorem call {p : Primitive} {f : World → α × World} (quiet : ∀ w : World, w.Quiet (f w).2) (w : World) :
    Charged [] w (w.call p f).2 := by
  have same : (f (w.atCall p)).2.lock = w.lock.openWindow := (quiet (w.atCall p)).1
  rw [call_eq]
  show (f (w.atCall p)).2.lock.heap = w.lock.heap
  rw [same]
  rfl

end World.Charged

namespace Handle

open World (Charged)

theorem charged_close (h : Handle) (w : World) : Charged [] w (h.close w).2 := by
  obtain ⟨own, name⟩ := h
  cases own <;> rfl

theorem charged_openPath (h : Handle) (path : String) (remote : Bool) (w : World) :
    Charged [] w (h.openPath path remote w).2.2 := by
  have opened := (h.charged_close w).trans
    (.call (p := .openByPath) (fun w => w.quiet_openByPath path remote) (h.close w).2)
  simp only [openPath]
  split <;> next called =>
    rw [called] at opened
    exact opened.quiet ⟨rfl, rfl⟩

theorem charged_openMemory (h : Handle) (start size : Nat) (w : World) :
    Charged [] w (h.openMemory start size w).2.2 := by
  have created := Charged.call (p := .createMemoryStream) (fun w => w.quiet_createMemoryStream start size) w
  unfold openMemory
  rcases called : w.call .createMemoryStream (World.createMemoryStream start size) with ⟨_ | r, w'⟩ <;>
    rw [called] at created
  · exact created
  · exact (created.trans (h.charged_close w')).quiet ⟨rfl, rfl⟩

/-- Scratch buffers do not live on the heap. -/
theorem charged_withScratch {n : Nat} {w : World} {f : Scratch.Buffer → World → Option Bytes × Scratch.Buffer × World}
    (charged : ∀ b w, Charged [] w (f b w).2.2) : Charged [] w (withScratch n w f).2 := by
  unfold withScratch
  rcases w.pool.acquire w.allocator n w.host.config.maxScratch with ⟨_ | b, pool⟩
  · exact .of_quiet ⟨rfl, rfl⟩
  · have lent : Charged [] w { w with pool := pool } := .refl w
    exact (lent.trans (charged b _)).quiet ⟨rfl, rfl⟩

theorem charged_seek (h : Handle) (offset : Int) (whence : Whence) (w : World) :
    Charged [] w (h.seek offset whence w).2 := by
  unfold seek
  cases h.ref? with
  | none => exact .refl w
  | some r => exact .call (fun w => w.quiet_withStream r (Source.seek offset whence)) w

theorem charged_tell (h : Handle) (w : World) : Charged [] w (h.tell w).2 := by
  unfold tell
  cases h.ref? with
  | none => exact .refl w
  | some r => exact .call (fun w => w.quiet_withStream r Source.device.tell) w

theorem charged_size (h : Handle) (w : World) : Charged [] w (h.size w).2 := by
  unfold size
  cases h.ref? with
  | none => exact .refl w
  | some r => exact .call (f := fun w => (w.size r, w)) (fun _ => ⟨rfl, rfl⟩) w

theorem charged_read (h : Handle) (n : Nat) (w : World) : Charged [] w (h.read n w).2 := by
  unfold read
  cases h.ref? with
  | none => exact .refl w
  | some r => exact charged_withScratch fun b w => .call (fun w => w.quiet_withStream r (Source.read n)) w

theorem charged_readLine (h : Handle) (n : Nat) (w : World) : Charged [] w (h.readLine n w).2 := by
  unfold readLine
  cases h.ref? with
  | none => exact .refl w
  | some r => exact charged_withScratch fun b w => .call (fun w => w.quiet_withStream r (Source.device.readLine n)) w

theorem charged_readCString (h : Handle) (n : Nat) (pos : Option Int) (w : World) :
    Charged [] w (h.readCString n pos w).2 := by
  unfold readCString
  cases h.ref? with
  | none => exact .refl w
  | some r =>
    dsimp only
    split
    · exact .refl w
    · exact charged_withScratch fun b w => .call (fun w => w.quiet_withStream r (Source.device.readCString _ n)) w

theorem charged_readSwapped (h : Handle) (n : Nat) (bigEndian : Bool) (w : World) :
    Charged [] w (h.readSwapped n bigEndian w).2 := by
  unfold readSwapped
  cases h.ref? with
  | none => exact .refl w
  | some r =>
    dsimp only
    split
    · exact .refl w
    · exact charged_withScratch fun b w => .call (fun w => w.quiet_withStream r (Source.device.readSwapped bigEndian n)) w

theorem charged_readByte (h : Handle) (w : World) : Charged [] w (h.readByte w).2 := by
  unfold readByte
  cases h.ref? with
  | none => exact .refl w
  | some r => exact .call (fun w => w.quiet_withStream r Source.device.nextByte) w

theorem charged_copyRange (h : Handle) (filePos : Int) (start stop : Nat) (patchable : Bool) (w : World) :
    Charged [] w (h.copyRange filePos start stop patchable w).2 := by
  unfold copyRange
  cases h.ref? with
  | none => exact .refl w
  | some r => exact .call (fun w => w.quiet_loadRange r filePos start stop patchable) w

end Handle

/-! ## Values handed over -/

/-- The value that an answer hands over. -/
def Answer.value? : Answer → Option Value
  | value v => some v
  | _ => none

/-- The value that a call of a method returns, if it does. -/
def Handle.returned {ε : Type} (result : Except ε Value) : List Value := result.toOption.toList

namespace ReadStep

theorem value?_ofNumber (x : Except StreamError Int × World) : (Answer.ofNumber x).1.value? = none := by
  obtain ⟨_ | _, w⟩ := x <;> rfl

theorem value?_ofData (x : Except StreamError (Option Bytes) × World) : (Answer.ofData x).1.value? = none := by
  obtain ⟨_ | _ | _, w⟩ := x <;> rfl

theorem value?_ofByte (x : Except StreamError (Option UInt8) × World) : (Answer.ofByte x).1.value? = none := by
  obtain ⟨_ | _ | _, w⟩ := x <;> rfl

/-- **Used directly**, a handle hands over no value but its capsule. -/
theorem value?_perform {step : ReadStep} (direct : step ≠ .toCapsule) (h : Handle) (w : World) :
    (step.perform h w).1.value? = none := by
  cases step with
  | seek | tell | size | copyRange => exact value?_ofNumber _
  | read | readLine | readCString | readSwapped => exact value?_ofData _
  | readByte => exact value?_ofByte _
  | toCapsule => exact absurd rfl direct
  | info | describe | describeView => rfl

/-- **What a direct use costs** is the capsule, if it hands one over. -/
theorem charged_perform (h : Handle) (w : World) (step : ReadStep) :
    World.Charged (step.perform h w).1.value?.toList w (step.perform h w).2 := by
  by_cases capsule : step = .toCapsule
  · subst capsule
    unfold perform Handle.toCapsule
    cases h.ref? with
    | none => exact .refl w
    | some r => exact .make w (.capsule ⟨Handle.capsuleTag, r.number, r.number_pos⟩)
  rw [value?_perform capsule]
  cases step with
  | seek offset whence => rw [perform, Answer.ofNumber_snd]; exact h.charged_seek offset whence w
  | tell => rw [perform, Answer.ofNumber_snd]; exact h.charged_tell w
  | size => rw [perform, Answer.ofNumber_snd]; exact h.charged_size w
  | read n => rw [perform, Answer.ofData_snd]; exact h.charged_read n w
  | readLine n => rw [perform, Answer.ofData_snd]; exact h.charged_readLine n w
  | readCString n pos => rw [perform, Answer.ofData_snd]; exact h.charged_readCString n pos w
  | readSwapped n bigEndian => rw [perform, Answer.ofData_snd]; exact h.charged_readSwapped n bigEndian w
  | readByte => rw [perform, Answer.ofByte_snd]; exact h.charged_readByte w
  | copyRange filePos start stop patchable =>
    rw [perform, Answer.ofNumber_snd]
    exact h.charged_copyRange filePos start stop patchable w
  | toCapsule => exact absurd rfl capsule
  | info | describe | describeView => exact .refl w

end ReadStep

namespace Handle

open World (Charged)

variable {w : World}

theorem charged_intResult (h : Handle) {x : Except StreamError Int × World} (charged : Charged [] w x.2) :
    Charged (returned (h.intResult x).1) w (h.intResult x).2.2 := by
  obtain ⟨_ | n, w'⟩ := x
  · exact charged
  · exact charged.light (v := .int n) rfl

theorem charged_openResult {x : Except StreamError Unit × Handle × World} (charged : Charged [] w x.2.2) :
    Charged (returned (openResult x).1) w (openResult x).2.2 := by
  obtain ⟨_ | _, h, w'⟩ := x <;> exact charged.light (v := .bool _) rfl

/-- Data is free, and the value made of it is not. -/
theorem charged_dataResult (h : Handle) {make : Option Bytes → World → Value × World}
    {x : Except StreamError (Option Bytes) × World} (charged : Charged [] w x.2)
    (made : ∀ data w, Charged [(make data w).1] w (make data w).2) :
    Charged (returned (h.dataResult make x).1) w (h.dataResult make x).2.2 := by
  obtain ⟨_ | data, w'⟩ := x
  · exact charged
  · exact charged.trans (made data w')

theorem charged_bytesOrNone (data : Option Bytes) (w : World) :
    Charged [(bytesOrNone data w).1] w (bytesOrNone data w).2 := by
  cases data with
  | none => exact (Charged.refl w).light (v := .none) rfl
  | some data => exact .make w (.bytes data)

theorem charged_textOrNone (data : Option Bytes) (w : World) :
    Charged [(textOrNone data w).1] w (textOrNone data w).2 := by
  cases data with
  | none => exact (Charged.refl w).light (v := .none) rfl
  | some data => exact .make w (.text data)

/-- **What a request costs** is the value that it returns. -/
theorem charged_perform (h : Handle) (q : Request) (w : World) :
    Charged (returned (h.perform q w).1) w (h.perform q w).2.2 := by
  cases q with
  | «open» path remote => exact charged_openResult (h.charged_openPath path remote w)
  | openMemory start size => exact charged_openResult (h.charged_openMemory start size w)
  | attach r => exact (h.charged_close w).light (v := .none) rfl
  | close => exact (h.charged_close w).light (v := .none) rfl
  | seek offset whence => exact h.charged_intResult (h.charged_seek offset whence w)
  | tell => exact h.charged_intResult (h.charged_tell w)
  | size => exact h.charged_intResult (h.charged_size w)
  | read n => exact h.charged_dataResult (h.charged_read n w) charged_bytesOrNone
  | readLine n => exact h.charged_dataResult (h.charged_readLine n w) charged_textOrNone
  | readCString n pos => exact h.charged_dataResult (h.charged_readCString n pos w) charged_textOrNone
  | readSwapped n bigEndian => exact h.charged_dataResult (h.charged_readSwapped n bigEndian w) charged_bytesOrNone
  | readByte =>
    have read := h.charged_readByte w
    simp only [perform]
    rcases answer : h.readByte w with ⟨_ | _ | b, w'⟩ <;> rw [answer] at read
    · exact read
    · exact read.light (v := .none) rfl
    · exact read.light (v := .int b.toNat) rfl
  | copyRange filePos start stop patchable => exact h.charged_intResult (h.charged_copyRange filePos start stop patchable w)
  | isOpen => exact (Charged.refl w).light (v := .bool _) rfl
  | name => exact .make w (.text (Text.toBytes h.name))

theorem charged_callMethod (h : Handle) (name : String) (args : List Value) (w : World) :
    Charged (returned (h.callMethod name args w).1) w (h.callMethod name args w).2.2 := by
  unfold callMethod
  cases Request.ofCall name args with
  | error fault => exact .refl w
  | ok q =>
    have performed := h.charged_perform q w
    dsimp only
    split <;> next hq => rw [hq] at performed; exact performed

/-- A line is returned with what is ill-formed replaced. -/
theorem callMethod_gets {h : Handle} {n : Nat} {data : Bytes} (read : (h.readLine n w).1 = .ok (some data)) :
    (h.callMethod "gets" [.int n] w).1 = .ok (.text (Text.ofBytesLossy data)) := by
  have request : Request.ofCall "gets" [.int n] = .ok (.readLine n) := by
    have counted : Method.countArg .gets [.int n] 0 = .ok n := by simp [Method.countArg, Method.intArg, Value.asInt?]
    show (Method.countArg .gets [.int n] 0 >>= fun n => .ok (.readLine n)) = Except.ok (Request.readLine n)
    rw [counted]
    rfl
  rcases answer : h.readLine n w with ⟨result, w'⟩
  obtain rfl : result = .ok (some data) := by rw [← read, answer]
  simp only [callMethod, request, perform, answer]
  rfl

/-- A string is, too. -/
theorem callMethod_getz {h : Handle} {n : Nat} {pos : Int} {data : Bytes}
    (read : (h.readCString n (if pos = -1 then none else some pos) w).1 = .ok (some data)) :
    (h.callMethod "getz" [.int n, .int pos] w).1 = .ok (.text (Text.ofBytesLossy data)) := by
  have request : Request.ofCall "getz" [.int n, .int pos] = .ok (.readCString n (if pos = -1 then none else some pos)) := by
    have counted : Method.countArg .getz [.int n, .int pos] 0 = .ok n := by
      simp [Method.countArg, Method.intArg, Value.asInt?]
    show (Method.countArg .getz [.int n, .int pos] 0 >>= fun n =>
      .ok (.readCString n (if pos = -1 then none else some pos))) =
        Except.ok (Request.readCString n (if pos = -1 then none else some pos))
    rw [counted]
    rfl
  rcases answer : h.readCString n (if pos = -1 then none else some pos) w with ⟨result, w'⟩
  obtain rfl : result = .ok (some data) := by rw [← read, answer]
  simp only [callMethod, request, perform, answer]
  rfl

end Handle

/-! ## Scripts -/

/-- What a script does with the handles it has. -/
inductive ScriptStep where
  /-- Call a method of the handle of a name. -/
  | call (name method : String) (args : List Value)
  /-- Use the handle of a name directly. -/
  | direct (name : String) (step : ReadStep)

namespace Session

variable {s : Session}

def scriptStep (s : Session) : ScriptStep → Answer × Session
  | .call name method args => s.onHandle name fun h w =>
    let (result, h, w) := h.callMethod method args w
    (.ofCall result, h, w)
  | .direct name step => s.onHandle name fun h w =>
    let (answer, w) := step.perform h w
    (answer, h, w)

def runScript (s : Session) : List ScriptStep → List Answer × Session
  | [] => ([], s)
  | step :: rest =>
    let (answer, s) := s.scriptStep step
    let (answers, s) := s.runScript rest
    (answer :: answers, s)

theorem charged_onHandle (name : String) {f : Handle → World → Answer × Handle × World}
    (charged : ∀ h, s.world.Charged (f h s.world).1.value?.toList (f h s.world).2.2) :
    s.world.Charged (s.onHandle name f).1.value?.toList (s.onHandle name f).2.world := by
  unfold onHandle
  cases s.handles.get? name with
  | none => exact .refl s.world
  | some h => exact charged h

/-- **A step of a script** costs the value that it hands over. -/
theorem charged_scriptStep (s : Session) (step : ScriptStep) :
    s.world.Charged (s.scriptStep step).1.value?.toList (s.scriptStep step).2.world := by
  cases step with
  | call name method args =>
    refine charged_onHandle name fun h => ?_
    have called := h.charged_callMethod method args s.world
    rcases result : h.callMethod method args s.world with ⟨_ | v, h', w⟩ <;> rw [result] at called <;> exact called
  | direct name step => exact charged_onHandle name fun h => step.charged_perform h s.world

theorem value?_direct (s : Session) (name : String) {use : ReadStep} (direct : use ≠ .toCapsule) :
    (s.scriptStep (.direct name use)).1.value? = none := by
  simp only [scriptStep, onHandle]
  cases s.handles.get? name with
  | none => rfl
  | some h => exact ReadStep.value?_perform direct h s.world

theorem charged_runScript (s : Session) (steps : List ScriptStep) :
    s.world.Charged ((s.runScript steps).1.filterMap Answer.value?) (s.runScript steps).2.world := by
  induction steps generalizing s with
  | nil => exact .refl s.world
  | cons step rest ih =>
    have both := (s.charged_scriptStep step).trans (ih (s.scriptStep step).2)
    have values : (s.runScript (step :: rest)).1.filterMap Answer.value? =
        (s.scriptStep step).1.value?.toList ++ ((s.scriptStep step).2.runScript rest).1.filterMap Answer.value? := by
      simp only [runScript, List.filterMap_cons]
      cases (s.scriptStep step).1.value? <;> rfl
    rwa [← values] at both

/-- **The heap after a script**, whatever handles and world it started with: the first counter went up by the number of byte
strings, texts and capsules that it was handed over, the second by their payloads. A step that hands over anything else, or
fails, leaves both alone; so does every direct use of a handle but taking its capsule. A text that is read counts with what is
ill-formed replaced. -/
theorem heap_of_script (s : Session) (steps : List ScriptStep) :
    let (answers, after) := s.runScript steps
    let values := answers.filterMap Answer.value?
    after.world.lock.heap.objects = s.world.lock.heap.objects + values.countP Value.onHeap ∧
      after.world.lock.heap.bytes = s.world.lock.heap.bytes + (values.filterMap Value.payload?).sum ∧
      (∀ step : ScriptStep, (∀ v, (after.scriptStep step).1.value? = some v → v.onHeap = false) →
        (after.scriptStep step).2.world.lock.heap = after.world.lock.heap) ∧
      (∀ name use, use ≠ .toCapsule → (after.scriptStep (.direct name use)).1.value? = none ∧
        (after.scriptStep (.direct name use)).2.world.lock.heap = after.world.lock.heap) ∧
      ∀ (h : Handle) (n : Nat) (w : World) (data : Bytes),
        ((h.readLine n w).1 = .ok (some data) →
          (h.callMethod "gets" [.int n] w).1 = .ok (.text (Text.ofBytesLossy data))) ∧
        ∀ pos : Int, (h.readCString n (if pos = -1 then none else some pos) w).1 = .ok (some data) →
          (h.callMethod "getz" [.int n, .int pos] w).1 = .ok (.text (Text.ofBytesLossy data)) := by
  have charged := s.charged_runScript steps
  generalize s.runScript steps = run at charged ⊢
  obtain ⟨answers, after⟩ := run
  refine ⟨?_, ?_, fun step light => ?_, fun name use direct => ?_, fun h n w data => ?_⟩
  · rw [charged, HeapStats.objects_chargeAll]
  · rw [charged, HeapStats.bytes_chargeAll]
  · have cost := after.charged_scriptStep step
    cases handed : (after.scriptStep step).1.value? with
    | none =>
      rw [handed] at cost
      exact cost
    | some v =>
      rw [handed] at cost
      have same : after.world.lock.heap.charge v = after.world.lock.heap := HeapStats.charge_of_light _ (light v handed)
      exact Eq.trans cost same
  · have cost := after.charged_scriptStep (.direct name use)
    have nothing := after.value?_direct name direct
    rw [nothing] at cost
    exact ⟨nothing, cost⟩
  · exact ⟨Handle.callMethod_gets, fun pos => Handle.callMethod_getz⟩

/-- A line with an ill-formed byte counts three bytes for it; a read past the end and a direct read count nothing. -/
example :
    let world := (World.register {} .created (.supplied { data := #[0xff, 10], reportedSize := 2 })).2
    let s : Session := { world, handles := Keyed.set [] "h" (.borrow .first) }
    let steps : List ScriptStep :=
      [.direct "h" .toCapsule, .call "h" "gets" [.int 8], .call "h" "read" [.int 8], .direct "h" (.read 8)]
    (s.runScript steps).2.world.lock.heap = ⟨2, "linput.stream".utf8ByteSize + 4⟩ := by rfl

end Session
end ScriptStreams
