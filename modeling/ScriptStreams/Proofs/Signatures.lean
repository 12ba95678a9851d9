import ScriptStreams.Proofs.Attaching
import ScriptStreams.Proofs.CallFaults
import ScriptStreams.Proofs.Utf8
/-!
# Signatures of the script methods

A method has a signature: what each of its arguments says to the handle (`Parameter.Says`), and what its result is to the
script (`Returned.value?`). In between stands one operation of the handle (`Method.direct`). Calling the method by name and
using the handle directly are the same thing: a call returns a value just when its arguments, with the defaults for
those left out, say something to the operation, and then value, handle and world are those of the operation.
-/
namespace ScriptStreams

/-! ## What arguments say -/

/-- The number that a value counts as: a truth value counts as 0 or 1. -/
inductive Value.Counts : Value → Int → Prop where
  | int (n : Int) : Counts (.int n) n
  | bool (b : Bool) : Counts (.bool b) (if b then 1 else 0)

namespace Parameter

/-- What a handle takes for such an argument. -/
def Meaning : Parameter → Type
  | text => String
  | flag => Bool
  | integer => Int
  | count | address => Nat
  | whence => Whence
  | stream => StreamRef

/-- What a value says as such an argument. -/
def Says : (p : Parameter) → Value → p.Meaning → Prop
  | text, v, s => v = .text s
  | flag, v, b => ∃ n, v.Counts n ∧ decide (n ≠ 0) = b
  | integer, v, n => v.Counts n
  | count, v, n | address, v, n => v.Counts (Int.ofNat n)
  | whence, v, w => v.Counts w.code
  | stream, v, r => (∃ c, v = .capsule c ∧ c.tag = Handle.capsuleTag ∧ c.address = r.number) ∨ v.Counts (Int.ofNat r.number)

end Parameter

/-- What a handle takes for a list of arguments. -/
def Meanings : List Parameter → Type
  | [] => Unit
  | p :: rest => p.Meaning × Meanings rest

/-- What values say as arguments, each for its own. -/
def SayAll : (ps : List Parameter) → List Value → Meanings ps → Prop
  | [], [], _ => True
  | p :: ps, v :: vs, (a, as) => p.Says v a ∧ SayAll ps vs as
  | _, _, _ => False

/-! ## What results are -/

inductive Returned where
  | nothing | success | flag | integer | byte | bytes | text | name
  deriving DecidableEq

namespace Returned

/-- What the operation gives. -/
def Result : Returned → Type
  | nothing | success => Unit
  | flag => Bool
  | integer => Int
  | byte => Option UInt8
  | bytes | text => Option Bytes
  | name => String

/-- What a script gets for it. A failure is no value, unless the script asked for success. -/
def value? : (k : Returned) → Except StreamError k.Result → Option Value
  | success, result => some (.bool result.isOk)
  | nothing, .ok _ => some .none
  | flag, .ok b => some (.bool b)
  | integer, .ok n => some (.int n)
  | byte, .ok none | bytes, .ok none | text, .ok none => some .none
  | byte, .ok (some b) => some (.int b.toNat)
  | bytes, .ok (some data) => some (.bytes data)
  | text, .ok (some data) => some (.text (Text.ofBytesLossy data))
  | name, .ok s => some (.text s)
  | _, .error _ => none

end Returned

/-- The world after `v` was made for a script. -/
def World.charge (w : World) (v : Value) : World := { w with lock := { w.lock with heap := w.lock.heap.charge v } }

/-- The value that a script gets for the outcome of an operation, with the handle and the world that it has then. -/
def Returned.handOver (k : Returned) (x : Except StreamError k.Result × Handle × World) : Option (Value × Handle × World) :=
  (k.value? x.1).map fun v => (v, x.2.1, x.2.2.charge v)

/-- The outcome of an operation that leaves the handle as it is. -/
def Handle.unchanged {α : Type} (h : Handle) (x : α × World) : α × Handle × World := (x.1, h, x.2)

namespace Method

def returned : Method → Returned
  | .open | .openMemory => .success
  | .setLinput | .close => .nothing
  | .seek | .tell | .size | .file2base => .integer
  | .read | .readbytes => .bytes
  | .gets | .getz => .text
  | .getByte => .byte
  | .opened => .flag
  | .filename => .name

/-- The arguments with the defaults for those left out. -/
def completed (m : Method) (args : List Value) : List Value :=
  args ++ m.definition.defaults.drop (args.length - m.definition.required)

/-- The operation of the handle that the method stands for. -/
def direct (m : Method) (a : Meanings m.parameters) (h : Handle) (w : World) :
    Except StreamError m.returned.Result × Handle × World :=
  match m, a with
  | .open, (path, remote, _) => h.openPath path remote w
  | .openMemory, (start, length, _) => h.openMemory start length w
  | .setLinput, (r, _) => (.ok (), h.attach r w)
  | .close, _ => (.ok (), h.close w)
  | .seek, (offset, base, _) => h.unchanged (h.seek offset base w)
  | .tell, _ => h.unchanged (h.tell w)
  | .size, _ => h.unchanged (h.size w)
  | .read, (n, _) => h.unchanged (h.read n w)
  | .gets, (n, _) => h.unchanged (h.readLine n w)
  | .getz, (n, pos, _) => h.unchanged (h.readCString n (some pos) w)
  | .getByte, _ => h.unchanged (h.readByte w)
  | .readbytes, (n, bigEndian, _) => h.unchanged (h.readSwapped n bigEndian w)
  | .file2base, (filePos, start, stop, patchable, _) => h.unchanged (h.copyRange filePos start stop patchable w)
  | .opened, _ => (.ok h.isOpen, h, w)
  | .filename, _ => (.ok h.name, h, w)

end Method

/-! ## Conversion of arguments -/

theorem Value.asInt?_eq_some_iff {v : Value} {n : Int} : v.asInt? = some n ↔ v.Counts n := by
  constructor
  · intro h
    cases v <;> cases h
    · exact .bool _
    · exact .int _
  · rintro (_ | _) <;> rfl

namespace Parameter

variable {m : Method} {args : List Value} {i : Nat} {v : Value}

theorem intArg_eq_ok_iff (h : args[i]? = some v) {n : Int} : m.intArg args i = .ok n ↔ integer.Says v n := by
  show _ ↔ v.Counts n
  rw [intArg_eq h, ← Value.asInt?_eq_some_iff]
  cases v.asInt? <;> simp

theorem textArg_eq_ok_iff (h : args[i]? = some v) {s : String} : m.textArg args i = .ok s ↔ text.Says v s := by
  cases v <;> simp [Method.textArg, h, Value.asText?, Says]

theorem flagArg_eq_ok_iff (h : args[i]? = some v) {b : Bool} : m.flagArg args i = .ok b ↔ flag.Says v b := by
  have number : v.asBool? = v.asInt?.map fun n => decide (n ≠ 0) := by
    cases v with
    | bool b => cases b <;> rfl
    | none | int | bytes | text | capsule => rfl
  have flagged : m.flagArg args i = .ok b ↔ v.asBool? = some b := by
    rw [Method.flagArg, h, Option.bind_some]
    cases v.asBool? <;> simp
  rw [flagged, number, Option.map_eq_some_iff]
  simp only [Value.asInt?_eq_some_iff, Says]

theorem countArg_eq_ok_iff (h : args[i]? = some v) {n : Nat} : m.countArg args i = .ok n ↔ count.Says v n := by
  show _ ↔ v.Counts n
  rw [Method.countArg, intArg_eq h, ← Value.asInt?_eq_some_iff]
  cases v.asInt? with
  | none => simp
  | some k =>
    by_cases natural : 0 ≤ k
    · have same : k.toNat = n ↔ k = n := by omega
      simpa [natural] using same
    · have other : k ≠ n := by omega
      simp [natural, other]

/-- Addresses and counts are refused with different words only. -/
theorem addressArg_eq_ok_iff (h : args[i]? = some v) {n : Nat} : m.addressArg args i = .ok n ↔ address.Says v n := by
  have alike : m.addressArg args i = .ok n ↔ m.countArg args i = .ok n := by
    rw [Method.addressArg, Method.countArg]
    cases m.intArg args i with
    | error fault => rfl
    | ok k => by_cases natural : 0 ≤ k <;> simp [natural]
  exact alike.trans (countArg_eq_ok_iff h)

theorem whenceArg_eq_ok_iff (h : args[i]? = some v) {w : Whence} : m.whenceArg args i = .ok w ↔ whence.Says v w := by
  show _ ↔ v.Counts w.code
  rw [Method.whenceArg, intArg_eq h, ← Value.asInt?_eq_some_iff]
  cases v.asInt? with
  | none => simp
  | some k =>
    rw [Option.some_inj, ← Whence.ofCode?_eq_some_iff]
    dsimp only
    cases Whence.ofCode? k <;> simp

theorem streamArg_eq_ok_iff (h : args[i]? = some v) {r : StreamRef} : m.streamArg args i = .ok r ↔ stream.Says v r := by
  have referred : m.streamArg args i = .ok r ↔ Method.refOf? v = some r := by
    rw [Method.streamArg, h, Option.bind_some]
    cases Method.refOf? v <;> simp
  rw [referred, Method.refOf?_eq_some, Value.asInt?_eq_some_iff]
  rfl

end Parameter

namespace Method

open Parameter

/-- The request that a method makes of what its arguments say. -/
def requestOf (m : Method) (a : Meanings m.parameters) : Request :=
  match m, a with
  | .open, (path, remote, _) => .open path remote
  | .openMemory, (start, length, _) => .openMemory start length
  | .setLinput, (r, _) => .attach r
  | .close, _ => .close
  | .seek, (offset, base, _) => .seek offset base
  | .tell, _ => .tell
  | .size, _ => .size
  | .read, (n, _) => .read n
  | .gets, (n, _) => .readLine n
  | .getz, (n, (pos : Int), _) => .readCString n (if pos = -1 then none else some pos)
  | .getByte, _ => .readByte
  | .readbytes, (n, bigEndian, _) => .readSwapped n bigEndian
  | .file2base, (filePos, start, stop, patchable, _) => .copyRange filePos start stop patchable
  | .opened, _ => .isOpen
  | .filename, _ => .name

/-- Conversion gives a request just when all the values say something, and then the one for that. -/
def ConvertsTo (ps : List Parameter) (vs : List Value) (x : Except CallFault Request) (f : Meanings ps → Request) : Prop :=
  ∀ q, x = .ok q ↔ ∃ a, SayAll ps vs a ∧ f a = q

namespace ConvertsTo

theorem ok {f : Meanings [] → Request} {r : Request} (same : f () = r) : ConvertsTo [] [] (.ok r) f := by
  intro q
  constructor
  · intro converted
    cases converted
    exact ⟨(), trivial, same⟩
  · rintro ⟨_, -, rfl⟩
    exact congrArg Except.ok same.symm

theorem bind {p : Parameter} {v : Value} {ps : List Parameter} {vs : List Value} {x : Except CallFault p.Meaning}
    {g : p.Meaning → Except CallFault Request} {f : Meanings (p :: ps) → Request} (first : ∀ {a}, x = .ok a ↔ p.Says v a)
    (others : ∀ a, ConvertsTo ps vs (g a) fun as => f (a, as)) : ConvertsTo (p :: ps) (v :: vs) (x >>= g) f := by
  intro q
  constructor
  · intro converted
    cases x with
    | error fault => cases converted
    | ok a =>
      obtain ⟨as, said, rfl⟩ := (others a q).1 converted
      exact ⟨(a, as), ⟨first.1 rfl, said⟩, rfl⟩
  · rintro ⟨⟨a, as⟩, ⟨first_said, said⟩, rfl⟩
    rw [first.2 first_said]
    exact (others a _).2 ⟨as, said, rfl⟩

end ConvertsTo

/-- **Arguments are converted**, each for what it says. -/
theorem convertsTo_request (m : Method) {args : List Value} (complete : args.length = m.parameters.length) :
    ConvertsTo m.parameters args (m.request args) m.requestOf := by
  match m, args, complete with
  | .open, [_, _], _ => exact .bind (textArg_eq_ok_iff rfl) fun _ => .bind (flagArg_eq_ok_iff rfl) fun _ => .ok rfl
  | .openMemory, [_, _], _ => exact .bind (addressArg_eq_ok_iff rfl) fun _ => .bind (addressArg_eq_ok_iff rfl) fun _ => .ok rfl
  | .setLinput, [_], _ => exact .bind (streamArg_eq_ok_iff rfl) fun _ => .ok rfl
  | .seek, [_, _], _ => exact .bind (intArg_eq_ok_iff rfl) fun _ => .bind (whenceArg_eq_ok_iff rfl) fun _ => .ok rfl
  | .read, [_], _ | .gets, [_], _ => exact .bind (countArg_eq_ok_iff rfl) fun _ => .ok rfl
  | .getz, [_, _], _ => exact .bind (countArg_eq_ok_iff rfl) fun _ => .bind (intArg_eq_ok_iff rfl) fun _ => .ok rfl
  | .readbytes, [_, _], _ => exact .bind (countArg_eq_ok_iff rfl) fun _ => .bind (flagArg_eq_ok_iff rfl) fun _ => .ok rfl
  | .file2base, [_, _, _, _], _ =>
    exact .bind (intArg_eq_ok_iff rfl) fun _ => .bind (addressArg_eq_ok_iff rfl) fun _ =>
      .bind (addressArg_eq_ok_iff rfl) fun _ => .bind (flagArg_eq_ok_iff rfl) fun _ => .ok rfl
  | .close, [], _ | .tell, [], _ | .size, [], _ | .getByte, [], _ | .opened, [], _ | .filename, [], _ => exact .ok rfl

end Method

/-! ## Results -/

/-- The outcome of something that may fail, where it does not. -/
def succeeded? {ε α : Type} : Except ε α × Handle × World → Option (α × Handle × World)
  | (.ok a, x) => some (a, x)
  | (.error _, _) => none

namespace Handle

open Returned

variable {h : Handle} {w : World}

theorem succeeded?_openResult (x : Except StreamError Unit × Handle × World) :
    succeeded? (openResult x) = success.handOver x := by
  rcases x with ⟨_ | _, _, _⟩ <;> rfl

theorem succeeded?_intResult (x : Except StreamError Int × World) :
    succeeded? (h.intResult x) = integer.handOver (h.unchanged x) := by
  rcases x with ⟨_ | _, _⟩ <;> rfl

theorem succeeded?_bytes (x : Except StreamError (Option Bytes) × World) :
    succeeded? (h.dataResult bytesOrNone x) = bytes.handOver (h.unchanged x) := by
  rcases x with ⟨_ | _ | _, _⟩ <;> rfl

theorem succeeded?_text (x : Except StreamError (Option Bytes) × World) :
    succeeded? (h.dataResult textOrNone x) = text.handOver (h.unchanged x) := by
  rcases x with ⟨_ | _ | _, _⟩ <;> rfl

theorem succeeded?_readByte : succeeded? (h.perform .readByte w) = byte.handOver (h.unchanged (h.readByte w)) := by
  simp only [perform]
  rcases h.readByte w with ⟨_ | _ | _, _⟩ <;> rfl

theorem succeeded?_name : succeeded? (h.perform .name w) = Returned.name.handOver (.ok h.name, h, w) := by
  simp only [perform, World.make, HeapStats.make, HeapStats.newText, Text.ofBytesLossy_toBytes]
  rfl

/-- A position of -1 is none. -/
theorem readCString_neg_one (h : Handle) (n : Nat) (w : World) : h.readCString n (some (-1)) w = h.readCString n none w := rfl

theorem readCString_position (h : Handle) (n : Nat) (pos : Int) (w : World) :
    h.readCString n (if pos = -1 then none else some pos) w = h.readCString n (some pos) w := by
  by_cases absent : pos = -1
  · rw [if_pos absent, absent, readCString_neg_one]
  · rw [if_neg absent]

/-- **Requests are carried out** by the operation of the method, and its result is handed over. -/
theorem succeeded?_perform (m : Method) (a : Meanings m.parameters) :
    succeeded? (h.perform (m.requestOf a) w) = m.returned.handOver (m.direct a h w) := by
  match m, a with
  | .open, (path, remote, _) => exact succeeded?_openResult _
  | .openMemory, (start, length, _) => exact succeeded?_openResult _
  | .setLinput, _ | .close, _ | .opened, _ => rfl
  | .seek, _ | .tell, _ | .size, _ | .file2base, _ => exact succeeded?_intResult _
  | .read, _ | .readbytes, _ => exact succeeded?_bytes _
  | .gets, _ => exact succeeded?_text _
  | .getz, (n, pos, _) =>
    exact (succeeded?_text _).trans (congrArg (fun x => text.handOver (h.unchanged x)) (h.readCString_position n pos w))
  | .getByte, _ => exact succeeded?_readByte
  | .filename, _ => exact succeeded?_name

/-- A call succeeds just when it makes a request and that succeeds. -/
theorem callMethod_eq_ok_iff {name : String} {args : List Value} {v : Value} {x : Handle × World} :
    h.callMethod name args w = (.ok v, x) ↔
      ∃ q, Request.ofCall name args = .ok q ∧ succeeded? (h.perform q w) = some (v, x) := by
  unfold callMethod
  rcases Request.ofCall name args with fault | q
  · simp
  · rcases performed : h.perform q w with ⟨_ | _, _⟩ <;> simp [performed, succeeded?]

end Handle

/-! ## Calls -/

namespace Method

theorem length_completed {m : Method} {args : List Value} (takes : m.Takes args.length) :
    (m.completed args).length = m.parameters.length := by
  rw [completed, List.length_append, List.length_drop, m.length_parameters]
  have := takes.1
  have := takes.2
  omega

theorem takes_completed {m : Method} {args : List Value} (takes : m.Takes args.length) :
    m.Takes (m.completed args).length := by
  rw [length_completed takes, m.length_parameters]
  exact ⟨Nat.le_add_right _ _, Nat.le_refl _⟩

theorem completed_of_length {m : Method} {args : List Value} (whole : args.length = m.parameters.length) :
    m.completed args = args := by
  rw [completed, whole, m.length_parameters, Nat.add_sub_cancel_left, List.drop_length, List.append_nil]

end Method

/-- A name and arguments make a request just when a method of that name takes so many and they say something to it. -/
theorem Request.ofCall_eq_ok_iff {name : String} {args : List Value} {q : Request} :
    ofCall name args = .ok q ↔
      ∃ m : Method, m.name = name ∧ m.Takes args.length ∧ ∃ a, SayAll m.parameters (m.completed args) a ∧ m.requestOf a = q := by
  constructor
  · intro made
    cases known : Method.named? name with
    | none =>
      rw [ofCall, known] at made
      cases made
    | some m =>
      obtain rfl : m.name = name := by simpa using List.find?_some known
      rw [ofCall_name] at made
      by_cases takes : m.Takes args.length
      · rw [Method.complete_of_takes takes] at made
        exact ⟨m, rfl, takes, (m.convertsTo_request (Method.length_completed takes) q).1 made⟩
      · rw [Method.complete_of_not_takes takes] at made
        cases made
  · rintro ⟨m, rfl, takes, said⟩
    rw [ofCall_name, Method.complete_of_takes takes]
    exact (m.convertsTo_request (Method.length_completed takes) q).2 said

/-- **Defaults left out** are given: the request is that of all the arguments. -/
theorem Request.ofCall_completed {m : Method} {args : List Value} (takes : m.Takes args.length) :
    ofCall m.name (m.completed args) = ofCall m.name args := by
  have whole := Method.length_completed takes
  rw [ofCall_name, ofCall_name, Method.complete_of_takes takes, Method.complete_of_takes (Method.takes_completed takes)]
  exact congrArg (fun args => Except.ok args >>= m.request) (Method.completed_of_length whole)

/-! ## Truth values -/

/-- A truth value as the number that it counts as. -/
def Value.counted : Value → Value
  | .bool b => .int (if b then 1 else 0)
  | v => v

theorem Value.counts_counted {v : Value} {n : Int} : v.counted.Counts n ↔ v.Counts n := by
  rw [← asInt?_eq_some_iff, ← asInt?_eq_some_iff]
  cases v <;> rfl

theorem Parameter.says_counted {p : Parameter} {v : Value} {a : p.Meaning} : p.Says v.counted a ↔ p.Says v a := by
  cases p with
  | text => cases v <;> simp [Says, Value.counted]
  | integer | count | address | whence => exact Value.counts_counted
  | flag => simp only [Says, Value.counts_counted]
  | stream =>
    simp only [Says, Value.counts_counted]
    cases v <;> simp [Value.counted]

theorem sayAll_counted {ps : List Parameter} {vs : List Value} {a : Meanings ps} :
    SayAll ps (vs.map Value.counted) a ↔ SayAll ps vs a := by
  induction ps generalizing vs with
  | nil => cases vs <;> rfl
  | cons p ps ih =>
    cases vs with
    | nil => rfl
    | cons v vs => exact and_congr Parameter.says_counted ih

/-- Arguments that count alike make the same requests. -/
theorem Request.ofCall_of_counted {name : String} {args args' : List Value} {q : Request}
    (alike : args'.map Value.counted = args.map Value.counted) (made : ofCall name args = .ok q) :
    ofCall name args' = .ok q := by
  have length : args'.length = args.length := by simpa using congrArg List.length alike
  obtain ⟨m, named, takes, a, said, rfl⟩ := ofCall_eq_ok_iff.1 made
  refine ofCall_eq_ok_iff.2 ⟨m, named, length ▸ takes, a, ?_, rfl⟩
  rw [← sayAll_counted, Method.completed, List.map_append] at said ⊢
  rwa [alike, length]

/-! ## Scripts and handles -/

namespace Handle

/-- **Calling a method and using the handle directly agree**, on any handle and in any world. A call returns a value just
when a method of the name takes so many arguments and they, with the defaults for those left out, say something to it, and
the operation that the method stands for has a result for the script; value, handle and world are then those that the
operation leaves, the world charged with the value. Giving defaults that were left out changes nothing, nor does giving
arguments that count alike, a truth value for the number 0 or 1 or the number for it. A string from position -1 is one from
no position. -/
theorem script_and_direct_agree (h : Handle) (name : String) (args : List Value) (w : World) :
    (∀ v h' w', h.callMethod name args w = (.ok v, h', w') ↔
      ∃ m : Method, m.name = name ∧ m.Takes args.length ∧ ∃ a, SayAll m.parameters (m.completed args) a ∧
        m.returned.handOver (m.direct a h w) = some (v, h', w')) ∧
      (∀ m : Method, m.name = name → m.Takes args.length →
        h.callMethod name (m.completed args) w = h.callMethod name args w) ∧
      (∀ args' : List Value, args'.map Value.counted = args.map Value.counted →
        ∀ v x, h.callMethod name args w = (.ok v, x) → h.callMethod name args' w = (.ok v, x)) ∧
      ∀ n, h.readCString n (some (-1)) w = h.readCString n none w := by
  refine ⟨fun v h' w' => ?_, ?_, fun args' alike v x called => ?_, fun n => readCString_neg_one h n w⟩
  · rw [callMethod_eq_ok_iff]
    constructor
    · rintro ⟨q, made, performed⟩
      obtain ⟨m, named, takes, a, said, rfl⟩ := Request.ofCall_eq_ok_iff.1 made
      rw [succeeded?_perform] at performed
      exact ⟨m, named, takes, a, said, performed⟩
    · rintro ⟨m, named, takes, a, said, handed⟩
      rw [← succeeded?_perform] at handed
      exact ⟨m.requestOf a, Request.ofCall_eq_ok_iff.2 ⟨m, named, takes, a, said, rfl⟩, handed⟩
  · rintro m rfl takes
    rw [callMethod, callMethod, Request.ofCall_completed takes]
  · obtain ⟨q, made, performed⟩ := callMethod_eq_ok_iff.1 called
    exact callMethod_eq_ok_iff.2 ⟨q, Request.ofCall_of_counted alike made, performed⟩

/-- A truth value attaches the first stream there is, as the number 1 does. -/
example (h : Handle) (w : World) :
    h.callMethod "set_linput" [.bool true] w = (.ok .none, borrow .first, (h.attach .first w).2) := by
  rfl

end Handle
end ScriptStreams
