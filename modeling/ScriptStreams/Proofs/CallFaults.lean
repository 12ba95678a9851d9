import ScriptStreams.Method
/-!
# When a call fails

Each method asks something of each of its arguments (`Method.parameters`). A call fails for the first of these
reasons: no method has the name, the number of arguments is wrong, an argument does not do, or the method
needs a stream and the handle has none (`CallFails`). It fails for no other reason, and a call that fails changes
nothing at all (`Handle.callMethod_error_iff`).
-/
namespace ScriptStreams

/-! ## What methods ask of their arguments -/

inductive Parameter where
  | text | flag | integer | count | address | whence | stream
  deriving DecidableEq

namespace Parameter

/-- The values that do. A truth value does where an integer does, for 0 or 1. -/
def admits : Parameter → Value → Bool
  | text, .text _ => true
  | flag, .bool _ | flag, .int _ | integer, .bool _ | integer, .int _ => true
  | count, .bool _ | address, .bool _ | whence, .bool _ => true
  | count, .int n | address, .int n => 0 ≤ n
  | whence, .int n => n = 0 || n = 1 || n = 2
  | stream, .bool b => b
  | stream, .int n => 0 < n
  | stream, .capsule c => c.tag = Handle.capsuleTag
  | _, _ => false

/-- The type that a script is told to use. -/
def typeName : Parameter → String
  | text => "str"
  | flag => "bool"
  | integer | count | address | whence => "int"
  | stream => "a stream capsule"

/-- What a script is told of a value that does not do, as the argument of `m` with number `i`. -/
def complaint (m : Method) (i : Nat) (p : Parameter) (v : Value) : String :=
  match p, v with
  | count, .int n => m.name ++ "() argument " ++ toString i ++ " must be non-negative, got " ++ toString n
  | address, .int _ => m.name ++ "() argument " ++ toString i ++ " must be " ++ "an address" ++ ", not " ++ "int"
  | p, v => m.name ++ "() argument " ++ toString i ++ " must be " ++ p.typeName ++ ", not " ++ v.typeName

/-- An integer that is no reference point of a seek has the right type and the wrong value; everything else that
does not do has the wrong type. -/
def error (m : Method) (i : Nat) (p : Parameter) (v : Value) : ScriptError :=
  match p, v with
  | whence, .int n => .valueError ("invalid whence (" ++ toString n ++ ", should be 0, 1 or 2)")
  | p, v => .typeError (p.complaint m i v)

end Parameter

namespace Method

open Parameter

def parameters : Method → List Parameter
  | .open => [text, flag]
  | .openMemory => [address, address]
  | .setLinput => [stream]
  | .seek => [integer, whence]
  | .read | .gets => [count]
  | .getz => [count, integer]
  | .readbytes => [count, flag]
  | .file2base => [integer, address, address, flag]
  | .close | .tell | .size | .getByte | .opened | .filename => []

/-- Methods of which an empty handle can make nothing. -/
def needsStream : Method → Bool
  | .seek | .tell | .size | .read | .gets | .getz | .getByte | .readbytes | .file2base => true
  | .open | .openMemory | .setLinput | .close | .opened | .filename => false

/-- The numbers of arguments that the method takes: the required ones, and as many of the others as there are
defaults. -/
def Takes (m : Method) (n : Nat) : Prop :=
  m.definition.required ≤ n ∧ n ≤ m.definition.required + m.definition.defaults.length

/-- The first argument that does not do, what was asked of it, and how many stand before it. -/
def misfit? (m : Method) (args : List Value) : Option ((Parameter × Value) × Nat) :=
  (m.parameters.zip args).zipIdx.find? fun x => !x.1.1.admits x.1.2

/-- Every parameter is a required argument or has a default. -/
theorem length_parameters (m : Method) :
    m.parameters.length = m.definition.required + m.definition.defaults.length := by
  cases m <;> rfl

/-- **Every default does** for its own parameter. -/
theorem admits_default (m : Method) :
    ∀ x ∈ (m.parameters.drop m.definition.required).zip m.definition.defaults, x.1.admits x.2 = true := by
  cases m <;> decide

theorem named?_eq_none_iff {name : String} : named? name = none ↔ ∀ m : Method, m.name ≠ name := by
  simp [named?, List.find?_eq_none, mem_all]

end Method

/-- Whether an empty handle can make nothing of the request. -/
def Request.needsStream : Request → Bool
  | .seek .. | .tell | .size | .read .. | .readLine .. | .readCString .. | .readByte | .readSwapped ..
  | .copyRange .. => true
  | .open .. | .openMemory .. | .attach .. | .close | .isOpen | .name => false

/-! ## The reasons -/

/-- Why calling `name` with `args` on a handle fails, the first reason that there is. -/
inductive CallFails (h : Handle) (name : String) (args : List Value) : ScriptError → Prop where
  | noSuchMethod : (∀ m : Method, m.name ≠ name) → CallFails h name args (.attributeError name)
  | argumentCount (m : Method) : m.name = name → ¬ m.Takes args.length →
      CallFails h name args (.typeError (m.name ++ "() takes " ++ CallFault.expectedCount m.definition ++
        " positional arguments but " ++ toString args.length ++ " were given"))
  | argument (m : Method) {p : Parameter} {v : Value} {i : Nat} : m.name = name → m.Takes args.length →
      m.misfit? args = some ((p, v), i) → CallFails h name args (p.error m (i + 1) v)
  | notOpened (m : Method) : m.name = name → m.Takes args.length → m.misfit? args = none →
      m.needsStream = true → h.ownership = .empty →
      CallFails h name args (.valueError "I/O operation on unopened input")

/-! ## Conversion -/

namespace Parameter

/-- The fault that conversion finds with a value that does not do. -/
def fault (m : Method) (i : Nat) : Parameter → Value → CallFault
  | count, .int n => .negativeArgument m i n
  | address, .int _ => .argumentType m i "an address" "int"
  | whence, .int n => .invalidWhence n
  | p, v => .argumentType m i p.typeName v.typeName

theorem toScript_fault (m : Method) (i : Nat) (p : Parameter) (v : Value) :
    (p.fault m i v).toScript = p.error m i v := by
  cases p <;> cases v <;> rfl

/-- Conversion of `v` gives something if `v` does, and its fault if not. -/
def Converts {α : Type} (m : Method) (i : Nat) (p : Parameter) (v : Value) (x : Except CallFault α) : Prop :=
  if p.admits v = true then ∃ a, x = .ok a else x = .error (p.fault m (i + 1) v)

variable {m : Method} {args : List Value} {i : Nat} {v : Value}

theorem mismatch_eq (h : args[i]? = some v) (expected : String) :
    m.mismatch args i expected = .argumentType m (i + 1) expected v.typeName := by
  rw [Method.mismatch, h]
  rfl

theorem intArg_eq (h : args[i]? = some v) : m.intArg args i =
    match v.asInt? with
    | some n => .ok n
    | none => .error (.argumentType m (i + 1) "int" v.typeName) := by
  rw [Method.intArg, mismatch_eq h, h]
  rfl

theorem converts_textArg (h : args[i]? = some v) : text.Converts m i v (m.textArg args i) := by
  cases v <;> simp [Converts, admits, fault, typeName, Method.textArg, mismatch_eq h, h, Value.asText?]

theorem converts_flagArg (h : args[i]? = some v) : flag.Converts m i v (m.flagArg args i) := by
  cases v <;> simp [Converts, admits, fault, typeName, Method.flagArg, mismatch_eq h, h, Value.asBool?]
  exact Decidable.em _

theorem converts_intArg (h : args[i]? = some v) : integer.Converts m i v (m.intArg args i) := by
  cases v <;> simp [Converts, admits, fault, typeName, intArg_eq h, Value.asInt?]

theorem converts_countArg (h : args[i]? = some v) : count.Converts m i v (m.countArg args i) := by
  cases v with
  | int n => by_cases hn : 0 ≤ n <;> simp [Converts, admits, fault, Method.countArg, intArg_eq h, Value.asInt?, hn]
  | bool b => cases b <;> simp [Converts, admits, Method.countArg, intArg_eq h, Value.asInt?]
  | _ => simp [Converts, admits, fault, typeName, Method.countArg, intArg_eq h, Value.asInt?]

theorem converts_addressArg (h : args[i]? = some v) : address.Converts m i v (m.addressArg args i) := by
  cases v with
  | int n =>
    by_cases hn : 0 ≤ n <;>
      simp [Converts, admits, fault, Method.addressArg, mismatch_eq h, intArg_eq h, Value.asInt?, Value.typeName, hn]
  | bool b => cases b <;> simp [Converts, admits, Method.addressArg, intArg_eq h, Value.asInt?]
  | _ => simp [Converts, admits, fault, typeName, Method.addressArg, intArg_eq h, Value.asInt?]

theorem converts_whenceArg (h : args[i]? = some v) : whence.Converts m i v (m.whenceArg args i) := by
  cases v with
  | int n =>
    by_cases h0 : n = 0 <;> by_cases h1 : n = 1 <;> by_cases h2 : n = 2 <;>
      simp [Converts, admits, fault, Method.whenceArg, Whence.ofCode?, intArg_eq h, Value.asInt?, h0, h1, h2]
  | bool b => cases b <;> simp [Converts, admits, Method.whenceArg, Whence.ofCode?, intArg_eq h, Value.asInt?]
  | _ => simp [Converts, admits, fault, typeName, Method.whenceArg, intArg_eq h, Value.asInt?]

theorem converts_streamArg (h : args[i]? = some v) : stream.Converts m i v (m.streamArg args i) := by
  unfold Converts Method.streamArg
  rw [mismatch_eq h, h]
  cases v with
  | int n =>
    by_cases hn : 0 < n <;> simp [admits, fault, typeName, Method.refOf?, Value.asInt?, StreamRef.ofNumber?, hn]
  | bool b => cases b <;> simp [admits, fault, typeName, Method.refOf?, Value.asInt?, StreamRef.ofNumber?]
  | capsule c => by_cases hc : c.tag = Handle.capsuleTag <;> simp [admits, fault, typeName, Method.refOf?, hc]
  | _ => simp [admits, fault, typeName, Method.refOf?, Value.asInt?]

end Parameter

namespace Method

open Parameter

/-- Conversion from argument `i` on, left to right: the fault of the first value that does not do, or else a
request that needs a stream if the method does. -/
def ConvertsAll (m : Method) : Nat → List (Parameter × Value) → Except CallFault Request → Prop
  | _, [], x => ∃ q, x = .ok q ∧ q.needsStream = m.needsStream
  | i, (p, v) :: rest, x => if p.admits v = true then m.ConvertsAll (i + 1) rest x else x = .error (p.fault m (i + 1) v)

namespace ConvertsAll

variable {m : Method} {α : Type} {p : Parameter} {v : Value} {i : Nat} {rest : List (Parameter × Value)}

theorem bind {x : Except CallFault α} {f : α → Except CallFault Request} (first : p.Converts m i v x)
    (others : ∀ a, m.ConvertsAll (i + 1) rest (f a)) : m.ConvertsAll i ((p, v) :: rest) (x >>= f) := by
  unfold ConvertsAll
  unfold Converts at first
  split at first
  · next admitted =>
    obtain ⟨a, rfl⟩ := first
    rw [if_pos admitted]
    exact others a
  · next refused =>
    rw [if_neg refused, first]
    rfl

theorem ok {pvs : List (Parameter × Value)} {x : Except CallFault Request} (all : m.ConvertsAll i pvs x)
    (fit : (pvs.zipIdx i).find? (fun x => !x.1.1.admits x.1.2) = none) :
    ∃ q, x = .ok q ∧ q.needsStream = m.needsStream := by
  induction pvs generalizing i with
  | nil => exact all
  | cons pv rest ih =>
    obtain ⟨p, v⟩ := pv
    by_cases admitted : p.admits v = true
    · simp only [ConvertsAll, if_pos admitted] at all
      exact ih all (by simpa [List.zipIdx_cons, admitted] using fit)
    · simp [List.zipIdx_cons, admitted] at fit

theorem error {pvs : List (Parameter × Value)} {x : Except CallFault Request} {j : Nat} (all : m.ConvertsAll i pvs x)
    (unfit : (pvs.zipIdx i).find? (fun x => !x.1.1.admits x.1.2) = some ((p, v), j)) :
    x = .error (p.fault m (j + 1) v) := by
  induction pvs generalizing i with
  | nil => simp at unfit
  | cons pv rest ih =>
    obtain ⟨p', v'⟩ := pv
    by_cases admitted : p'.admits v' = true
    · simp only [ConvertsAll, if_pos admitted] at all
      exact ih all (by simpa [List.zipIdx_cons, admitted] using unfit)
    · simp only [ConvertsAll, if_neg admitted] at all
      obtain ⟨⟨rfl, rfl⟩, rfl⟩ : (p' = p ∧ v' = v) ∧ i = j := by simpa [List.zipIdx_cons, admitted] using unfit
      exact all

end ConvertsAll

/-- Each method asks for its arguments in turn, each for what it is. -/
theorem convertsAll_request (m : Method) {args : List Value} (complete : args.length = m.parameters.length) :
    m.ConvertsAll 0 (m.parameters.zip args) (m.request args) := by
  match m, args, complete with
  | .open, [_, _], _ => exact .bind (converts_textArg rfl) fun _ => .bind (converts_flagArg rfl) fun _ => ⟨_, rfl, rfl⟩
  | .openMemory, [_, _], _ =>
    exact .bind (converts_addressArg rfl) fun _ => .bind (converts_addressArg rfl) fun _ => ⟨_, rfl, rfl⟩
  | .setLinput, [_], _ => exact .bind (converts_streamArg rfl) fun _ => ⟨_, rfl, rfl⟩
  | .seek, [_, _], _ => exact .bind (converts_intArg rfl) fun _ => .bind (converts_whenceArg rfl) fun _ => ⟨_, rfl, rfl⟩
  | .read, [_], _ | .gets, [_], _ => exact .bind (converts_countArg rfl) fun _ => ⟨_, rfl, rfl⟩
  | .getz, [_, _], _ => exact .bind (converts_countArg rfl) fun _ => .bind (converts_intArg rfl) fun _ => ⟨_, rfl, rfl⟩
  | .readbytes, [_, _], _ =>
    exact .bind (converts_countArg rfl) fun _ => .bind (converts_flagArg rfl) fun _ => ⟨_, rfl, rfl⟩
  | .file2base, [_, _, _, _], _ =>
    exact .bind (converts_intArg rfl) fun _ => .bind (converts_addressArg rfl) fun _ =>
      .bind (converts_addressArg rfl) fun _ => .bind (converts_flagArg rfl) fun _ => ⟨_, rfl, rfl⟩
  | .close, [], _ | .tell, [], _ | .size, [], _ | .getByte, [], _ | .opened, [], _ | .filename, [], _ =>
    exact ⟨_, rfl, rfl⟩

/-- The defaults that complete `n` arguments do, each for its parameter. -/
theorem admits_completion (m : Method) {n : Nat} (enough : m.definition.required ≤ n) :
    ∀ x ∈ (m.parameters.drop n).zip (m.definition.defaults.drop (n - m.definition.required)),
      x.1.admits x.2 = true := by
  intro x mem
  have shifted : (m.parameters.drop n).zip (m.definition.defaults.drop (n - m.definition.required)) =
      ((m.parameters.drop m.definition.required).zip m.definition.defaults).drop (n - m.definition.required) := by
    rw [List.zip_eq_zipWith, List.zip_eq_zipWith, List.drop_zipWith, List.drop_drop, Nat.add_sub_cancel' enough]
  rw [shifted] at mem
  exact m.admits_default x (List.mem_of_mem_drop mem)

/-- Completing the arguments brings in no misfit. -/
theorem misfit?_completion (m : Method) {args : List Value} (takes : m.Takes args.length) :
    m.misfit? (args ++ m.definition.defaults.drop (args.length - m.definition.required)) = m.misfit? args := by
  have width : (m.parameters.take args.length).length = args.length := by
    rw [List.length_take, m.length_parameters]
    exact Nat.min_eq_left takes.2
  -- the given arguments go with the first parameters, whatever follows them
  have apart : ∀ rest, m.parameters.zip (args ++ rest) =
      (m.parameters.take args.length).zip args ++ (m.parameters.drop args.length).zip rest := by
    intro rest
    rw [← List.zip_append width, List.take_append_drop]
  have given := apart []
  rw [List.append_nil, List.zip_nil_right, List.append_nil] at given
  unfold misfit?
  rw [apart, ← given, List.zipIdx_append, List.find?_append]
  refine Option.or_eq_left_of_none (List.find?_eq_none.2 fun x mem => ?_)
  simp [m.admits_completion takes.1 x.1 (List.fst_mem_of_mem_zipIdx mem)]

end Method

/-! ## Calls -/

namespace Method

variable {m : Method} {args : List Value}

theorem complete_of_takes (takes : m.Takes args.length) :
    m.complete args = .ok (args ++ m.definition.defaults.drop (args.length - m.definition.required)) := by
  have : ¬ (args.length < m.definition.required ∨ m.definition.maxArguments < args.length) := by
    unfold MethodDefinition.maxArguments
    have := takes.1
    have := takes.2
    omega
  simp [complete, this]

theorem complete_of_not_takes (refused : ¬ m.Takes args.length) :
    m.complete args = .error (.argumentCount m args.length) := by
  have : args.length < m.definition.required ∨ m.definition.maxArguments < args.length := by
    unfold Takes at refused
    unfold MethodDefinition.maxArguments
    omega
  simp [complete, this]

/-- Conversion of the completed arguments, judged by the given ones. -/
theorem request_completion (takes : m.Takes args.length) :
    ∃ x, m.complete args >>= m.request = x ∧
      (m.misfit? args = none → ∃ q, x = .ok q ∧ q.needsStream = m.needsStream) ∧
      ∀ p v i, m.misfit? args = some ((p, v), i) → x = .error (p.fault m (i + 1) v) := by
  have full : (args ++ m.definition.defaults.drop (args.length - m.definition.required)).length =
      m.parameters.length := by
    rw [List.length_append, List.length_drop, m.length_parameters]
    have := takes.1
    have := takes.2
    omega
  have converts := m.convertsAll_request full
  rw [complete_of_takes takes]
  refine ⟨_, rfl, fun fit => converts.ok ?_, fun p v i unfit => converts.error ?_⟩
  · rwa [← m.misfit?_completion takes] at fit
  · rwa [← m.misfit?_completion takes] at unfit

end Method

theorem Request.ofCall_name (m : Method) (args : List Value) :
    Request.ofCall m.name args = m.complete args >>= m.request := by
  rw [Request.ofCall, Method.named?_name]
  rfl

namespace Handle

variable {h : Handle} {name : String} {args : List Value}

theorem perform_of_empty {q : Request} (none : h.ownership = .empty) (needs : q.needsStream = true) (w : World) :
    h.perform q w = (.error .notOpened, h, w) := by
  have gone : h.ref? = Option.none := by simp [ref?, none, Ownership.ref?]
  cases q <;> simp [Request.needsStream] at needs <;>
    simp [perform, intResult, dataResult, seek, tell, size, read, readLine, readCString, readByte, readSwapped,
      copyRange, gone]

theorem exists_ref? (some : h.ownership ≠ .empty) : ∃ r, h.ref? = .some r := by
  unfold ref?
  cases held : h.ownership with
  | empty => exact absurd held some
  | owned r | borrowed r | adapted r => exact ⟨r, rfl⟩

/-- An open that fails is no error to a script. -/
theorem openResult_ok (x : Except StreamError Unit × Handle × World) : ∃ v y, openResult x = (.ok v, y) := by
  obtain ⟨_ | _, y⟩ := x <;> exact ⟨_, _, rfl⟩

/-- A request that finds what it needs has a result. -/
theorem perform_ok {q : Request} (finds : q.needsStream = true → h.ownership ≠ .empty) (w : World) :
    ∃ v x, h.perform q w = (.ok v, x) := by
  cases q with
  | «open» | openMemory => exact openResult_ok _
  | attach | close | isOpen | name => exact ⟨_, _, rfl⟩
  | seek | tell | size | read | readLine | copyRange =>
    obtain ⟨r, holds⟩ := exists_ref? (finds rfl)
    simp only [perform, seek, tell, size, read, readLine, copyRange, holds]
    exact ⟨_, _, rfl⟩
  | readCString | readSwapped =>
    obtain ⟨r, holds⟩ := exists_ref? (finds rfl)
    simp only [perform, readCString, readSwapped, holds]
    split <;> exact ⟨_, _, rfl⟩
  | readByte =>
    obtain ⟨r, holds⟩ := exists_ref? (finds rfl)
    simp only [perform, readByte, holds]
    cases (w.call .readByte (World.readByte r)).1 <;> exact ⟨_, _, rfl⟩

/-- **A call for which there is a reason to fail fails with it and changes nothing.** -/
theorem callMethod_of_fails {e : ScriptError} (fails : CallFails h name args e) (w : World) :
    h.callMethod name args w = (.error e, h, w) := by
  cases fails with
  | noSuchMethod unknown =>
    simp [callMethod, Request.ofCall, Method.named?_eq_none_iff.2 unknown, Bind.bind, Except.bind, CallFault.toScript]
  | argumentCount m named refused =>
    subst named
    simp [callMethod, Request.ofCall_name, Method.complete_of_not_takes refused, Bind.bind, Except.bind,
      CallFault.toScript]
  | @argument m p v i named takes misfit =>
    subst named
    obtain ⟨x, request, -, failed⟩ := Method.request_completion takes
    simp only [callMethod, Request.ofCall_name, request, failed p v i misfit, Parameter.toScript_fault]
  | notOpened m named takes fit needs none =>
    subst named
    obtain ⟨x, request, converted, -⟩ := Method.request_completion takes
    obtain ⟨q, rfl, same⟩ := converted fit
    simp only [callMethod, Request.ofCall_name, request, perform_of_empty none (same.trans needs)]
    rfl

/-- A call for which there is no such reason has a result. -/
theorem fails_or_callMethod_ok (h : Handle) (name : String) (args : List Value) (w : World) :
    (∃ e, CallFails h name args e) ∨ ∃ v x, h.callMethod name args w = (.ok v, x) := by
  by_cases known : ∃ m : Method, m.name = name
  case neg => exact .inl ⟨_, .noSuchMethod fun m named => known ⟨m, named⟩⟩
  obtain ⟨m, rfl⟩ := known
  by_cases takes : m.Takes args.length
  case neg => exact .inl ⟨_, .argumentCount m rfl takes⟩
  cases misfit : m.misfit? args with
  | some x => exact .inl ⟨_, .argument m rfl takes misfit⟩
  | none =>
    by_cases lacks : m.needsStream = true ∧ h.ownership = .empty
    · exact .inl ⟨_, .notOpened m rfl takes misfit lacks.1 lacks.2⟩
    · obtain ⟨x, request, converted, -⟩ := Method.request_completion takes
      obtain ⟨q, rfl, same⟩ := converted misfit
      obtain ⟨v, x, performed⟩ := perform_ok (q := q) (fun needs none => lacks ⟨same ▸ needs, none⟩) w
      refine .inr ⟨v, x, ?_⟩
      simp only [callMethod, Request.ofCall_name, request, performed]

/-- **Calls fail atomically and for exactly the stated reasons**, the first of them that there is: a call that
fails has one of these reasons and leaves the handle and the whole world as they were. -/
theorem callMethod_error_iff (h : Handle) (name : String) (args : List Value) (w : World) (e : ScriptError)
    (h' : Handle) (w' : World) :
    h.callMethod name args w = (.error e, h', w') ↔ CallFails h name args e ∧ h' = h ∧ w' = w := by
  constructor
  · intro failed
    rcases fails_or_callMethod_ok h name args w with ⟨e', fails⟩ | ⟨v, x, ok⟩
    · rw [callMethod_of_fails fails] at failed
      cases failed
      exact ⟨fails, rfl, rfl⟩
    · rw [ok] at failed
      cases failed
  · rintro ⟨fails, rfl, rfl⟩
    exact callMethod_of_fails fails _

/-- A reference point that is none is found before the lack of a stream. -/
example (w : World) : ({} : Handle).callMethod "seek" [.int 0, .int 7] w =
    (.error (.valueError "invalid whence (7, should be 0, 1 or 2)"), {}, w) := by
  rfl

end Handle
end ScriptStreams
