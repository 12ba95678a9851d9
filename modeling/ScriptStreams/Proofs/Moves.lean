import ScriptStreams.Method
import ScriptStreams.Proofs.Reach
import Mathlib.Logic.Relation
/-!
# What handles do to the world

`Move` lists the elementary changes that operations of handles make to the world, beside the list of
streams that still have to be released: registering a stream puts it on the list, releasing one takes
it off, and nothing else touches the list or the table's references. Every operation of a handle is a
sequence of moves (`moves_openPath`, `moves_callMethod`, …), so a fact that single moves keep is
kept by all operations in any order.
-/
namespace ScriptStreams

/-- A stream that has to be released, and the release that it takes. -/
abbrev Holding := StreamOrigin × StreamRef

/-- What a handle has to release. -/
def Ownership.holding : Ownership → List Holding
  | empty | borrowed _ => []
  | owned r => [(.created, r)]
  | adapted r => [(.adapted, r)]

def Handle.holding (h : Handle) : List Holding := h.ownership.holding

theorem Handle.holding_copy (h : Handle) : h.copy.holding = [] := by
  obtain ⟨o, name⟩ := h
  cases o <;> rfl

theorem Handle.holding_of_not_isOpen {h : Handle} (hh : h.isOpen = false) : h.holding = [] := by
  have : h.ownership = .empty := by simpa [isOpen] using hh
  simp [holding, this, Ownership.holding]

/-- The call that releases a stream of an origin. -/
def StreamOrigin.releaseCall : StreamOrigin → Primitive
  | created => .closeCreated
  | adapted => .teardownAdapted

/-- The call releases a stream. -/
def Primitive.isRelease : Primitive → Bool
  | closeCreated | teardownAdapted => true
  | _ => false

/-- Call for the release of a stream. -/
def World.surrender (w : World) (o : StreamOrigin) (r : StreamRef) : World :=
  (w.native o.releaseCall fun w => ((), w.release o r)).2

/-! ## Elementary moves -/

inductive Move : List Holding × World → List Holding × World → Prop where
  /-- The streams to release may be listed in any order. -/
  | permute {held held' : List Holding} {w : World} : held.Perm held' → Move (held, w) (held', w)
  | lock {held : List Holding} {w : World} {l : RuntimeLock} :
      l.heap = w.lock.heap → Move (held, w) (held, { w with lock := l })
  /-- Log anything but a refused release. -/
  | note {held : List Holding} {w : World} {e : Event} :
      e ≠ .wrongOrigin → e ≠ .unknownStream → Move (held, w) (held, w.note e)
  /-- Record a call that releases nothing. -/
  | record {held : List Holding} {w : World} {p : Primitive} : p.isRelease = false →
      Move (held, w) (held, { w with calls := ⟨p, w.lock.locked⟩ :: w.calls })
  | make {held : List Holding} {w : World} (literal : Literal) : Move (held, w) (held, (w.make literal).2)
  | lend {held : List Holding} {w : World} (a : Allocator) (n ceiling : Nat) :
      Move (held, w) (held, { w with pool := (w.pool.acquire a n ceiling).2 })
  | takeBack {held : List Holding} {w : World} (b : Scratch.Buffer) :
      Move (held, w) (held, { w with pool := w.pool.release b })
  | load {held : List Holding} {w : World} (space : AddressSpace) : Move (held, w) (held, { w with space := space })
  /-- Seek and read in one live stream. -/
  | stream {held : List Holding} {w : World} {r : StreamRef} {e : Entry} {source : Source} {env : Environment} :
      w.table.entry? r = some e → Source.device.Reach (e.source, w.env) (source, env) →
      Move (held, w) (held, { w with env := env, table := w.table.update r source })
  | gain {held : List Holding} {w : World} (o : StreamOrigin) (source : Source) :
      Move (held, w) ((o, w.table.next) :: held, (w.register o source).2)
  | lose {held : List Holding} {w : World} (o : StreamOrigin) (r : StreamRef) :
      Move ((o, r) :: held, w) (held, w.surrender o r)

abbrev Moves := Relation.ReflTransGen Move

/-- What every move keeps holds after any sequence of them. -/
theorem Moves.preserves {P : List Holding × World → Prop} (step : ∀ a b, Move a b → P a → P b)
    {a b : List Holding × World} (h : Moves a b) (ha : P a) : P b := by
  induction h with
  | refl => exact ha
  | tail _ hbc ih => exact step _ _ hbc ih

/-- `f` is a sequence of moves from `held` on; its result tells what has to be released then. -/
def Leads {α : Type} (held : List Holding) (f : World → α × World) (after : α → List Holding) : Prop :=
  ∀ w, Moves (held, w) (after (f w).1, (f w).2)

/-- An operation accounts for its handle: whatever else has to be released, it leads from what the
handle held to what the handle holds. -/
def Accounts {α : Type} (op : Handle → World → α × Handle × World) : Prop :=
  ∀ h w others, Moves (h.holding ++ others, w) ((op h w).2.1.holding ++ others, (op h w).2.2)

variable {α : Type} {held : List Holding} {after : α → List Holding} {f : World → α × World}

theorem Leads.window (hf : Leads held f after) : Leads held (fun w => w.window f) after := by
  intro w
  have opened : Moves (held, w) (held, ({ w with lock := w.lock.openWindow } : World).note .windowOpened) :=
    (Relation.ReflTransGen.single (.lock rfl)).tail (.note (by decide) (by decide))
  exact (opened.trans (hf _)).tail (.lock rfl)

theorem Leads.call {p : Primitive} (hp : p.isRelease = false) (hf : Leads held f after) :
    Leads held (fun w => w.call p f) after :=
  Leads.window (f := fun w => w.native p f) fun _ => (Relation.ReflTransGen.single (.record hp)).trans (hf _)

/-! ## Streams -/

theorem leads_withStream (r : StreamRef) {f : Source × Environment → α × Source × Environment}
    (hf : ∀ s, Source.device.Reach s (f s).2) : Leads held (fun w => w.withStream r f) fun _ => held := by
  intro w
  show Moves (held, w) (held, (w.withStream r f).2)
  unfold World.withStream
  split
  · exact .refl
  · next e he => exact .single (.stream he (hf _))

theorem leads_seek (r : StreamRef) (offset : Int) (whence : Whence) :
    Leads held (World.seek r offset whence) fun _ => held :=
  leads_withStream r fun _ => Device.Reach.refl.seek offset whence

theorem leads_readBytes (r : StreamRef) (n : Nat) : Leads held (World.readBytes r n) fun _ => held :=
  leads_withStream r fun _ => Device.Reach.refl.read n

theorem moves_of_reach (held : List Holding) {r : StreamRef} {w w' : World} (h : (World.device r).Reach w w') :
    Moves (held, w) (held, w') :=
  h.preserves (P := fun v => Moves (held, w) (held, v))
    (fun offset whence v hv => hv.trans (leads_seek r offset whence v))
    (fun n v hv => hv.trans (leads_readBytes r n v)) .refl

theorem leads_loadSpace (r : StreamRef) (filePos : Int) (start stop : Nat) (patchable : Bool) :
    Leads held (World.loadSpace r filePos start stop patchable) fun _ => held := by
  intro w
  have reached := moves_of_reach held
    (AddressSpace.reach_load w.allocator (World.device r) w.space filePos start stop patchable w)
  show Moves (held, w) (held, (w.loadSpace r filePos start stop patchable).2)
  unfold World.loadSpace
  split
  next outcome space w' h =>
    rw [h] at reached
    have loaded := reached.tail (.load space)
    cases outcome
    · exact loaded
    all_goals exact loaded.tail (.note (by decide) (by decide))

theorem leads_loadRange (r : StreamRef) (filePos : Int) (start stop : Nat) (patchable : Bool) :
    Leads held (World.loadRange r filePos start stop patchable) fun _ => held := by
  intro w
  show Moves (held, w) (held, (w.loadRange r filePos start stop patchable).2)
  unfold World.loadRange
  split
  · exact .refl
  · exact leads_loadSpace r filePos start stop patchable w

/-! ## Registration -/

/-- A new stream has to be released in the way of its origin. -/
def gained (o : StreamOrigin) (held : List Holding) (r : Option StreamRef) : List Holding :=
  match r with
  | some r => (o, r) :: held
  | none => held

theorem leads_openByPath (held : List Holding) (path : String) (remote : Bool) :
    Leads held (World.openByPath path remote) (gained .created held) := by
  intro w
  unfold World.openByPath
  split
  · exact .single (.note (by decide) (by decide))
  · split
    · exact .single (.note (by decide) (by decide))
    · exact .single (.gain .created _)

theorem leads_createMemoryStream (held : List Holding) (start size : Nat) :
    Leads held (World.createMemoryStream start size) (gained .created held) := by
  intro w
  unfold World.createMemoryStream
  split
  · exact .single (.note (by decide) (by decide))
  · split
    · exact .refl
    · exact .single (.gain .created _)

theorem leads_adaptRawHandle (held : List Holding) (openFile : Nat) :
    Leads held (World.adaptRawHandle openFile) (gained .adapted held) := by
  intro w
  unfold World.adaptRawHandle
  split
  · exact .refl
  · exact .refl
  · exact .single (.gain .adapted _)

/-! ## The life cycle of a handle -/

namespace Handle

variable {others : List Holding}

theorem leads_releaseStream (o : Ownership) : Leads (o.holding ++ others) (releaseStream o) fun _ => others := by
  intro w
  cases o with
  | empty => exact .refl
  | borrowed r => exact .refl
  | owned r => exact .single (.lose .created r)
  | adapted r => exact .single (.lose .adapted r)

theorem moves_close (h : Handle) (w : World) (others : List Holding) :
    Moves (h.holding ++ others, w) ((h.close w).1.holding ++ others, (h.close w).2) := by
  unfold close
  split
  · exact (leads_releaseStream h.ownership).window w
  · exact .refl

/-- A closed handle holds nothing. -/
theorem holding_close (h : Handle) (w : World) : (h.close w).1.holding = [] := by
  unfold close
  split
  · rfl
  · next hh => exact holding_of_not_isOpen (by simpa using hh)

theorem accounts_attach (r : StreamRef) : Accounts fun h w => ((), h.attach r w) := by
  intro h w others
  have closed := h.moves_close w others
  rw [h.holding_close w] at closed
  exact closed

theorem accounts_openPath (path : String) (remote : Bool) : Accounts fun h w => h.openPath path remote w := by
  intro h w others
  have closed := h.moves_close w others
  have none_held := h.holding_close w
  have opened := (leads_openByPath others path remote).call (p := .openByPath) rfl
    (h.close w).2
  dsimp only at opened
  simp only [openPath]
  generalize h.close w = closing at *
  obtain ⟨h', w'⟩ := closing
  rw [none_held] at closed
  split
  · next hr =>
    rw [hr] at opened
    simp only [none_held]
    exact closed.trans opened
  · next r w'' hr =>
    rw [hr] at opened
    exact (closed.trans opened).tail (.note (by decide) (by decide))

theorem accounts_openMemory (start size : Nat) : Accounts fun h w => h.openMemory start size w := by
  intro h w others
  have opened := (leads_createMemoryStream (h.holding ++ others) start size).call
    (p := .createMemoryStream) rfl w
  dsimp only at opened
  simp only [openMemory]
  split
  · next hr =>
    rw [hr] at opened
    exact opened
  · next r w' hr =>
    rw [hr] at opened
    -- the new stream stands first on the list; the old one is released before it
    have swapped : Moves ((.created, r) :: (h.holding ++ others), w') (h.holding ++ (.created, r) :: others, w') :=
      .single (.permute List.perm_middle.symm)
    have closed := h.moves_close w' ((.created, r) :: others)
    rw [h.holding_close w'] at closed
    exact ((opened.trans swapped).trans closed).tail (.note (by decide) (by decide))

theorem moves_ofRaw (openFile : Nat) (w : World) (held : List Holding) :
    Moves (held, w) (((ofRaw openFile w).1.map holding).getD [] ++ held, (ofRaw openFile w).2) := by
  have adapted := (leads_adaptRawHandle held openFile).call (p := .adaptRawHandle) rfl w
  dsimp only at adapted
  unfold ofRaw
  split
  · next hr => rw [hr] at adapted; exact adapted
  · next r w' hr =>
    rw [hr] at adapted
    exact adapted.tail (.note (by decide) (by decide))

theorem moves_drop (h : Handle) (w : World) : Moves (h.holding ++ others, w) (others, h.drop w) := by
  obtain ⟨o, name⟩ := h
  cases o with
  | empty => exact .refl
  | borrowed r => exact .refl
  | owned r => exact (Relation.ReflTransGen.single (.note (by decide) (by decide))).tail (.lose .created r)
  | adapted r => exact (Relation.ReflTransGen.single (.note (by decide) (by decide))).tail (.lose .adapted r)

/-! ## Reads -/

theorem leads_withScratch (n : Nat) {f : Scratch.Buffer → World → Option Bytes × Scratch.Buffer × World}
    (hf : ∀ b w, Moves (held, w) (held, (f b w).2.2)) : Leads held (fun w => withScratch n w f) fun _ => held := by
  intro w
  have lent : Moves (held, w) (held, { w with pool := (w.pool.acquire w.allocator n w.host.config.maxScratch).2 }) :=
    .single (.lend _ n _)
  show Moves (held, w) (held, (withScratch n w f).2)
  unfold withScratch
  split
  · next hp =>
    rw [hp] at lent
    exact lent.tail (.note (by decide) (by decide))
  · next b pool hp =>
    rw [hp] at lent
    exact (lent.trans (hf b _)).tail (.takeBack _)

theorem leads_seek (h : Handle) (offset : Int) (whence : Whence) :
    Leads held (h.seek offset whence) fun _ => held := by
  intro w
  unfold seek
  split
  · exact .refl
  · next r _ => exact (ScriptStreams.leads_seek r offset whence).call rfl w

theorem leads_tell (h : Handle) : Leads held h.tell fun _ => held := by
  intro w
  unfold tell
  split
  · exact .refl
  · next r _ =>
    have told : Leads held (World.tell r) fun _ => held := leads_withStream r fun s => Source.device.reach_tell s
    exact told.call rfl w

theorem leads_size (h : Handle) : Leads held h.size fun _ => held := by
  intro w
  unfold size
  split
  · exact .refl
  · next r _ =>
    have sized : Leads held (fun w => (World.size r w, w)) fun _ => held := fun _ => .refl
    exact sized.call rfl w

theorem leads_read (h : Handle) (n : Nat) : Leads held (h.read n) fun _ => held := by
  intro w
  unfold read
  split
  · exact .refl
  · next r _ =>
    show Moves (held, w) (held, (withScratch n w _).2)
    refine leads_withScratch n (fun b w' => ?_) w
    exact (leads_readBytes r n).call (p := .readBytes) rfl w'

theorem leads_readLine (h : Handle) (n : Nat) : Leads held (h.readLine n) fun _ => held := by
  intro w
  unfold readLine
  split
  · exact .refl
  · next r _ =>
    have line : Leads held (World.readLine r n) fun _ => held :=
      leads_withStream r fun s => Source.device.reach_readLine n s
    show Moves (held, w) (held, (withScratch n w _).2)
    refine leads_withScratch n (fun b w' => ?_) w
    exact line.call (p := .readLine) rfl w'

theorem leads_readCString (h : Handle) (n : Nat) (pos : Option Int) :
    Leads held (h.readCString n pos) fun _ => held := by
  intro w
  unfold readCString
  split
  · exact .refl
  · next r _ =>
    split
    · exact .refl
    · have string : Leads held (World.readCString r (pos.getD (-1)) n) fun _ => held :=
        leads_withStream r fun s => Source.device.reach_readCString _ n s
      show Moves (held, w) (held, (withScratch _ w _).2)
      refine leads_withScratch _ (fun b w' => ?_) w
      exact string.call (p := .readCString) rfl w'

theorem leads_readByte (h : Handle) : Leads held h.readByte fun _ => held := by
  intro w
  unfold readByte
  split
  · exact .refl
  · next r _ =>
    have byte : Leads held (World.readByte r) fun _ => held :=
      leads_withStream r fun s => Source.device.reach_nextByte s
    exact byte.call rfl w

theorem leads_readSwapped (h : Handle) (n : Nat) (bigEndian : Bool) :
    Leads held (h.readSwapped n bigEndian) fun _ => held := by
  intro w
  unfold readSwapped
  split
  · exact .refl
  · next r _ =>
    split
    · exact .refl
    · have swapped : Leads held (World.readSwapped r bigEndian n) fun _ => held :=
        leads_withStream r fun s => Source.device.reach_readSwapped bigEndian n s
      show Moves (held, w) (held, (withScratch _ w _).2)
      refine leads_withScratch _ (fun b w' => ?_) w
      exact swapped.call (p := .readSwapped) rfl w'

theorem leads_copyRange (h : Handle) (filePos : Int) (start stop : Nat) (patchable : Bool) :
    Leads held (h.copyRange filePos start stop patchable) fun _ => held := by
  intro w
  unfold copyRange
  split
  · exact .refl
  · next r _ =>
    exact (leads_loadRange r filePos start stop patchable).call rfl w

theorem leads_toCapsule (h : Handle) : Leads held h.toCapsule fun _ => held := by
  intro w
  unfold toCapsule
  split
  · exact .refl
  · next r _ => exact .single (.make (.capsule ⟨capsuleTag, r.number, r.number_pos⟩))

/-! ## Requests and method calls -/

theorem openResult_snd (x : Except StreamError Unit × Handle × World) : (openResult x).2 = x.2 := by
  obtain ⟨_ | _, h, w⟩ := x <;> rfl

theorem leads_bytesOrNone (held : List Holding) (data : Option Bytes) : Leads held (bytesOrNone data) fun _ => held := by
  intro w
  cases data
  · exact .refl
  · exact .single (.make _)

theorem leads_textOrNone (held : List Holding) (data : Option Bytes) : Leads held (textOrNone data) fun _ => held := by
  intro w
  cases data
  · exact .refl
  · exact .single (.make _)

theorem moves_intResult {h : Handle} {w : World} {x : Except StreamError Int × World}
    (hx : Moves (h.holding ++ others, w) (h.holding ++ others, x.2)) :
    Moves (h.holding ++ others, w) ((h.intResult x).2.1.holding ++ others, (h.intResult x).2.2) := by
  obtain ⟨_ | _, w'⟩ := x <;> exact hx

theorem moves_dataResult {h : Handle} {w : World} {make : Option Bytes → World → Value × World}
    {x : Except StreamError (Option Bytes) × World}
    (hx : Moves (h.holding ++ others, w) (h.holding ++ others, x.2))
    (hmake : ∀ held data, Leads held (make data) fun _ => held) :
    Moves (h.holding ++ others, w) ((h.dataResult make x).2.1.holding ++ others, (h.dataResult make x).2.2) := by
  obtain ⟨_ | data, w'⟩ := x
  · exact hx
  · exact hx.trans (hmake _ data w')

theorem accounts_perform (q : Request) : Accounts fun h w => h.perform q w := by
  intro h w others
  cases q with
  | «open» path remote =>
    show Moves _ ((openResult _).2.1.holding ++ others, (openResult _).2.2)
    rw [openResult_snd]
    exact accounts_openPath path remote h w others
  | openMemory start size =>
    show Moves _ ((openResult _).2.1.holding ++ others, (openResult _).2.2)
    rw [openResult_snd]
    exact accounts_openMemory start size h w others
  | attach r => exact accounts_attach r h w others
  | close => exact h.moves_close w others
  | seek offset whence => exact moves_intResult (h.leads_seek offset whence w)
  | tell => exact moves_intResult (h.leads_tell w)
  | size => exact moves_intResult (h.leads_size w)
  | read n => exact moves_dataResult (h.leads_read n w) leads_bytesOrNone
  | readLine n => exact moves_dataResult (h.leads_readLine n w) leads_textOrNone
  | readCString n pos => exact moves_dataResult (h.leads_readCString n pos w) leads_textOrNone
  | readByte =>
    have moved : Moves (h.holding ++ others, w) (h.holding ++ others, (h.readByte w).2) := h.leads_readByte w
    simp only [perform]
    split <;> next hb => rw [hb] at moved; exact moved
  | readSwapped n bigEndian => exact moves_dataResult (h.leads_readSwapped n bigEndian w) leads_bytesOrNone
  | copyRange filePos start stop patchable =>
    exact moves_intResult (h.leads_copyRange filePos start stop patchable w)
  | isOpen => exact .refl
  | name => exact .single (.make (.text (Text.toBytes h.name)))

theorem accounts_callMethod (name : String) (args : List Value) : Accounts fun h w => h.callMethod name args w := by
  intro h w others
  simp only [callMethod]
  split
  · exact .refl
  · next q _ =>
    have performed := accounts_perform q h w others
    dsimp only at performed
    split <;> next hq => rw [hq] at performed; exact performed

end Handle
end ScriptStreams
