import ScriptStreams.Proofs.ByteMap
import ScriptStreams.Proofs.Uniform
/-!
# Memory of unknown size

A window of unknown size has all of the memory that is mapped from its start on without a gap, and it is refused if that is
nothing or more than a stream can have. But a window is also refused if there is no address behind its last byte, so
memory that is mapped up to the very last address cannot be opened. This is the only exception (`Session.opens_mapped`).
-/
namespace ScriptStreams

namespace Image

variable {img : Image} {addr k : Nat}

/-- What is mapped ends at the last address at the latest. -/
theorem Mapped.le_addressLimit (mapped : img.Mapped addr k) (some_byte : 0 < k) : addr + k ≤ addressLimit := by
  have last := (mapped (k - 1) (by omega)).1
  omega

/-- As much as there is at all without a gap is the extent. -/
theorem Plain.isGreatest_mapped_iff (plain : img.Plain) (tidy : img.Tidy) :
    IsGreatest {k | img.Mapped addr k} k ↔ img.extent addr = k := by
  have measured : IsGreatest {k | img.Mapped addr k} (img.extent addr) :=
    ⟨(plain.le_extent_iff tidy).1 (Nat.le_refl _), fun _ mapped => (plain.le_extent_iff tidy).2 mapped⟩
  constructor
  · exact measured.unique
  · rintro rfl
    exact measured

theorem Mapped.length_run (mapped : img.Mapped addr k) : (img.run addr k).length = k :=
  length_run_eq_iff.2 fun i below => (mapped i below).2

theorem Mapped.getElem?_run (mapped : img.Mapped addr k) {i : Nat} (below : i < k) :
    (img.run addr k)[i]? = img.byteAt? (addr + i) := by
  have inside : i < (img.run addr k).length := by rwa [mapped.length_run]
  rw [img.maps_run addr k i _ (List.getElem?_eq_getElem inside), List.getElem?_eq_getElem inside]

end Image

theorem Window.create?_zero_eq_none {m : MemoryReader} {start : Nat} (outside : addressLimit ≤ start + m.extent start) :
    create? m start 0 = none := by
  refine Option.eq_none_iff_forall_ne_some.2 fun w accepted => ?_
  obtain ⟨rfl, -, -, inside⟩ := create?_eq_some_iff.1 accepted
  exact absurd inside (Nat.not_lt.2 outside)

namespace World

variable {w : World} {start e : Nat}

/-- Memory that is mapped up to an address in front of the last one can be opened without its size. -/
theorem memoryHolds_run (readable : w.host.hasMemory = true) (tidy : w.env.image.Tidy) (plain : w.env.image.Plain)
    (greatest : IsGreatest {k | w.env.image.Mapped start k} e) (some_byte : 0 < e) (short : e ≤ maxPosition)
    (inside : start + e < addressLimit) : w.MemoryHolds start 0 (w.env.image.run start e) where
  readable := readable
  tidy := tidy
  mapped := tidy.maps_iff.2 (w.env.image.maps_run start e)
  size := .inr ⟨rfl, by rw [greatest.1.length_run, (plain.isGreatest_mapped_iff tidy).1 greatest]⟩
  nonempty := List.ne_nil_of_length_pos (by rwa [greatest.1.length_run])
  short := by rwa [greatest.1.length_run]
  addressable := by rwa [greatest.1.length_run]

/-- A read of all bytes at their beginning. -/
theorem Serves.readBytes_whole {r : StreamRef} {v : World} {bs : Bytes} (serves : Serves r v w ⟨bs, 0⟩) :
    (w.readBytes r bs.length).1 = ⟨bs.length, bs⟩ := by
  rw [(serves.readBytes bs.length).1]
  simp [Cursor.device, Cursor.take, Cursor.rest]

/-- Memory that is refused leaves everything as it is. -/
theorem createMemoryStream_of_none {size : Nat} (refused : Window.create? w.env.image.reader start size = none) :
    ∃ w', w.createMemoryStream start size = (none, w') ∧ w.Untouched w' := by
  unfold createMemoryStream
  split
  · exact ⟨_, rfl, rfl, rfl⟩
  · rw [refused]
    exact ⟨w, rfl, rfl, rfl⟩

end World

namespace Handle

variable {h : Handle} {w : World} {start e : Nat}

theorem openMemory_of_none {size : Nat} (refused : Window.create? w.env.image.reader start size = none) :
    ∃ w', h.openMemory start size w = (.error (.memoryUnavailable start size), h, w') ∧ w.Untouched w' := by
  obtain ⟨w', failed, untouched⟩ := World.createMemoryStream_of_none (w := w.atCall .createMemoryStream) refused
  have called := World.call_of_eq failed
  refine ⟨{ w' with lock := w'.lock.acquire }, ?_, untouched.table, untouched.env⟩
  simp only [openMemory, called]

end Handle

namespace Session

/-- **Mapped memory can be opened without its size**, unless it goes up to the last address. Let any steps have been made,
and let the segments of memory not be empty, share no address and end within the address space. Where one byte or more are
mapped without a gap, and no more than a stream can have, any handle that opens the memory there comes to own a stream of
just these bytes, gives the answers of a cursor at their beginning, and has all of them from one read. Only if the last of
them is at the last address, the opening fails and leaves the handle and every stream as they are. -/
theorem opens_mapped (world : World) (showsCalls : Bool) (pool : world.pool.Sound) (history : List SessionStep) :
    let s := ((Session.start world showsCalls).run history).2
    let w := s.world
    let img := w.env.image
    w.host.hasMemory = true → img.Built → img.Plain →
      ∀ name h start e, s.handles.get? name = some h → IsGreatest {k | img.Mapped start k} e → 0 < e →
        e ≤ maxPosition →
        let bs := img.run start e
        (bs.length = e ∧ ∀ i < e, bs[i]? = img.byteAt? (start + i)) ∧
          start + e ≤ addressLimit ∧
          (start + e < addressLimit → ∃ r w',
            h.openMemory start 0 w = (.ok (), ⟨.owned r, Handle.memoryName⟩, w') ∧
              w'.size r = e ∧ (w'.readBytes r e).1 = ⟨e, bs⟩ ∧
              Handle.Reads ⟨.owned r, Handle.memoryName⟩ w' w.grants bs) ∧
          (start + e = addressLimit → ∃ w',
            h.openMemory start 0 w = (.error (.memoryUnavailable start 0), h, w') ∧ w.Untouched w') := by
  intro s w img readable built plain name h start e found greatest some_byte short bs
  have inOrder : s.InOrder := inOrder_run showsCalls pool history
  have tidy := plain.tidy built
  have length : bs.length = e := greatest.1.length_run
  refine ⟨⟨length, fun i below => greatest.1.getElem?_run below⟩, greatest.1.le_addressLimit some_byte, ?_, ?_⟩
  · intro inside
    have holds := World.memoryHolds_run readable tidy plain greatest some_byte short inside
    obtain ⟨r, w', opened, serves⟩ := Handle.serves_openMemory inOrder.2.pool (inOrder.next_ne found) holds
    have size : w'.size r = e := by rw [serves.size, length]
    have whole : (w'.readBytes r e).1 = ⟨e, bs⟩ := by
      rw [← length]
      exact serves.readBytes_whole
    exact ⟨r, w', opened, size, whole, Handle.reads_of_serves rfl serves⟩
  · intro topmost
    have outside : addressLimit ≤ start + img.extent start := by
      rw [(plain.isGreatest_mapped_iff tidy).1 greatest]
      exact Nat.le_of_eq topmost.symm
    exact Handle.openMemory_of_none (Window.create?_zero_eq_none outside)

/-- Three bytes across two segments, and a byte behind a hole. -/
def twoMapped : Image := ((Image.map 4096 #[1, 2] []).map 4098 #[3]).map 4100 #[4]

theorem opens_mapped_twoMapped :
    let w := ((Session.start { env := { image := twoMapped } } true).run [.handle "h" .new]).2.world
    twoMapped.Built ∧ twoMapped.Plain ∧ IsGreatest {k | twoMapped.Mapped 4097 k} 2 ∧
      ∃ r w', ({} : Handle).openMemory 4097 0 w = (.ok (), ⟨.owned r, Handle.memoryName⟩, w') ∧ w'.size r = 2 ∧
        (w'.readBytes r 2).1 = ⟨2, [2, 3]⟩ := by
  intro w
  have built : twoMapped.Built := ((Image.Built.empty.map _ _).map _ _).map _ _
  have plain : twoMapped.Plain := ⟨by decide, Image.disjoint_of_apart (by decide), by decide⟩
  have greatest : IsGreatest {k | twoMapped.Mapped 4097 k} 2 := by
    rw [plain.isGreatest_mapped_iff (plain.tidy built)]
    cbv
  obtain ⟨-, -, opens, -⟩ := opens_mapped { env := { image := twoMapped } } true Scratch.Pool.sound_empty [.handle "h" .new]
    rfl built plain "h" {} 4097 2 rfl greatest (by decide) (by decide)
  obtain ⟨r, w', opened, size, whole, -⟩ := opens (by decide)
  exact ⟨built, plain, greatest, r, w', opened, size, whole⟩

/-- Sixteen bytes up to the last address. -/
def topmost : Image := Image.map (addressLimit - 16) (Bytes.counting 0 16).toArray []

/-- **Memory at the very end** of the address space cannot be opened, although a stream could have all of it. -/
theorem not_opens_topmost :
    topmost.Built ∧ topmost.Plain ∧ IsGreatest {k | topmost.Mapped (addressLimit - 16) k} 16 ∧ 16 ≤ maxPosition ∧
      (({} : Handle).openMemory (addressLimit - 16) 0 { env := { image := topmost } }).1 =
        .error (.memoryUnavailable (addressLimit - 16) 0) := by
  have built : topmost.Built := Image.Built.empty.map _ _
  have plain : topmost.Plain := ⟨by decide, Image.disjoint_of_apart (by decide), by decide⟩
  refine ⟨built, plain, ?_, by decide, by cbv⟩
  rw [plain.isGreatest_mapped_iff (plain.tidy built)]
  cbv

end Session
end ScriptStreams
