import ScriptStreams.Table
import Mathlib.Data.List.Perm.Basic
/-!
# The stream table as a registry

What each operation of the table does to the three things a caller can rely on: which streams are
live and of which origin (`Table.origin?`), which references are still to be handed out, and how the
counters add up. `Table.Sound` is the invariant; it holds of the empty table and every operation
keeps it, refused releases included.
-/
namespace ScriptStreams

/-! ## Collections without repeated keys -/

namespace Keyed

variable {κ α : Type} [DecidableEq κ] {m : Keyed κ α} {k : κ} {a : α}

theorem erase_of_get?_none (h : m.get? k = none) : m.erase k = m := by
  refine List.filter_eq_self.2 fun e he => ?_
  simp only [get?, Option.map_eq_none_iff, List.find?_eq_none] at h
  simpa using h e he

/-- The pair that is looked up, and the rest. -/
theorem perm_cons_erase (hm : m.Distinct) (h : m.get? k = some a) : m.Perm ((k, a) :: m.erase k) := by
  induction m with
  | nil => simp [get?] at h
  | cons e m ih =>
    obtain ⟨k₀, a₀⟩ := e
    obtain ⟨hk₀, hm⟩ := List.nodup_cons.1 hm
    have fresh : ∀ e ∈ m, e.1 ≠ k₀ := fun e he hk => hk₀ (List.mem_map.2 ⟨e, he, hk⟩)
    rw [get?_cons] at h
    split at h
    · next hk =>
      subst hk
      cases h
      have : erase ((k₀, a) :: m) k₀ = m := by
        simpa [erase] using fun e a ha => fresh (e, a) ha
      rw [this]
    · next hk =>
      have : erase ((k₀, a₀) :: m) k = (k₀, a₀) :: erase m k := by simp [erase, hk]
      rw [this]
      exact ((ih hm h).cons _).trans (List.Perm.swap _ _ _)

theorem length_erase (hm : m.Distinct) (h : m.get? k = some a) : (m.erase k).length + 1 = m.length := by
  simpa using (perm_cons_erase hm h).length_eq.symm

/-- Setting a key that is there changes no length. -/
theorem length_set (hm : m.Distinct) (h : m.get? k = some a) (b : α) : (m.set k b).length = m.length := by
  rw [← length_erase hm h]; rfl

theorem get?_of_mem (hm : m.Distinct) (h : (k, a) ∈ m) : m.get? k = some a := by
  induction m with
  | nil => simp at h
  | cons e m ih =>
    obtain ⟨k₀, a₀⟩ := e
    rw [get?_cons]
    rcases List.mem_cons.1 h with h | h
    · cases h; simp
    · have : k₀ ≠ k := fun hk => (List.nodup_cons.1 hm).1 (List.mem_map.2 ⟨(k, a), h, hk.symm⟩)
      rw [if_neg this]
      exact ih (List.nodup_cons.1 hm).2 h

/-- Taking out every pair of one value. -/
theorem get?_filter_ne [DecidableEq α] (hm : m.Distinct) (a : α) (k : κ) :
    get? (m.filter (·.2 ≠ a)) k = if get? m k = some a then none else get? m k := by
  induction m with
  | nil => rfl
  | cons e m ih =>
    obtain ⟨k₀, a₀⟩ := e
    obtain ⟨fresh, distinct⟩ := List.nodup_cons.1 hm
    have other : k₀ = k → get? m k = none := by
      rintro rfl
      cases found : get? m k₀ with
      | none => rfl
      | some b => exact absurd (List.mem_map.2 ⟨_, mem_of_get? found, rfl⟩) fresh
    by_cases ha : a₀ = a
    · rw [List.filter_cons_of_neg (by simpa using ha), ih distinct, get?_cons]
      by_cases hk : k₀ = k
      · simp [hk, ha, other hk]
      · simp [hk]
    · rw [List.filter_cons_of_pos (by simpa using ha), get?_cons, ih distinct, get?_cons]
      by_cases hk : k₀ = k <;> simp [hk, ha]

end Keyed

/-! ## Live streams and their origin -/

namespace Table

/-- How the stream behind a reference came to be; none for a reference that is not live. -/
def origin? (t : Table) (r : StreamRef) : Option StreamOrigin := (t.entry? r).map (·.origin)

theorem origin?_eq_some {t : Table} {r : StreamRef} {o : StreamOrigin} :
    t.origin? r = some o ↔ ∃ e, t.entry? r = some e ∧ e.origin = o := by
  simp [origin?]

theorem isLive_eq (t : Table) (r : StreamRef) : t.isLive r = (t.origin? r).isSome := by simp [isLive, origin?]

theorem entry?_register (t : Table) (o : StreamOrigin) (source : Source) (r : StreamRef) :
    entry? (t.register o source).2 r = if t.next = r then some ⟨o, source⟩ else t.entry? r :=
  Keyed.get?_set t.entries t.next r ⟨o, source⟩

theorem origin?_register (t : Table) (o : StreamOrigin) (source : Source) (r : StreamRef) :
    (t.register o source).2.origin? r = if t.next = r then some o else t.origin? r := by
  unfold origin?
  rw [entry?_register]
  split <;> rfl

theorem entry?_update {t : Table} {r : StreamRef} {e : Entry} (h : t.entry? r = some e) (source : Source)
    (r' : StreamRef) :
    entry? (t.update r source) r' = if r = r' then some { e with source } else t.entry? r' := by
  unfold update
  rw [h]
  exact Keyed.get?_set t.entries r r' { e with source }

theorem origin?_update (t : Table) (r : StreamRef) (source : Source) (r' : StreamRef) :
    (t.update r source).origin? r' = t.origin? r' := by
  unfold origin?
  cases h : t.entry? r with
  | none => simp [update, h]
  | some e =>
    rw [entry?_update h]
    split
    · next hr => subst hr; simp [h]
    · rfl

theorem origin?_erase (t : Table) (r r' : StreamRef) :
    ({ t with entries := t.entries.erase r }).origin? r' = if r = r' then none else t.origin? r' := by
  unfold origin? entry?
  rw [Keyed.get?_erase]
  split <;> rfl

/-! ## The three answers to a release -/

theorem release_unknown {t : Table} {r : StreamRef} (h : t.origin? r = none) (o : StreamOrigin) :
    t.release o r = (.unknown, t) := by
  have : t.entry? r = none := by simpa [origin?] using h
  simp [release, this]

theorem release_wrongOrigin {t : Table} {r : StreamRef} {o o' : StreamOrigin} (h : t.origin? r = some o')
    (ho : o' ≠ o) : t.release o r = (.wrongOrigin, t) := by
  obtain ⟨e, he, rfl⟩ := origin?_eq_some.1 h
  simp [release, he, ho]

theorem release_released {t : Table} {r : StreamRef} {o : StreamOrigin} (h : t.origin? r = some o) :
    t.release o r = (.released, { t with entries := t.entries.erase r }.countRelease o) := by
  obtain ⟨e, he, rfl⟩ := origin?_eq_some.1 h
  simp [release, he]

/-- Whatever a release request answers, it was one of three. -/
theorem release_cases (t : Table) (o : StreamOrigin) (r : StreamRef) :
    (t.origin? r = some o ∧
      t.release o r = (.released, { t with entries := t.entries.erase r }.countRelease o)) ∨
    (t.origin? r ≠ some o ∧ (t.release o r).1 ≠ .released ∧ (t.release o r).2 = t) := by
  cases h : t.origin? r with
  | none => exact Or.inr ⟨by simp, by simp [release_unknown h]⟩
  | some o' =>
    by_cases ho : o' = o
    · subst ho; exact Or.inl ⟨rfl, release_released h⟩
    · exact Or.inr ⟨by simpa using ho, by simp [release_wrongOrigin h ho]⟩

/-- A release concerns one stream only. -/
theorem entry?_release_ne (t : Table) (o : StreamOrigin) {r r' : StreamRef} (h : r ≠ r') :
    entry? (t.release o r).2 r' = t.entry? r' := by
  unfold release
  split
  · rfl
  · split
    · cases o <;> exact Keyed.get?_erase_ne t.entries h
    · rfl

theorem origin?_countRelease (t : Table) (o : StreamOrigin) (r : StreamRef) :
    (t.countRelease o).origin? r = t.origin? r := by cases o <;> rfl

/-! ## The invariant -/

/-- References are handed out once and in order, and every stream ever opened is live or was released
one way or the other. -/
structure Sound (t : Table) : Prop where
  distinct : t.entries.Distinct
  issued : ∀ r o, t.origin? r = some o → r.number < t.next.number
  balance : t.opened = t.closed + t.tornDown + t.entries.length

theorem sound_empty : Sound {} where
  distinct := Keyed.distinct_nil
  issued r o h := by simp [origin?, entry?, Keyed.get?] at h
  balance := rfl

/-- The next reference is not in use. -/
theorem Sound.next_fresh {t : Table} (h : t.Sound) : t.origin? t.next = none := by
  cases ho : t.origin? t.next with
  | none => rfl
  | some o => exact absurd (h.issued _ _ ho) (Nat.lt_irrefl _)

theorem Sound.register {t : Table} (h : t.Sound) (o : StreamOrigin) (source : Source) :
    (t.register o source).2.Sound where
  distinct := h.distinct.set _ _
  issued r o' hr := by
    rw [origin?_register] at hr
    show r.number < t.next.number + 1
    split at hr
    · next hn => subst hn; omega
    · exact Nat.lt_succ_of_lt (h.issued r o' hr)
  balance := by
    have fresh : t.entries.get? t.next = none := by
      simpa [origin?, entry?] using h.next_fresh
    have := h.balance
    simp only [Table.register, Keyed.set, Keyed.erase_of_get?_none fresh, List.length_cons]
    omega

theorem Sound.update {t : Table} (h : t.Sound) (r : StreamRef) (source : Source) : (t.update r source).Sound := by
  cases he : t.entry? r with
  | none => simpa [Table.update, he] using h
  | some e =>
    have hu : t.update r source = { t with entries := t.entries.set r { e with source } } := by
      simp [Table.update, he]
    refine ⟨?_, fun r' o hr => ?_, ?_⟩
    · rw [hu]; exact h.distinct.set _ _
    · rw [origin?_update] at hr
      rw [hu]; exact h.issued r' o hr
    · rw [hu]
      show t.opened = t.closed + t.tornDown + (t.entries.set r { e with source }).length
      rw [Keyed.length_set h.distinct he]
      exact h.balance

theorem Sound.release {t : Table} (h : t.Sound) (o : StreamOrigin) (r : StreamRef) : (t.release o r).2.Sound := by
  rcases release_cases t o r with ⟨ho, hr⟩ | ⟨-, -, hr⟩
  · obtain ⟨e, he, -⟩ := origin?_eq_some.1 ho
    have hl := Keyed.length_erase h.distinct he
    have hb := h.balance
    rw [hr]
    refine ⟨?_, fun r' o' hr' => ?_, ?_⟩
    · cases o <;> exact h.distinct.erase r
    · rw [origin?_countRelease, origin?_erase] at hr'
      split at hr'
      · cases hr'
      · cases o <;> exact h.issued r' o' hr'
    · cases o <;> simp only [countRelease] <;> omega
  · rw [hr]; exact h

end Table
end ScriptStreams
