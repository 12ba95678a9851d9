/-!
# Keyed collections

A finite map as a list of pairs in which setting a key takes out its older pair. `get?_set` and
`get?_erase` say what each operation does to look-ups; a collection built by `set` and `erase`
from `[]` holds each key once (`Distinct`).
-/
namespace ScriptStreams

abbrev Keyed (κ α : Type) := List (κ × α)

namespace Keyed

variable {κ α : Type} [DecidableEq κ]

def get? (m : Keyed κ α) (k : κ) : Option α := (m.find? (·.1 = k)).map (·.2)

def contains (m : Keyed κ α) (k : κ) : Bool := (get? m k).isSome

def erase (m : Keyed κ α) (k : κ) : Keyed κ α := m.filter (·.1 ≠ k)

def set (m : Keyed κ α) (k : κ) (a : α) : Keyed κ α := (k, a) :: erase m k

def keys (m : Keyed κ α) : List κ := m.map (·.1)

/-- No key occurs twice. -/
def Distinct (m : Keyed κ α) : Prop := (m.map (·.1)).Nodup

/-! ## Look-ups -/

theorem get?_cons (m : Keyed κ α) (k k' : κ) (a : α) :
    get? ((k, a) :: m) k' = if k = k' then some a else get? m k' := by
  by_cases h : k = k' <;> simp [get?, h]

theorem get?_erase (m : Keyed κ α) (k k' : κ) :
    get? (erase m k) k' = if k = k' then none else get? m k' := by
  induction m with
  | nil => simp [erase, get?]
  | cons e m ih =>
    obtain ⟨k₀, a⟩ := e
    simp only [erase] at ih ⊢
    by_cases h : k₀ = k
    · subst h
      simp only [ne_eq, not_true_eq_false, decide_false, Bool.false_eq_true, not_false_eq_true,
        List.filter_cons_of_neg, ih, get?_cons]
      split <;> rfl
    · rw [List.filter_cons_of_pos (by simpa using h), get?_cons, ih, get?_cons]
      by_cases h' : k = k'
      · subst h'; simp [h]
      · simp [h']

theorem get?_set (m : Keyed κ α) (k k' : κ) (a : α) :
    get? (set m k a) k' = if k = k' then some a else get? m k' := by
  rw [set, get?_cons]
  split
  · rfl
  · rw [get?_erase]; simp [*]

theorem get?_set_self (m : Keyed κ α) (k : κ) (a : α) : get? (set m k a) k = some a := by
  simp [get?_set]

theorem get?_set_ne (m : Keyed κ α) {k k' : κ} (a : α) (h : k ≠ k') :
    get? (set m k a) k' = get? m k' := by simp [get?_set, h]

theorem get?_erase_self (m : Keyed κ α) (k : κ) : get? (erase m k) k = none := by simp [get?_erase]

theorem get?_erase_ne (m : Keyed κ α) {k k' : κ} (h : k ≠ k') :
    get? (erase m k) k' = get? m k' := by simp [get?_erase, h]

theorem set_set (m : Keyed κ α) (k : κ) (a b : α) : set (set m k a) k b = set m k b := by
  simp [set, erase, List.filter_filter]

theorem mem_of_get? {m : Keyed κ α} {k : κ} {a : α} (h : get? m k = some a) : (k, a) ∈ m := by
  induction m with
  | nil => simp [get?] at h
  | cons e m ih =>
    obtain ⟨k₀, a₀⟩ := e
    rw [get?_cons] at h
    split at h
    · cases h; subst_vars; simp
    · exact List.mem_cons_of_mem _ (ih h)

omit [DecidableEq κ] in
theorem distinct_nil : Distinct ([] : Keyed κ α) := by simp [Distinct]

theorem Distinct.erase {m : Keyed κ α} (h : Distinct m) (k : κ) : Distinct (erase m k) := by
  unfold Distinct Keyed.erase at *
  exact h.sublist (List.filter_sublist.map _)

theorem Distinct.set {m : Keyed κ α} (h : Distinct m) (k : κ) (a : α) : Distinct (set m k a) := by
  have he := h.erase k
  unfold Distinct at *
  simp only [Keyed.set, List.map_cons, List.nodup_cons, he, and_true]
  simp [Keyed.erase]

end Keyed
end ScriptStreams
