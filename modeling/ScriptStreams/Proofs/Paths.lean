import ScriptStreams.Config
import ScriptStreams.Files
import Mathlib.Data.String.Basic
/-!
# Where paths lead

By its names alone a path leads up so many levels from where it starts and from there down some names (`Locus.ofPath`). A
path put below another one leads on from there (`Locus.ofPath_joinPath`). Taken from a working directory it leads to one
place in the tree (`Locus.namesFrom`), and a file system that follows it name by name gets to that place, if it gets
anywhere (`Files.At.walk`).
-/
namespace ScriptStreams

/-! ## Components -/

namespace Text

open String in
/-- Splitting at separators finds the same pieces behind any `l`, when `m` is what the current piece has so far. -/
theorem splitOnAux_separator (l m r : List Char) (found : List String) :
    splitOnAux (ofList (l ++ m ++ r)) "/" ⟨utf8Len l⟩ ⟨utf8Len l + utf8Len m⟩ 0 found =
      found.reverse ++ (List.splitOnPPrepend (· == '/') r m.reverse).map ofList := by
  induction r generalizing l m found with
  | nil =>
    unfold splitOnAux
    have ended : (⟨utf8Len l + utf8Len m⟩ : Pos.Raw).atEnd (ofList (l ++ m ++ [])) = true := by
      simp only [atEnd_iff, rawEndPos_ofList, utf8Len_append, Pos.Raw.mk_le_mk, utf8Len_nil, Nat.add_zero, Nat.le_refl]
    rw [if_pos ended]
    simp only [extract_of_valid l m [], List.reverse_cons, List.splitOnPPrepend_nil, List.reverse_reverse, List.map_cons,
      List.map_nil]
  | cons c r ih =>
    have size := c.utf8Size_pos
    have more : ¬ (⟨utf8Len l + utf8Len m⟩ : Pos.Raw).atEnd (ofList (l ++ m ++ c :: r)) = true := by
      simp only [atEnd_iff, rawEndPos_ofList, utf8Len_append, Pos.Raw.mk_le_mk, utf8Len_cons]
      omega
    have here : (⟨utf8Len l + utf8Len m⟩ : Pos.Raw).get (ofList (l ++ m ++ c :: r)) = c := by
      simpa only [utf8Len_append, List.headD_cons] using get_of_valid (l ++ m) (c :: r)
    have next : (⟨utf8Len l + utf8Len m⟩ : Pos.Raw).next (ofList (l ++ m ++ c :: r)) =
        ⟨utf8Len l + utf8Len m + c.utf8Size⟩ := by
      simpa only [utf8Len_append] using next_of_valid (l ++ m) c r
    -- the separator is one character, so it is found as soon as its character is
    have separator : (0 : Pos.Raw).get "/" = '/' ∧ ((0 : Pos.Raw).next "/").atEnd "/" = true := ⟨rfl, rfl⟩
    unfold splitOnAux
    rw [if_neg more]
    simp only [here, next, separator, if_true]
    by_cases slash : c = '/'
    · subst slash
      have back : (⟨utf8Len l + utf8Len m + '/'.utf8Size⟩ : Pos.Raw).unoffsetBy ((0 : Pos.Raw).next "/") =
          ⟨utf8Len l + utf8Len m⟩ := rfl
      have rest := ih (l ++ m ++ ['/']) [] (ofList m :: found)
      rw [if_pos (beq_self_eq_true _), back, extract_of_valid l m ('/' :: r)]
      simp [utf8Len_append, Nat.add_assoc, -ofList_append, List.splitOnPPrepend_cons_eq_if] at rest ⊢
      exact rest
    · have back : (⟨utf8Len l + utf8Len m⟩ : Pos.Raw).unoffsetBy 0 = ⟨utf8Len l + utf8Len m⟩ := rfl
      have rest := ih l (m ++ [c]) found
      rw [if_neg (by simpa using slash), back, next]
      simp [utf8Len_append, Nat.add_assoc, -ofList_append, List.splitOnPPrepend_cons_eq_if, slash] at rest ⊢
      exact rest

theorem splitOn_separator (path : String) : path.splitOn "/" = (path.toList.splitOn '/').map String.ofList := by
  have whole := splitOnAux_separator [] [] path.toList []
  unfold String.splitOn
  rw [if_neg (by decide), List.splitOn_eq_splitOnP]
  simpa using whole

/-- **The components** of two paths with a separator between them. -/
theorem splitOn_append (front behind : String) :
    (front ++ "/" ++ behind).splitOn "/" = front.splitOn "/" ++ behind.splitOn "/" := by
  have characters : (front ++ "/" ++ behind).toList = front.toList ++ '/' :: behind.toList := by
    simp [String.toList_append]
  rw [splitOn_separator, splitOn_separator, splitOn_separator, characters, List.splitOn_append_cons_self, List.map_append]

theorem splitOn_empty : "".splitOn "/" = [""] := by
  rw [splitOn_separator]
  rfl

/-- Behind a separator at the end there is one more component, without a name. -/
theorem splitOn_append_separator (path : String) : (path ++ "/").splitOn "/" = path.splitOn "/" ++ [""] := by
  have parts := splitOn_append path ""
  rwa [String.append_empty, splitOn_empty] at parts

end Text

/-! ## Places by name -/

/-- Where a path leads by its names alone: from the root directory, or so many levels up from where it starts, and then down
these names. -/
structure Locus where
  absolute : Bool := false
  up : Nat := 0
  names : List String := []
  deriving DecidableEq

namespace Locus

variable {root here there : Locus}

/-- One level up. Nothing is above the root directory. -/
def parent (here : Locus) : Locus :=
  if here.names ≠ [] then { here with names := here.names.dropLast }
  else if here.absolute then here
  else { here with up := here.up + 1 }

def enter (here : Locus) (c : String) : Locus :=
  if c = "" ∨ c = "." then here
  else if c = ".." then here.parent
  else { here with names := here.names ++ [c] }

def follow (here : Locus) (components : List String) : Locus := components.foldl enter here

def ofPath (path : String) : Locus := follow { absolute := path.toList.head? = some '/' } (path.splitOn "/")

/-- Where a relative place is when it is taken from `here`. -/
def join (here there : Locus) : Locus :=
  if there.up ≤ here.names.length then
    { here with names := here.names.take (here.names.length - there.up) ++ there.names }
  else if here.absolute then { here with names := there.names }
  else { here with up := here.up + (there.up - here.names.length), names := there.names }

/-- The names that lead there from the root of the tree, where `start` are those of the working directory. -/
def namesFrom (start : List String) (here : Locus) : List String :=
  if here.absolute then here.names else start.take (start.length - here.up) ++ here.names

/-- `here` is the directory `root` or below it. -/
def Inside (root here : Locus) : Prop :=
  here.absolute = root.absolute ∧
    (here.up = root.up ∧ root.names <+: here.names ∨ root.names = [] ∧ here.up ≤ root.up)

theorem absolute_enter (here : Locus) (c : String) : (here.enter c).absolute = here.absolute := by
  unfold enter parent
  split_ifs <;> rfl

theorem follow_append (here : Locus) (front behind : List String) :
    here.follow (front ++ behind) = (here.follow front).follow behind := List.foldl_append

/-- A path is left as it is by a separator at its end. -/
theorem follow_empty (here : Locus) : here.follow [""] = here := rfl

/-- Without ".." it does not go up. -/
theorem up_follow {components : List String} (down : ".." ∉ components) (here : Locus) :
    (here.follow components).up = here.up := by
  induction components generalizing here with
  | nil => rfl
  | cons c rest ih =>
    have not_up : c ≠ ".." := fun up => down (up ▸ List.mem_cons_self)
    have same : (here.enter c).up = here.up := by
      unfold enter
      rw [if_neg not_up]
      split <;> rfl
    exact (ih (fun mem => down (List.mem_cons_of_mem _ mem)) (here.enter c)).trans same

/-! ### Joined places -/

/-- One level less. -/
theorem dropLast_take (names : List String) (k : Nat) :
    (names.take (names.length - k)).dropLast = names.take (names.length - (k + 1)) := by
  rw [List.dropLast_eq_take, List.take_take, List.length_take]
  congr 1
  omega

/-- What is put behind the first names starts with all of them just if it starts with those that were left out. -/
theorem prefix_take_append_iff (names behind : List String) (k : Nat) :
    names <+: names.take k ++ behind ↔ names.drop k <+: behind := by
  conv_lhs => lhs; rw [← List.take_append_drop k names]
  exact List.prefix_append_right_inj _

theorem join_start (here : Locus) : here.join {} = here := by simp [join]

theorem join_of_le (below : there.up ≤ here.names.length) :
    here.join there = { here with names := here.names.take (here.names.length - there.up) ++ there.names } := if_pos below

theorem join_of_absolute (beyond : ¬ there.up ≤ here.names.length) (absolute : here.absolute = true) :
    here.join there = { here with names := there.names } := (if_neg beyond).trans (if_pos absolute)

theorem join_of_relative (beyond : ¬ there.up ≤ here.names.length) (relative : ¬ here.absolute = true) :
    here.join there = { here with up := here.up + (there.up - here.names.length), names := there.names } :=
  (if_neg beyond).trans (if_neg relative)

/-- One level up from a joined place: out of its own names, then out of those of `here`, then out of the top. -/
theorem join_parent (there : Locus) (relative : there.absolute = false) :
    here.join there.parent = (here.join there).parent := by
  obtain ⟨absolute, up, names⟩ := there
  obtain rfl : absolute = false := relative
  rcases List.eq_nil_or_concat names with rfl | ⟨front, c, rfl⟩
  · -- `there` has gone up only, and goes up once more
    rcases Nat.lt_trichotomy up here.names.length with below | top | above
    · have left : here.names.take (here.names.length - up) ≠ [] := by
        rw [Ne, List.take_eq_nil_iff]
        rintro (none_left | no_names)
        · omega
        · simp [no_names] at below
      simp [parent, join, Nat.le_of_lt below, Nat.succ_le_of_lt below, left, dropLast_take]
    · by_cases absolute : here.absolute = true <;> simp [parent, join, top, absolute]
    · have beyond : ¬ up ≤ here.names.length := by omega
      have beyond' : ¬ up + 1 ≤ here.names.length := by omega
      by_cases absolute : here.absolute = true
      · simp [parent, join, beyond, beyond', absolute]
      · simp [parent, join, beyond, beyond', absolute]
        omega
  · by_cases below : up ≤ here.names.length
    · simp [parent, join, below, ← List.append_assoc]
    · by_cases absolute : here.absolute = true <;> simp [parent, join, below, absolute]

theorem join_enter (relative : there.absolute = false) (c : String) :
    here.join (there.enter c) = (here.join there).enter c := by
  unfold enter
  split
  · rfl
  split
  · exact join_parent there relative
  · unfold join
    dsimp only
    split_ifs <;> simp

/-- **A relative path leads on** from wherever it is taken. -/
theorem follow_eq_join (here : Locus) (components : List String) :
    here.follow components = here.join (({} : Locus).follow components) := by
  have on : ∀ there : Locus, there.absolute = false →
      (here.join there).follow components = here.join (there.follow components) := by
    induction components with
    | nil => exact fun _ _ => rfl
    | cons c rest ih =>
      intro there relative
      show ((here.join there).enter c).follow rest = _
      rw [← join_enter relative, ih (there.enter c) ((there.absolute_enter c).trans relative)]
      rfl
  have start := on {} rfl
  rwa [join_start] at start

/-- **Inside the directory it is taken from** leads a path that does not go up beyond the top, unless there is
no going beyond, and that comes back down by the names by which it has gone up. -/
theorem inside_join_iff :
    root.Inside (root.join there) ↔
      (root.absolute = true ∨ there.up ≤ root.names.length) ∧
        root.names.drop (root.names.length - there.up) <+: there.names := by
  have trivially : ∀ k names, root.names = [] → root.names.drop k <+: names := by
    rintro k names none_there
    simp [none_there]
  by_cases below : there.up ≤ root.names.length
  · have back := prefix_take_append_iff root.names there.names (root.names.length - there.up)
    rw [join_of_le below]
    constructor
    · rintro ⟨-, ⟨-, inside⟩ | ⟨none_there, -⟩⟩
      · exact ⟨.inr below, back.1 inside⟩
      · exact ⟨.inr below, trivially _ _ none_there⟩
    · rintro ⟨-, inside⟩
      exact ⟨rfl, .inl ⟨rfl, back.2 inside⟩⟩
  have all : root.names.length - there.up = 0 := by omega
  rw [all, List.drop_zero]
  by_cases absolute : root.absolute = true
  · rw [join_of_absolute below absolute]
    constructor
    · rintro ⟨-, ⟨-, inside⟩ | ⟨none_there, -⟩⟩
      · exact ⟨.inl absolute, inside⟩
      · exact ⟨.inl absolute, trivially 0 _ none_there⟩
    · rintro ⟨-, inside⟩
      exact ⟨rfl, .inl ⟨rfl, inside⟩⟩
  · rw [join_of_relative below absolute]
    constructor
    · rintro ⟨-, ⟨same, -⟩ | ⟨-, higher⟩⟩
      · simp only at same
        omega
      · simp only at higher
        omega
    · rintro ⟨top, -⟩
      exact absurd top (by simp [below, absolute])

/-! ### Places in the tree -/

section NamesFrom

variable (start : List String)

theorem namesFrom_of_absolute (absolute : here.absolute = true) : here.namesFrom start = here.names := if_pos absolute

theorem namesFrom_of_relative (relative : ¬ here.absolute = true) :
    here.namesFrom start = start.take (start.length - here.up) ++ here.names := if_neg relative

theorem namesFrom_parent (here : Locus) : here.parent.namesFrom start = (here.namesFrom start).dropLast := by
  by_cases absolute : here.absolute = true
  · by_cases top : here.names = [] <;> simp [parent, namesFrom, absolute, top]
  · by_cases top : here.names = []
    · simp [parent, namesFrom, absolute, top, dropLast_take]
    · simp [parent, namesFrom, absolute, top, List.dropLast_append_of_ne_nil]

/-- **A relative place taken from another one** is as many levels up from it in the tree, as far as there are levels. -/
theorem namesFrom_join (here there : Locus) :
    (here.join there).namesFrom start =
      (here.namesFrom start).take ((here.namesFrom start).length - there.up) ++ there.names := by
  by_cases absolute : here.absolute = true
  · by_cases below : there.up ≤ here.names.length
    · simp [join_of_le below, namesFrom, absolute]
    · have top : here.names.length - there.up = 0 := by omega
      simp [join_of_absolute below absolute, namesFrom, absolute, top]
  · have length : (here.namesFrom start).length = (start.length - here.up) + here.names.length := by
      simp [namesFrom_of_relative start absolute]
    rw [length, namesFrom_of_relative start absolute, List.take_append, List.take_take, List.length_take]
    by_cases below : there.up ≤ here.names.length
    · simp only [join_of_le below, namesFrom, absolute, Bool.false_eq_true, if_false, List.append_assoc]
      congr 2 <;> congr 1 <;> omega
    · have none_left :
          start.length - here.up + here.names.length - there.up - min (start.length - here.up) start.length = 0 := by omega
      simp only [join_of_relative below absolute, namesFrom, absolute, Bool.false_eq_true, if_false, none_left,
        List.take_zero, List.append_nil]
      congr 2
      omega

/-- **What is inside by the names** is inside in the tree. -/
theorem Inside.namesFrom (inside : root.Inside here) : root.namesFrom start <+: here.namesFrom start := by
  obtain ⟨kind, places⟩ := inside
  by_cases absolute : root.absolute = true
  · rw [namesFrom_of_absolute start absolute, namesFrom_of_absolute start (kind.trans absolute)]
    rcases places with ⟨-, below⟩ | ⟨none_there, -⟩
    · exact below
    · simp [none_there]
  · rw [namesFrom_of_relative start absolute, namesFrom_of_relative start (kind ▸ absolute)]
    rcases places with ⟨level, below⟩ | ⟨none_there, higher⟩
    · rw [level]
      exact (List.prefix_append_right_inj _).2 below
    · rw [none_there, List.append_nil]
      exact (List.take_prefix_take_left (by omega)).trans (List.prefix_append _ _)

/-- In the tree, too, a path leads into the directory that it is taken from just if it comes back down by the names by
which it has gone up. -/
theorem prefix_namesFrom_join_iff (root there : Locus) :
    let names := root.namesFrom start
    names <+: (root.join there).namesFrom start ↔ names.drop (names.length - there.up) <+: there.names := by
  intro names
  rw [namesFrom_join]
  exact prefix_take_append_iff names there.names _

end NamesFrom

/-! ### Joined paths -/

theorem ofPath_empty : ofPath "" = {} := by
  rw [ofPath, Text.splitOn_empty]
  rfl

theorem ofPath_of_relative {path : String} (relative : path.toList.head? ≠ some '/') :
    ofPath path = ({} : Locus).follow (path.splitOn "/") := by
  rw [ofPath, decide_eq_false relative]

/-- A path put behind a separator. -/
theorem ofPath_append (front behind : String) :
    ofPath (front ++ "/" ++ behind) = (ofPath (front ++ "/")).follow (behind.splitOn "/") := by
  have first : (front ++ "/" ++ behind).toList.head? = (front ++ "/").toList.head? := by
    simp only [String.toList_append]
    cases front.toList <;> rfl
  rw [ofPath, ofPath, first, Text.splitOn_append, Text.splitOn_append_separator, follow_append, follow_append, follow_empty]

/-- A separator at the end of a path changes nothing, if there is anything in front of it. -/
theorem ofPath_separator {path : String} (named : path ≠ "") : ofPath (path ++ "/") = ofPath path := by
  have first : (path ++ "/").toList.head? = path.toList.head? := by
    have some_there : path.toList ≠ [] := fun none_there => named (String.toList_eq_nil_iff.1 none_there)
    rw [String.toList_append]
    exact List.head?_append_of_ne_nil _ some_there
  rw [ofPath, ofPath, first, Text.splitOn_append_separator, follow_append, follow_empty]

/-- **A relative path put below another one** leads on from where that one leads. -/
theorem ofPath_joinPath (root : String) {path : String} (relative : path.toList.head? ≠ some '/') :
    ofPath (Config.joinPath root path) = (ofPath root).join (ofPath path) := by
  rw [ofPath_of_relative relative, ← follow_eq_join, Config.joinPath, if_neg relative]
  split
  · next ends =>
    rcases ends with rfl | last
    · rw [String.empty_append, ofPath_empty, ofPath_of_relative relative]
    · obtain ⟨front, characters⟩ := List.getLast?_eq_some_iff.1 last
      obtain rfl : root = String.ofList front ++ "/" := by
        rw [← String.toList_inj, String.toList_append, String.toList_ofList, characters]
        rfl
      exact ofPath_append _ _
  · next inner =>
    rw [ofPath_append, ofPath_separator fun none_there => inner (.inl none_there)]

end Locus

/-! ## Following paths -/

namespace Files

variable {fs : Files} {here place : Place} {l : Locus}

/-- A place that was reached is the one that the names lead to from the working directory. -/
def At (fs : Files) (l : Locus) : Place → Prop
  | .directory names => l.namesFrom fs.workingDirectory = names
  | .file id => fs.tree.get? (l.namesFrom fs.workingDirectory) = some (.file id)

theorem At.enter {c : String} (here_at : fs.At l here) (entered : fs.enter here c = .ok place) :
    fs.At (l.enter c) place := by
  cases here with
  | file id => cases entered
  | directory names =>
    by_cases same : c = "" ∨ c = "."
    · obtain rfl : Place.directory names = place := by simpa [Files.enter, same] using entered
      rwa [Locus.enter, if_pos same]
    by_cases up : c = ".."
    · subst up
      obtain rfl : Place.directory names.dropLast = place := by simpa [Files.enter] using entered
      rw [Locus.enter, if_neg same, if_pos rfl]
      exact (l.namesFrom_parent _).trans (congrArg List.dropLast here_at)
    have down : (l.enter c).namesFrom fs.workingDirectory = names ++ [c] := by
      rw [← show l.namesFrom fs.workingDirectory = names from here_at, Locus.enter, if_neg same, if_neg up]
      unfold Locus.namesFrom
      split <;> simp
    simp only [Files.enter, if_neg same, if_neg up] at entered
    split at entered
    · cases entered
    cases found : fs.tree.get? (names ++ [c]) with
    | none => simp [found] at entered
    | some node =>
      cases node with
      | file id =>
        obtain rfl : Place.file id = place := by simpa [found] using entered
        exact (congrArg fs.tree.get? down).trans found
      | directory =>
        obtain rfl : Place.directory (names ++ [c]) = place := by simpa [found] using entered
        exact down

/-- **Following names** leads to the place that they tell, if it leads anywhere. -/
theorem At.walk {components : List String} (here_at : fs.At l here) (walked : fs.walk here components = .ok place) :
    fs.At (l.follow components) place := by
  induction components generalizing l here with
  | nil =>
    obtain rfl : here = place := by simpa [Files.walk] using walked
    exact here_at
  | cons c rest ih =>
    simp only [Files.walk] at walked
    split at walked
    · next next_place entered => exact ih (here_at.enter entered) walked
    · cases walked

theorem at_origin (fs : Files) (path : String) :
    fs.At { absolute := path.toList.head? = some '/' } (fs.origin path) := by
  unfold origin
  split
  · next absolute => simp [At, Locus.namesFrom, absolute]
  · next relative => simp [At, Locus.namesFrom, relative]

theorem at_of_resolve {path : String} (resolved : fs.resolve path = .ok place) : fs.At (Locus.ofPath path) place := by
  unfold resolve at resolved
  split_ifs at resolved
  exact (fs.at_origin path).walk resolved

theorem walk_append (fs : Files) (here : Place) (front behind : List String) :
    fs.walk here (front ++ behind) = fs.walk here front >>= fun there => fs.walk there behind := by
  induction front generalizing here with
  | nil => rfl
  | cons c rest ih =>
    simp only [List.cons_append, walk]
    cases fs.enter here c with
    | error fault => rfl
    | ok place => exact ih place

/-- **No file is behind a separator**: a path that ends with one leads to a directory at most. -/
theorem fileAt_separator (fs : Files) (front : String) (id : FileId) : fs.fileAt (front ++ "/") ≠ .ok id := by
  intro found
  have walked : fs.walk (fs.origin (front ++ "/")) ((front ++ "/").splitOn "/") = .ok (.file id) := by
    unfold fileAt resolve at found
    split_ifs at found
    split at found <;> simp_all
  rw [Text.splitOn_append_separator, walk_append] at walked
  cases reached : fs.walk (fs.origin (front ++ "/")) (front.splitOn "/") with
  | error fault => simp [reached, Bind.bind, Except.bind] at walked
  | ok place => cases place <;> simp [reached, Bind.bind, Except.bind, walk, enter] at walked

theorem fileAt_empty (fs : Files) (id : FileId) : fs.fileAt "" ≠ .ok id := by
  simp [fileAt, resolve]

theorem fileAt_of_walk {path : String} {id : FileId}
    (sound : path.toList.contains '\x00' = false ∧ path ≠ "" ∧ path.utf8ByteSize < pathLimit)
    (walked : fs.walk (fs.origin path) ((path.toList.splitOn '/').map String.ofList) = .ok (.file id)) :
    fs.fileAt path = .ok id := by
  obtain ⟨clean, named, short⟩ := sound
  simp only [fileAt, resolve, clean, named, Nat.not_le.2 short, Text.splitOn_separator, walked, Bool.false_eq_true, if_false]

/-- **The file that a path leads to** is the one that its names lead to from the working directory. -/
theorem at_of_fileAt {path : String} {id : FileId} (found : fs.fileAt path = .ok id) :
    fs.At (Locus.ofPath path) (.file id) := by
  unfold fileAt at found
  split at found
  · next id' resolved =>
    obtain rfl : id' = id := by simpa using found
    exact at_of_resolve resolved
  · cases found
  · cases found

end Files
end ScriptStreams
