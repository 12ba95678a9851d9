import ScriptStreams.Proofs.Paths
import ScriptStreams.Proofs.Registry
import ScriptStreams.World
/-!
# The remote root

A remote path loses its leading separators and is put below the remote root, so it cannot replace the root. Nothing is done
about ".." in it: a remote path that goes up further than it has come down leads out of the root
(`World.remote_inside_iff`), and what it leads to is opened, below an absolute root as below one that is taken from the
working directory.
-/
namespace ScriptStreams

namespace Config

variable {c : Config} {root : String}

/-- Without its leading separators a path is relative. -/
theorem relative_stripSeparators (path : String) : (stripSeparators path).toList.head? ≠ some '/' := by
  intro absolute
  rw [stripSeparators, String.toList_ofList] at absolute
  have kept := List.head?_dropWhile_not (fun c => decide (c = '/') || decide (c = '\\')) path.toList
  rw [absolute] at kept
  exact absurd kept (by decide)

/-- **Where a remote path leads** is where it leads taken from the remote root. -/
theorem ofPath_resolveRemote (set : c.remoteRoot = some root) (path : String) :
    ∃ p, c.resolveRemote path = some p ∧
      Locus.ofPath p = (Locus.ofPath root).join (Locus.ofPath (stripSeparators path)) := by
  refine ⟨joinPath root (stripSeparators path), ?_, Locus.ofPath_joinPath root (relative_stripSeparators path)⟩
  rw [resolveRemote, set, Option.map_some]

end Config

namespace World

variable {w : World}

/-- A file that was opened by a remote path is the one that the resolved path leads to. -/
theorem entry_of_openByPath {path p : String} (resolved : w.host.config.resolveRemote path = some p) {r : StreamRef}
    {w' : World} (opened : w.openByPath path true = (some r, w')) :
    ∃ id, w'.table.entry? r = some ⟨.created, .file id 0⟩ ∧ w.env.files.At (Locus.ofPath p) (.file id) := by
  simp only [openByPath, if_true, resolved] at opened
  split at opened
  · simp at opened
  · next id found =>
    simp only [Prod.mk.injEq, Option.some.injEq] at opened
    obtain ⟨rfl, rfl⟩ := opened
    refine ⟨id, ?_, Files.at_of_fileAt found⟩
    exact (Table.entry?_register w.table .created (.file id 0) w.table.next).trans (if_pos rfl)

/-- **A remote path stays inside the remote root** exactly if it comes back down by the names of the root by which it has
gone up, and does not go up beyond the top of a relative root. In particular it does if it has no ".." in it. A remote open
opens the file of the tree that the path leads to, inside or not: where the path stays inside the root, so does the file,
and the file is in the directory of the root exactly if the path comes back down by the names of that directory, from the
root of the tree on, by which it has gone up. -/
theorem remote_inside_iff {root : String} (set : w.host.config.remoteRoot = some root) (path : String) :
    let top := Locus.ofPath root
    let below := Locus.ofPath (Config.stripSeparators path)
    let files := w.env.files
    let directory := top.namesFrom files.workingDirectory
    ∃ p, w.host.config.resolveRemote path = some p ∧
      (top.Inside (Locus.ofPath p) ↔
        (top.absolute = true ∨ below.up ≤ top.names.length) ∧
          top.names.drop (top.names.length - below.up) <+: below.names) ∧
      (".." ∉ (Config.stripSeparators path).splitOn "/" → top.Inside (Locus.ofPath p)) ∧
      ∀ r w', w.openByPath path true = (some r, w') →
        ∃ id names, w'.table.entry? r = some ⟨.created, .file id 0⟩ ∧ files.tree.get? names = some (.file id) ∧
          (Locus.ofPath p).namesFrom files.workingDirectory = names ∧
          (top.Inside (Locus.ofPath p) → directory <+: names) ∧
          (directory <+: names ↔ directory.drop (directory.length - below.up) <+: below.names) := by
  intro top below files directory
  obtain ⟨p, resolved, leads⟩ := Config.ofPath_resolveRemote set path
  have inside_iff : top.Inside (top.join below) ↔ _ := Locus.inside_join_iff
  rw [← leads] at inside_iff
  refine ⟨p, resolved, inside_iff, fun down => inside_iff.2 ?_, fun r w' opened => ?_⟩
  · have level : below.up = 0 := by
      have relative := Locus.ofPath_of_relative (Config.relative_stripSeparators path)
      exact (congrArg Locus.up relative).trans (Locus.up_follow down {})
    simp [level]
  · obtain ⟨id, entry, found⟩ := entry_of_openByPath resolved opened
    refine ⟨id, _, entry, found, rfl, fun inside => inside.namesFrom _, ?_⟩
    rw [leads]
    exact Locus.prefix_namesFrom_join_iff _ top below

/-- A working directory with a file in it and the remote root beside that. -/
def exposed (root : String) : World :=
  { host := { config := { remoteRoot := some root } }
    env := { files :=
      { tree := [(["session"], .directory), (["session", "secret.bin"], .file 0), (["session", "sub"], .directory),
          (["session", "sub", "inner.bin"], .file 1)]
        workingDirectory := ["session"]
        contents := [(0, #[115]), (1, #[105])]
        next := 2 } } }

/-- Up out of an absolute root and down again into it. -/
theorem remote_inside_iff_inner :
    let w := exposed "/session/sub"
    w.host.config.remoteRoot = some "/session/sub" ∧
      ∃ p, w.host.config.resolveRemote "/../sub/inner.bin" = some p ∧
        (Locus.ofPath "/session/sub").Inside (Locus.ofPath p) ∧
        ∃ r w' id names, w.openByPath "/../sub/inner.bin" true = (some r, w') ∧
          w'.table.entry? r = some ⟨.created, .file id 0⟩ ∧ w.env.files.tree.get? names = some (.file id) ∧
          ["session", "sub"] <+: names := by
  intro w
  have set : w.host.config.remoteRoot = some "/session/sub" := rfl
  obtain ⟨p, resolved, inside_iff, -, opens⟩ := remote_inside_iff set "/../sub/inner.bin"
  have found : w.env.files.fileAt "/session/sub/../sub/inner.bin" = .ok 1 := Files.fileAt_of_walk (by decide) (by rfl)
  have opened : ∃ w', w.openByPath "/../sub/inner.bin" true = (some .first, w') := by
    refine ⟨(w.register .created (.file 1 0)).2, ?_⟩
    have same : w.host.config.resolveRemote "/../sub/inner.bin" = some "/session/sub/../sub/inner.bin" := by decide
    simp only [openByPath, if_true, same, found]
    rfl
  obtain ⟨w', opened⟩ := opened
  have top : Locus.ofPath "/session/sub" = { absolute := true, names := ["session", "sub"] } := by
    rw [Locus.ofPath, Text.splitOn_separator]
    rfl
  have below : Locus.ofPath (Config.stripSeparators "/../sub/inner.bin") = { up := 1, names := ["sub", "inner.bin"] } := by
    rw [Locus.ofPath, Text.splitOn_separator]
    rfl
  have inside : (Locus.ofPath "/session/sub").Inside (Locus.ofPath p) := by
    rw [inside_iff, top, below]
    decide
  obtain ⟨id, names, entry, at_file, -, within, -⟩ := opens .first w' opened
  have directory := within inside
  rw [top] at directory
  exact ⟨set, p, resolved, inside, .first, w', id, names, opened, entry, at_file, directory⟩

/-- With ".." the file beside the root is opened. -/
theorem not_inside_exposed :
    let w := exposed "sub"
    w.host.config.remoteRoot = some "sub" ∧
      w.host.config.resolveRemote "../secret.bin" = some "sub/../secret.bin" ∧
      ¬ (Locus.ofPath "sub").Inside (Locus.ofPath "sub/../secret.bin") ∧
      w.env.files.tree.get? ["session", "secret.bin"] = some (.file 0) ∧
      ¬ (Locus.ofPath "sub").namesFrom w.env.files.workingDirectory <+: ["session", "secret.bin"] ∧
      ∃ w', w.openByPath "../secret.bin" true = (some .first, w') ∧
        w'.table.entry? .first = some ⟨.created, .file 0 0⟩ := by
  intro w
  have same : w.host.config.resolveRemote "../secret.bin" = some "sub/../secret.bin" := by decide
  have found : w.env.files.fileAt "sub/../secret.bin" = .ok 0 := Files.fileAt_of_walk (by decide) (by rfl)
  have top : Locus.ofPath "sub" = { names := ["sub"] } := by
    rw [Locus.ofPath, Text.splitOn_separator]
    rfl
  have beside : Locus.ofPath "sub/../secret.bin" = { names := ["secret.bin"] } := by
    rw [Locus.ofPath, Text.splitOn_separator]
    rfl
  refine ⟨rfl, same, ?_, by decide, by rw [top]; decide, ?_⟩
  · rw [top, beside]
    rintro ⟨-, ⟨-, inside⟩ | ⟨none_there, -⟩⟩
    · exact absurd inside (by decide)
    · cases none_there
  · refine ⟨(w.register .created (.file 0 0)).2, ?_, by rfl⟩
    simp only [openByPath, if_true, same, found]
    rfl

end World
end ScriptStreams
