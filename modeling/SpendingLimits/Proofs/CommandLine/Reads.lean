import SpendingLimits.CommandLine.Program
import SpendingLimits.Proofs.CommandLine.Folder

namespace SpendingLimits.CommandLine

variable {args : List String} {s t : Surroundings} {i : Invocation}
  {read : String → Except ReadFault String}

theorem load?_with_read (s : Surroundings) (read : String → Except ReadFault String) :
    { s with read }.load? = s.load?.map fun t => { t with read } := by
  obtain ⟨environment, variableFile, _, now⟩ := s
  cases variableFile with
  | none => rfl
  | some file =>
    simp only [Surroundings.load?]
    cases environment.load? file <;> rfl

theorem read_of_load? (h : s.load? = some t) : t.read = s.read := by
  obtain ⟨environment, variableFile, _, now⟩ := s
  cases variableFile with
  | none =>
    obtain rfl := Option.some.inj h
    rfl
  | some file =>
    obtain ⟨e, _, rfl⟩ := Option.map_eq_some_iff.mp h
    rfl

theorem file_with_read {path : String} (h : read path = t.read path) :
    { t with read }.file path = t.file path :=
  congrArg (Except.mapError (ProgramFault.unreadable path)) h

theorem loadStore_with_read (h : ∀ path, rulesPath i t = .ok path → read path = t.read path) :
    loadStore i { t with read } = loadStore i t := by
  have hpath : rulesPath i { t with read } = rulesPath i t := rfl
  rw [loadStore, loadStore, hpath]
  cases hrules : rulesPath i t with
  | error why => rfl
  | ok path =>
    exact congrArg (· >>= fun text => (Store.load text).mapError .unusable)
      (file_with_read (h path hrules))

theorem loadLedger_with_read (h : ∀ path, ledgerPath? i t = some path → read path = t.read path) :
    loadLedger i { t with read } = loadLedger i t := by
  have hpath : ledgerPath? i { t with read } = ledgerPath? i t := rfl
  rw [loadLedger, loadLedger, hpath]
  cases hledger : ledgerPath? i t with
  | none => rfl
  | some path => simp only [file_with_read (h path hledger)]

/-- A run depends on what is read only at the paths that it names. -/
theorem run_with_read (h : ∀ path ∈ pathsOf args s, read path = s.read path) :
    run args { s with read } = run args s := by
  rw [run, run, load?_with_read]
  cases hload : s.load? with
  | none => rfl
  | some t =>
    cases hparse : parse args with
    | run i =>
      have hread := read_of_load? hload
      have hrules : ∀ path, rulesPath i t = .ok path → read path = t.read path := by
        intro path hpath
        rw [hread]
        exact h path (by simp [pathsOf, hload, hparse, hpath, Except.toOption])
      have hledger : ∀ path, ledgerPath? i t = some path → read path = t.read path := by
        intro path hpath
        rw [hread]
        exact h path (by simp [pathsOf, hload, hparse, hpath])
      simp only [Option.map_some, Invocation.run, loadStore_with_read hrules,
        loadLedger_with_read hledger]
    | _ => rfl

/-- All that a run reads may be read in front of it. -/
theorem run_read_before (args : List String) (s : Surroundings) :
    let contents := (pathsOf args s).map fun path => (path, s.read path)
    run args { s with read := fun path => (contents.lookup path).getD (.error .missing) } =
      run args s := by
  intro contents
  refine run_with_read fun path hpath => ?_
  rw [List.lookup_graph s.read hpath, Option.getD_some]

theorem pathsOf_with_read (args : List String) (s : Surroundings)
    (read : String → Except ReadFault String) : pathsOf args { s with read } = pathsOf args s := by
  rw [pathsOf, pathsOf, load?_with_read]
  cases s.load? with
  | none => rfl
  | some t => cases parse args <;> rfl

/-- In a folder in which all the paths that a run names are listed, it ends as with the list. -/
theorem run_in_folder {files : List (String × String)} (h : Folder.Apart files)
    (hpaths : ∀ path ∈ pathsOf args s, Folder.IsDirect path ∧ (files.lookup path).isSome) :
    run args { s with read := (Folder.ofFiles files).read } =
      run args { s with read := fun path => (files.lookup path).elim (.error .missing) .ok } := by
  let listed : Surroundings :=
    { s with read := fun path => (files.lookup path).elim (.error .missing) .ok }
  refine run_with_read (s := listed) fun path hpath => ?_
  rw [pathsOf_with_read] at hpath
  obtain ⟨hdirect, hsome⟩ := hpaths path hpath
  obtain ⟨content, hlookup⟩ := Option.isSome_iff_exists.mp hsome
  have hread : listed.read path = .ok content := by
    change (files.lookup path).elim _ _ = _
    rw [hlookup, Option.elim_some]
  rw [hread]
  exact (Folder.read_eq_ok h hdirect).mpr ⟨path, Folder.mem_of_lookup hlookup, rfl⟩

end SpendingLimits.CommandLine
