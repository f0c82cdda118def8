import SpendingLimits.Proofs.CommandLine.Stage
import SpendingLimits.Proofs.Service.Answer

namespace SpendingLimits.CommandLine

/-- The fault that an outcome reports. -/
def Outcome.why? : Outcome → Option ProgramFault
  | .failed why => some why
  | _ => none

/-- The ways in which a run ends: its exit status, its output and the fault that it reports. -/
inductive Ends (args : List String) (s : Surroundings) : Nat → String → Option ProgramFault → Prop
  | aborted (hload : s.load? = none) : Ends args s 101 "" none
  | version {t : Surroundings} (hload : s.load? = some t) (hparse : parse args = .version) :
    Ends args s 0 (versionText ++ "\n") none
  | help {t : Surroundings} {about : Option CommandName} (hload : s.load? = some t)
    (hparse : parse args = .help about) : Ends args s 0 (helpText about) none
  | rejected {t : Surroundings} (hload : s.load? = some t) (hparse : parse args = .rejected) :
    Ends args s 2 "" none
  | failed {t : Surroundings} {i : Invocation} {why : ProgramFault} (hload : s.load? = some t)
    (hparse : parse args = .run i) (hfault : i.firstFault? t = some why)
    (hwhy : why ≠ .service .windowStart) : Ends args s 1 "" (some why)
  | overrun {t : Surroundings} {i : Invocation} (hload : s.load? = some t)
    (hparse : parse args = .run i) (hfault : i.firstFault? t = some (.service .windowStart)) :
    Ends args s 101 "" none
  | answered {t : Surroundings} {i : Invocation} {status : Nat} {text : String}
    (hload : s.load? = some t) (hparse : parse args = .run i)
    (hanswer : i.answer? t = some (.ok (status, text))) : Ends args s status (text ++ "\n") none

/-- A check that is carried out and not allowed. -/
def Denies (args : List String) (s : Surroundings) : Prop :=
  ∃ t i store ledger r v, s.load? = some t ∧ parse args = .run i ∧ loadStore i t = .ok store ∧
    loadLedger i t = .ok ledger ∧ i.command.read = .ok (.check r) ∧
    (Sources.ofMemory store ledger t.now).check r = .ok v ∧ v.status ≠ .allowed

variable {args : List String} {s t : Surroundings} {i : Invocation}

theorem Outcome.ofResult_error {why : ProgramFault} (h : why ≠ .service .windowStart) :
    ofResult (.error why) = .failed why := by
  rw [ofResult]
  exact h

theorem run_eq_ofResult (hload : s.load? = some t) (hparse : parse args = .run i) :
    run args s = .ofResult (i.run t) := by
  rw [run, hload]
  simp only [hparse]

theorem ends_run (args : List String) (s : Surroundings) :
    Ends args s (run args s).exitStatus (run args s).output (run args s).why? := by
  cases hload : s.load? with
  | none =>
    rw [run, hload]
    exact .aborted hload
  | some t =>
    cases hparse : parse args with
    | version =>
      rw [run, hload, hparse]
      exact .version hload hparse
    | help about =>
      rw [run, hload, hparse]
      exact .help hload hparse
    | rejected =>
      rw [run, hload, hparse]
      exact .rejected hload hparse
    | run i =>
      rw [run_eq_ofResult hload hparse]
      cases hrun : i.run t with
      | ok result => exact .answered hload hparse (run_eq_ok.mp hrun)
      | error why =>
        have hfault := run_eq_error.mp hrun
        by_cases hwhy : why = .service .windowStart
        · subst hwhy
          exact .overrun hload hparse hfault
        · rw [Outcome.ofResult_error hwhy]
          exact .failed hload hparse hfault hwhy

/-- A run ends in no other way than it does. -/
theorem Ends.eq_run {status : Nat} {output : String} {why? : Option ProgramFault}
    (h : Ends args s status output why?) :
    (run args s).exitStatus = status ∧ (run args s).output = output ∧ (run args s).why? = why? := by
  cases h with
  | aborted hload => rw [run, hload]; exact ⟨rfl, rfl, rfl⟩
  | version hload hparse => rw [run, hload, hparse]; exact ⟨rfl, rfl, rfl⟩
  | help hload hparse => rw [run, hload, hparse]; exact ⟨rfl, rfl, rfl⟩
  | rejected hload hparse => rw [run, hload, hparse]; exact ⟨rfl, rfl, rfl⟩
  | failed hload hparse hfault hwhy =>
    rw [run_eq_ofResult hload hparse, run_eq_error.mpr hfault, Outcome.ofResult_error hwhy]
    exact ⟨rfl, rfl, rfl⟩
  | overrun hload hparse hfault =>
    rw [run_eq_ofResult hload hparse, run_eq_error.mpr hfault]
    exact ⟨rfl, rfl, rfl⟩
  | answered hload hparse hanswer =>
    rw [run_eq_ofResult hload hparse, run_eq_ok.mpr hanswer]
    exact ⟨rfl, rfl, rfl⟩

theorem answer_ne_windowStart {store : Store} {book : Rulebook} {ledger : Ledger}
    {now : Time.Instant} (hb : Window.AllBegin now) (r : Request) :
    r.answer store book ledger now ≠ .error .windowStart := by
  intro h
  cases r with
  | check q =>
    rw [Request.answer, map_eq_error, Sources.check_eq, map_eq_error] at h
    rcases Sources.ofMemory_reading_or hb with ⟨_, _, _, hr, _⟩ | ⟨_, _, htext, hr, _⟩
    · rw [hr] at h
      cases h
    · rw [hr, mapError_error, htext] at h
      cases h
  | limits q =>
    rw [Request.answer, map_eq_error, Sources.limits_eq, map_eq_error] at h
    rcases Sources.ofMemory_reading_or hb with ⟨_, _, _, hr, _⟩ | ⟨_, _, htext, hr, _⟩
    · rw [hr] at h
      cases h
    · rw [hr, mapError_error, htext] at h
      cases h
  | profile q =>
    rw [Request.answer, map_eq_error] at h
    rcases Sources.ofMemory_reading_or hb with ⟨_, _, _, _, hp⟩ | ⟨_, _, _, _, hp⟩
    · rw [hp] at h
      cases h
    · rw [hp] at h
      cases h
  | validate => cases h

/-- A fault of the service is that of the answer. -/
theorem answer?_of_service {why : ServiceFault} (h : i.firstFault? s = some (.service why)) :
    i.answer? s = some (.error why) := by
  obtain ⟨stage, _, hstage⟩ := List.exists_of_findSome?_eq_some h
  cases stage with
  | rulesPath =>
    rw [Invocation.faultAt, fault?_eq_some, rulesPath] at hstage
    split at hstage <;> cases hstage
  | answer =>
    obtain ⟨answer, hanswer, hfault⟩ := Option.bind_eq_some_iff.mp hstage
    obtain ⟨other, hother, heq⟩ := Option.map_eq_some_iff.mp hfault
    rw [hanswer, fault?_eq_some.mp hother, ProgramFault.service.inj heq]
  | account =>
    obtain ⟨subject, _, hfault⟩ := Option.bind_eq_some_iff.mp hstage
    rw [fault?_eq_some, readAccount] at hfault
    split at hfault <;> cases hfault
  | _ =>
    simp [Invocation.faultAt, Option.bind_eq_some_iff, Surroundings.file, readAmount,
      fault?_mapError] at hstage

/-- With a file of variables that can all have their values, and at a time at which all windows
begin, the program is not aborted. -/
theorem run_ne_aborted (hload : s.load? = some t) (hb : Window.AllBegin t.now) :
    run args s ≠ .aborted := by
  intro h
  cases hparse : parse args with
  | run i =>
    rw [run_eq_ofResult hload hparse] at h
    cases hrun : i.run t with
    | ok result =>
      rw [hrun] at h
      cases h
    | error why =>
      by_cases hwhy : why = .service .windowStart
      · subst hwhy
        obtain ⟨_, _, _, r, _, _, _, _, hanswer⟩ :=
          answer?_eq_some.mp (answer?_of_service (run_eq_error.mp hrun))
        exact answer_ne_windowStart hb r hanswer
      · rw [hrun, Outcome.ofResult_error hwhy] at h
        cases h
  | _ =>
    rw [run, hload, hparse] at h
    cases h

theorem answer_eq_two {store : Store} {book : Rulebook} {ledger : Ledger} {now : Time.Instant}
    {r : Request} {text : String} (h : r.answer store book ledger now = .ok (2, text)) :
    ∃ q v, r = .check q ∧ (Sources.ofMemory store ledger now).check q = .ok v ∧
      v.status ≠ .allowed := by
  cases r with
  | check q =>
    obtain ⟨v, hv, hresult⟩ := map_eq_ok.mp h
    refine ⟨q, v, rfl, hv, fun hallowed => ?_⟩
    rw [if_pos hallowed] at hresult
    cases hresult
  | limits q =>
    obtain ⟨_, _, hresult⟩ := map_eq_ok.mp h
    cases hresult
  | profile q =>
    obtain ⟨_, _, hresult⟩ := map_eq_ok.mp h
    cases hresult
  | validate => cases h

/-- The status 2 with an output is that of a denied check alone. -/
theorem denies_iff : (run args s).exitStatus = 2 ∧ (run args s).output ≠ "" ↔ Denies args s := by
  constructor
  · rintro ⟨hstatus, houtput⟩
    have h := ends_run args s
    rw [hstatus] at h
    generalize (run args s).output = output, (run args s).why? = why? at h houtput
    cases h with
    | rejected hload hparse => exact absurd rfl houtput
    | answered hload hparse hanswer =>
      obtain ⟨rules, book, ledger, r, hrules, hbook, hledger, hread, hanswer⟩ :=
        answer?_eq_some.mp hanswer
      obtain ⟨q, v, rfl, hv, hdenied⟩ := answer_eq_two hanswer
      exact ⟨_, _, _, ledger, q, v, hload, hparse,
        loadStore_eq_ok.mpr ⟨rules, book, hrules, hbook, rfl⟩, hledger, hread, hv, hdenied⟩
  · rintro ⟨t, i, store, ledger, q, v, hload, hparse, hstore, hledger, hread, hv, hdenied⟩
    obtain ⟨rules, book, hrules, hbook, rfl⟩ := loadStore_eq_ok.mp hstore
    have hanswer : i.answer? t = some (.ok (2, v.toJson.pretty)) := by
      refine answer?_eq_some.mpr ⟨rules, book, ledger, _, hrules, hbook, hledger, hread, ?_⟩
      exact map_eq_ok.mpr ⟨v, hv, by rw [if_neg hdenied]⟩
    obtain ⟨hstatus, houtput, _⟩ := (Ends.answered hload hparse hanswer).eq_run
    exact ⟨hstatus, by simp [houtput]⟩

/-- Each run ends in exactly one way: with its arguments rejected, with the fault of its first stage
that has one and no output, or with its whole answer. Only a variable that cannot have its value,
or a window without a beginning, aborts it, and the status 2 comes with an output just when a check
is denied. -/
theorem run_ends (args : List String) (s : Surroundings) :
    (∀ status output why?, ((run args s).exitStatus = status ∧ (run args s).output = output ∧
      (run args s).why? = why?) ↔ Ends args s status output why?) ∧
    (∀ t, s.load? = some t → Window.AllBegin t.now → run args s ≠ .aborted) ∧
    ((run args s).exitStatus = 2 ∧ (run args s).output ≠ "" ↔ Denies args s) := by
  refine ⟨fun status output why? => ⟨?_, Ends.eq_run⟩, fun t => run_ne_aborted, denies_iff⟩
  rintro ⟨rfl, rfl, rfl⟩
  exact ends_run args s

/-- The arguments and the rule set are in order, and a variable that the program does not even need
aborts it. -/
theorem run_aborted_by_nul :
    let args := ["--rules", "rules.json", "validate"]
    let rules := "\x7b\"profiles\":[[\"std\",\"Std\",\"1\",\"2\"]]," ++
      "\"configurations\":[[\"dflt\",true,1,\"std\"]]\x7d"
    let s : Surroundings :=
      { environment := .ofList []
        variableFile := none
        read := fun path => if path = "rules.json" then .ok rules else .error .missing
        now := ⟨0, 0, by decide, by decide, by decide, by decide⟩ }
    run args s = .finished 0 ("Profiles:       1\nConfigurations: 1\nDefault:        dflt\n" ++
        "✓ Rule set is valid\n") ∧
      run args { s with variableFile := some "NUL='\x00'\n" } = .aborted ∧
      Outcome.aborted.exitStatus = 101 := by
  intro args rules s
  refine ⟨by decide +kernel, by decide +kernel, rfl⟩

end SpendingLimits.CommandLine
