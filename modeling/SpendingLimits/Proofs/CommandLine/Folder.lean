import Mathlib.Data.List.Basic
import Mathlib.Tactic.SplitIfs
import SpendingLimits.CommandLine.Folder

namespace SpendingLimits.CommandLine

namespace Folder

variable {f : Folder} {files : List (String × String)} {name content step path : String}
  {way here rest : List String} {above : Option (List String → Except ReadFault String)}

/-- A step that goes one folder down. -/
structure GoesDown (step : String) : Prop where
  moves : isIdle step = false
  ne_back : step ≠ ".."
  size_le : step.utf8ByteSize ≤ stepLimit

instance (step : String) : Decidable (GoesDown step) :=
  decidable_of_iff (isIdle step = false ∧ step ≠ ".." ∧ step.utf8ByteSize ≤ stepLimit)
    ⟨fun ⟨moves, ne_back, size_le⟩ => ⟨moves, ne_back, size_le⟩,
      fun ⟨moves, ne_back, size_le⟩ => ⟨moves, ne_back, size_le⟩⟩

/-- A path that goes down only and is not too long. -/
structure IsDirect (path : String) : Prop where
  goesDown : ∀ step ∈ stepsOf path, GoesDown step
  size_le : path.utf8ByteSize ≤ pathLimit

/-- Nothing but folders is on the way to a text. -/
structure LeadsTo (f : Folder) (way : List String) (content : String) : Prop where
  found : f.find? way = some (.ok content)
  folders : ∀ front, front <+: way → front ≠ way → f.find? front = some (.error .isFolder)

/-- No file is on the way to another one. -/
def Apart (files : List (String × String)) : Prop :=
  ∀ a ∈ files, ∀ b ∈ files, wayOf a.1 <+: wayOf b.1 → a = b

instance (files : List (String × String)) : Decidable (Apart files) :=
  inferInstanceAs (Decidable (∀ a ∈ files, ∀ b ∈ files, wayOf a.1 <+: wayOf b.1 → a = b))

theorem follow_down (hhere : f.find? here.reverse = some (.error .isFolder)) (hstep : GoesDown step)
    (hnext : (f.find? (here.reverse ++ [step])).isSome = true) :
    f.follow above here (step :: rest) = f.follow above (step :: here) rest := by
  rw [follow.eq_def]
  simp only [hhere, hstep.moves, Bool.false_eq_true, if_false, if_neg hstep.ne_back,
    if_neg (Nat.not_lt.mpr hstep.size_le), hnext, if_true]

theorem follow_of_leadsTo (h : f.LeadsTo (here.reverse ++ rest) content)
    (hdown : ∀ step ∈ rest, GoesDown step) : f.follow above here rest = .ok content := by
  induction rest generalizing here with
  | nil =>
    have hfound := h.found
    rw [List.append_nil] at hfound
    rw [follow, hfound]
    rfl
  | cons step rest ih =>
    obtain ⟨hstep, hrest⟩ := List.forall_mem_cons.mp hdown
    have hhere : f.find? here.reverse = some (.error .isFolder) :=
      h.folders _ (List.prefix_append _ _) (by simp)
    have hnext : (f.find? (here.reverse ++ [step])).isSome = true := by
      by_cases hend : here.reverse ++ [step] = here.reverse ++ step :: rest
      · rw [hend, h.found]
        rfl
      · rw [h.folders _ (by simp) hend]
        rfl
    rw [follow_down hhere hstep hnext]
    refine ih ?_ hrest
    rwa [List.reverse_cons, List.append_assoc]

theorem mem_of_lookup {A : Type} [BEq A] [LawfulBEq A] {entries : List (A × String)} {key : A}
    (h : entries.lookup key = some content) : (key, content) ∈ entries := by
  obtain ⟨before, behind, hentries, _⟩ := List.lookup_eq_some_iff.mp h
  simp [hentries]

theorem mem_of_find? (h : f.find? way = some (.ok content)) : (way, content) ∈ f.files := by
  rw [find?] at h
  split at h
  · next found hlookup =>
    obtain rfl := Except.ok.inj (Option.some.inj h)
    exact mem_of_lookup hlookup
  · split at h
    · cases h
    · split at h <;> cases h

theorem mem_of_follow_nil (h : f.follow above here [] = .ok content) :
    (here.reverse, content) ∈ f.files := by
  rw [follow] at h
  cases hfind : f.find? here.reverse with
  | none =>
    rw [hfind] at h
    cases h
  | some found =>
    rw [hfind, Option.getD_some] at h
    subst h
    exact mem_of_find? hfind

/-- On the way to a text a step that does not go back stays where it is or goes down. -/
theorem follow_cons_eq_ok (hstep : step ≠ "..")
    (h : f.follow above here (step :: rest) = .ok content) :
    isIdle step = true ∧ f.follow above here rest = .ok content ∨
      isIdle step = false ∧ f.follow above (step :: here) rest = .ok content := by
  rw [follow.eq_def] at h
  simp only [if_neg hstep] at h
  split_ifs at h with hfile hidle hlong hnext
  · exact .inl ⟨hidle, h⟩
  · exact .inr ⟨Bool.eq_false_iff.mpr hidle, h⟩

/-- Following steps of which none goes back, a text is that of the file to which they lead. -/
theorem mem_of_follow (hback : ".." ∉ rest) (h : f.follow above here rest = .ok content) :
    (here.reverse ++ rest.filter (!isIdle ·), content) ∈ f.files := by
  induction rest generalizing here with
  | nil => simpa using mem_of_follow_nil h
  | cons step rest ih =>
    have hstep : step ≠ ".." := fun heq => hback (heq ▸ List.mem_cons_self)
    have hrest : ".." ∉ rest := fun hmem => hback (List.mem_cons_of_mem _ hmem)
    rcases follow_cons_eq_ok hstep h with ⟨hidle, hnext⟩ | ⟨hmoves, hnext⟩
    · simpa [hidle] using ih hrest hnext
    · simpa [hmoves] using ih hrest hnext

theorem mem_ofFiles : (way, content) ∈ (ofFiles files).files ↔
    ∃ name, (name, content) ∈ files ∧ wayOf name = way := by
  simp [ofFiles]

/-- A listed file is where its name leads to. -/
theorem leadsTo_of_mem (h : Apart files) (hmem : (name, content) ∈ files) :
    (ofFiles files).LeadsTo (wayOf name) content := by
  have hlisted := mem_ofFiles.mpr ⟨name, hmem, rfl⟩
  constructor
  · cases hlookup : (ofFiles files).files.lookup (wayOf name) with
    | none => simpa using List.lookup_eq_none_iff.mp hlookup _ hlisted
    | some found =>
      obtain ⟨other, hother, hway⟩ := mem_ofFiles.mp (mem_of_lookup hlookup)
      obtain rfl := (Prod.mk.inj (h _ hother _ hmem (hway ▸ List.prefix_refl _))).2
      rw [find?, hlookup]
  · intro front hfront hne
    have hnone : (ofFiles files).files.lookup front = none := by
      cases hlookup : (ofFiles files).files.lookup front with
      | none => rfl
      | some found =>
        obtain ⟨other, hother, rfl⟩ := mem_ofFiles.mp (mem_of_lookup hlookup)
        have hsame := (Prod.mk.inj (h _ hother _ hmem hfront)).1
        exact absurd (congrArg wayOf hsame) hne
    have hany : (ofFiles files).files.any (front.isPrefixOf ·.1) = true :=
      List.any_eq_true.mpr ⟨_, hlisted, List.isPrefixOf_iff_prefix.mpr hfront⟩
    have htext : (ofFiles files).notText.contains front = false := rfl
    rw [find?, hnone]
    simp only [htext, hany, Bool.true_or, Bool.false_eq_true, if_false, if_true]

theorem IsDirect.wayOf_eq (h : IsDirect path) : wayOf path = stepsOf path :=
  List.filter_eq_self.mpr fun step hstep => by simp [(h.goesDown step hstep).moves]

theorem IsDirect.read_eq (h : IsDirect path) :
    f.read path = f.follow (some (outside 1)) [] (stepsOf path) := by
  rw [read, if_neg (Nat.not_lt.mpr h.size_le)]
  split
  · next rest hsteps => exact absurd (h.goesDown "" (by simp [hsteps])).moves (by decide)
  · rfl

/-- A direct path reads the listed file that it leads to, and nothing else. -/
theorem read_eq_ok (h : Apart files) (hpath : IsDirect path) :
    (ofFiles files).read path = .ok content ↔
      ∃ name, (name, content) ∈ files ∧ wayOf name = wayOf path := by
  rw [hpath.read_eq]
  constructor
  · intro hread
    have hback : ".." ∉ stepsOf path := fun hmem => (hpath.goesDown _ hmem).ne_back rfl
    exact mem_ofFiles.mp (mem_of_follow hback hread)
  · rintro ⟨name, hmem, hway⟩
    have hlead := leadsTo_of_mem h hmem
    rw [hway, hpath.wayOf_eq] at hlead
    exact follow_of_leadsTo hlead hpath.goesDown

example : Apart [("rules.json", "rules"), ("data/ledger.json", "entries")] ∧
    ∀ step ∈ stepsOf "data/ledger.json", GoesDown step := by decide

/-- A text that is found is that of a file, or it is found above. -/
theorem of_follow {P : Prop} (hfile : ∀ way, (way, content) ∈ f.files → P)
    (habove : ∀ go left, above = some go → go left = .ok content → P)
    (h : f.follow above here rest = .ok content) : P := by
  induction rest generalizing here with
  | nil => exact hfile _ (mem_of_follow_nil h)
  | cons step rest ih =>
    rw [follow.eq_def] at h
    simp only at h
    split_ifs at h with hstop hidle hback hlong hnext
    · exact ih h
    · cases here with
      | cons _ back => exact ih h
      | nil =>
        cases above with
        | none => exact ih h
        | some go => exact habove go rest rfl h
    · exact ih h

theorem mem_of_fromRoot (h : fromRoot rest = .ok content) :
    ∃ way, (way, content) ∈ root.files := by
  refine of_follow (fun way hmem => ⟨way, hmem⟩) ?_ h
  intro go left hnone
  cases hnone

theorem mem_of_outside {level : Nat} (h : outside level rest = .ok content) :
    ∃ way, (way, content) ∈ root.files := by
  induction rest generalizing level with
  | nil => cases h
  | cons step rest ih =>
    rw [outside] at h
    split_ifs at h with hroot hidle hback hlong
    · exact mem_of_fromRoot h
    · exact ih h
    · exact ih h

/-- Whatever path is read, a text is that of a file in the folder or of one under the root. -/
theorem mem_of_read (h : f.read path = .ok content) :
    ∃ way, (way, content) ∈ f.files ++ root.files := by
  have hroot : (∃ way, (way, content) ∈ root.files) →
      ∃ way, (way, content) ∈ f.files ++ root.files :=
    fun ⟨way, hmem⟩ => ⟨way, List.mem_append_right _ hmem⟩
  rw [read] at h
  split_ifs at h with hlong
  split at h
  · exact hroot (mem_of_fromRoot h)
  · refine of_follow (fun way hmem => ⟨way, List.mem_append_left _ hmem⟩) ?_ h
    intro go left hgo hleft
    obtain rfl := Option.some.inj hgo
    exact hroot (mem_of_outside hleft)

end Folder

end SpendingLimits.CommandLine
