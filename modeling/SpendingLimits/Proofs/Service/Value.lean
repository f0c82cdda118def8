import SpendingLimits.Proofs.Ledger.Value
import SpendingLimits.Proofs.Rulebook.Position
import SpendingLimits.Proofs.Verdict.Value
import SpendingLimits.Service

namespace SpendingLimits

structure Store.Alike (s r : Store) : Prop where
  profiles : List.Forall₂ Profile.Alike s.profiles r.profiles
  rules : List.Forall₂ Rule.Alike s.rules r.rules

/-- Sources that answer alike, or fail for one reason. -/
structure Sources.Alike (s r : Sources) : Prop where
  windowTotal : ∀ w account,
    Matches Amount.Alike (s.windowTotal w account) (r.windowTotal w account)
  allTimeTotal : ∀ account, Matches Amount.Alike (s.allTimeTotal account) (r.allTimeTotal account)
  rulebook : Matches Rulebook.Alike s.rulebook r.rulebook
  profile? : ∀ id, Matches (Option.Rel Profile.Alike) (s.profile? id) (r.profile? id)

namespace Sources

variable {s r : Sources} {account : AccountId} {context : Context} {a b t u : Amount}

theorem usage_alike (h : s.Alike r) (account : AccountId) :
    Matches Usage.Alike (s.usage account) (r.usage account) := by
  apply (h.windowTotal .daily account).bind
  intro d d' hd
  apply (h.windowTotal .weekly account).bind
  intro w w' hw
  apply (h.windowTotal .monthly account).bind
  intro m m' hm
  apply (h.allTimeTotal account).bind
  intro t t' ht
  refine .ok ⟨?_, ht⟩
  intro v
  cases v with
  | daily => exact hd
  | weekly => exact hw
  | monthly => exact hm

theorem applicable_alike (h : s.Alike r) (htu : t.Alike u) (context : Context) :
    Matches Profile.Alike (s.applicable context t) (r.applicable context u) := by
  apply h.rulebook.bind
  intro book other hbook
  have hid := (Rulebook.choose_alike hbook htu context).profile
  dsimp only
  rw [hid]
  apply (h.profile? _).bind
  intro found found' hfound
  cases hfound with
  | none => exact .error _
  | some hp => exact .ok hp

theorem check_alike (h : s.Alike r) (hab : a.Alike b) (account : AccountId) (context : Context) :
    Matches Verdict.Alike (s.check ⟨account, a, context⟩) (r.check ⟨account, b, context⟩) := by
  apply Matches.mapError
  apply (usage_alike h account).bind
  intro v v' hv
  apply (applicable_alike h hv.allTime context).bind
  intro p q hp
  exact .ok (Profile.judge_alike hp hv hab)

theorem find?_alike {ps qs : List Profile} (h : List.Forall₂ Profile.Alike ps qs)
    (id : ProfileId) :
    Option.Rel Profile.Alike (ps.find? (·.id == id)) (qs.find? (·.id == id)) := by
  induction h with
  | nil => exact .none
  | @cons p q _ _ hpq _ ih =>
    rw [List.find?_cons, List.find?_cons, hpq.id]
    cases q.id == id with
    | true => exact .some hpq
    | false => exact ih

theorem ofMemory_alike {store other : Store} {l k : Ledger} (hs : store.Alike other)
    (hl : l.Alike k) (now : Time.Instant) :
    (ofMemory store l now).Alike (ofMemory other k now) where
  windowTotal w account := (Ledger.total_alike hl account now (some w)).matches
  allTimeTotal account := (Ledger.total_alike hl account now none).matches
  rulebook := (Rulebook.ofRules_alike hs.rules).mapError StoreFault.domain
  profile? id := .ok (find?_alike hs.profiles id)

end Sources

/-- Where all amounts are alike, so are the verdict, also the one that the service gives, the place
of the rule that is chosen, whether a profile is valid, and every total. -/
theorem decisions_alike (p q : Profile) (u v : Usage) (a b : Amount) (book other : Rulebook)
    (l k : Ledger) (s r : Sources) (hp : p.Alike q) (hu : u.Alike v) (hab : a.Alike b)
    (hbook : book.Alike other) (hl : l.Alike k) (hs : s.Alike r) (context : Context)
    (account : AccountId) (now : Time.Instant) :
    (p.judge u a).Alike (q.judge v b) ∧
    Matches Verdict.Alike (s.check ⟨account, a, context⟩) (r.check ⟨account, b, context⟩) ∧
    (∃ place, book.place? context u.allTime = place ∧ other.place? context v.allTime = place ∧
      book.ruleAt place = some (book.choose context u.allTime) ∧
      other.ruleAt place = some (other.choose context v.allTime)) ∧
    (p.validate = .ok () ↔ q.validate = .ok ()) ∧
    ∀ span, Ledger.Agree (l.total account now span) (k.total account now span) := by
  have hplace := Rulebook.place?_alike hbook hu.allTime context
  have hchosen := book.ruleAt_place? context u.allTime
  have hchosen' := other.ruleAt_place? context v.allTime
  rw [hplace] at hchosen
  exact ⟨Profile.judge_alike hp hu hab, Sources.check_alike hs hab account context,
    ⟨_, hplace, rfl, hchosen, hchosen'⟩, Profile.validate_alike hp,
    Ledger.total_alike hl account now⟩

/-- With one digit behind the point the sum of the large amount and a half fits, with three it is
rounded. Both go over the cap, of which four tenths are left. -/
theorem decisions_alike_of_longer_amounts :
    let account : AccountId := ⟨⟨1, by decide⟩⟩
    let context : Context := ⟨none, none⟩
    let now : Time.Instant := ⟨0, 0, by decide, by decide, by decide, by decide⟩
    let large : Amount := ⟨7 * 10 ^ 28, 1, false, by decide, by decide, by decide⟩
    let large' : Amount := ⟨7 * 10 ^ 27, 0, false, by decide, by decide, by decide⟩
    let half : Amount := ⟨5, 1, false, by decide, by decide, by decide⟩
    let half' : Amount := ⟨500, 3, false, by decide, by decide, by decide⟩
    let cap : Amount := ⟨7 * 10 ^ 28 + 4, 1, false, by decide, by decide, by decide⟩
    let profile (low high : Amount) : Profile :=
      ⟨⟨"basic"⟩, "Basic", low, high, some cap, none, none, Amount.zero⟩
    let usage (t : Amount) : Usage := ⟨t, t, t, t⟩
    let rule (id : String) (t : Amount) : Rule :=
      ⟨⟨id⟩, false, 1, ⟨"basic"⟩, ⟨none, none, some t⟩⟩
    let specific (t : Amount) : List Rule := [rule "above" cap, rule "large" t]
    let fallback : Rule := ⟨⟨"default"⟩, true, 0, ⟨"basic"⟩, Criteria.any⟩
    let entry (a : Amount) : Entry := ⟨none, account, a, context, .success, now⟩
    let ledger (t : Amount) : Ledger := ⟨[entry t]⟩
    let sources (low high : Amount) : Sources :=
      .ofMemory ⟨[profile low high], fallback :: specific high⟩ (ledger high) now
    (profile half large).Alike (profile half' large') ∧ (usage large).Alike (usage large') ∧
      half.Alike half' ∧
      Rulebook.Alike ⟨specific large, fallback⟩ ⟨specific large', fallback⟩ ∧
      (ledger large).Alike (ledger large') ∧
      (sources half large).Alike (sources half' large') ∧
      ((profile half large).judge (usage large) half).Alike
        ((profile half' large').judge (usage large') half') ∧
      Matches Verdict.Alike ((sources half large).check ⟨account, half, context⟩)
        ((sources half' large').check ⟨account, half', context⟩) ∧
      Rulebook.place? ⟨specific large, fallback⟩ context large = some 1 ∧
      Rulebook.place? ⟨specific large', fallback⟩ context large' = some 1 ∧
      ((profile half large).validate = .ok () ↔ (profile half' large').validate = .ok ()) ∧
      ∀ span, Ledger.Agree ((ledger large).total account now span)
        ((ledger large').total account now span) := by
  intro account context now large large' half half' cap profile usage rule specific fallback entry
    ledger sources
  have hlarge : large.Alike large' := by decide
  have hhalf : half.Alike half' := by decide
  have hp : (profile half large).Alike (profile half' large') := by
    refine ⟨rfl, rfl, hhalf, hlarge, ?_, rfl⟩
    intro w
    cases w with
    | daily => exact .some rfl
    | weekly => exact .none
    | monthly => exact .none
  have hu : (usage large).Alike (usage large') := by
    refine ⟨?_, hlarge⟩
    intro w
    cases w <;> exact hlarge
  have hrule (id : String) {s t : Amount} (hst : s.Alike t) : (rule id s).Alike (rule id t) :=
    ⟨rfl, rfl, rfl, rfl, rfl, rfl, .some hst⟩
  have hspecific : List.Forall₂ Rule.Alike (specific large) (specific large') :=
    .cons (hrule "above" rfl) (.cons (hrule "large" hlarge) .nil)
  have hfallback : fallback.Alike fallback := ⟨rfl, rfl, rfl, rfl, rfl, rfl, .none⟩
  have hbook : Rulebook.Alike ⟨specific large, fallback⟩ ⟨specific large', fallback⟩ :=
    ⟨hspecific, hfallback⟩
  have hl : (ledger large).Alike (ledger large') := .cons ⟨rfl, rfl, hlarge, rfl, rfl, rfl⟩ .nil
  have hs : (sources half large).Alike (sources half' large') :=
    Sources.ofMemory_alike ⟨.cons hp .nil, .cons hfallback hspecific⟩ hl now
  obtain ⟨hjudge, hcheck, ⟨place, hplace, hplace', _⟩, hvalid, htotal⟩ :=
    decisions_alike _ _ _ _ _ _ _ _ _ _ _ _ hp hu hhalf hbook hl hs context account now
  have hsecond : Rulebook.place? ⟨specific large, fallback⟩ context large = some 1 := by decide
  obtain rfl : some 1 = place := hsecond.symm.trans hplace
  exact ⟨hp, hu, hhalf, hbook, hl, hs, hjudge, hcheck, hplace, hplace', hvalid, htotal⟩

end SpendingLimits
