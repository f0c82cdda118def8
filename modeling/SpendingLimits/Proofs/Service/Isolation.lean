import SpendingLimits.Proofs.Ledger.Order
import SpendingLimits.Proofs.Service.Answer

namespace SpendingLimits

/-- Whether an entry is one of an account that has not failed and is not dated after the clock. -/
def Entry.isSeen (account : AccountId) (now : Time.Instant) (e : Entry) : Bool :=
  e.account == account && (e.status.counts && decide (e.createdAt ≤ now))

namespace Ledger

/-- The entries that totals of an account are made from. -/
def seen (l : Ledger) (account : AccountId) (now : Time.Instant) : List Entry :=
  l.entries.filter (Entry.isSeen account now)

variable {l k : Ledger} {account : AccountId} {now : Time.Instant}

theorem seen_recordAll (l : Ledger) (es : List Entry) (account : AccountId) (now : Time.Instant) :
    (l.recordAll es).seen account now =
      l.seen account now ++ es.filter (Entry.isSeen account now) := by
  rw [seen, recordAll_entries, List.filter_append, seen]

theorem counted_eq_seen (l : Ledger) (account : AccountId) (now : Time.Instant)
    (start : Option Time.Instant) :
    l.counted account now start =
      ((l.seen account now).filter fun e => start.all fun t => decide (t ≤ e.createdAt)).map
        (·.amount) := by
  rw [counted, history, seen, List.filter_filter, List.filter_filter]
  congr 2
  funext e
  rw [isCounted, Entry.isSeen]
  ac_rfl

theorem totalSince_of_seen (h : l.seen account now = k.seen account now)
    (start : Option Time.Instant) :
    l.totalSince account now start = k.totalSince account now start := by
  rw [totalSince_eq, totalSince_eq, counted_eq_seen, counted_eq_seen, h]

theorem windowTotal_of_seen (hb : Window.AllBegin now)
    (h : l.seen account now = k.seen account now) (w : Window) :
    l.windowTotal w account now = k.windowTotal w account now := by
  obtain ⟨start, hstart⟩ := hb.exists_start w
  rw [windowTotal_eq hstart, windowTotal_eq hstart]
  exact totalSince_of_seen h (some start)

theorem allTimeTotal_of_seen (h : l.seen account now = k.seen account now) :
    l.allTimeTotal account now = k.allTimeTotal account now :=
  totalSince_of_seen h none

theorem usage_of_seen (hb : Window.AllBegin now) (h : l.seen account now = k.seen account now) :
    l.usage account now = k.usage account now := by
  rw [usage, usage, windowTotal_of_seen hb h .daily, windowTotal_of_seen hb h .weekly,
    windowTotal_of_seen hb h .monthly, allTimeTotal_of_seen h]

end Ledger

namespace Sources

variable {l k : Ledger} {account : AccountId} {now : Time.Instant}

theorem ofMemory_reading_of_seen (hb : Window.AllBegin now)
    (h : l.seen account now = k.seen account now) (store : Store) (context : Context) :
    (ofMemory store l now).reading account context =
      (ofMemory store k now).reading account context := by
  have husage : (ofMemory store l now).usage account = (ofMemory store k now).usage account :=
    Ledger.usage_of_seen hb h
  rw [reading, reading, husage]
  rfl

theorem ofMemory_profile_of_seen (h : l.seen account now = k.seen account now) (store : Store)
    (context : Context) :
    (ofMemory store l now).profile ⟨account, context⟩ =
      (ofMemory store k now).profile ⟨account, context⟩ := by
  rw [ofMemory_profile_eq, ofMemory_profile_eq, Ledger.allTimeTotal_of_seen h]
  rfl

end Sources

/-- Two runs that record the same for an account, failed entries and those ahead of the clock aside,
give it the same totals, digit for digit, and the same answers. -/
theorem answers_isolated (account : AccountId) (now : Time.Instant) (hb : Window.AllBegin now)
    (es fs : List Entry)
    (h : es.filter (Entry.isSeen account now) = fs.filter (Entry.isSeen account now)) :
    let l := Ledger.empty.recordAll es
    let k := Ledger.empty.recordAll fs
    l.usage account now = k.usage account now ∧
      (∀ w, l.windowTotal w account now = k.windowTotal w account now) ∧
      l.allTimeTotal account now = k.allTimeTotal account now ∧
      ∀ (store : Store) (context : Context) (amount : Amount),
        let before := Sources.ofMemory store l now
        let after := Sources.ofMemory store k now
        before.check ⟨account, amount, context⟩ = after.check ⟨account, amount, context⟩ ∧
        before.limits ⟨account, context⟩ = after.limits ⟨account, context⟩ ∧
        before.profile ⟨account, context⟩ = after.profile ⟨account, context⟩ := by
  intro l k
  have hseen : l.seen account now = k.seen account now := by
    rw [Ledger.seen_recordAll, Ledger.seen_recordAll, h]
  refine ⟨Ledger.usage_of_seen hb hseen, Ledger.windowTotal_of_seen hb hseen,
    Ledger.allTimeTotal_of_seen hseen, ?_⟩
  intro store context amount before after
  have hreading : before.reading account context = after.reading account context :=
    Sources.ofMemory_reading_of_seen hb hseen store context
  refine ⟨?_, ?_, Sources.ofMemory_profile_of_seen hseen store context⟩
  · rw [Sources.check_eq, Sources.check_eq, hreading]
  · rw [Sources.limits_eq, Sources.limits_eq, hreading]

/-- One run holds a failed entry, one ahead of the clock and one of another account; the other run
holds none of them, but two more of the other account. -/
theorem answers_isolated_from_others :
    let account : AccountId := ⟨⟨1, by decide⟩⟩
    let other : AccountId := ⟨⟨2, by decide⟩⟩
    let now : Time.Instant := ⟨0, 0, by decide, by decide, by decide, by decide⟩
    let later : Time.Instant := ⟨1, 0, by decide, by decide, by decide, by decide⟩
    let context : Context := ⟨none, none⟩
    let half : Amount := ⟨50, 2, false, by decide, by decide, by decide⟩
    let entry (a : AccountId) (amount : Amount) (s : EntryStatus) (t : Time.Instant) : Entry :=
      ⟨none, a, amount, context, s, t⟩
    let first := entry account half .success now
    let second := entry account (Amount.ofWhole 40) .pending now
    let es := [first, entry other half .success now, entry account half .failed now,
      entry account half .success later, second]
    let fs := [entry other half .pending later, first, second, entry other half .success now]
    let l := Ledger.empty.recordAll es
    let k := Ledger.empty.recordAll fs
    let p : Profile :=
      ⟨⟨"basic"⟩, "Basic", half, Amount.ofWhole 500, some (Amount.ofWhole 41), none, none,
        Amount.zero⟩
    let store : Store := ⟨[p], [⟨⟨"default"⟩, true, 1, ⟨"basic"⟩, Criteria.any⟩]⟩
    let verdict : Verdict := ⟨.limitReached .daily, half, half⟩
    Window.AllBegin now ∧
      es.filter (Entry.isSeen account now) = fs.filter (Entry.isSeen account now) ∧
      l.usage account now = k.usage account now ∧
      (Sources.ofMemory store l now).check ⟨account, Amount.ofWhole 1, context⟩ = .ok verdict ∧
      (Sources.ofMemory store k now).check ⟨account, Amount.ofWhole 1, context⟩ = .ok verdict := by
  intro account other now later context half entry first second es fs l k p store verdict
  have hb : Window.AllBegin now := by intro w; cases w <;> decide
  have hsame : es.filter (Entry.isSeen account now) = fs.filter (Entry.isSeen account now) := by
    decide
  have hcheck : (Sources.ofMemory store l now).check ⟨account, Amount.ofWhole 1, context⟩ =
      .ok verdict := by decide
  obtain ⟨husage, _, _, hanswers⟩ := answers_isolated account now hb es fs hsame
  obtain ⟨hagree, _, _⟩ := hanswers store context (Amount.ofWhole 1)
  exact ⟨hb, hsame, husage, hcheck, hagree.symm.trans hcheck⟩

end SpendingLimits
