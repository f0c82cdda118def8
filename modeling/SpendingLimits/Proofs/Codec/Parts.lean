import SpendingLimits.Codec.Profile
import SpendingLimits.Codec.Rule
import SpendingLimits.Codec.Verdict
import SpendingLimits.Proofs.Amount.Text
import SpendingLimits.Proofs.Json.Record
import SpendingLimits.Proofs.Uuid

namespace SpendingLimits

open Json

theorem Amount.reads (a : Amount) : Reads Amount.ofJson a.toJson a.unsigned := by
  refine ⟨rfl, ?_⟩
  have hsigned : Signed.toAmount? ⟨false, a.unsigned⟩ = some a.unsigned := rfl
  rw [toJson, ofJson, readRounded?_text, ofDecimal]
  simp only [hsigned]

theorem Amount.toJson_ne_null (a : Amount) : a.toJson ≠ .null := by simp [toJson]

theorem TransactionType.reads (t : TransactionType) : Reads TransactionType.ofJson t.toJson t :=
  .name t.ofName?_name

theorem PaymentMethod.reads (m : PaymentMethod) : Reads PaymentMethod.ofJson m.toJson m :=
  .name m.ofName?_name

theorem EntryStatus.reads (s : EntryStatus) : Reads EntryStatus.ofJson s.toJson s :=
  .name s.ofName?_name

theorem Status.reads (s : Status) : Reads Status.ofJson s.toJson s := .name s.ofName?_name

theorem AccountId.reads (a : AccountId) : Reads AccountId.ofJson a.toJson a := .ofRead a.read?_text

theorem yields_type {fs : List (String × Json)} {t : Option TransactionType}
    (h : fs.lookup "transaction_type" = t.map TransactionType.toJson) :
    (Record.optional "transaction_type" (asOption TransactionType.ofJson) none).Yields fs t := by
  have hoption := Record.Yields.option (f := id) h TransactionType.reads
    (by simp [TransactionType.toJson])
  rwa [Option.map_id_fun] at hoption

theorem yields_method {fs : List (String × Json)} {m : Option PaymentMethod}
    (h : fs.lookup "payment_method_type" = m.map PaymentMethod.toJson) :
    (Record.optional "payment_method_type" (asOption PaymentMethod.ofJson) none).Yields fs m := by
  have hoption := Record.Yields.option (f := id) h PaymentMethod.reads
    (by simp [PaymentMethod.toJson])
  rwa [Option.map_id_fun] at hoption

theorem Context.yields {fs : List (String × Json)} (c : Context)
    (htype : fs.lookup "transaction_type" = c.transactionType.map TransactionType.toJson)
    (hmethod : fs.lookup "payment_method_type" = c.paymentMethod.map PaymentMethod.toJson) :
    Context.layout.Yields fs c := by
  exact .seq (.map _
    (yields_type htype))
    (yields_method hmethod)

namespace Profile

def unsigned (p : Profile) : Profile :=
  { p with
    minTransaction := p.minTransaction.unsigned
    maxTransaction := p.maxTransaction.unsigned
    daily := p.daily.map Amount.unsigned
    weekly := p.weekly.map Amount.unsigned
    monthly := p.monthly.map Amount.unsigned
    unsettledExposure := p.unsettledExposure.unsigned }

@[simp] theorem unsigned_unsigned (p : Profile) : p.unsigned.unsigned = p.unsigned := by
  simp [unsigned, Function.comp_def]

theorem reads (p : Profile) : Reads Profile.ofJson p.toJson p.unsigned := by
  refine Record.reads_ofFields (r := layout) ?_ ?_ (by decide)
  · refine .seq (.seq (.seq (.seq (.seq (.seq (.seq (.map _ (.map _
      (.required ?_ (.text p.id.text))))
      (.required ?_ (.text p.name)))
      (.required ?_ p.minTransaction.reads))
      (.required ?_ p.maxTransaction.reads))
      (.option ?_ Amount.reads Amount.toJson_ne_null))
      (.option ?_ Amount.reads Amount.toJson_ne_null))
      (.option ?_ Amount.reads Amount.toJson_ne_null))
      (.optional ?_ p.unsettledExposure.reads)
    all_goals simp [List.lookup_append, List.lookup_cons, lookup_optionField]
  · simp only [List.map_append]
    exact (((List.Sublist.refl _).append (keys_optionField ..)).append (keys_optionField ..)).append
      (keys_optionField ..) |>.append (.refl _)

end Profile

namespace Usage

def unsigned (u : Usage) : Usage :=
  ⟨u.daily.unsigned, u.weekly.unsigned, u.monthly.unsigned, u.allTime.unsigned⟩

@[simp] theorem unsigned_unsigned (u : Usage) : u.unsigned.unsigned = u.unsigned := by
  simp [unsigned]

theorem reads (u : Usage) : Reads Usage.ofJson u.toJson u.unsigned := by
  refine Record.reads_ofFields (r := layout) ?_ (.refl _) (by decide)
  exact .seq (.seq (.seq (.map _
    (.required rfl u.daily.reads))
    (.required rfl u.weekly.reads))
    (.required rfl u.monthly.reads))
    (.required rfl u.allTime.reads)

end Usage

namespace Criteria

def unsigned (c : Criteria) : Criteria := { c with minTotal := c.minTotal.map Amount.unsigned }

@[simp] theorem unsigned_unsigned (c : Criteria) : c.unsigned.unsigned = c.unsigned := by
  simp [unsigned, Function.comp_def]

theorem reads (c : Criteria) : Reads Criteria.ofJson c.toJson c.unsigned := by
  refine Record.reads_ofFields (r := layout) ?_ ?_ (by decide)
  · refine .seq (.seq (.map _
      (yields_type ?_))
      (yields_method ?_))
      (.option ?_ Amount.reads Amount.toJson_ne_null)
    all_goals simp [List.lookup_append, lookup_optionField]
  · simp only [List.map_append]
    exact ((keys_optionField ..).append (keys_optionField ..)).append (keys_optionField ..)

end Criteria

namespace Rule

def unsigned (r : Rule) : Rule := { r with criteria := r.criteria.unsigned }

@[simp] theorem unsigned_unsigned (r : Rule) : r.unsigned.unsigned = r.unsigned := by
  simp [unsigned]

theorem reads_priority (n : Int32) : Reads priorityOfJson (Json.ofInt n.toInt) n := by
  have hlow := n.le_toInt
  have hhigh := n.toInt_lt
  have h : Reads (asInt (-2 ^ 31) (2 ^ 31 - 1)) (.ofInt n.toInt) n.toInt :=
    .int hlow (by omega) (by omega)
  have hmapped := h.map Int32.ofInt
  rwa [Int32.ofInt_toInt] at hmapped

theorem reads (r : Rule) : Reads Rule.ofJson r.toJson r.unsigned := by
  refine Record.reads_ofFields (r := layout) ?_ (.refl _) (by decide)
  exact .seq (.seq (.seq (.seq (.map _ (.map _
    (.required rfl (.text r.id.text))))
    (.optional rfl (.bool r.isDefault)))
    (.required rfl (reads_priority r.priority)))
    (.map _ (.required rfl (.text r.profile.text))))
    (.optional rfl r.criteria.reads)

end Rule

namespace Verdict

def unsigned (v : Verdict) : Verdict := ⟨v.status, v.low.unsigned, v.high.unsigned⟩

@[simp] theorem unsigned_unsigned (v : Verdict) : v.unsigned.unsigned = v.unsigned := by
  simp [unsigned]

theorem reads (v : Verdict) : Reads Verdict.ofJson v.toJson v.unsigned := by
  refine Record.reads_ofFields (r := layout) ?_ (.refl _) (by decide)
  exact .seq (.seq (.map _
    (.required rfl v.status.reads))
    (.required rfl v.low.reads))
    (.required rfl v.high.reads)

end Verdict

namespace WindowLimit

def unsigned (w : WindowLimit) : WindowLimit :=
  { w with cap := w.cap.map Amount.unsigned, used := w.used.unsigned }

@[simp] theorem unsigned_unsigned (w : WindowLimit) : w.unsigned.unsigned = w.unsigned := by
  simp [unsigned, Function.comp_def]

theorem reads_days (n : UInt32) : Reads daysOfJson (Json.ofInt n.toNat) n := by
  have hlt := n.toNat_lt
  have h : Reads (asInt 0 (2 ^ 32 - 1)) (.ofInt n.toNat) n.toNat :=
    .int (by omega) (by omega) (by omega)
  have hmapped := h.map fun n => UInt32.ofNat n.toNat
  rwa [Int.toNat_natCast, UInt32.ofNat_toNat] at hmapped

/-- A cap that is not there is written as `null`. -/
theorem reads_cap (cap : Option Amount) :
    Reads (asOption Amount.ofJson) ((cap.map Amount.toJson).getD .null)
      (cap.map Amount.unsigned) := by
  cases cap with
  | none => exact .none
  | some a => exact a.reads.some a.toJson_ne_null

theorem reads (w : WindowLimit) : Reads WindowLimit.ofJson w.toJson w.unsigned := by
  refine Record.reads_ofFields (r := layout) ?_ (.refl _) (by decide)
  exact .seq (.seq (.map _
    (.optional rfl (reads_cap w.cap)))
    (.required rfl w.used.reads))
    (.required rfl (reads_days w.days))

theorem toJson_ne_null (w : WindowLimit) : w.toJson ≠ .null := by simp [toJson, ofFields]

end WindowLimit

namespace Summary

def unsigned (s : Summary) : Summary where
  minTransaction := s.minTransaction.unsigned
  maxTransaction := s.maxTransaction.unsigned
  monthly := s.monthly.unsigned
  weekly := s.weekly.map WindowLimit.unsigned
  daily := s.daily.map WindowLimit.unsigned

@[simp] theorem unsigned_unsigned (s : Summary) : s.unsigned.unsigned = s.unsigned := by
  simp [unsigned, Function.comp_def]

theorem reads (s : Summary) : Reads Summary.ofJson s.toJson s.unsigned := by
  refine Record.reads_ofFields (r := layout) ?_ ?_ (by decide)
  · refine .seq (.seq (.seq (.seq (.map _
      (.required ?_ s.minTransaction.reads))
      (.required ?_ s.maxTransaction.reads))
      (.required ?_ s.monthly.reads))
      (.option ?_ WindowLimit.reads WindowLimit.toJson_ne_null))
      (.option ?_ WindowLimit.reads WindowLimit.toJson_ne_null)
    all_goals simp [List.lookup_append, List.lookup_cons, lookup_optionField]
  · simp only [List.map_append]
    exact ((List.Sublist.refl _).append (keys_optionField ..)).append (keys_optionField ..)

end Summary

end SpendingLimits
