import SpendingLimits.Proofs.Text.Capital
import SpendingLimits.Transaction

namespace SpendingLimits

open Text

variable {α : Type} {c : Char} {cs : List Char} {name s : String}

/-- A reader of names takes the texts that are spelled as one of the names, and no text that has
other characters than plain ones. It refuses every text that it does not take, with a message that
quotes the text. -/
structure ReadsNames (read : String → Except DomainFault α) (spelled : String → String)
    (names : List (String × α)) (refusal : String) : Prop where
  accepts : ∀ s a, read s = .ok a ↔ (spelled s, a) ∈ names
  plain : ∀ s a, read s = .ok a → ∀ c ∈ trim s.toList, IsPlain c
  refuses : ∀ s, (∀ a, read s ≠ .ok a) → ∃ fault, read s = .error (.validation fault) ∧
    (DomainFault.validation fault).message = "Validation error: " ++ refusal ++ s

theorem ofList_inCapitals_eq_iff (h : IsName name.toList) :
    String.ofList (inCapitals cs) = name ↔ String.ofList (cs.map letter) = name := by
  rw [← String.toList_inj, ← String.toList_inj, String.toList_ofList, String.toList_ofList,
    inCapitals_eq_iff h]

theorem isPlain_of_spelled (h : IsName name.toList)
    (hspelled : String.ofList (cs.map letter) = name) (hc : c ∈ cs) : IsPlain c := by
  rw [← hspelled, String.toList_ofList] at h
  exact isPlain_of_letters h hc

/-- What is looked up are the capitals of the trimmed text, with some plain characters changed for
others. -/
theorem ReadsNames.of_look_up {read : String → Except DomainFault α} {names : List (String × α)}
    {ofName? : String → Option α} {nameOf : α → String} {refusal : String}
    (refused : String → ValidationFault) (changed : List Char → List Char)
    (hread : ∀ s, read s = (ofName? (String.ofList (inCapitals (changed (trim s.toList))))).elim
      (.error (.validation (refused s))) .ok)
    (hname : ∀ s a, ofName? s = some a ↔ s = nameOf a) (hspelt : ∀ a, IsName (nameOf a).toList)
    (hnames : ∀ s a, (s, a) ∈ names ↔ s = nameOf a)
    (hplain : ∀ cs, (∀ c ∈ changed cs, IsPlain c) → ∀ c ∈ cs, IsPlain c)
    (hmessage : ∀ s, (refused s).message = refusal ++ s) :
    ReadsNames read (fun s => String.ofList ((changed (trim s.toList)).map letter)) names
      refusal := by
  have haccepts : ∀ s a, read s = .ok a ↔
      String.ofList ((changed (trim s.toList)).map letter) = nameOf a := by
    intro s a
    rw [hread, ← ofList_inCapitals_eq_iff (hspelt a), ← hname]
    cases ofName? _ <;> simp
  refine ⟨fun s a => (haccepts s a).trans (hnames _ a).symm, fun s a h => ?_, fun s h => ?_⟩
  · exact hplain _ fun c => isPlain_of_spelled (hspelt a) ((haccepts s a).mp h)
  · refine ⟨refused s, ?_, ?_⟩
    · rw [hread] at h ⊢
      cases hfound : ofName? (String.ofList (inCapitals (changed (trim s.toList)))) with
      | none => rfl
      | some a => exact absurd (by rw [hfound]; rfl) (h a)
    · have hmessages : (DomainFault.validation (refused s)).message =
          "Validation error: " ++ (refused s).message := rfl
      rw [hmessages, hmessage, String.append_assoc]

namespace TransactionType

variable {t : TransactionType}

theorem ofName?_eq_some : ofName? s = some t ↔ s = t.name := by
  constructor
  · intro h
    unfold ofName? at h
    split at h <;> cases h <;> rfl
  · rintro rfl
    exact ofName?_name t

theorem isName_name (t : TransactionType) : IsName t.name.toList := by
  cases t <;> exact .of_all (by decide +kernel) (by decide +kernel)

theorem underscored_eq_self (h : ¬IsPlain c) : underscored c = c := by
  refine if_neg ?_
  rintro rfl
  exact h (.inl (by decide))

theorem isPlain_of_underscored (h : ∀ c ∈ cs.map underscored, IsPlain c) :
    ∀ c ∈ cs, IsPlain c := by
  intro c hc
  by_contra hforeign
  have hplain := h (underscored c) (List.mem_map_of_mem hc)
  rw [underscored_eq_self hforeign] at hplain
  exact hforeign hplain

/-- No capital has a hyphen in it, so it is the same to replace hyphens before or after. -/
theorem capitals_underscored (c : Char) :
    capitals (underscored c) = (capitals c).map underscored := by
  by_cases hc : IsPlain c
  · exact IsPlain.forall (P := fun c => capitals (underscored c) = (capitals c).map underscored)
      (by decide +kernel) (by decide +kernel) (by decide +kernel) hc
  · rw [underscored_eq_self hc]
    obtain ⟨l, hl, hlong⟩ | ⟨d, hone, hd⟩ := capitals_of_not_plain hc
    · have hkept : ∀ l ∈ longCapitals,
          (l.2.map Char.ofNat).map underscored = l.2.map Char.ofNat := by
        decide +kernel
      rw [hlong, hkept l hl]
    · have hforeign : d ≠ '-' := by
        rintro rfl
        exact absurd hd (by decide)
      rw [hone, List.map_singleton, underscored, if_neg hforeign]

theorem map_underscored (cs : List Char) :
    (inCapitals cs).map underscored = inCapitals (cs.map underscored) := by
  rw [inCapitals, inCapitals, List.map_flatMap, List.flatMap_map]
  exact List.flatMap_congr fun c _ => (capitals_underscored c).symm

end TransactionType

namespace PaymentMethod

variable {m : PaymentMethod}

theorem ofName?_eq_some : ofName? s = some m ↔ s = m.name := by
  constructor
  · intro h
    unfold ofName? at h
    split at h <;> cases h <;> rfl
  · rintro rfl
    exact ofName?_name m

theorem isName_name (m : PaymentMethod) : IsName m.name.toList := by
  cases m <;> exact .of_all (by decide +kernel) (by decide +kernel)

end PaymentMethod

/-- A name is read from the texts that are spelled as it is when they are trimmed, in letters of
either case, with the dotless i for an i and the long s for an s, and in a transaction type with
hyphens for underscores. -/
theorem names_read :
    ReadsNames TransactionType.read
      (fun s => String.ofList (((trim s.toList).map TransactionType.underscored).map letter))
      [("DEPOSIT", .deposit), ("WITHDRAWAL", .withdrawal), ("TRANSFER", .transfer),
        ("CARD_PAYMENT", .cardPayment)]
      "Unknown transaction type: " ∧
    ReadsNames PaymentMethod.read (fun s => String.ofList ((trim s.toList).map letter))
      [("CARD", .card), ("ACH", .ach), ("WALLET", .wallet)]
      "Unknown payment method type: " := by
  constructor
  · refine ReadsNames.of_look_up .unknownTransactionType (·.map TransactionType.underscored)
      (fun s => ?_) (fun _ _ => TransactionType.ofName?_eq_some) TransactionType.isName_name
      (fun s t => ?_) (fun _ => TransactionType.isPlain_of_underscored) (fun _ => rfl)
    · rw [TransactionType.read, TransactionType.map_underscored]
      cases TransactionType.ofName? _ <;> rfl
    · cases t <;> simp [TransactionType.name]
  · refine ReadsNames.of_look_up .unknownPaymentMethod id (fun s => ?_)
      (fun _ _ => PaymentMethod.ofName?_eq_some) PaymentMethod.isName_name (fun s m => ?_)
      (fun _ => id) (fun _ => rfl)
    · rw [PaymentMethod.read, id]
      cases PaymentMethod.ofName? _ <;> rfl
    · cases m <;> simp [PaymentMethod.name]

example : TransactionType.read " card-payment\n" = .ok .cardPayment := by decide +kernel

/-- The capital of the long s is an ASCII letter. -/
theorem name_read_beyond_ascii :
    ¬∀ s t, TransactionType.read s = .ok t ↔
      (String.ofList (((trim s.toList).map TransactionType.underscored).map Char.toUpper), t) ∈
        [("DEPOSIT", .deposit), ("WITHDRAWAL", .withdrawal), ("TRANSFER", .transfer),
          ("CARD_PAYMENT", .cardPayment)] := by
  intro h
  have hread : TransactionType.read "depoſit" = .ok .deposit := by decide +kernel
  have hspelled := (h _ _).mp hread
  revert hspelled
  decide +kernel

end SpendingLimits
