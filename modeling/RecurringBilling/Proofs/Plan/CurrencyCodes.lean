import RecurringBilling.Proofs.Plan.Terms

/-!
# How currency codes are answered

A text names a currency exactly if it is the code of a row of the table, and then the row is the
only one with that code.  Other texts are told apart by whether they are empty, have the length of
a code, or neither.  The length is counted in bytes: counted in characters, the reasons are right
exactly for the texts on which both counts agree.
-/

namespace RecurringBilling

open RecurringBilling.Text

namespace Currency

/-! ## The reader of codes -/

/-- The rule that a trimmed text breaks. -/
def flaw? (s : List Char) : Option Flaw :=
  if s.isEmpty then some .missing
  else if byteLength s ≠ 3 then some .wrongLength
  else if (ofCode? (String.ofList s)).isNone then some (.unknown (String.ofList s))
  else none

theorem flaw?_eq_none_iff {s : List Char} :
    flaw? s = none ↔ s ≠ [] ∧ byteLength s = 3 ∧ ∃ c, ofCode? (String.ofList s) = some c := by
  rw [flaw?, ite_some_eq_none_iff, ite_some_eq_none_iff, ite_some_eq_none_iff]
  simp [Option.isSome_iff_exists, ← Option.isSome_iff_ne_none]

theorem flaw?_code (c : Currency) : flaw? c.code.toList = none := by
  have hlength : byteLength c.code.toList = 3 := (code_of_listed c.info c.listed).1
  refine flaw?_eq_none_iff.mpr ⟨fun hempty => ?_, hlength, c, ?_⟩
  · rw [hempty] at hlength
    cases hlength
  · rw [String.ofList_toList, ofCode?_code]

/-- A text that breaks a rule is refused for it. -/
theorem ofText_of_flaw? {raw : String} {flaw : Flaw} (h : flaw? (trim raw.toList) = some flaw) :
    ofText raw = .error flaw := by
  rw [flaw?] at h
  unfold ofText
  dsimp only
  by_cases hempty : (trim raw.toList).isEmpty = true
  · rw [if_pos hempty] at h ⊢
    cases h
    rfl
  · rw [if_neg hempty] at h ⊢
    by_cases hlength : byteLength (trim raw.toList) ≠ 3
    · rw [if_pos hlength] at h ⊢
      cases h
      rfl
    · rw [if_neg hlength] at h ⊢
      cases hcode : ofCode? (String.ofList (trim raw.toList)) with
      | some c =>
        rw [hcode] at h
        cases h
      | none =>
        rw [hcode] at h
        cases h
        rfl

/-- The reader of currency codes. -/
def reader : Reader Flaw Currency where
  flaw? := flaw?
  text := code
  ofText := ofText
  text_inj := eq_of_code
  accepted := fun c => ⟨(code_of_listed c.info c.listed).2, flaw?_code c⟩
  refuses := ofText_of_flaw?
  reads := by
    intro raw h
    obtain ⟨-, -, c, hc⟩ := flaw?_eq_none_iff.mp h
    exact ⟨c, ofText_eq_ok_iff.mpr (code_of_ofCode? hc), code_of_ofCode? hc⟩

/-! ## The table by code -/

/-- The rows under their codes, entered one after the other. -/
def rowsByCode : Std.HashMap String CurrencyInfo :=
  Std.HashMap.ofList (currencyTable.map fun row => (row.code, row))

/-- No row takes the place of another one. -/
theorem getElem?_rowsByCode_of_mem {row : CurrencyInfo} (h : row ∈ currencyTable) :
    rowsByCode[row.code]? = some row := by
  refine Std.HashMap.getElem?_ofList_of_mem (beq_self_eq_true row.code) ?_
    (List.mem_map_of_mem (f := fun r : CurrencyInfo => (r.code, r)) h)
  rw [List.pairwise_map]
  exact (List.pairwise_map.mp nodup_codes).imp fun hne => beq_eq_false_iff_ne.mpr hne

/-- Under a code stands the row with that code, and nothing else. -/
theorem getElem?_rowsByCode {code : String} {row : CurrencyInfo} :
    rowsByCode[code]? = some row ↔ row ∈ currencyTable ∧ row.code = code := by
  constructor
  · intro h
    by_cases hlisted : ∃ r ∈ currencyTable, r.code = code
    · obtain ⟨r, hr, rfl⟩ := hlisted
      rw [getElem?_rowsByCode_of_mem hr] at h
      cases h
      exact ⟨hr, rfl⟩
    · have hmissing : rowsByCode[code]? = none :=
        Std.HashMap.getElem?_ofList_of_contains_eq_false (by simpa using hlisted)
      rw [hmissing] at h
      cases h
  · rintro ⟨hr, rfl⟩
    exact getElem?_rowsByCode_of_mem hr

/-! ## Answers -/

theorem exists_ofText_iff {raw : String} :
    (∃ c, ofText raw = .ok c) ↔ ∃ row ∈ currencyTable, row.code = trimmed raw := by
  constructor
  · rintro ⟨c, hc⟩
    exact ⟨c.info, c.listed, ofText_eq_ok_iff.mp hc⟩
  · rintro ⟨row, hrow, hcode⟩
    exact ⟨⟨row, hrow⟩, ofText_eq_ok_iff.mpr hcode⟩

theorem ofCode?_isNone_iff {code : String} :
    (ofCode? code).isNone = true ↔ ∀ row ∈ currencyTable, row.code ≠ code := by
  rw [Option.isNone_iff_eq_none, Option.eq_none_iff_forall_ne_some]
  constructor
  · intro h row hrow hcode
    exact h ⟨row, hrow⟩ (ofCode?_eq_some_iff.mpr hcode)
  · intro h c hc
    exact h c.info c.listed (code_of_ofCode? hc)

/-- What keeps a text from being the code of a currency. -/
def Breaks (s : List Char) : Flaw → Prop
  | .missing => s = []
  | .wrongLength => byteLength s ≠ 3
  | .unknown code => ∀ row ∈ currencyTable, row.code ≠ code

theorem firstBroken_flaw? (s : List Char) :
    FirstBroken (Breaks s) [.missing, .wrongLength, .unknown (String.ofList s)] (flaw? s) :=
  .ite List.isEmpty_iff (.ite Iff.rfl (.ite ofCode?_isNone_iff .none))

/-- A text without a currency is refused for the first of the three rules that it breaks. -/
theorem ofText_eq_error_iff {raw : String} {flaw : Flaw} :
    ofText raw = .error flaw ↔
      flaw ∈ [.missing, .wrongLength, .unknown (trimmed raw)] ∧ Breaks (trim raw.toList) flaw ∧
        ∀ earlier ∈ [.missing, .wrongLength, .unknown (trimmed raw)].takeWhile (· ≠ flaw),
          ¬Breaks (trim raw.toList) earlier :=
  reader.ofText_eq_error_iff.trans (firstBroken_flaw? (trim raw.toList)).eq_some_iff

/-- A text is answered for the stated reasons, where the length of a text is what `count` says. -/
structure AnswersBy (count : List Char → Nat) (raw : String) : Prop where
  accepted : (∃ c, ofText raw = .ok c) ↔ ∃ row ∈ currencyTable, row.code = trimmed raw
  row : ∀ c, ofText raw = .ok c → rowsByCode[trimmed raw]? = some c.info ∧
    ∀ row ∈ currencyTable, row.code = trimmed raw → row = c.info
  missing : ofText raw = .error .missing ↔ trim raw.toList = []
  wrongLength : ofText raw = .error .wrongLength ↔
    trim raw.toList ≠ [] ∧ count (trim raw.toList) ≠ 3
  unknown : ∀ code, ofText raw = .error (.unknown code) ↔
    code = trimmed raw ∧ count (trim raw.toList) = 3 ∧
      ∀ row ∈ currencyTable, row.code ≠ trimmed raw

/-- Counted in bytes, the reasons are right for every text. -/
theorem answersBy_byteLength (raw : String) : AnswersBy byteLength raw where
  accepted := exists_ofText_iff
  row := by
    intro c hc
    have hcode : c.info.code = trimmed raw := ofText_eq_ok_iff.mp hc
    refine ⟨getElem?_rowsByCode.mpr ⟨c.listed, hcode⟩, fun row hrow hsame => ?_⟩
    exact List.inj_on_of_nodup_map nodup_codes hrow c.listed (hsame.trans hcode.symm)
  missing := by simp [ofText_eq_error_iff, Breaks]
  wrongLength := by simp [ofText_eq_error_iff, Breaks, and_comm]
  unknown := by
    intro code
    rw [ofText_eq_error_iff]
    constructor
    · rintro ⟨hcode, hunlisted, hearlier⟩
      obtain rfl : code = trimmed raw := by simpa using hcode
      have hlength := hearlier .wrongLength (by simp)
      exact ⟨rfl, not_not.mp hlength, hunlisted⟩
    · rintro ⟨rfl, hlength, hunlisted⟩
      have hne : trim raw.toList ≠ [] := by
        rintro hempty
        rw [hempty] at hlength
        cases hlength
      refine ⟨by simp, hunlisted, ?_⟩
      simp [Breaks, hne, hlength]

/-- Every text is answered for the stated reasons where its length is counted in bytes.  Counted in
characters, the reasons are right exactly for the texts that have three characters if and only if
they have three bytes. -/
theorem codes_answered_iff_counts_agree (raw : String) :
    AnswersBy byteLength raw ∧
      (AnswersBy List.length raw ↔
        (byteLength (trim raw.toList) = 3 ↔ (trim raw.toList).length = 3)) := by
  have hbytes := answersBy_byteLength raw
  refine ⟨hbytes, fun hcharacters => ?_, fun hagree => ?_⟩
  · by_cases hempty : trim raw.toList = []
    · simp [hempty, byteLength]
    · -- both counts decide alike whether the length is wrong
      have hwrong := hbytes.wrongLength.symm.trans hcharacters.wrongLength
      simpa [hempty, not_iff_not] using hwrong
  · exact
      { accepted := hbytes.accepted
        row := hbytes.row
        missing := hbytes.missing
        wrongLength := hbytes.wrongLength.trans (and_congr_right fun _ => not_congr hagree)
        unknown := fun code => by rw [hbytes.unknown code, hagree] }

/-- The sign for the euro is one character of three bytes, and it is refused as an unknown code;
three letters of two bytes each are refused for their length. -/
theorem signs_are_miscounted :
    ofText "€" = .error (.unknown "€") ∧ ¬AnswersBy List.length "€" ∧
      ofText "äöü" = .error .wrongLength ∧ ¬AnswersBy List.length "äöü" := by
  refine ⟨by decide +kernel, fun h => ?_, by decide +kernel, fun h => ?_⟩
  · have hlength : (trim "€".toList).length = 3 := ((h.unknown "€").mp (by decide +kernel)).2.1
    exact absurd hlength (by decide)
  · exact (h.wrongLength.mp (by decide +kernel)).2 (by decide)

end Currency

end RecurringBilling
