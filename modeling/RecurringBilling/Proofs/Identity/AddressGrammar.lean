import Mathlib.Data.List.TakeWhile
import RecurringBilling.Proofs.Identity.Spelling
import RecurringBilling.Proofs.Text.Split

/-!
# The grammar of addresses

An address is a local part and a domain with an `@` between them.  The local part has atoms and
the domain has labels with dots between them, and the last label is made of letters.  The checks
of an address look at edges, at doubled dots, at lengths and at characters of parts that overlap;
together they admit exactly the texts of the grammar, which has one reading for each of them.
-/

namespace RecurringBilling

open RecurringBilling.Text

/-! ## Lengths in bytes -/

theorem Text.byteLength_append (s t : List Char) :
    byteLength (s ++ t) = byteLength s + byteLength t := by
  induction s with
  | nil => simp [byteLength]
  | cons c s ih => rw [List.cons_append, byteLength_cons, byteLength_cons, ih, Nat.add_assoc]

theorem Text.one_le_byteLength_iff {s : List Char} : 1 ≤ byteLength s ↔ s ≠ [] := by
  cases s with
  | nil => simp [byteLength]
  | cons c s =>
    have hsize := Char.utf8Size_pos c
    rw [byteLength_cons]
    simp
    omega

namespace Email

/-! ## The grammar -/

/-- The marks of an atom. -/
def atomMarks : List Char :=
  ['!', '#', '$', '%', '&', '\'', '*', '+', '-', '/', '=', '?', '^', '_', '`', '\x7b', '|',
    '\x7d', '~']

/-- A letter, a decimal digit or a mark of an atom. -/
def IsAtomChar (c : Char) : Prop := isLetter c = true ∨ isDigit c = true ∨ c ∈ atomMarks

instance (c : Char) : Decidable (IsAtomChar c) :=
  inferInstanceAs (Decidable (_ ∨ _ ∨ _))

/-- A letter, a decimal digit or a hyphen. -/
def IsLabelChar (c : Char) : Prop := isLetter c = true ∨ isDigit c = true ∨ c = '-'

instance (c : Char) : Decidable (IsLabelChar c) :=
  inferInstanceAs (Decidable (_ ∨ _ ∨ _))

/-- A local part: atoms with a dot between each two, in at most 64 bytes. -/
structure IsLocalPart (l : List Char) : Prop where
  bytes : 1 ≤ byteLength l ∧ byteLength l ≤ 64
  atoms : ∃ atoms, joined '.' atoms = l ∧ ∀ atom ∈ atoms, atom ≠ [] ∧ ∀ c ∈ atom, IsAtomChar c

/-- A label before the last one. -/
structure IsLabel (label : List Char) : Prop where
  bytes : 1 ≤ byteLength label ∧ byteLength label ≤ 63
  chars : ∀ c ∈ label, IsLabelChar c
  start : label.head? ≠ some '-'
  finish : label.getLast? ≠ some '-'

/-- The last label. -/
structure IsTopLevel (label : List Char) : Prop where
  bytes : 1 ≤ byteLength label ∧ byteLength label ≤ 63
  length : 2 ≤ label.length
  letters : ∀ c ∈ label, isLetter c = true

/-- A domain: at least two labels with a dot between each two, in at most 255 bytes. -/
structure IsDomain (d : List Char) : Prop where
  bytes : byteLength d ≤ 255
  labels : ∃ labels top, joined '.' (labels ++ [top]) = d ∧ labels ≠ [] ∧
    (∀ label ∈ labels, IsLabel label) ∧ IsTopLevel top

/-- The text is an address with that local part and that domain. -/
structure Reads (t l d : List Char) : Prop where
  text : t = l ++ '@' :: d
  localPart : IsLocalPart l
  domain : IsDomain d

/-! ## Edges and characters -/

theorem hasAtEdge_eq_false_iff {mark : Char} {s : List Char} :
    hasAtEdge mark s = false ↔ s.head? ≠ some mark ∧ s.getLast? ≠ some mark := by
  simp [hasAtEdge]

theorem isLocalChar_iff {c : Char} : isLocalChar c = true ↔ IsAtomChar c ∨ c = '.' := by
  have hmarks : localMarks = atomMarks ++ ['.'] := rfl
  simp [isLocalChar, isLetterOrDigit, IsAtomChar, hmarks, or_assoc]

theorem isLabelChar_iff {c : Char} : isLabelChar c = true ↔ IsLabelChar c := by
  simp [isLabelChar, isLetterOrDigit, IsLabelChar, or_assoc]

theorem not_isAtomChar_dot : ¬IsAtomChar '.' := by decide +kernel

theorem not_isAtomChar_at : ¬IsAtomChar '@' := by decide +kernel

theorem not_isLabelChar_dot : ¬IsLabelChar '.' := by decide +kernel

theorem not_isLabelChar_at : ¬IsLabelChar '@' := by decide +kernel

theorem not_isLetter_hyphen : ¬isLetter '-' = true := by decide +kernel

/-! ## Local parts -/

/-- The edges and runs that are looked at keep every atom from being empty. -/
theorem localFlaw?_eq_none_iff {l : List Char} (hne : l ≠ []) :
    localFlaw? l = none ↔ IsLocalPart l := by
  have hbytes := one_le_byteLength_iff.mpr hne
  simp only [localFlaw?, ite_some_eq_none_iff, and_true, Nat.not_lt, Bool.not_eq_true,
    hasAtEdge_eq_false_iff, Bool.not_eq_false', List.all_eq_true, isLocalChar_iff]
  constructor
  · rintro ⟨hlength, hrun, ⟨hstart, hend⟩, hchars⟩
    have hparts := forall_mem_splitAt_ne_nil_iff.mpr ⟨hne, hstart, hend, hrun⟩
    refine ⟨⟨hbytes, hlength⟩, splitAt '.' l, joined_splitAt '.' l, ?_⟩
    intro atom hatom
    refine ⟨hparts atom hatom, fun c hc => ?_⟩
    have hmem : c ∈ l := by
      rw [← joined_splitAt '.' l, mem_joined_iff]
      exact .inl ⟨atom, hatom, hc⟩
    rcases hchars c hmem with hchar | rfl
    · exact hchar
    · exact absurd hc (not_mem_of_mem_splitAt hatom)
  · rintro ⟨⟨-, hlength⟩, atoms, rfl, hatoms⟩
    have hsome : atoms ≠ [] := by
      rintro rfl
      exact hne rfl
    have hfree : ∀ atom ∈ atoms, '.' ∉ atom :=
      fun atom hatom hdot => not_isAtomChar_dot ((hatoms atom hatom).2 '.' hdot)
    have hparts : ∀ part ∈ splitAt '.' (joined '.' atoms), part ≠ [] := by
      rw [splitAt_joined hsome hfree]
      exact fun atom hatom => (hatoms atom hatom).1
    obtain ⟨-, hstart, hend, hrun⟩ := forall_mem_splitAt_ne_nil_iff.mp hparts
    refine ⟨hlength, hrun, ⟨hstart, hend⟩, fun c hc => ?_⟩
    rcases mem_joined_iff.mp hc with ⟨atom, hatom, hc⟩ | ⟨rfl, -⟩
    · exact .inl ((hatoms atom hatom).2 c hc)
    · exact .inr rfl

theorem IsLocalPart.at_not_mem {l : List Char} (h : IsLocalPart l) : '@' ∉ l := by
  obtain ⟨-, atoms, rfl, hatoms⟩ := h
  exact not_mem_joined (by decide)
    fun atom hatom hat => not_isAtomChar_at ((hatoms atom hatom).2 '@' hat)

/-! ## Domains -/

theorem labelFlaw?_eq_none_iff {label : List Char} (hne : label ≠ []) :
    labelFlaw? label = none ↔ IsLabel label := by
  have hbytes := one_le_byteLength_iff.mpr hne
  simp only [labelFlaw?, ite_some_eq_none_iff, and_true, Nat.not_lt, Bool.not_eq_true,
    hasAtEdge_eq_false_iff, Bool.not_eq_false', List.all_eq_true, isLabelChar_iff]
  constructor
  · rintro ⟨hlength, ⟨hstart, hend⟩, hchars⟩
    exact ⟨⟨hbytes, hlength⟩, hchars, hstart, hend⟩
  · rintro ⟨⟨-, hlength⟩, hchars, hstart, hend⟩
    exact ⟨hlength, ⟨hstart, hend⟩, hchars⟩

theorem topLevelFlaw?_eq_none_iff {label : List Char} (hne : label ≠ []) :
    topLevelFlaw? label = none ↔ IsTopLevel label := by
  have hbytes := one_le_byteLength_iff.mpr hne
  simp only [topLevelFlaw?, ite_some_eq_none_iff, and_true, Nat.not_lt, Bool.not_eq_true,
    Bool.not_eq_false', List.all_eq_true]
  constructor
  · rintro ⟨hlength, htwo, hletters⟩
    exact ⟨⟨hbytes, hlength⟩, htwo, hletters⟩
  · rintro ⟨⟨-, hlength⟩, htwo, hletters⟩
    exact ⟨hlength, htwo, hletters⟩

/-- The first rule that labels break is one that the first label breaks, or else one that the others
break. -/
theorem labelsFlaw?_cons {label : List Char} {rest : List (List Char)} (hrest : rest ≠ []) :
    labelsFlaw? (label :: rest) = (labelFlaw? label).or (labelsFlaw? rest) := by
  rw [labelsFlaw?]
  · cases labelFlaw? label <;> rfl
  · exact hrest

/-- Labels break no rule if the last one is fit to be last and the others are fit to be labels. -/
theorem labelsFlaw?_concat_eq_none_iff {labels : List (List Char)} {top : List Char} :
    labelsFlaw? (labels ++ [top]) = none ↔
      (∀ label ∈ labels, labelFlaw? label = none) ∧ topLevelFlaw? top = none := by
  induction labels with
  | nil => simp [labelsFlaw?]
  | cons label rest ih =>
    have hne : rest ++ [top] ≠ [] :=
      List.append_ne_nil_of_right_ne_nil rest (List.cons_ne_nil top [])
    rw [List.cons_append, labelsFlaw?_cons hne, Option.or_eq_none_iff, ih, List.forall_mem_cons,
      and_assoc]

section Labels

variable {labels : List (List Char)} {top : List Char}

/-- Letters are label characters, so all labels of a domain are made of these. -/
theorem isLabelChar_of_mem_labels (hlabels : ∀ label ∈ labels, IsLabel label)
    (htop : IsTopLevel top) : ∀ label ∈ labels ++ [top], ∀ c ∈ label, IsLabelChar c := by
  rw [List.forall_mem_append, List.forall_mem_singleton]
  exact ⟨fun label hlabel => (hlabels label hlabel).chars, fun c hc => .inl (htop.letters c hc)⟩

theorem ne_nil_of_mem_labels (hlabels : ∀ label ∈ labels, IsLabel label) (htop : IsTopLevel top) :
    ∀ label ∈ labels ++ [top], label ≠ [] := by
  rw [List.forall_mem_append, List.forall_mem_singleton]
  exact ⟨fun label hlabel => one_le_byteLength_iff.mp (hlabels label hlabel).bytes.1,
    one_le_byteLength_iff.mp htop.bytes.1⟩

/-- The labels of a domain are what stands between its dots. -/
theorem splitAt_of_labels (hlabels : ∀ label ∈ labels, IsLabel label) (htop : IsTopLevel top) :
    splitAt '.' (joined '.' (labels ++ [top])) = labels ++ [top] := by
  refine splitAt_joined (by simp) fun label hlabel hdot => ?_
  exact not_isLabelChar_dot (isLabelChar_of_mem_labels hlabels htop label hlabel '.' hdot)

end Labels

/-- The edges and runs that are looked at keep every label from being empty, and what else is asked
of the edges follows from the labels. -/
theorem domainFlaw?_eq_none_iff {d : List Char} : domainFlaw? d = none ↔ IsDomain d := by
  simp only [domainFlaw?, ite_some_eq_none_iff, Nat.not_lt, Bool.not_eq_true,
    hasAtEdge_eq_false_iff, Bool.not_eq_false', List.contains_iff_mem]
  constructor
  · rintro ⟨hlength, ⟨hstart, hend⟩, -, hdot, hrun, hlabels⟩
    have hne := List.ne_nil_of_mem hdot
    have hparts := forall_mem_splitAt_ne_nil_iff.mpr ⟨hne, hstart, hend, hrun⟩
    have htwo := mem_iff_two_le_length_splitAt.mp hdot
    have hjoined := joined_splitAt '.' d
    rw [← List.dropLast_concat_getLast (splitAt_ne_nil '.' d)] at hparts hlabels htwo hjoined
    obtain ⟨hfirst, hlast⟩ := labelsFlaw?_concat_eq_none_iff.mp hlabels
    refine ⟨hlength, _, _, hjoined, ?_, ?_, ?_⟩
    · rintro hnil
      rw [hnil] at htwo
      simp at htwo
    · intro label hlabel
      have hlabelNe := hparts label (List.mem_append_left _ hlabel)
      exact (labelFlaw?_eq_none_iff hlabelNe).mp (hfirst label hlabel)
    · have htopNe := hparts _ (List.mem_append_right _ (List.mem_singleton.mpr rfl))
      exact (topLevelFlaw?_eq_none_iff htopNe).mp hlast
  · rintro ⟨hlength, labels, top, rfl, hne, hlabels, htop⟩
    have hsplit := splitAt_of_labels hlabels htop
    have hlabelsNe := ne_nil_of_mem_labels hlabels htop
    obtain ⟨hlabelNe, htopNe⟩ := List.forall_mem_append.mp hlabelsNe
    rw [List.forall_mem_singleton] at htopNe
    rw [← hsplit] at hlabelsNe
    obtain ⟨-, hstart, hend, hrun⟩ := forall_mem_splitAt_ne_nil_iff.mp hlabelsNe
    have hpositive := List.length_pos_iff.mpr hne
    refine ⟨hlength, ⟨hstart, hend⟩, ⟨?_, ?_⟩, ?_, hrun, ?_⟩
    · -- the domain starts like its first label
      obtain ⟨first, rest, rfl⟩ := List.exists_cons_of_ne_nil hne
      rw [List.cons_append, head?_joined_cons (hlabelNe first List.mem_cons_self)]
      exact (hlabels first List.mem_cons_self).start
    · -- and ends like its last one, in a letter
      rw [getLast?_joined_concat htopNe]
      exact fun hhyphen => not_isLetter_hyphen (htop.letters '-' (List.mem_of_getLast? hhyphen))
    · rw [mem_iff_two_le_length_splitAt, hsplit, List.length_append, List.length_singleton]
      omega
    · rw [hsplit, labelsFlaw?_concat_eq_none_iff]
      refine ⟨fun label hlabel => ?_, (topLevelFlaw?_eq_none_iff htopNe).mpr htop⟩
      exact (labelFlaw?_eq_none_iff (hlabelNe label hlabel)).mpr (hlabels label hlabel)

theorem IsDomain.ne_nil {d : List Char} (h : IsDomain d) : d ≠ [] := by
  obtain ⟨-, labels, top, rfl, -, -, htop⟩ := h
  obtain ⟨c, hc⟩ := List.exists_mem_of_ne_nil top (one_le_byteLength_iff.mp htop.bytes.1)
  have hmem := List.mem_append_right labels (List.mem_singleton.mpr rfl : top ∈ [top])
  exact List.ne_nil_of_mem (mem_joined_iff.mpr (.inl ⟨top, hmem, hc⟩))

theorem IsDomain.at_not_mem {d : List Char} (h : IsDomain d) : '@' ∉ d := by
  obtain ⟨-, labels, top, rfl, -, hlabels, htop⟩ := h
  refine not_mem_joined (by decide) fun label hlabel hat => ?_
  exact not_isLabelChar_at (isLabelChar_of_mem_labels hlabels htop label hlabel '@' hat)

/-! ## Addresses -/

section At

variable {t l d : List Char}

theorem all_ne_at (h : '@' ∉ l) : ∀ c ∈ l, decide (c ≠ '@') = true :=
  fun _ hc => decide_eq_true fun heq => h (heq ▸ hc)

theorem localPart_append_at (h : '@' ∉ l) : localPart (l ++ '@' :: d) = l := by
  rw [localPart, List.takeWhile_append_of_pos (all_ne_at h),
    List.takeWhile_cons_of_neg (by decide), List.append_nil]

theorem afterAt_append_at (h : '@' ∉ l) : afterAt (l ++ '@' :: d) = d := by
  rw [afterAt, List.dropWhile_append_of_pos (all_ne_at h),
    List.dropWhile_cons_of_neg (by decide), List.drop_one, List.tail_cons]

theorem at_not_mem_localPart (t : List Char) : '@' ∉ localPart t := by
  intro hat
  simpa using List.mem_takeWhile_imp hat

/-- A text with an `@` is what stands before and after its first one. -/
theorem localPart_append_of_mem (h : '@' ∈ t) : localPart t ++ '@' :: afterAt t = t := by
  cases hdrop : t.dropWhile (· ≠ '@') with
  | nil =>
    have hall := List.dropWhile_eq_nil_iff.mp hdrop '@' h
    simp at hall
  | cons c rest =>
    have hat := List.head?_dropWhile_not (· ≠ '@') t
    rw [hdrop] at hat
    obtain rfl : c = '@' := by simpa using hat
    have hafter : '@' :: afterAt t = t.dropWhile (· ≠ '@') := by rw [afterAt, hdrop]; rfl
    rw [hafter, localPart, List.takeWhile_append_dropWhile]

theorem afterAt_of_not_mem (h : '@' ∉ t) : afterAt t = [] := by
  rw [afterAt, List.dropWhile_eq_nil_iff.mpr (all_ne_at h), List.drop_nil]

/-- Where something stands after an `@` there is one. -/
theorem localPart_append_afterAt (h : afterAt t ≠ []) : localPart t ++ '@' :: afterAt t = t :=
  localPart_append_of_mem (Classical.not_not.mp fun hnone => h (afterAt_of_not_mem hnone))

end At

namespace Reads

variable {t l d : List Char}

theorem localPart_eq (h : Reads t l d) : Email.localPart t = l := by
  rw [h.text]
  exact localPart_append_at h.localPart.at_not_mem

theorem afterAt_eq (h : Reads t l d) : afterAt t = d := by
  rw [h.text]
  exact afterAt_append_at h.localPart.at_not_mem

/-- The two parts are short enough for the address not to be too long. -/
theorem byteLength_le (h : Reads t l d) : byteLength t ≤ 320 := by
  have hat : Char.utf8Size '@' = 1 := by decide
  have hlocal := h.localPart.bytes.2
  have hdomain := h.domain.bytes
  rw [h.text, byteLength_append, byteLength_cons, hat]
  omega

end Reads

/-- The rules of an address, one after the other. -/
theorem flaw?_eq_none_iff_rules {t : List Char} :
    flaw? t = none ↔
      t ≠ [] ∧ byteLength t ≤ 320 ∧ (localPart t ≠ [] ∧ afterAt t ≠ []) ∧ '@' ∉ afterAt t ∧
        localFlaw? (localPart t) = none ∧ domainFlaw? (afterAt t) = none := by
  simp only [flaw?, ite_some_eq_none_iff, Nat.not_lt, Bool.or_eq_true, List.isEmpty_iff, not_or,
    List.contains_iff_mem, ne_eq]
  cases localFlaw? (localPart t) <;> simp

/-- A trimmed text breaks no rule exactly if it can be read as an address. -/
theorem flaw?_eq_none_iff {t : List Char} : flaw? t = none ↔ ∃ l d, Reads t l d := by
  rw [flaw?_eq_none_iff_rules]
  constructor
  · rintro ⟨-, -, ⟨hlocalNe, hafterNe⟩, -, hlocal, hdomain⟩
    exact ⟨localPart t, afterAt t, (localPart_append_afterAt hafterNe).symm,
      (localFlaw?_eq_none_iff hlocalNe).mp hlocal, domainFlaw?_eq_none_iff.mp hdomain⟩
  · rintro ⟨l, d, h⟩
    have hlocalNe := one_le_byteLength_iff.mp h.localPart.bytes.1
    have htextNe : t ≠ [] := by
      rw [h.text]
      exact List.append_ne_nil_of_left_ne_nil hlocalNe _
    rw [h.localPart_eq, h.afterAt_eq]
    exact ⟨htextNe, h.byteLength_le, ⟨hlocalNe, h.domain.ne_nil⟩, h.domain.at_not_mem,
      (localFlaw?_eq_none_iff hlocalNe).mpr h.localPart, domainFlaw?_eq_none_iff.mpr h.domain⟩

/-- The domain of an address is what its text has after the `@`. -/
theorem domain_of_reads {e : Email} {l d : List Char} (h : Reads e.text.toList l d) :
    e.domain.toList = d := by
  have hreverse : ∀ c ∈ d.reverse, decide (c ≠ '@') = true :=
    all_ne_at fun hat => h.domain.at_not_mem (List.mem_reverse.mp hat)
  rw [domain, String.toList_ofList, h.text, List.reverse_append, List.reverse_cons,
    List.append_assoc, List.takeWhile_append_of_pos hreverse, List.singleton_append,
    List.takeWhile_cons_of_neg (by decide), List.append_nil, List.reverse_reverse]

/-- Exactly the texts of the grammar are read as addresses, whatever blanks stand around them.  Such
a text has one reading, it is short enough without more being asked, and it is kept as it is. -/
theorem addresses_follow_grammar (raw : String) :
    ((∃ e, ofText raw = .ok e) ↔ ∃ l d, Reads (trim raw.toList) l d) ∧
      ∀ l d, Reads (trim raw.toList) l d →
        byteLength (trim raw.toList) ≤ 320 ∧
          (∀ l' d', Reads (trim raw.toList) l' d' → l' = l ∧ d' = d) ∧
            ∃ e, ofText raw = .ok e ∧ e.text.toList = trim raw.toList ∧ e.domain.toList = d := by
  refine ⟨reader.exists_ofText_iff.trans flaw?_eq_none_iff, ?_⟩
  intro l d h
  refine ⟨h.byteLength_le, ?_, ?_⟩
  · intro l' d' h'
    exact ⟨h'.localPart_eq.symm.trans h.localPart_eq, h'.afterAt_eq.symm.trans h.afterAt_eq⟩
  · obtain ⟨e, he, htext⟩ := ofText_of_flaw?_eq_none (flaw?_eq_none_iff.mpr ⟨l, d, h⟩)
    rw [← htext] at h
    exact ⟨e, he, htext, domain_of_reads h⟩

/-- An address with two atoms, with a plus sign in the second one, and with three labels, of which
the second has a hyphen inside. -/
theorem plus_address_is_read :
    Reads (trim " j.doe+news@mail.my-shop.com ".toList) "j.doe+news".toList
        "mail.my-shop.com".toList ∧
      ∃ e, ofText " j.doe+news@mail.my-shop.com " = .ok e ∧
        e.text.toList = trim " j.doe+news@mail.my-shop.com ".toList ∧
          e.domain.toList = "mail.my-shop.com".toList := by
  have hlocal : IsLocalPart "j.doe+news".toList :=
    (localFlaw?_eq_none_iff (by decide +kernel)).mp (by decide +kernel)
  have hdomain : IsDomain "mail.my-shop.com".toList :=
    domainFlaw?_eq_none_iff.mp (by decide +kernel)
  have hreads : Reads (trim " j.doe+news@mail.my-shop.com ".toList) "j.doe+news".toList
      "mail.my-shop.com".toList := ⟨by decide +kernel, hlocal, hdomain⟩
  exact ⟨hreads, ((addresses_follow_grammar " j.doe+news@mail.my-shop.com ").2 _ _ hreads).2.2⟩

end Email

end RecurringBilling
