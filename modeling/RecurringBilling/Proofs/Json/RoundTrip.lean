import RecurringBilling.Json.Reader
import RecurringBilling.Proofs.Json.Scalar
import RecurringBilling.Proofs.Text.Utf8

/-!
# Written values are read back

A value is plain where its integers have 64 bits at most and it holds neither other numbers
nor anything flawed.  Its text is split into the tokens of the value, and the reading
machine, wherever a value is due, completes the value with the last of these tokens.  So a
plain value is read back from its text, and from the bytes of its text.
-/

namespace RecurringBilling.Json

open RecurringBilling.Text

/-! ## Plain values -/

mutual

/-- The value is made up of integers of 64 bits, texts and words. -/
def isPlain : Json → Bool
  | .integer z => minInteger ≤ z && z ≤ maxInteger
  | .decimal _ => false
  | .flawed _ => false
  | .list items => arePlain items
  | .object members => haveOnlyPlain members
  | _ => true

/-- Every item is plain. -/
def arePlain : List Json → Bool
  | [] => true
  | v :: rest => isPlain v && arePlain rest

/-- The value of every member is plain. -/
def haveOnlyPlain : List (String × Json) → Bool
  | [] => true
  | (_, v) :: rest => isPlain v && haveOnlyPlain rest

end

namespace Token

mutual

/-- The tokens of a value. -/
def ofValue : Json → List Token
  | .text s => [.literal (.ok s)]
  | .list items => .openBracket :: ofItems items ++ [.closeBracket]
  | .object members => .openBrace :: ofMembers members ++ [.closeBrace]
  | v => [.scalar v]

/-- The tokens of items, with commas between them. -/
def ofItems : List Json → List Token
  | [] => []
  | [v] => ofValue v
  | v :: w :: rest => ofValue v ++ .comma :: ofItems (w :: rest)

/-- The tokens of members, with commas between them. -/
def ofMembers : List (String × Json) → List Token
  | [] => []
  | [(name, v)] => .literal (.ok name) :: .colon :: ofValue v
  | (name, v) :: m :: rest =>
    .literal (.ok name) :: .colon :: ofValue v ++ .comma :: ofMembers (m :: rest)

end

/-! ## The tokens of a text -/

theorem splitFrom?_mark {c : Char} {t : Token} (h : step? .nothing (some c) = some ([t], .nothing))
    (rest : List (Option Char)) :
    splitFrom? .nothing (some c :: rest) = (splitFrom? .nothing rest).map (t :: ·) := by
  rw [splitFrom?_cons h]
  rfl

mutual

/-- The text of a plain value is split into its tokens. -/
theorem splitFrom?_write : ∀ {v : Json}, v.isPlain = true → ∀ {rest}, Delimited rest →
    splitFrom? .nothing (v.write.map some ++ rest)
      = (splitFrom? .nothing rest).map (ofValue v ++ ·)
  | .null, _, _, hrest => words.splitFrom?_scalar rfl (List.all_eq_true.mp rfl) rfl hrest
  | .bool true, _, _, hrest => words.splitFrom?_scalar rfl (List.all_eq_true.mp rfl) rfl hrest
  | .bool false, _, _, hrest => words.splitFrom?_scalar rfl (List.all_eq_true.mp rfl) rfl hrest
  | .integer z, hv, _, hrest => by
    simp only [isPlain, Bool.and_eq_true, decide_eq_true_eq] at hv
    exact splitFrom?_writeInt hv.1 hv.2 hrest
  | .text s, _, rest, _ => splitFrom?_writeText s rest
  | .list items, hv, rest, _ => by
    rw [isPlain] at hv
    have hitems := splitFrom?_writeItems hv
      (delimited_cons (c := ']') (by decide) (by decide) rest)
    have hopen : step? .nothing (some '[') = some ([.openBracket], .nothing) := rfl
    have hclose : step? .nothing (some ']') = some ([.closeBracket], .nothing) := rfl
    simp only [write, ofValue, List.cons_append, List.map_cons, List.map_append, List.append_assoc,
      List.map_nil, List.nil_append] at hitems ⊢
    rw [splitFrom?_mark hopen, hitems, splitFrom?_mark hclose, Option.map_map, Option.map_map]
    rfl
  | .object members, hv, rest, _ => by
    rw [isPlain] at hv
    have hmembers := splitFrom?_writeMembers hv
      (delimited_cons (c := '\x7d') (by decide) (by decide) rest)
    have hopen : step? .nothing (some '\x7b') = some ([.openBrace], .nothing) := rfl
    have hclose : step? .nothing (some '\x7d') = some ([.closeBrace], .nothing) := rfl
    simp only [write, ofValue, List.cons_append, List.map_cons, List.map_append, List.append_assoc,
      List.map_nil, List.nil_append] at hmembers ⊢
    rw [splitFrom?_mark hopen, hmembers, splitFrom?_mark hclose, Option.map_map, Option.map_map]
    rfl

/-- The text of items is split into theirs. -/
theorem splitFrom?_writeItems : ∀ {items : List Json}, arePlain items = true → ∀ {rest},
    Delimited rest → splitFrom? .nothing ((writeItems items).map some ++ rest)
      = (splitFrom? .nothing rest).map (ofItems items ++ ·)
  | [], _, _, _ => by simp [writeItems, ofItems]
  | [v], hitems, _, hrest => by
    simp only [arePlain, Bool.and_true] at hitems
    exact splitFrom?_write hitems hrest
  | v :: w :: items, hitems, rest, hrest => by
    rw [arePlain, Bool.and_eq_true] at hitems
    have hcomma : step? .nothing (some ',') = some ([.comma], .nothing) := rfl
    simp only [writeItems, ofItems, List.map_append, List.map_cons, List.append_assoc,
      List.cons_append]
    rw [splitFrom?_write hitems.1 (delimited_cons (by decide) (by decide) _),
      splitFrom?_mark hcomma, splitFrom?_writeItems hitems.2 hrest, Option.map_map, Option.map_map]
    simp [Function.comp_def]

/-- The text of members is split into theirs. -/
theorem splitFrom?_writeMembers : ∀ {members : List (String × Json)}, haveOnlyPlain members = true →
    ∀ {rest}, Delimited rest → splitFrom? .nothing ((writeMembers members).map some ++ rest)
      = (splitFrom? .nothing rest).map (ofMembers members ++ ·)
  | [], _, _, _ => by simp [writeMembers, ofMembers]
  | [(name, v)], hmembers, rest, hrest => by
    simp only [haveOnlyPlain, Bool.and_true] at hmembers
    have hcolon : step? .nothing (some ':') = some ([.colon], .nothing) := rfl
    simp only [writeMembers, ofMembers, List.map_append, List.map_cons, List.append_assoc,
      List.cons_append]
    rw [splitFrom?_writeText, splitFrom?_mark hcolon, splitFrom?_write hmembers hrest,
      Option.map_map, Option.map_map]
    simp [Function.comp_def]
  | (name, v) :: m :: members, hmembers, rest, hrest => by
    rw [haveOnlyPlain, Bool.and_eq_true] at hmembers
    have hcolon : step? .nothing (some ':') = some ([.colon], .nothing) := rfl
    have hcomma : step? .nothing (some ',') = some ([.comma], .nothing) := rfl
    simp only [writeMembers, ofMembers, List.map_append, List.map_cons, List.append_assoc,
      List.cons_append]
    rw [splitFrom?_writeText, splitFrom?_mark hcolon,
      splitFrom?_write hmembers.1 (delimited_cons (by decide) (by decide) _),
      splitFrom?_mark hcomma, splitFrom?_writeMembers hmembers.2 hrest, Option.map_map,
      Option.map_map, Option.map_map, Option.map_map]
    simp [Function.comp_def]

end

end Token

/-! ## The machine -/

namespace Machine

theorem run?_cons {m m' : Machine} {t : Token} (h : m.step? t = some m') (rest : List Token) :
    m.run? (t :: rest) = m'.run? rest := by
  rw [run?, h]

/-- After an opening bracket a value is due, unless the list is closed at once. -/
theorem run?_firstItem (v : Json) (items : List Json) (stack : List Frame) (rest : List Token) :
    run? ⟨stack, .firstItem⟩ (Token.ofItems (v :: items) ++ rest)
      = run? ⟨stack, .value⟩ (Token.ofItems (v :: items) ++ rest) := by
  cases items <;> cases v <;> rfl

/-- After an opening brace a name is due, unless the object is closed at once. -/
theorem run?_firstName (m : String × Json) (members : List (String × Json)) (stack : List Frame)
    (rest : List Token) :
    run? ⟨stack, .firstName⟩ (Token.ofMembers (m :: members) ++ rest)
      = run? ⟨stack, .name⟩ (Token.ofMembers (m :: members) ++ rest) := by
  cases members <;> rfl

/-- Members of an object as the machine holds them. -/
def openMembers (members : List (String × Json)) : OpenMembers :=
  (members.map fun (name, v) => (some name, v)).reverse

theorem openMembers_append (members : List (String × Json)) (name : String) (v : Json) :
    openMembers (members ++ [(name, v)]) = (some name, v) :: openMembers members := by
  simp [openMembers]

theorem closeObject_openMembers (members : List (String × Json)) :
    closeObject (openMembers members) = .object members := by
  have hnamed : (openMembers members).reverse.mapM (fun m => m.1.map (·, m.2))
      = some members := by
    rw [openMembers, List.reverse_reverse]
    induction members with
    | nil => rfl
    | cons m members ih => simp [List.mapM_cons, ih]
  unfold closeObject
  split
  · next named h =>
    cases hnamed.symm.trans h
    rfl
  · next h => cases hnamed.symm.trans h

/-- A name and a colon open the field of that name. -/
theorem run?_field (name : String) (members : List (String × Json)) (stack : List Frame)
    (rest : List Token) :
    run? ⟨.object (openMembers members) :: stack, .name⟩ (.literal (.ok name) :: .colon :: rest)
      = run? ⟨.field (openMembers members) (some name) :: stack, .value⟩ rest :=
  rfl

mutual

/-- Where a value is due, its tokens complete it. -/
theorem run?_ofValue : ∀ (v : Json) (stack : List Frame) (rest : List Token),
    run? ⟨stack, .value⟩ (Token.ofValue v ++ rest) = run? ⟨stack, .complete v⟩ rest
  | .null, _, _ => rfl
  | .bool _, _, _ => rfl
  | .integer _, _, _ => rfl
  | .decimal _, _, _ => rfl
  | .flawed _, _, _ => rfl
  | .text _, _, _ => rfl
  | .list [], _, _ => rfl
  | .list (v :: items), stack, rest => by
    have hopen : step? ⟨stack, .value⟩ .openBracket = some ⟨.list [] :: stack, .firstItem⟩ := rfl
    have hitems := run?_ofItems (v :: items) (List.cons_ne_nil v items) [] stack rest
    simp only [Token.ofValue, List.cons_append, List.append_assoc, List.nil_append]
    rw [run?_cons hopen]
    exact (run?_firstItem v items _ _).trans hitems
  | .object [], _, _ => rfl
  | .object (m :: members), stack, rest => by
    have hopen : step? ⟨stack, .value⟩ .openBrace = some ⟨.object [] :: stack, .firstName⟩ := rfl
    have hmembers := run?_ofMembers (m :: members) (List.cons_ne_nil m members) [] stack rest
    simp only [Token.ofValue, List.cons_append, List.append_assoc, List.nil_append]
    rw [run?_cons hopen]
    exact (run?_firstName m members _ _).trans hmembers

/-- Where an item is due, the tokens of items complete the list with them. -/
theorem run?_ofItems : ∀ items : List Json, items ≠ [] →
    ∀ (done : List Json) (stack : List Frame) (rest : List Token),
      run? ⟨.list done.reverse :: stack, .value⟩ (Token.ofItems items ++ .closeBracket :: rest)
        = run? ⟨stack, .complete (.list (done ++ items))⟩ rest
  | [], hne, _, _, _ => absurd rfl hne
  | [v], _, done, stack, rest => by
    have hclose : step? ⟨.list done.reverse :: stack, .complete v⟩ .closeBracket
        = some ⟨stack, .complete (.list (done ++ [v]))⟩ := by
      simp [step?, afterValue?]
    rw [Token.ofItems, run?_ofValue, run?_cons hclose]
  | v :: w :: items, _, done, stack, rest => by
    have hcomma : step? ⟨.list done.reverse :: stack, .complete v⟩ .comma
        = some ⟨.list (done ++ [v]).reverse :: stack, .value⟩ := by
      simp [step?, afterValue?]
    have hrest := run?_ofItems (w :: items) (List.cons_ne_nil w items) (done ++ [v]) stack rest
    rw [Token.ofItems, List.append_assoc, run?_ofValue, List.cons_append, run?_cons hcomma, hrest,
      List.append_assoc]
    rfl

/-- Where a name is due, the tokens of members complete the object with them. -/
theorem run?_ofMembers : ∀ members : List (String × Json), members ≠ [] →
    ∀ (done : List (String × Json)) (stack : List Frame) (rest : List Token),
      run? ⟨.object (openMembers done) :: stack, .name⟩
          (Token.ofMembers members ++ .closeBrace :: rest)
        = run? ⟨stack, .complete (.object (done ++ members))⟩ rest
  | [], hne, _, _, _ => absurd rfl hne
  | [(name, v)], _, done, stack, rest => by
    have hclose : step? ⟨.field (openMembers done) (some name) :: stack, .complete v⟩ .closeBrace
        = some ⟨stack, .complete (.object (done ++ [(name, v)]))⟩ := by
      simp only [step?, afterValue?]
      rw [← openMembers_append, closeObject_openMembers]
    rw [Token.ofMembers, List.cons_append, List.cons_append, run?_field, run?_ofValue,
      run?_cons hclose]
  | (name, v) :: m :: members, _, done, stack, rest => by
    have hcomma : step? ⟨.field (openMembers done) (some name) :: stack, .complete v⟩ .comma
        = some ⟨.object (openMembers (done ++ [(name, v)])) :: stack, .name⟩ := by
      simp only [step?, afterValue?]
      rw [← openMembers_append]
    have hrest := run?_ofMembers (m :: members) (List.cons_ne_nil m members)
      (done ++ [(name, v)]) stack rest
    simp only [Token.ofMembers, List.cons_append, List.append_assoc]
    rw [run?_field, run?_ofValue, run?_cons hcomma, hrest, List.append_assoc]
    rfl

end

end Machine

/-! ## Reading -/

theorem readMarked?_write {v : Json} (hv : v.isPlain = true) :
    readMarked? (v.write.map some) = some v := by
  have hsplit : Token.split? (v.write.map some) = some (Token.ofValue v) := by
    have h := Token.splitFrom?_write hv Token.delimited_nil
    rwa [List.append_nil, Token.splitFrom?_nil, Token.finish?, Option.map_some,
      List.append_nil] at h
  have hrun : Machine.start.run? (Token.ofValue v) = some ⟨[], .complete v⟩ := by
    have h := Machine.run?_ofValue v [] []
    rwa [List.append_nil] at h
  rw [readMarked?, hsplit]
  simp only [hrun]
  rfl

/-- A plain value is read back from its text. -/
theorem read?_write {v : Json} (hv : v.isPlain = true) : read? v.write = some v :=
  readMarked?_write hv

/-- A plain value is read back from the bytes of its text. -/
theorem readBytes?_write {v : Json} (hv : v.isPlain = true) :
    readBytes? (Utf8.encode v.write) = some v := by
  rw [readBytes?, Utf8.decode_encode, readMarked?_write hv]

end RecurringBilling.Json
