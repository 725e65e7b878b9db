import RecurringBilling.Proofs.Store.Journal
import RecurringBilling.Store.Accounts

/-!
# Mailboxes

In a store of accounts that starts empty and is written through its calls, each account
stands under its own identifier and no two accounts share a mailbox.  The accounts may
bring any identifiers along: a new account is compared with all stored ones, and an
update only leaves out the account that it replaces.  So the look-up of a mailbox finds
the one account that has it, however its address is spelt.
-/

namespace RecurringBilling

namespace Email

theorem SameMailbox.refl (e : Email) : e.SameMailbox e := rfl

theorem SameMailbox.symm {e f : Email} (h : e.SameMailbox f) : f.SameMailbox e := Eq.symm h

theorem SameMailbox.trans {e f g : Email} (h : e.SameMailbox f) (h' : f.SameMailbox g) :
    e.SameMailbox g := Eq.trans h h'

end Email

namespace AccountStore

/-- The numbers are in order, each account carries its own as identifier, and no two accounts share
a mailbox. -/
structure Sound (s : AccountStore) : Prop where
  ordered : s.Ordered
  named : ∀ k a, s.find? k = some a → a.id = ⟨k⟩
  distinct : ∀ j k a b, s.find? j = some a → s.find? k = some b → a.email.SameMailbox b.email →
    j = k

variable {s s' : AccountStore}

theorem sound_empty : Sound {} where
  ordered := Store.ordered_empty
  named := by
    intro k a ha
    cases ha
  distinct := by
    intro j k a b ha
    cases ha

theorem Sound.id_eq_iff (h : Sound s) {k : Nat} {a : UserAccount} (ha : s.find? k = some a)
    (id : UserId) : a.id = id ↔ k = id.value := by
  rw [h.named k a ha]
  exact ⟨congrArg UserId.value, congrArg UserId.mk⟩

/-! ## The check before a write -/

/-- A mailbox is free for an account if nobody has it but the account itself. -/
theorem Sound.isTaken_eq_false_iff (h : Sound s) (email : Email) (except : UserId) :
    isTaken s email except = false ↔
      ∀ k a, s.find? k = some a → a.email.SameMailbox email → k = except.value := by
  rw [isTaken, List.any_eq_false]
  constructor
  · intro hnone k a ha hsame
    have hmem : a ∈ s.values := h.ordered.mem_values_iff.mpr ⟨k, ha⟩
    have hid : a.id = except := by simpa [hsame] using hnone a hmem
    exact (h.id_eq_iff ha except).mp hid
  · intro hrows a hmem
    obtain ⟨k, ha⟩ := h.ordered.mem_values_iff.mp hmem
    by_cases hsame : a.email.SameMailbox email
    · have hid : a.id = except := (h.id_eq_iff ha except).mpr (hrows k a ha hsame)
      simp [hid]
    · simp [hsame]

/-! ## Looking a mailbox up -/

theorem Sound.findByEmail_eq_some_iff (h : Sound s) {email : Email} {a : UserAccount} :
    findByEmail s email = some a ↔
      (∃ k, s.find? k = some a) ∧ a.email.SameMailbox email := by
  constructor
  · intro hfound
    have hsame : a.email.SameMailbox email := by simpa using List.find?_some hfound
    exact ⟨h.ordered.mem_values_iff.mp (List.mem_of_find?_eq_some hfound), hsame⟩
  · rintro ⟨⟨k, ha⟩, hsame⟩
    have hmem : a ∈ s.values := h.ordered.mem_values_iff.mpr ⟨k, ha⟩
    cases hfound : findByEmail s email with
    | none =>
      rw [findByEmail, List.find?_eq_none] at hfound
      exact absurd hsame (by simpa using hfound a hmem)
    | some b =>
      -- whoever is found has the mailbox as well, and so is the same account
      have hbsame : b.email.SameMailbox email := by simpa using List.find?_some hfound
      obtain ⟨j, hb⟩ := h.ordered.mem_values_iff.mp (List.mem_of_find?_eq_some hfound)
      obtain rfl := h.distinct j k b a hb ha (hbsame.trans hsame.symm)
      exact hb.symm.trans ha

theorem Sound.findByEmail_eq_none_iff (h : Sound s) {email : Email} :
    findByEmail s email = none ↔ ∀ k a, s.find? k = some a → ¬a.email.SameMailbox email := by
  rw [Option.eq_none_iff_forall_ne_some]
  constructor
  · intro hnone k a ha hsame
    exact hnone a (h.findByEmail_eq_some_iff.mpr ⟨⟨k, ha⟩, hsame⟩)
  · intro hrows a hfound
    obtain ⟨⟨k, ha⟩, hsame⟩ := h.findByEmail_eq_some_iff.mp hfound
    exact hrows k a ha hsame

/-- The look-up goes by the mailbox, not by the spelling of its address. -/
theorem findByEmail_congr (s : AccountStore) {e f : Email} (h : e.SameMailbox f) :
    findByEmail s e = findByEmail s f := by
  unfold findByEmail
  congr 1
  funext a
  exact decide_eq_decide.mpr ⟨fun ha => ha.trans h, fun ha => ha.trans h.symm⟩

/-! ## Creating and updating -/

/-- An account is stored exactly if its mailbox is free. -/
theorem Sound.create_eq (h : Sound s) (a : UserAccount) :
    create s a =
      if findByEmail s a.email = none then
        (.ok (a.withId ⟨s.lastId + 1⟩), (s.add fun id => a.withId ⟨id⟩).2)
      else (.error emailInUse, s) := by
  have hfree : isTaken s a.email .unassigned = false ↔ findByEmail s a.email = none := by
    rw [h.isTaken_eq_false_iff, h.findByEmail_eq_none_iff]
    constructor
    · intro hrows k b hb hsame
      -- the number zero is never handed out
      have hzero : k = 0 := hrows k b hb hsame
      have hissued := h.ordered.issued_of_find? hb
      omega
    · intro hrows k b hb hsame
      exact absurd hsame (hrows k b hb)
  rw [create]
  cases htaken : isTaken s a.email .unassigned with
  | false =>
    rw [if_neg Bool.false_ne_true, if_pos (hfree.mp htaken)]
    rfl
  | true =>
    have htaken' : ¬findByEmail s a.email = none := by
      intro hnone
      rw [hfree.mpr hnone] at htaken
      cases htaken
    rw [if_pos rfl, if_neg htaken']

theorem update_of_missing {a : UserAccount} (hmissing : findById s a.id = none) :
    update s a = (.error (notFound a.id), s) := by
  have hcontains : s.contains a.id.value = false := by
    rw [Store.contains, show s.find? a.id.value = none from hmissing]
    rfl
  rw [update, hcontains]
  rfl

/-- An account that is there is replaced exactly if no other account has the mailbox. -/
theorem Sound.update_eq (h : Sound s) {a b : UserAccount} (hb : findById s a.id = some b) :
    update s a =
      if (findByEmail s a.email).all (fun x => x.id == a.id) then (.ok (), s.put a.id.value a)
      else (.error emailInUse, s) := by
  have hcontains : s.contains a.id.value = true := by
    rw [Store.contains, show s.find? a.id.value = some b from hb]
    rfl
  have hfree : isTaken s a.email a.id = false ↔
      (findByEmail s a.email).all (fun x => x.id == a.id) = true := by
    rw [h.isTaken_eq_false_iff, Option.all_eq_true]
    constructor
    · intro hrows x hx
      obtain ⟨⟨k, hk⟩, hsame⟩ := h.findByEmail_eq_some_iff.mp hx
      simpa using (h.id_eq_iff hk a.id).mpr (hrows k x hk hsame)
    · intro hfound k x hk hsame
      have hx := h.findByEmail_eq_some_iff.mpr ⟨⟨k, hk⟩, hsame⟩
      exact (h.id_eq_iff hk a.id).mp (by simpa using hfound x hx)
  rw [update, hcontains]
  cases htaken : isTaken s a.email a.id with
  | false => simp [hfree.mp htaken]
  | true =>
    have hother : (findByEmail s a.email).all (fun x => x.id == a.id) = false := by
      rw [← Bool.not_eq_true, ← hfree, htaken]
      simp
    simp [hother]

/-- The account itself may keep its mailbox, or spell it otherwise. -/
theorem Sound.update_of_own (h : Sound s) {a b : UserAccount} (hb : findById s a.id = some b)
    (hown : a.email.SameMailbox b.email) : update s a = (.ok (), s.put a.id.value a) := by
  have hfound : findByEmail s a.email = some b :=
    h.findByEmail_eq_some_iff.mpr ⟨⟨a.id.value, hb⟩, hown.symm⟩
  have hid : b.id = a.id := h.named a.id.value b hb
  rw [h.update_eq hb, hfound]
  simp [hid]

/-! ## What writes preserve -/

theorem Sound.add (h : Sound s) {a : UserAccount} (hfree : findByEmail s a.email = none) :
    Sound (s.add fun id => a.withId ⟨id⟩).2 where
  ordered := h.ordered.add _
  named := by
    intro k x hx
    rw [Store.find?_add] at hx
    split at hx
    · next heq =>
      cases hx
      rw [heq]
      rfl
    · exact h.named k x hx
  distinct := by
    have hnobody := h.findByEmail_eq_none_iff.mp hfree
    intro j k x y hx hy hsame
    rw [Store.find?_add] at hx hy
    -- of two accounts with the mailbox of the new one, neither is an old one
    split at hx
    · next hj =>
      split at hy
      · next hk => rw [hj, hk]
      · cases hx
        exact absurd hsame.symm (hnobody k y hy)
    · split at hy
      · cases hy
        exact absurd hsame (hnobody j x hx)
      · exact h.distinct j k x y hx hy hsame

theorem Sound.put (h : Sound s) {a : UserAccount} (hthere : s.contains a.id.value = true)
    (hfree : isTaken s a.email a.id = false) : Sound (s.put a.id.value a) where
  ordered := h.ordered.put hthere a
  named := by
    intro k x hx
    rw [Store.find?_put] at hx
    split at hx
    · next heq =>
      cases hx
      rw [heq]
    · exact h.named k x hx
  distinct := by
    have hothers := (h.isTaken_eq_false_iff a.email a.id).mp hfree
    intro j k x y hx hy hsame
    rw [Store.find?_put] at hx hy
    split at hx
    · next hj =>
      split at hy
      · next hk => rw [hj, hk]
      · cases hx
        rw [hj, hothers k y hy hsame.symm]
    · split at hy
      · next hk =>
        cases hy
        rw [hk, hothers j x hx hsame]
      · exact h.distinct j k x y hx hy hsame

theorem Sound.of_create (h : Sound s) {a x : UserAccount} (hcreate : create s a = (.ok x, s')) :
    Sound s' := by
  rw [h.create_eq] at hcreate
  split at hcreate
  · next hfree =>
    cases hcreate
    exact h.add hfree
  · cases hcreate

theorem Sound.of_update (h : Sound s) {a : UserAccount} (hupdate : update s a = (.ok (), s')) :
    Sound s' := by
  unfold update at hupdate
  split at hupdate
  · cases hupdate
  · next hthere =>
    split at hupdate
    · cases hupdate
    · next hfree =>
      cases hupdate
      exact h.put (by simpa using hthere) (by simpa using hfree)

/-! ## Histories of calls -/

/-- A call that writes accounts. -/
inductive Call where
  | create (a : UserAccount)
  | update (a : UserAccount)
  deriving DecidableEq

/-- What the call has written, or why it is refused, and the store as it leaves it. -/
def Call.apply (s : AccountStore) :
    Call → Except Failure (Store.Write UserAccount) × AccountStore
  | .create a => Store.told (AccountStore.create s a) fun x => .added x.id.value x
  | .update a => Store.told (AccountStore.update s a) fun () => .replaced a.id.value a

/-- The writes of a history that starts with an empty store. -/
def journal (calls : List Call) : Store.Journal UserAccount := (Store.history Call.apply calls).1

/-- The store after a history that starts with an empty one. -/
def run (calls : List Call) : AccountStore := (Store.history Call.apply calls).2

/-- A call that goes through writes what it tells, under the number that the value carries. -/
theorem Call.writes_of_apply {call : Call} {w : Store.Write UserAccount}
    (h : call.apply s = (.ok w, s')) :
    w.Leads s s' ∧ ∀ a, w.value? = some a → a.id.value = w.id := by
  cases call with
  | create a =>
    obtain ⟨x, hcreate, rfl⟩ := Store.told_eq_ok_iff.mp h
    unfold AccountStore.create at hcreate
    split at hcreate
    · cases hcreate
    · cases hcreate
      refine ⟨⟨rfl, rfl⟩, fun x hx => ?_⟩
      cases hx
      rfl
  | update a =>
    obtain ⟨_, hupdate, rfl⟩ := Store.told_eq_ok_iff.mp h
    unfold AccountStore.update at hupdate
    split at hupdate
    · cases hupdate
    · next hthere =>
      split at hupdate
      · cases hupdate
      · cases hupdate
        refine ⟨⟨by simpa using hthere, rfl⟩, fun x hx => ?_⟩
        cases hx
        rfl

/-- A refused call leaves the store as it is. -/
theorem Call.eq_of_apply_error {call : Call} {f : Failure} (h : call.apply s = (.error f, s')) :
    s' = s := by
  cases call with
  | create a => exact eq_of_create_error (Store.told_eq_error_iff.mp h)
  | update a => exact eq_of_update_error (Store.told_eq_error_iff.mp h)

theorem Call.faithful : Store.Faithful Call.apply fun a => a.id.value where
  leads h := (writes_of_apply h).1
  numbered h := (writes_of_apply h).2
  refuses := eq_of_apply_error

theorem Call.code_of_error {call : Call} {f : Failure} (h : call.apply s = (.error f, s')) :
    f.code = .emailInUse ∨ f.code = .userNotFound := by
  cases call with
  | create a =>
    have hcreate := Store.told_eq_error_iff.mp h
    unfold AccountStore.create at hcreate
    split at hcreate
    · cases hcreate
      exact Or.inl rfl
    · cases hcreate
  | update a =>
    have hupdate := Store.told_eq_error_iff.mp h
    unfold AccountStore.update at hupdate
    split at hupdate
    · cases hupdate
      exact Or.inr rfl
    · split at hupdate
      · cases hupdate
        exact Or.inl rfl
      · cases hupdate

theorem Sound.of_apply (h : Sound s) {call : Call} {w : Store.Write UserAccount}
    (happly : call.apply s = (.ok w, s')) : Sound s' := by
  cases call with
  | create a =>
    obtain ⟨x, hcreate, -⟩ := Store.told_eq_ok_iff.mp happly
    exact h.of_create hcreate
  | update a =>
    obtain ⟨_, hupdate, -⟩ := Store.told_eq_ok_iff.mp happly
    exact h.of_update hupdate

theorem sound_run (calls : List Call) : Sound (run calls) :=
  Call.faithful.history_invariant (I := fun state => Sound state.2) sound_empty
    (fun _ _ _ _ h happly => h.of_apply happly) calls

theorem lastId_run (calls : List Call) : (run calls).lastId = (journal calls).additions :=
  (Call.faithful.recorded_history calls).lastId_eq

theorem run_concat_of_ok {calls : List Call} {call : Call} {w : Store.Write UserAccount}
    (h : call.apply (run calls) = (.ok w, s')) : run (calls ++ [call]) = s' := by
  rw [run, Store.history_concat_of_ok h]

theorem journal_concat_of_ok {calls : List Call} {call : Call} {w : Store.Write UserAccount}
    (h : call.apply (run calls) = (.ok w, s')) :
    journal (calls ++ [call]) = journal calls ++ [w] := by
  rw [journal, Store.history_concat_of_ok h]
  rfl

/-- What goes on in a history when an account is stored. -/
theorem create_run {calls : List Call} {a : UserAccount}
    (hfree : findByEmail (run calls) a.email = none) :
    create (run calls) a =
        (.ok (a.withId ⟨(journal calls).additions + 1⟩), run (calls ++ [Call.create a])) ∧
      (journal (calls ++ [Call.create a])).additions = (journal calls).additions + 1 ∧
      ∀ id, findById (run (calls ++ [Call.create a])) id =
        if id = ⟨(journal calls).additions + 1⟩ then some (a.withId id)
        else findById (run calls) id := by
  have hcreate := (sound_run calls).create_eq a
  rw [if_pos hfree] at hcreate
  have happly : (Call.create a).apply (run calls) =
      (.ok (.added ((run calls).lastId + 1) (a.withId ⟨(run calls).lastId + 1⟩)),
        ((run calls).add fun id => a.withId ⟨id⟩).2) := by
    rw [Call.apply, hcreate]
    rfl
  refine ⟨?_, ?_, fun id => ?_⟩
  · rw [hcreate, run_concat_of_ok happly, ← lastId_run]
  · rw [journal_concat_of_ok happly, Store.Journal.additions_concat]
    rfl
  · rw [run_concat_of_ok happly, ← lastId_run, findById, Store.find?_add]
    by_cases hid : id = ⟨(run calls).lastId + 1⟩
    · rw [if_pos hid, hid]
      exact if_pos rfl
    · rw [if_neg hid]
      exact if_neg fun hvalue => hid (congrArg UserId.mk hvalue)

/-- What goes on in a history when an account is replaced. -/
theorem update_run {calls : List Call} {a : UserAccount}
    (hupdate : update (run calls) a = (.ok (), (run calls).put a.id.value a)) :
    update (run calls) a = (.ok (), run (calls ++ [Call.update a])) ∧
      (journal (calls ++ [Call.update a])).additions = (journal calls).additions ∧
      ∀ id, findById (run (calls ++ [Call.update a])) id =
        if id = a.id then some a else findById (run calls) id := by
  have happly : (Call.update a).apply (run calls) =
      (.ok (.replaced a.id.value a), (run calls).put a.id.value a) := by
    rw [Call.apply, hupdate]
    rfl
  refine ⟨?_, ?_, fun id => ?_⟩
  · rw [hupdate, run_concat_of_ok happly]
  · rw [journal_concat_of_ok happly, Store.Journal.additions_concat]
    rfl
  · rw [run_concat_of_ok happly, findById, Store.find?_put]
    by_cases hid : id = a.id
    · rw [if_pos hid, hid]
      exact if_pos rfl
    · rw [if_neg hid]
      exact if_neg fun hvalue => hid (congrArg UserId.mk hvalue)

/-- Whatever calls have been made, each account stands under its own identifier and is the only one
with its mailbox, and the look-up of a mailbox finds exactly the account that has it, under any
spelling.  A new account is stored under the next of the identifiers 1, 2, 3, … exactly if its
mailbox is free.  An update replaces the account with its identifier exactly if there is one and
nobody else has the mailbox, so the account may keep or respell its own.  A refused call changes
nothing and uses no identifier up. -/
theorem mailboxes_identify_accounts (calls : List Call) :
    -- one account for each identifier and for each mailbox
    (∀ id a, findById (run calls) id = some a → a.id = id) ∧
    (∀ id id' a b, findById (run calls) id = some a → findById (run calls) id' = some b →
      a.email.SameMailbox b.email → id = id') ∧
    (∀ email a, findByEmail (run calls) email = some a ↔
      (∃ id, findById (run calls) id = some a) ∧ a.email.SameMailbox email) ∧
    (∀ email email', email.SameMailbox email' →
      findByEmail (run calls) email = findByEmail (run calls) email') ∧
    -- new accounts
    (∀ a, findByEmail (run calls) a.email = none →
      create (run calls) a =
          (.ok (a.withId ⟨(journal calls).additions + 1⟩), run (calls ++ [Call.create a])) ∧
        (journal (calls ++ [Call.create a])).additions = (journal calls).additions + 1 ∧
        ∀ id, findById (run (calls ++ [Call.create a])) id =
          if id = ⟨(journal calls).additions + 1⟩ then some (a.withId id)
          else findById (run calls) id) ∧
    (∀ a b, findByEmail (run calls) a.email = some b →
      create (run calls) a = (.error emailInUse, run calls)) ∧
    -- updates
    (∀ a, findById (run calls) a.id = none →
      update (run calls) a = (.error (notFound a.id), run calls)) ∧
    (∀ a b c, findById (run calls) a.id = some b → findByEmail (run calls) a.email = some c →
      c.id ≠ a.id → update (run calls) a = (.error emailInUse, run calls)) ∧
    (∀ a b, findById (run calls) a.id = some b →
      (a.email.SameMailbox b.email ∨ findByEmail (run calls) a.email = none) →
      update (run calls) a = (.ok (), run (calls ++ [Call.update a])) ∧
        (journal (calls ++ [Call.update a])).additions = (journal calls).additions ∧
        ∀ id, findById (run (calls ++ [Call.update a])) id =
          if id = a.id then some a else findById (run calls) id) ∧
    -- refusals
    (∀ call f s, call.apply (run calls) = (.error f, s) →
      (f.code = .emailInUse ∨ f.code = .userNotFound) ∧ s = run calls ∧
        Store.history Call.apply (calls ++ [call]) = Store.history Call.apply calls) := by
  have hsound := sound_run calls
  refine ⟨fun id a ha => hsound.named id.value a ha, ?_, ?_,
    fun _ _ hsame => findByEmail_congr _ hsame, fun a hfree => create_run hfree, ?_,
    fun a hmissing => update_of_missing hmissing, ?_, ?_, ?_⟩
  · intro id id' a b ha hb hsame
    exact congrArg UserId.mk (hsound.distinct id.value id'.value a b ha hb hsame)
  · intro email a
    rw [hsound.findByEmail_eq_some_iff]
    exact and_congr_left' ⟨fun ⟨k, hk⟩ => ⟨⟨k⟩, hk⟩, fun ⟨id, hid⟩ => ⟨id.value, hid⟩⟩
  · intro a b hfound
    rw [hsound.create_eq, if_neg (by simp [hfound])]
  · intro a b c hb hc hother
    rw [hsound.update_eq hb, hc, if_neg (by simpa using hother)]
  · intro a b hb hmailbox
    refine update_run ?_
    rcases hmailbox with hown | hfree
    · exact hsound.update_of_own hb hown
    · rw [hsound.update_eq hb, hfree]
      rfl
  · intro call f s hrefused
    exact ⟨Call.code_of_error hrefused, Call.eq_of_apply_error hrefused,
      Call.faithful.history_concat_of_error hrefused⟩

end AccountStore

end RecurringBilling
