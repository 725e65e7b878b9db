import RecurringBilling.Proofs.Interleaving.Owners

/-!
# Users do not notice each other

Whatever is carried out for one user, another one finds the same subscriptions and is told the
same by every use case, but for two numbers in which all users have a share: the identifier of a
new subscription and the reference of a receipt.  The argument compares two runs of one use case,
in worlds that differ in nothing else than what concerns other users.
-/

namespace RecurringBilling

open RecurringBilling.Calendar

/-! ## Results without the shared numbers -/

/-- The receipt without its reference. -/
def Receipt.unnumbered (r : Receipt) : Receipt := { r with reference := "" }

/-- The outcome of subscribing without the identifier and the reference that were next. -/
def Subscribed.unnumbered (v : Subscribed) : Subscribed where
  subscription := v.subscription.withId .unassigned
  receipt := v.receipt.map Receipt.unnumbered

/-- The outcome of a renewal without the reference that was next. -/
def Renewed.unnumbered (v : Renewed) : Renewed := { v with receipt := v.receipt.unnumbered }

/-- What a use case gives back, without the identifier of a new subscription and the reference of
a receipt. -/
def UseCase.unnumbered : (u : UseCase) → u.Value → u.Value
  | .subscribe _ _, v => v.unnumbered
  | .renew _, v => v.unnumbered
  | _, v => v

/-! ## Worlds that look alike -/

/-- Two worlds without faults that differ in nothing that concerns a user. -/
structure World.AlikeFor (user : UserId) (w w' : World) : Prop where
  faults : w.faults = []
  faults' : w'.faults = []
  wellFormed : SubscriptionStore.WellFormed w.subscriptions
  wellFormed' : SubscriptionStore.WellFormed w'.subscriptions
  now : w'.now = w.now
  plans : w'.plans = w.plans
  blind : w'.blind = w.blind
  decline : w'.ledger.decline = w.ledger.decline
  rows : SubscriptionStore.SameRows user w.subscriptions w'.subscriptions

/-- Two programs, each in a world of its own, end with results that look the same. -/
def Program.EndAlike {ε α : Type} (sv : Services) (view : α → α)
    (p p' : Program (Except ε α)) (w w' : World) : Prop :=
  (p.run sv w).1.map view = (p'.run sv w').1.map view

/-- Programs that fail in the same way end alike, whatever they leave behind. -/
theorem Program.endAlike_of_error {ε α : Type} {sv : Services} {view : α → α}
    {p p' : Program (Except ε α)} {w w' : World} {e : ε} (hp : (p.run sv w).1 = .error e)
    (hp' : (p'.run sv w').1 = .error e) : EndAlike sv view p p' w w' := by
  rw [EndAlike, hp, hp']

theorem Program.endAlike_of_ok {ε α : Type} {sv : Services} {view : α → α}
    {p p' : Program (Except ε α)} {w w' : World} {a a' : α} (hp : (p.run sv w).1 = .ok a)
    (hp' : (p'.run sv w').1 = .ok a') (hview : view a = view a') :
    EndAlike sv view p p' w w' := by
  rw [EndAlike, hp, hp', Except.map, Except.map, hview]

namespace World.AlikeFor

variable {user : UserId} {w w' : World}

/-! ### What the user is told -/

section Serve

variable (sv : Services)

theorem serve_clock (h : w.AlikeFor user w') :
    w.serve sv .clock = (w.now, w) ∧ w'.serve sv .clock = (w.now, w') := by
  refine ⟨rfl, ?_⟩
  rw [← h.now]
  rfl

theorem serve_findPlan (h : w.AlikeFor user w') (id : PlanId) :
    ∃ found, w.serve sv (.findPlan id) = (.ok found, w) ∧
      w'.serve sv (.findPlan id) = (.ok found, w') := by
  refine ⟨_, rfl, ?_⟩
  rw [← h.plans]
  rfl

theorem serve_findActiveSubscription (h : w.AlikeFor user w') :
    ∃ found, w.serve sv (.findActiveSubscription user) = (.ok found, w) ∧
      w'.serve sv (.findActiveSubscription user) = (.ok found, w') := by
  refine ⟨_, rfl, ?_⟩
  rw [serve, h.blind, h.rows.findActiveByUser_eq h.wellFormed h.wellFormed']
  rfl

/-- A subscription of the user is found in both worlds. -/
theorem serve_findSubscription (h : w.AlikeFor user w') {id : SubscriptionId} {x : Subscription}
    (hx : SubscriptionStore.findById w.subscriptions id = some x) (huser : x.user = user) :
    w.serve sv (.findSubscription id) = (.ok (some x), w) ∧
      w'.serve sv (.findSubscription id) = (.ok (some x), w') := by
  have hx' : SubscriptionStore.findById w'.subscriptions id = some x :=
    (h.rows id.value x huser).mp hx
  rw [serve, serve, found, found, hx, hx']
  exact ⟨rfl, rfl⟩

/-- A new subscription of the user is stored in both worlds, but for its identifier, or in
neither. -/
theorem serve_createSubscription (h : w.AlikeFor user w') {c : Subscription}
    (hc : c.user = user) :
    ∃ w₁ w₁',
      (∃ f, w.serve sv (.createSubscription c) = (.error f, w₁) ∧
        w'.serve sv (.createSubscription c) = (.error f, w₁')) ∨
      ∃ id id', w.serve sv (.createSubscription c) = (.ok (c.withId id), w₁) ∧
        w'.serve sv (.createSubscription c) = (.ok (c.withId id'), w₁') := by
  rw [serve, serve]
  rcases h.rows.create_cases h.wellFormed h.wellFormed' hc with ⟨hs, hs'⟩ | ⟨hs, hs'⟩
  · rw [hs, hs']
    exact ⟨_, _, Or.inl ⟨_, rfl, rfl⟩⟩
  · rw [hs, hs']
    exact ⟨_, _, Or.inr ⟨_, _, rfl, rfl⟩⟩

/-- A subscription of the user is replaced in both worlds, or in neither. -/
theorem serve_updateSubscription (h : w.AlikeFor user w') {c x : Subscription}
    (hc : c.user = user) (hx : w.subscriptions.find? c.id.value = some x)
    (huser : x.user = user) :
    ∃ answer w₁ w₁', w.serve sv (.updateSubscription c) = (answer, w₁) ∧
      w'.serve sv (.updateSubscription c) = (answer, w₁') := by
  rw [serve, serve]
  rcases h.rows.update_cases h.wellFormed h.wellFormed' hc hx huser with ⟨hs, hs'⟩ | ⟨hs, hs'⟩
  · rw [hs, hs']
    exact ⟨_, _, _, rfl, rfl⟩
  · rw [hs, hs']
    exact ⟨_, _, _, rfl, rfl⟩

/-- A charge is declined in both worlds, or accepted in both, on receipts that differ in their
references. -/
theorem serve_charge (h : w.AlikeFor user w') (s : Subscription) (p : Plan) :
    (∃ f, w.serve sv (.charge s p) = (.error f, w) ∧
        w'.serve sv (.charge s p) = (.error f, w')) ∨
      ∃ r r' l l', w.serve sv (.charge s p) = (.ok r, { w with ledger := l }) ∧
        w'.serve sv (.charge s p) = (.ok r', { w' with ledger := l' }) ∧
        r.unnumbered = r'.unnumbered ∧
        World.AlikeFor user { w with ledger := l } { w' with ledger := l' } := by
  cases hdecline : w.ledger.decline with
  | some reason =>
    exact Or.inl ⟨_, serve_charge_of_declining sv hdecline s p,
      serve_charge_of_declining sv (h.decline.trans hdecline) s p⟩
  | none =>
    have hdecline' := h.decline.trans hdecline
    refine Or.inr ⟨_, _, _, _, serve_charge_of_accepting sv hdecline s p,
      serve_charge_of_accepting sv hdecline' s p, ?_, { h with decline := h.decline }⟩
    rw [Receipt.unnumbered, Receipt.unnumbered, Ledger.nextReceipt, Ledger.nextReceipt, h.now]

end Serve

/-! ### Use cases for the user -/

variable {sv : Services}

/-- Programs that ask the same go on with what they are told, in the worlds that this leaves. -/
theorem endAlike_call {ε α : Type} {view : α → α} (h : w.AlikeFor user w') {r : Request}
    {answer answer' : r.Answer} {w₁ w₁' : World}
    (hserve : w.serve sv r = (answer, w₁) ∧ w'.serve sv r = (answer', w₁'))
    {next next' : r.Answer → Program (Except ε α)}
    (hnext : Program.EndAlike sv view (next answer) (next' answer') w₁ w₁') :
    Program.EndAlike sv view (.call r next) (.call r next') w w' := by
  rw [Program.EndAlike, Program.run_call_of_serve sv h.faults hserve.1,
    Program.run_call_of_serve sv h.faults' hserve.2]
  exact hnext

section Change

variable {α : Type} {view : α → α} {id : SubscriptionId} {before after : Subscription}

/-- A use case that is about a subscription of the user goes on with it in both worlds. -/
theorem endAlike_withSubscription (h : w.AlikeFor user w')
    (hbefore : SubscriptionStore.findById w.subscriptions id = some before)
    (huser : before.user = user) {next : Subscription → Program (Except BillingError α)}
    (hnext : w.subscriptions.find? before.id.value = some before →
      Program.EndAlike sv view (next before) (next before) w w') :
    Program.EndAlike sv view (withSubscription id next) (withSubscription id next) w w' := by
  refine h.endAlike_call (h.serve_findSubscription sv hbefore huser) (hnext ?_)
  rw [h.wellFormed.named id.value before hbefore]
  exact hbefore

/-- What takes the place of a subscription of the user is stored in both worlds, or in neither. -/
theorem endAlike_update (h : w.AlikeFor user w')
    (hbefore : w.subscriptions.find? before.id.value = some before) (huser : before.user = user)
    (hid : after.id = before.id) (howner : after.user = before.user)
    {next next' : Except Failure Unit → Program (Except BillingError α)}
    (hnext : ∀ answer w₁ w₁', Program.EndAlike sv view (next answer) (next' answer) w₁ w₁') :
    Program.EndAlike sv view (.call (.updateSubscription after) next)
      (.call (.updateSubscription after) next') w w' := by
  have hrow : w.subscriptions.find? after.id.value = some before := by rw [hid, hbefore]
  obtain ⟨answer, w₁, w₁', hserve⟩ :=
    h.serve_updateSubscription sv (howner.trans huser) hrow huser
  exact h.endAlike_call hserve (hnext answer w₁ w₁')

theorem endAlike_changeSubscription (h : w.AlikeFor user w')
    (hbefore : SubscriptionStore.findById w.subscriptions id = some before)
    (huser : before.user = user)
    {change : Subscription → Instant → Except BillingError Unit × Subscription}
    (hkeeps : ∀ {after : Subscription} {now : Instant}, change before now = (.ok (), after) →
      after.id = before.id ∧ before.SameOrigin after ∧ after.endDate = before.endDate)
    (result : Subscription → Subscription → α) :
    Program.EndAlike sv view (changeSubscription id change result)
      (changeSubscription id change result) w w' := by
  refine h.endAlike_withSubscription hbefore huser fun hrow => ?_
  refine h.endAlike_call (h.serve_clock sv) ?_
  cases hchange : change before w.now with
  | mk outcome after =>
    cases outcome with
    | error e => rfl
    | ok =>
      obtain ⟨hid, horigin, -⟩ := hkeeps hchange
      refine h.endAlike_update hrow huser hid horigin.user fun answer w₁ w₁' => ?_
      cases answer <;> rfl

end Change

section Renew

variable {before : Subscription}

theorem endAlike_renew_decline (h : w.AlikeFor user w')
    (hbefore : w.subscriptions.find? before.id.value = some before) (huser : before.user = user)
    (reason : String) :
    Program.EndAlike sv Renewed.unnumbered (Renew.decline before reason)
      (Renew.decline before reason) w w' := by
  refine h.endAlike_call (h.serve_clock sv) ?_
  simp only [Subscription.updateStatus_code]
  refine h.endAlike_update hbefore huser (by rfl) (by rfl) fun answer w₁ w₁' => ?_
  cases answer <;> rfl

theorem endAlike_renew_extend (h : w.AlikeFor user w')
    (hbefore : w.subscriptions.find? before.id.value = some before) (huser : before.user = user)
    (nextEnd : Instant) {receipt receipt' : Receipt}
    (hreceipt : receipt.unnumbered = receipt'.unnumbered) :
    Program.EndAlike sv Renewed.unnumbered (Renew.extend before nextEnd receipt)
      (Renew.extend before nextEnd receipt') w w' := by
  refine h.endAlike_call (h.serve_clock sv) ?_
  cases hmoved : before.updateEndDate nextEnd w.now with
  | mk outcome after =>
    cases outcome with
    | error e => exact Program.endAlike_of_error rfl rfl
    | ok =>
      obtain ⟨-, rfl⟩ := Subscription.updateEndDate_eq_ok_iff.mp hmoved
      refine h.endAlike_update hbefore huser (by rfl) (by rfl) fun answer w₁ w₁' => ?_
      cases answer with
      | error f => exact Program.endAlike_of_error rfl rfl
      | ok _ =>
        refine Program.endAlike_of_ok rfl rfl ?_
        rw [Renewed.unnumbered, Renewed.unnumbered, hreceipt]

theorem endAlike_renew_charge (h : w.AlikeFor user w')
    (hbefore : w.subscriptions.find? before.id.value = some before) (huser : before.user = user)
    (plan : Plan) (nextEnd : Instant) :
    Program.EndAlike sv Renewed.unnumbered (Renew.charge before plan nextEnd)
      (Renew.charge before plan nextEnd) w w' := by
  rcases h.serve_charge sv before plan with ⟨f, hserve⟩ | ⟨r, r', l, l', hs, hs', hr, halike⟩
  · refine h.endAlike_call hserve ?_
    by_cases hdeclined : f.code = .paymentFailed
    · simp only [hdeclined, if_true]
      exact h.endAlike_renew_decline hbefore huser f.message
    · simp only [hdeclined, if_false]
      rfl
  · -- the two receipts differ, so the two programs do from here on
    exact h.endAlike_call ⟨hs, hs'⟩ (halike.endAlike_renew_extend hbefore huser nextEnd hr)

theorem endAlike_renew_plan (h : w.AlikeFor user w')
    (hbefore : w.subscriptions.find? before.id.value = some before) (huser : before.user = user) :
    Program.EndAlike sv Renewed.unnumbered (Renew.plan before) (Renew.plan before) w w' := by
  obtain ⟨found, hserve⟩ := h.serve_findPlan sv before.plan
  refine h.endAlike_call hserve ?_
  cases found with
  | none => rfl
  | some plan =>
    cases hend : periodEnd? (Renew.nextStart before) plan.terms.interval with
    | none =>
      simp only [hend]
      rfl
    | some nextEnd =>
      simp only [hend]
      exact h.endAlike_renew_charge hbefore huser plan nextEnd

theorem endAlike_renew (h : w.AlikeFor user w') {id : SubscriptionId}
    (hbefore : SubscriptionStore.findById w.subscriptions id = some before)
    (huser : before.user = user) :
    Program.EndAlike sv Renewed.unnumbered (renew id) (renew id) w w' := by
  refine h.endAlike_withSubscription hbefore huser fun hrow => ?_
  split
  · rfl
  · split
    · rfl
    · exact h.endAlike_renew_plan hrow huser

end Renew

section Subscribe

theorem run_subscribe_giveUp (sv : Services) (w : World) (e : BillingError)
    (receipt : Option Receipt) : ((Subscribe.giveUp e receipt).run sv w).1 = .error e := by
  cases receipt <;> rfl

theorem endAlike_subscribe_store (h : w.AlikeFor user w') {c : Subscription} (hc : c.user = user)
    {receipt receipt' : Option Receipt}
    (hreceipt : receipt.map Receipt.unnumbered = receipt'.map Receipt.unnumbered) :
    Program.EndAlike sv Subscribed.unnumbered (Subscribe.store c receipt)
      (Subscribe.store c receipt') w w' := by
  obtain ⟨w₁, w₁', ⟨f, hserve⟩ | ⟨id, id', hs, hs'⟩⟩ := h.serve_createSubscription sv hc
  · exact h.endAlike_call hserve
      (Program.endAlike_of_error (run_subscribe_giveUp sv w₁ _ receipt)
        (run_subscribe_giveUp sv w₁' _ receipt'))
  · have hsame : Subscribed.unnumbered ⟨c.withId id, receipt⟩ =
        Subscribed.unnumbered ⟨c.withId id', receipt'⟩ := by
      rw [Subscribed.unnumbered, Subscribed.unnumbered, hreceipt]
      rfl
    exact h.endAlike_call ⟨hs, hs'⟩ (Program.endAlike_of_ok rfl rfl hsame)

theorem endAlike_subscribe_charge (h : w.AlikeFor user w') {c : Subscription}
    (hc : c.user = user) (plan : Plan) :
    Program.EndAlike sv Subscribed.unnumbered (Subscribe.charge c plan) (Subscribe.charge c plan)
      w w' := by
  rw [Subscribe.charge]
  split
  · exact h.endAlike_subscribe_store hc rfl
  · rcases h.serve_charge sv c plan with ⟨f, hserve⟩ | ⟨r, r', l, l', hs, hs', hr, halike⟩
    · exact h.endAlike_call hserve (Program.endAlike_of_error rfl rfl)
    · exact h.endAlike_call ⟨hs, hs'⟩ (halike.endAlike_subscribe_store hc (congrArg some hr))

theorem endAlike_subscribe_start (h : w.AlikeFor user w') (planId : PlanId) (plan : Plan) :
    Program.EndAlike sv Subscribed.unnumbered (Subscribe.start user planId plan)
      (Subscribe.start user planId plan) w w' := by
  refine h.endAlike_call (h.serve_clock sv) (h.endAlike_call (h.serve_clock sv) ?_)
  cases hcreate : Subscription.create
      ⟨user, planId, w.now, periodEnd? w.now plan.terms.interval⟩ w.now with
  | error e =>
    simp only [hcreate]
    rfl
  | ok c =>
    simp only [hcreate]
    have hc : c.user = user :=
      congrArg SubscriptionDraft.user (Subscription.draft_of_create hcreate).1
    exact h.endAlike_subscribe_charge hc plan

theorem endAlike_subscribe (h : w.AlikeFor user w') (planId : PlanId) :
    Program.EndAlike sv Subscribed.unnumbered (subscribe user planId) (subscribe user planId)
      w w' := by
  rw [subscribe]
  split
  · rfl
  · split
    · rfl
    · obtain ⟨found, hserve⟩ := h.serve_findPlan sv planId
      refine h.endAlike_call hserve ?_
      cases found with
      | none => rfl
      | some plan =>
        obtain ⟨active, hserve⟩ := h.serve_findActiveSubscription sv
        refine h.endAlike_call hserve ?_
        cases active with
        | some _ => rfl
        | none => exact h.endAlike_subscribe_start planId plan

end Subscribe

/-- A use case for the user ends alike in both worlds. -/
theorem endAlike_program (h : w.AlikeFor user w') {u : UseCase}
    (hu : u.ownerIn w.subscriptions = some user) :
    Program.EndAlike sv u.unnumbered u.program u.program w w' := by
  cases u with
  | subscribe owner planId =>
    cases hu
    exact h.endAlike_subscribe planId
  | changeStatus id code =>
    obtain ⟨before, hbefore, huser⟩ := Option.map_eq_some_iff.mp hu
    refine h.endAlike_changeSubscription hbefore huser ?_ _
    exact Subscription.keeps_of_updateStatus
  | changeAutoRenew id autoRenew =>
    obtain ⟨before, hbefore, huser⟩ := Option.map_eq_some_iff.mp hu
    rw [UseCase.program, changeAutoRenew]
    refine h.endAlike_changeSubscription hbefore huser ?_ _
    exact Subscription.keeps_of_setAutoRenew
  | renew id =>
    obtain ⟨before, hbefore, huser⟩ := Option.map_eq_some_iff.mp hu
    exact h.endAlike_renew hbefore huser
  | _ => cases hu

end World.AlikeFor

/-- After a session for one user every other user meets a world that looks as before. -/
theorem World.alikeFor_afterSession {w : World}
    (hw : SubscriptionStore.WellFormed w.subscriptions) {x : Session} {user other : UserId}
    (hx : ∀ u ∈ x.useCases, u.ownerIn w.subscriptions = some user) (hne : user ≠ other)
    (sv : Services) (now : Instant) (salt : List UInt8) :
    World.AlikeFor other (w.facing (.alone now salt))
      ((w.afterSession sv x).facing (.alone now salt)) where
  faults := rfl
  faults' := rfl
  wellFormed := hw
  wellFormed' := wellFormed_afterSession hw sv x
  now := rfl
  plans := (frame_afterSession hw hx hne sv).1
  blind := view_afterSession World.blind (fun _ _ => rfl) (serve_blind sv) w x
  decline := view_afterSession (fun w => w.ledger.decline) (fun _ _ => rfl) (serve_decline sv) w x
  rows := (frame_afterSession hw hx hne sv).2

/-- Whatever use cases are carried out for one user, side by side, with any faults and to any
result, the subscriptions of another user are as before, all of them and the active one.  Every
use case for that other user then ends as it would have ended without them, but for the
identifier of a new subscription and the reference of a receipt. -/
theorem users_do_not_notice_each_other (sv : Services) (w₀ : World)
    (hsubscriptions : w₀.subscriptions = {}) (earlier : Session) {A B : UserId} (hne : A ≠ B)
    (x : Session)
    (hx : ∀ u ∈ x.useCases, u.ownerIn (w₀.afterSession sv earlier).subscriptions = some A) :
    let w := w₀.afterSession sv earlier
    let w' := w.afterSession sv x
    SubscriptionStore.findByUser w'.subscriptions B =
        SubscriptionStore.findByUser w.subscriptions B ∧
      SubscriptionStore.findActiveByUser w'.subscriptions B =
        SubscriptionStore.findActiveByUser w.subscriptions B ∧
      ∀ u : UseCase,
        (u.ownerIn w'.subscriptions = some B ↔ u.ownerIn w.subscriptions = some B) ∧
        (u.ownerIn w.subscriptions = some B → ∀ now salt,
          (w'.carryOut sv now u salt).1.map u.unnumbered =
            (w.carryOut sv now u salt).1.map u.unnumbered) := by
  intro w w'
  have hstart : SubscriptionStore.WellFormed w₀.subscriptions := by
    rw [hsubscriptions]
    exact SubscriptionStore.wellFormed_empty
  have hw : SubscriptionStore.WellFormed w.subscriptions :=
    World.wellFormed_afterSession hstart sv earlier
  have hw' : SubscriptionStore.WellFormed w'.subscriptions :=
    World.wellFormed_afterSession hw sv x
  obtain ⟨-, hrows⟩ := World.frame_afterSession hw hx hne sv
  refine ⟨hrows.findByUser_eq hw hw', hrows.findActiveByUser_eq hw hw',
    fun u => ⟨UseCase.ownerIn_of_sameRows hrows u, fun hu now salt => ?_⟩⟩
  have halike := World.alikeFor_afterSession hw hx hne sv now salt
  exact (halike.endAlike_program hu).symm

/-- One user renews after another one has subscribed, or without that: the charge has another
number, and nothing else differs. -/
theorem renewal_beside_a_new_subscriber :
    let turns := Turn.inOrder .epoch [0, 0, 0, 0, 0, 0]
    let w := World.kiosk.afterSession Services.lenient ⟨[.subscribe ⟨8⟩ ⟨1⟩], turns⟩
    let w' := w.afterSession Services.lenient ⟨[.subscribe ⟨7⟩ ⟨1⟩], turns⟩
    let renewal := w.carryOut Services.lenient .epoch (.renew ⟨1⟩)
    let renewal' := w'.carryOut Services.lenient .epoch (.renew ⟨1⟩)
    (SubscriptionStore.findActiveByUser w'.subscriptions ⟨7⟩).isSome = true ∧
      SubscriptionStore.findByUser w'.subscriptions ⟨8⟩ =
        SubscriptionStore.findByUser w.subscriptions ⟨8⟩ ∧
      renewal.1.toOption.map (·.receipt.reference) = some "stub_ch_00000002" ∧
      renewal'.1.toOption.map (·.receipt.reference) = some "stub_ch_00000003" ∧
      renewal'.1.map Renewed.unnumbered = renewal.1.map Renewed.unnumbered := by
  intro turns w w' renewal renewal'
  have hfor : ∀ u ∈ [UseCase.subscribe ⟨7⟩ ⟨1⟩], u.ownerIn w.subscriptions = some ⟨7⟩ := by
    intro u hu
    rw [List.mem_singleton.mp hu]
    rfl
  obtain ⟨hlisting, -, hsame⟩ := users_do_not_notice_each_other Services.lenient World.kiosk rfl
    ⟨[.subscribe ⟨8⟩ ⟨1⟩], turns⟩ (A := ⟨7⟩) (B := ⟨8⟩) (by decide)
    ⟨[.subscribe ⟨7⟩ ⟨1⟩], turns⟩ hfor
  have howner : (UseCase.renew ⟨1⟩).ownerIn w.subscriptions = some ⟨8⟩ := by decide +kernel
  exact ⟨by decide +kernel, hlisting, by decide +kernel, by decide +kernel,
    (hsame (.renew ⟨1⟩)).2 howner .epoch []⟩

end RecurringBilling
