import OwnershipRegistry.Proofs.Books
import OwnershipRegistry.Proofs.Plan
import OwnershipRegistry.World.Application

/-!
# What an application does

Applying a manifest is a transaction of flows: the registrations, the
confirmations of the kinds, the grants and the revocations of its plan. It
succeeds when all of them do, and changes nothing otherwise.
-/

namespace OwnershipRegistry.World

/-- Worlds under the same rules. They may differ in what flows change: the tables and their
version, the transactions and the journal. -/
structure SameRules (w v : World) : Prop where
  defaultNamespace : w.core.defaultNamespace = v.core.defaultNamespace
  policy : w.core.policy = v.core.policy
  settings : w.settings = v.settings
  securityPath : w.securityPath = v.securityPath
  documents : w.documents = v.documents

/-- Worlds in the same state, up to the transactions and the journal. -/
structure SameState (w v : World) : Prop where
  rules : SameRules w v
  store : w.core.store = v.core.store
  version : w.core.version = v.core.version

variable {u v w w' : World} {α β : Type}

theorem SameRules.refl (w : World) : SameRules w w := ⟨rfl, rfl, rfl, rfl, rfl⟩

theorem SameRules.symm (h : SameRules w v) : SameRules v w :=
  ⟨h.defaultNamespace.symm, h.policy.symm, h.settings.symm, h.securityPath.symm, h.documents.symm⟩

theorem SameRules.trans (h : SameRules u v) (h' : SameRules v w) : SameRules u w :=
  ⟨h.defaultNamespace.trans h'.defaultNamespace, h.policy.trans h'.policy, h.settings.trans h'.settings,
    h.securityPath.trans h'.securityPath, h.documents.trans h'.documents⟩

theorem SameState.refl (w : World) : SameState w w := ⟨.refl w, rfl, rfl⟩

theorem SameState.symm (h : SameState w v) : SameState v w :=
  ⟨h.rules.symm, h.store.symm, h.version.symm⟩

theorem SameState.trans (h : SameState u v) (h' : SameState v w) : SameState u w :=
  ⟨h.rules.trans h'.rules, h.store.trans h'.store, h.version.trans h'.version⟩

/-- Flows do the same in the same state. -/
theorem SameState.core (h : SameState w v) : w.core.Same v.core :=
  ⟨h.rules.defaultNamespace, h.rules.policy, h.store, h.version⟩

theorem SameRules.sameState (h : SameRules w v) (same : w.core.Same v.core) : SameState w v :=
  ⟨h, same.store, same.version⟩

/-- Flows do not change the rules. -/
theorem decide_sameRules (flow : Flow) (w : World) : SameRules (decide flow w).2 w := by
  rw [decide_snd]
  exact ⟨Core.after_defaultNamespace w.core flow, Core.after_policy w.core flow, rfl, rfl, rfl⟩

theorem opened_sameState (w : World) : SameState w.opened w := ⟨⟨rfl, rfl, rfl, rfl, rfl⟩, rfl, rfl⟩

theorem conclude_sameState (w : World) : SameState w.conclude w := by
  unfold conclude
  by_cases h : w.core.depth - 1 = 0
  · simp only [h, if_true]
    exact ⟨⟨rfl, rfl, rfl, rfl, rfl⟩, rfl, rfl⟩
  · simp only [h, if_false]
    exact ⟨⟨rfl, rfl, rfl, rfl, rfl⟩, rfl, rfl⟩

theorem noteApplied_sameState (w : World) : SameState w.noteApplied w :=
  ⟨⟨rfl, rfl, rfl, rfl, rfl⟩, rfl, rfl⟩

/-- Rolling back leaves the rules as the transaction made them. -/
theorem rollBack_sameRules (before after : World) : SameRules (rollBack before after) after :=
  ⟨rfl, rfl, rfl, rfl, rfl⟩

/-- Rolling back restores the tables, and the indexes with them. -/
theorem rollBack_store {before : World} (sound : before.core.store.Sound) (after : World) :
    (rollBack before after).core.store = before.core.store :=
  sound.ofSnapshot before.core.version

theorem rollBack_version (before after : World) :
    (rollBack before after).core.version = before.core.version := rfl

/-- Flows were requested one after the other, and all of them succeeded. -/
structure Did (flows : List Flow) (w after : World) : Prop where
  passes : w.core.Passes flows
  core : after.core = w.core.afterAll flows
  rules : SameRules after w
  surroundings : SameSurroundings after w
  books : after.journal.books = w.journal.books.allowAll w.core flows

theorem Did.nil (w : World) : Did [] w w := ⟨trivial, rfl, .refl w, .refl w, rfl⟩

theorem Did.append {flows more : List Flow} (h : Did flows u v) (h' : Did more v w) :
    Did (flows ++ more) u w where
  passes := Core.passes_append.mpr ⟨h.passes, h.core ▸ h'.passes⟩
  core := by rw [Core.afterAll_append, ← h.core, h'.core]
  rules := h'.rules.trans h.rules
  surroundings := h'.surroundings.trans h.surroundings
  books := by
    have hdepth : v.core.depth = u.core.depth := by rw [h.core, Core.afterAll_depth]
    rw [Books.allowAll_append, ← h.books, h'.books, Books.allowAll_congr hdepth]

/-- A request that only writes to the log does no flows. -/
theorem did_of_note {journal : Journal} (books : journal.books = w.journal.books)
    (context : journal.context = w.journal.context) (requestId : journal.requestId = w.journal.requestId) :
    Did [] w { w with journal } :=
  ⟨trivial, rfl, ⟨rfl, rfl, rfl, rfl, rfl⟩, ⟨context, requestId⟩, books⟩

theorem did_of_decide {flow : Flow} {answer : Answer} (h : decide flow w = (.ok answer, w')) :
    Did [flow] w w' := by
  have hanswer : (decide flow w).1 = .ok answer := congrArg Prod.fst h
  obtain rfl : (decide flow w).2 = w' := congrArg Prod.snd h
  rw [decide_fst, map_eq_ok_iff] at hanswer
  obtain ⟨effect, hattempt, -⟩ := hanswer
  exact ⟨⟨⟨effect, hattempt⟩, trivial⟩, decide_core flow w, decide_sameRules flow w,
    decide_surroundings flow w, decide_books_of_ok hattempt⟩

/-- Flows were requested one after the other up to the first one that failed. -/
def Stopped (flows : List Flow) (w after : World) (failure : Failure) : Prop :=
  ∃ done flow rest v, flows = done ++ flow :: rest ∧ Did done w v ∧ decide flow v = (.error failure, after)

/-- The end of a request that asks for flows: all of them were done, or one of them stopped it. -/
def Follows (flows : List Flow) (w : World) : Except Failure α × World → Prop
  | (.ok _, after) => Did flows w after
  | (.error failure, after) => Stopped flows w after failure

/-- A request whose answer can be read off has succeeded. -/
theorem ok_of_toOption_map {request : Request α} {reading : α → β} {b : β}
    (h : (request w).1.toOption.map reading = some b) : ∃ a w', request w = (.ok a, w') ∧ reading a = b := by
  cases hrequest : request w with
  | mk outcome after =>
      rw [hrequest] at h
      cases outcome with
      | error failure => cases h
      | ok a => exact ⟨a, after, rfl, Option.some.inj h⟩

/-- A request with an answer leaves a world beside it. -/
theorem eq_ok_of_fst {request : Request α} {a : α} (h : (request w).1 = .ok a) :
    ∃ w', request w = (.ok a, w') := ⟨(request w).2, Prod.ext h rfl⟩

/-- Two requests succeed one after the other when both succeed. -/
theorem andThen_eq_ok_iff {first : Request α} {next : α → Request β} {b : β} :
    andThen first next w = (.ok b, w') ↔ ∃ a v, first w = (.ok a, v) ∧ next a v = (.ok b, w') := by
  unfold andThen
  cases hfirst : first w with
  | mk outcome v =>
      cases outcome with
      | error failure => simp
      | ok a => simp

/-- The flows of two requests follow one another. Flows that stop the first one stop both. -/
theorem follows_andThen {first : Request α} {next : α → Request β} {flows : List Flow}
    (more : Core → List Flow) (hfirst : Follows flows w (first w))
    (hnext : ∀ a v, first w = (.ok a, v) → Follows (more v.core) v (next a v)) :
    Follows (flows ++ more (w.core.afterAll flows)) w (andThen first next w) := by
  unfold andThen
  cases h : first w with
  | mk outcome v =>
      rw [h] at hfirst
      cases outcome with
      | error failure =>
          obtain ⟨done, flow, rest, u, rfl, hdid, hfails⟩ := hfirst
          exact ⟨done, flow, rest ++ more (w.core.afterAll (done ++ flow :: rest)), u, by simp, hdid, hfails⟩
      | ok a =>
          have hdid : Did flows w v := hfirst
          have hmore := hnext a v h
          rw [← hdid.core]
          change Follows (flows ++ more v.core) w (next a v)
          cases hlast : next a v with
          | mk outcome' after =>
              rw [hlast] at hmore
              cases outcome' with
              | ok b => exact hdid.append hmore
              | error failure =>
                  obtain ⟨done, flow, rest, u, hflows, hdone, hfails⟩ := hmore
                  exact ⟨flows ++ done, flow, rest, u, by rw [hflows, List.append_assoc],
                    hdid.append hdone, hfails⟩

theorem follows_perform (flow : Flow) (w : World) : Follows [flow] w (perform flow w) := by
  unfold perform
  cases h : decide flow w with
  | mk outcome after =>
      cases outcome with
      | ok answer => exact did_of_decide h
      | error failure => exact ⟨[], flow, [], w, rfl, Did.nil w, h⟩

/-- The flows that a list of items asks for, each at the core that the ones before it left. -/
def flowsOf (flows : α → Core → List Flow) : List α → Core → List Flow
  | [], _ => []
  | a :: rest, core => flows a core ++ flowsOf flows rest (core.afterAll (flows a core))

theorem follows_each {request : α → Request Unit} {flows : α → Core → List Flow} {items : List α}
    (h : ∀ a ∈ items, ∀ w, Follows (flows a w.core) w (request a w)) (w : World) :
    Follows (flowsOf flows items w.core) w (each request items w) := by
  induction items generalizing w with
  | nil => exact Did.nil w
  | cons a rest ih =>
      exact follows_andThen (flowsOf flows rest) (h a List.mem_cons_self w)
        fun _ v _ => ih (fun b hb => h b (List.mem_cons_of_mem _ hb)) v

/-- The flow of a planned registration. -/
def registrationFlows (caller : Int) (item : PlannedRegistration) (core : Core) : List Flow :=
  match registrationFlow core.store caller item with
  | .ok flow => [flow]
  | .error _ => []

theorem registrationFlows_resource {core : Core} {caller : Int} {tag home space name : String} {key : Int}
    {kind : ResourceKind} (split : Tag.split? tag none = some (home, name)) :
    registrationFlows caller (.resource tag key space kind) core =
      [.registerResource caller (.int (core.store.namespaceSelector space)) name kind.word
        (some (.int key))] := by
  have hsplit : Tag.split tag none = .ok (home, name) := Tag.split_eq_ok_iff.mpr split
  simp only [registrationFlows, registrationFlow, hsplit, Except.map]

/-- The flow that confirms a declared kind. -/
def confirmationFlows (spec : ResourceSpec) (core : Core) : List Flow :=
  match core.store.resources.getByTag? spec.tag with
  | some record => [.resolveKind (.int record.selector) spec.kind.word]
  | none => []

/-- The flows of an application, from the core at which its transaction is entered. -/
def applicationFlows (plan : Plan) (m : Manifest) (caller : Int) (core : Core) : List Flow :=
  let registrations := flowsOf (registrationFlows caller) plan.registrations core
  let confirmations := flowsOf confirmationFlows m.resources (core.afterAll registrations)
  registrations ++ (confirmations ++
    (plan.grants.map (grantFlow caller) ++ plan.revokes.map (revokeFlow caller)))

theorem mem_flowsOf {flows : α → Core → List Flow} {items : List α} {core : Core} {flow : Flow}
    (h : flow ∈ flowsOf flows items core) : ∃ a ∈ items, ∃ core, flow ∈ flows a core := by
  induction items generalizing core with
  | nil => cases h
  | cons a rest ih =>
      rcases List.mem_append.mp h with hfirst | hrest
      · exact ⟨a, List.mem_cons_self, core, hfirst⟩
      · obtain ⟨b, hb, hlater⟩ := ih hrest
        exact ⟨b, List.mem_cons_of_mem _ hb, hlater⟩

theorem flowsOf_append (flows : α → Core → List Flow) (items more : List α) (core : Core) :
    flowsOf flows (items ++ more) core =
      flowsOf flows items core ++ flowsOf flows more (core.afterAll (flowsOf flows items core)) := by
  induction items generalizing core with
  | nil => rfl
  | cons a rest ih =>
      rw [List.cons_append, flowsOf, flowsOf, ih, List.append_assoc, Core.afterAll_append]

theorem flowsOf_singleton (flow : α → Flow) (items : List α) (core : Core) :
    flowsOf (fun a _ => [flow a]) items core = items.map flow := by
  induction items generalizing core with
  | nil => rfl
  | cons a rest ih => rw [flowsOf, ih, List.map_cons, List.singleton_append]

/-- A planned registration is carried out by its flow. -/
theorem follows_carryOut {item : PlannedRegistration} (whole : item.Whole) (caller : Int) (w : World) :
    Follows (registrationFlows caller item w.core) w (carryOut caller item w) := by
  have hflow : ∃ flow, registrationFlow w.core.store caller item = .ok flow := by
    cases item with
    | space name selector => exact ⟨_, rfl⟩
    | resource tag selector space kind =>
        obtain ⟨names, hsplit⟩ := whole
        exact ⟨_, map_eq_ok_iff.mpr ⟨names, Tag.split_eq_ok_iff.mpr hsplit, rfl⟩⟩
  obtain ⟨flow, hflow⟩ := hflow
  unfold carryOut registrationFlows
  rw [hflow]
  exact follows_perform flow w

theorem follows_confirmKind (spec : ResourceSpec) (w : World) :
    Follows (confirmationFlows spec w.core) w (confirmKind spec w) := by
  unfold confirmKind confirmationFlows
  cases w.core.store.resources.getByTag? spec.tag with
  | none => exact Did.nil w
  | some record => exact follows_perform _ w

theorem follows_performs (flow : α → Flow) (items : List α) (w : World) :
    Follows (items.map flow) w (each (fun a => perform (flow a)) items w) := by
  rw [← flowsOf_singleton flow items w.core]
  exact follows_each (fun a _ w => follows_perform (flow a) w) w

variable {m : Manifest} {caller : Int} {p : Plan}

/-- Planning succeeds when the plan can be made, and does no flows. -/
theorem plan_eq_ok (h : plan m w = (.ok p, w')) :
    Plan.of w.core.store w.core.version m = .ok p ∧ Did [] w w' := by
  unfold plan at h
  cases hplan : Plan.of w.core.store w.core.version m with
  | error failure =>
      rw [hplan] at h
      cases h
  | ok made =>
      rw [hplan] at h
      cases h
      exact ⟨rfl, did_of_note rfl rfl rfl⟩

theorem plan_of_eq_ok (h : Plan.of w.core.store w.core.version m = .ok p) :
    ∃ w', plan m w = (.ok p, w') := by
  unfold plan
  rw [h]
  exact ⟨_, rfl⟩

theorem plan_of_eq_error {failure : Failure} (h : Plan.of w.core.store w.core.version m = .error failure) :
    plan m w = (.error failure, w) := by
  unfold plan
  rw [h]

/-- Planning changes nothing but the journal. -/
theorem plan_sameState (m : Manifest) (w : World) : SameState (plan m w).2 w := by
  unfold plan
  cases Plan.of w.core.store w.core.version m with
  | error failure => exact SameState.refl w
  | ok made => exact ⟨⟨rfl, rfl, rfl, rfl, rfl⟩, rfl, rfl⟩

/-- A plan that can be made is carried out flow by flow. -/
theorem follows_planAndCarryOut (h : Plan.of w.core.store w.core.version m = .ok p) (caller : Int) :
    Follows (applicationFlows p m caller w.core) w (planAndCarryOut m caller w) := by
  obtain ⟨v₀, hplan⟩ := plan_of_eq_ok h
  have hplanned : Follows [] w (plan m w) := by
    rw [hplan]
    exact (plan_eq_ok hplan).2
  have hwhole : ∀ item ∈ p.registrations, item.Whole := fun _ => Plan.whole_of_planned h
  refine follows_andThen (applicationFlows p m caller) hplanned fun made v hmade => ?_
  obtain rfl : p = made := by
    rw [hplan] at hmade
    exact Except.ok.inj (congrArg Prod.fst hmade)
  have hregister := follows_each (fun item hitem => follows_carryOut (hwhole item hitem) caller) v
  refine follows_andThen (fun core => flowsOf confirmationFlows m.resources core ++
    (p.grants.map (grantFlow caller) ++ p.revokes.map (revokeFlow caller))) hregister fun _ v₁ _ => ?_
  have hconfirm := follows_each (fun spec (_ : spec ∈ m.resources) => follows_confirmKind spec) v₁
  refine follows_andThen (fun _ => p.grants.map (grantFlow caller) ++ p.revokes.map (revokeFlow caller))
    hconfirm fun _ v₂ _ => ?_
  have hgrant := follows_performs (grantFlow caller) p.grants v₂
  refine follows_andThen (fun _ => p.revokes.map (revokeFlow caller)) hgrant fun _ v₃ _ => ?_
  have hrevoke := follows_performs (revokeFlow caller) p.revokes v₃
  rw [← List.append_nil (p.revokes.map (revokeFlow caller))]
  exact follows_andThen (fun _ => []) hrevoke fun _ v₄ _ => Did.nil v₄

/-- Planning and carrying out answers the plan that was made, and has done all of its flows. -/
theorem planAndCarryOut_eq_ok (h : planAndCarryOut m caller w = (.ok p, w')) :
    Plan.of w.core.store w.core.version m = .ok p ∧ Did (applicationFlows p m caller w.core) w w' := by
  obtain ⟨made, v₀, hplan, hrest⟩ := andThen_eq_ok_iff.mp h
  obtain ⟨_, v₁, -, hrest⟩ := andThen_eq_ok_iff.mp hrest
  obtain ⟨_, v₂, -, hrest⟩ := andThen_eq_ok_iff.mp hrest
  obtain ⟨_, v₃, -, hrest⟩ := andThen_eq_ok_iff.mp hrest
  obtain ⟨_, v₄, -, hrest⟩ := andThen_eq_ok_iff.mp hrest
  obtain rfl : made = p := Except.ok.inj (congrArg Prod.fst hrest)
  have hof := (plan_eq_ok hplan).1
  have hfollows := follows_planAndCarryOut hof caller
  rw [h] at hfollows
  exact ⟨hof, hfollows⟩

/-- Planning and carrying out fails where the plan cannot be made, or stops at one of its flows. -/
theorem planAndCarryOut_eq_error {failure : Failure} (h : planAndCarryOut m caller w = (.error failure, w')) :
    (Plan.of w.core.store w.core.version m = .error failure ∧ w' = w) ∨
      ∃ p, Plan.of w.core.store w.core.version m = .ok p ∧
        Stopped (applicationFlows p m caller w.core) w w' failure := by
  cases hof : Plan.of w.core.store w.core.version m with
  | error refusal =>
      unfold planAndCarryOut andThen at h
      rw [plan_of_eq_error hof] at h
      cases h
      exact Or.inl ⟨rfl, rfl⟩
  | ok p =>
      have hfollows := follows_planAndCarryOut hof caller
      rw [h] at hfollows
      exact Or.inr ⟨p, rfl, hfollows⟩

/-- A transaction succeeds when its body does. -/
theorem transaction_eq_ok_iff {body : Request α} {a : α} :
    transaction body w = (.ok a, w') ↔ ∃ v, body w.opened = (.ok a, v) ∧ v.conclude = w' := by
  unfold transaction
  cases hbody : body w.opened with
  | mk outcome v =>
      cases outcome with
      | error failure => simp
      | ok b =>
          simp only [close, Prod.mk.injEq, Except.ok.injEq]
          constructor
          · rintro ⟨rfl, rfl⟩
            exact ⟨v, ⟨rfl, rfl⟩, rfl⟩
          · rintro ⟨v, ⟨rfl, rfl⟩, rfl⟩
            exact ⟨rfl, rfl⟩

/-- A transaction fails when its body does, and is rolled back. -/
theorem transaction_eq_error_iff {body : Request α} {failure : Failure} :
    transaction body w = (.error failure, w') ↔
      ∃ v, body w.opened = (.error failure, v) ∧ rollBack w v = w' := by
  unfold transaction
  cases hbody : body w.opened with
  | mk outcome v =>
      cases outcome with
      | ok a => simp
      | error other =>
          simp only [close, Prod.mk.injEq, Except.error.injEq]
          constructor
          · rintro ⟨rfl, rfl⟩
            exact ⟨v, ⟨rfl, rfl⟩, rfl⟩
          · rintro ⟨v, ⟨rfl, rfl⟩, rfl⟩
            exact ⟨rfl, rfl⟩

/-- An application that succeeds does all the flows of its plan in a transaction. -/
theorem apply_did (h : apply m caller w = (.ok p, w')) :
    Plan.of w.core.store w.core.version m = .ok p ∧
      ∃ last, Did (applicationFlows p m caller w.opened.core) w.opened last ∧
        last.conclude.noteApplied = w' := by
  obtain ⟨made, v, htransaction, h⟩ := andThen_eq_ok_iff.mp h
  obtain ⟨last, hbody, rfl⟩ := transaction_eq_ok_iff.mp htransaction
  cases h
  obtain ⟨hof, hdid⟩ := planAndCarryOut_eq_ok hbody
  exact ⟨hof, last, hdid, rfl⟩

/-- An application that fails is rolled back, from where the plan could not be made, or else from
where one of its flows stopped it. -/
theorem apply_stopped {failure : Failure} (h : apply m caller w = (.error failure, w')) :
    ∃ last, rollBack w last = w' ∧
      ((Plan.of w.core.store w.core.version m = .error failure ∧ last = w.opened) ∨
        ∃ p, Plan.of w.core.store w.core.version m = .ok p ∧
          Stopped (applicationFlows p m caller w.opened.core) w.opened last failure) := by
  have htransaction : transaction (planAndCarryOut m caller) w = (.error failure, w') := by
    unfold apply andThen at h
    cases hbody : transaction (planAndCarryOut m caller) w with
    | mk outcome v =>
        rw [hbody] at h
        cases outcome with
        | ok p => cases h
        | error other => exact h
  obtain ⟨last, hbody, hrolled⟩ := transaction_eq_error_iff.mp htransaction
  exact ⟨last, hrolled, planAndCarryOut_eq_error hbody⟩

/-- An application that succeeds does all the flows of its plan, and changes no rules. -/
theorem apply_eq_ok (h : apply m caller w = (.ok p, w')) :
    Plan.of w.core.store w.core.version m = .ok p ∧
      w.core.Passes (applicationFlows p m caller w.opened.core) ∧
      w'.core.Same (w.core.afterAll (applicationFlows p m caller w.opened.core)) ∧ SameRules w' w := by
  obtain ⟨hof, last, hdid, rfl⟩ := apply_did h
  have hopened := (opened_sameState w).symm
  have hconcluded := (noteApplied_sameState last.conclude).trans (conclude_sameState last)
  have hsame := hopened.core.symm.afterAll (applicationFlows p m caller w.opened.core)
  rw [← hdid.core] at hsame
  refine ⟨hof, hopened.core.passes hdid.passes, hconcluded.core.trans hsame, ?_⟩
  exact hconcluded.rules.trans (hdid.rules.trans hopened.rules.symm)

/-- Flows that stop change no rules. -/
theorem Stopped.rules {flows : List Flow} {failure : Failure} (h : Stopped flows w w' failure) :
    SameRules w' w := by
  obtain ⟨done, flow, rest, v, -, hdid, hfails⟩ := h
  have hrules := decide_sameRules flow v
  rw [hfails] at hrules
  exact hrules.trans hdid.rules

/-- An application that fails leaves the state as it is. -/
theorem apply_eq_error {failure : Failure} (sound : w.core.store.Sound)
    (h : apply m caller w = (.error failure, w')) : SameState w' w := by
  obtain ⟨last, rfl, hlast⟩ := apply_stopped h
  have hrules : SameRules last w.opened := by
    rcases hlast with ⟨-, rfl⟩ | ⟨p, -, hstopped⟩
    · exact .refl _
    · exact hstopped.rules
  refine ⟨(rollBack_sameRules w last).trans (hrules.trans (opened_sameState w).rules), ?_, rfl⟩
  exact rollBack_store sound last

end OwnershipRegistry.World
