import OwnershipRegistry.Proofs.CommitCount

/-!
# The two records of a denial

A denied flow leaves an entry in the buffer of recent denials and a record in
the log. What the log says is put together from the decision alone, and the
details of a denial stand over its other fields without changing them. The
entry begins with the kind and the message of the denial, but then the ambient
fields are put over both. So the two records tell the same of the flow, its
caller and the details, whatever the ambient fields are, and the same of the
kind and the message exactly if no ambient field has the name of either.
-/

namespace OwnershipRegistry

namespace Denial

variable {denial : Denial} {caller? : Option Int}

/-- The details of a denial as they are recorded, each by its text. -/
def rendered (denial : Denial) : Fields := denial.shownDetails.map fun d => (d.1, .str d.2)

/-- The names that no detail has, since a logged decision needs them. -/
def reserved : List String := ["event", "flow", "decision", "version", "error"]

theorem rendered_names (denial : Denial) : denial.rendered.map (·.1) = denial.details.map (·.1) := by
  simp [rendered, shownDetails, Function.comp_def]

/-- No two details of a denial have the same name. -/
theorem MetBy.distinct (h : denial.MetBy caller?) : (denial.rendered.map (·.1)).Nodup := by
  rw [rendered_names]
  cases denial with
  | other => cases h
  | _ => simp [details]

/-- No detail of a denial has the name of another field of a logged decision than the caller. -/
theorem MetBy.apart (h : denial.MetBy caller?) {name : String} (hname : name ∈ reserved) :
    name ∉ denial.rendered.map (·.1) := by
  have hapart : ∀ name ∈ denial.details.map (·.1), name ∉ reserved := by
    cases denial with
    | other => cases h
    | _ => simp [details, reserved]
  rw [rendered_names]
  exact fun hmem => hapart name hmem hname

/-- A caller among the details is recorded as every other field records the flow's own. -/
theorem MetBy.caller_eq (h : denial.MetBy caller?) {value : Value}
    (hvalue : ("caller", value) ∈ denial.rendered) : value = Context.callerField caller? := by
  cases denial with
  | other => cases h
  | namespaceWriteRefused | notOwner | notOwnerForUpgrade | notAccount | writeRefused =>
      obtain rfl : caller? = some _ := h
      simpa [rendered, shownDetails, details, Context.callerField, Value.felt] using hvalue
  | _ => simp [rendered, shownDetails, details] at hvalue

variable {context : Context}

/-- An ambient field called "event" stands in an entry instead of the kind of the denial. -/
theorem entry_event (distinct : context.keys.Nodup) (denial : Denial) (request : Value) (flow : Flow) :
    (denial.entry context request flow).get? "event" =
      some ((context.get? "event").getD (.str denial.kind)) := by
  rw [entry_get? distinct denial request flow (by nofun), Context.enter_of_ne _ _ _ (by decide) (by decide)]
  cases context.get? "event" <;> rfl

/-- An ambient field called "message" stands in an entry instead of the message of the denial. -/
theorem entry_message (distinct : context.keys.Nodup) (denial : Denial) (request : Value) (flow : Flow) :
    (denial.entry context request flow).get? "message" =
      some ((context.get? "message").getD (.str denial.message)) := by
  rw [entry_get? distinct denial request flow (by nofun), Context.enter_of_ne _ _ _ (by decide) (by decide)]
  cases context.get? "message" <;> rfl

/-- Where a denial has no details, an ambient field called "details" stands in the entry. -/
theorem entry_undetailed (distinct : context.keys.Nodup) {denial : Denial} (about : denial.details = [])
    (request : Value) (flow : Flow) :
    (denial.entry context request flow).get? "details" = context.get? "details" := by
  rw [entry_get?_ambient distinct denial request flow (fun _ => about) (by decide)]
  exact Context.enter_of_ne _ _ _ (by decide) (by decide)

end Denial

/-- A field that stands instead of another value leaves that value if it is the same. -/
theorem some_getD_eq_some_iff {α : Type} {given : Option α} {value : α} :
    some (given.getD value) = some value ↔ ∀ other, given = some other → other = value := by
  cases given <;> simp

/-- A log record says that a flow was denied: by which denial, to whom, and at which version. -/
structure Tells (flow : Flow) (denial : Denial) (version : Nat) (said : Context) : Prop where
  event : said.get? "event" = some (.str "access.decision")
  decision : said.get? "decision" = some (.str "deny")
  kind : said.get? "error" = some (.str denial.kind)
  version : said.get? "version" = some (.int version)
  flowNamed : said.get? "flow" = some (.str flow.name)
  callerNamed : said.get? "caller" = some (Context.callerField flow.caller?)
  detailed : ∀ name value, (name, value) ∈ denial.rendered → said.get? name = some value

namespace World

variable {w : World} {flow : Flow} {denial : Denial}

/-- The fields that the log says of a denial. -/
def saidOf (flow : Flow) (denial : Denial) (version : Nat) : Context :=
  ⟨decisionFields flow .deny version (("error", .str denial.kind) :: denial.rendered)⟩

/-- Those of the fields that are no details. -/
def saidApart (flow : Flow) (denial : Denial) (version : Nat) : Fields :=
  [("error", .str denial.kind), ("event", .str "access.decision"), ("flow", .str flow.name),
    ("caller", Context.callerField flow.caller?), ("decision", .str "deny"), ("version", .int version)]

/-- The details stand over the other fields. -/
theorem saidOf_get? (met : denial.MetBy flow.caller?) (version : Nat) (name : String) :
    (saidOf flow denial version).get? name =
      (Table.find name denial.rendered).or (Table.find name (saidApart flow denial version)) := by
  let base := (saidApart flow denial version).tail
  have hbase : Table.last? name base = Table.find name base :=
    Table.last?_eq_find (by simp [base, saidApart]) name
  -- Later fields prevail: the details, then the kind of the denial, then what every decision says.
  calc
    (saidOf flow denial version).get? name =
        (Table.last? name (base ++ ("error", .str denial.kind) :: denial.rendered)).or none :=
      Table.get?_putAll_eq_last? .empty _ name
    _ = (Table.find name denial.rendered).or
          (Option.or (if "error" = name then some (.str denial.kind) else none) (Table.find name base)) := by
      rw [Option.or_none, Table.last?_append, Table.last?_cons, Table.last?_eq_find met.distinct, hbase,
        Option.or_assoc]
    _ = (Table.find name denial.rendered).or (Table.find name (saidApart flow denial version)) := by
      by_cases hname : "error" = name <;> simp [Table.find, base, saidApart, hname]

/-- What the log says of a denial to the flow's own caller. -/
theorem tells_saidOf (met : denial.MetBy flow.caller?) (version : Nat) :
    Tells flow denial version (saidOf flow denial version) := by
  have hreserved : ∀ name ∈ Denial.reserved, (saidOf flow denial version).get? name =
      Table.find name (saidApart flow denial version) := by
    intro name hname
    rw [saidOf_get? met, Table.find_eq_none_iff.mpr (met.apart hname), Option.none_or]
  constructor
  · exact hreserved "event" (by decide)
  · exact hreserved "decision" (by decide)
  · exact hreserved "error" (by decide)
  · exact hreserved "version" (by decide)
  · exact hreserved "flow" (by decide)
  · -- A caller among the details is the flow's own, so both fields of that name tell the same.
    rw [saidOf_get? met]
    cases hfound : Table.find "caller" denial.rendered with
    | some value =>
        rw [met.caller_eq (Table.mem_of_find hfound)]
        rfl
    | none => rfl
  · intro name value hmem
    rw [saidOf_get? met, Table.find_of_mem met.distinct hmem]
    rfl

/-- A denial is recorded in the buffer and said in the log. -/
theorem journal_of_denied (h : w.core.attempt flow = .error (.denied denial)) :
    let before := w.journal
    let after := (decide flow w).2.journal
    after.denials = before.denials.push (denial.entry before.context before.requestId flow) ∧
      after.log = before.log ++ [{
        level := .info, logger := "world_registry.access"
        message := .ofFields (saidOf flow denial w.core.version).entries
        context := before.context.enter flow.name flow.caller?, requestId := before.requestId }] := by
  unfold decide
  rw [h]
  exact ⟨rfl, rfl⟩

variable {start : Journal} {entries : List Moment} {now : Moment} {ds : List Decision}

/-- Every flow that is denied leaves one entry in the buffer and one record in the log, and both tell the
flow, its caller and the texts of the details, whatever the ambient fields are. The entry tells the same
kind as the record exactly if no ambient field called "event" tells another, and the message of the
denial exactly if no ambient field called "message" tells another. Where there are no details to tell,
the entry has those of the ambient fields. -/
theorem denial_recorded_twice (fresh : start.context.keys.Nodup) (run : Counted start entries now ds)
    (denied : (decide flow now.world).1 = .error (.denied denial)) :
    let before := now.world.journal
    let after := (decide flow now.world).2.journal
    ∃ entry said record, after.denials = before.denials.push entry ∧ after.log = before.log ++ [record] ∧
      record.message = .ofFields said.entries ∧ Records flow denial entry ∧
      Tells flow denial now.world.core.version said ∧
      (entry.get? "event" = said.get? "error" ↔
        ∀ value, before.context.get? "event" = some value → value = .str denial.kind) ∧
      (entry.get? "message" = some (.str denial.message) ↔
        ∀ value, before.context.get? "message" = some value → value = .str denial.message) ∧
      (denial.details = [] → entry.get? "details" = before.context.get? "details") := by
  intro before after
  have hattempt : now.world.core.attempt flow = .error (.denied denial) := by
    rw [decide_fst] at denied
    exact map_eq_error_iff.mp denied
  have hmet : denial.MetBy flow.caller? := by
    cases Core.metBy_attempt run.run.sound flow _ hattempt with
    | denied h => exact h
    | malformed h => cases h
  have hdistinct : before.context.keys.Nodup := run.distinct fresh
  have hsaid := tells_saidOf hmet now.world.core.version
  obtain ⟨hdenials, hlog⟩ := journal_of_denied hattempt
  refine ⟨_, _, _, hdenials, hlog, rfl, Denial.entry_records hdistinct denial _ flow, hsaid, ?_, ?_, ?_⟩
  · rw [hsaid.kind, Denial.entry_event hdistinct]
    exact some_getD_eq_some_iff
  · rw [Denial.entry_message hdistinct]
    exact some_getD_eq_some_iff
  · exact fun about => Denial.entry_undetailed hdistinct about _ flow

/-- The bare world with some ambient fields. -/
def ambient (fields : Fields) : World := (Call.run (.updateContext fields) bare).2

theorem counted_ambient (fields : Fields) : Counted (.fresh false) [] ⟨ambient fields, []⟩ [] :=
  (Counted.created create_bare).called (.updateContext fields)

/-- There are no ambient fields in a fresh journal. -/
theorem nodup_fresh (mirrored : Bool) : (Journal.fresh mirrored).context.keys.Nodup := List.nodup_nil

theorem context_ambient (fields : Fields) : (ambient fields).journal.context = Context.update .empty fields :=
  congrArg (Context.update · fields) (noted_create create_bare).context

/-- A caller who is no account is refused a namespace, while the ambient fields are called like those in
which both records agree. -/
theorem denial_recorded_twice_ambient :
    let w := ambient [("flow", .str "tick"), ("caller", .str "tock")]
    let flow : Flow := .registerNamespace 2 "arena" none
    (decide flow w).1 = .error (.denied (.notAccount 2)) ∧
      ∃ entry said : Context, (decide flow w).2.journal.denials = w.journal.denials.push entry ∧
        (entry.get? "event" = said.get? "error" ∧
          entry.get? "message" = some (.str (Denial.notAccount 2).message)) ∧
        (entry.get? "flow" = some (.str "register_namespace") ∧ said.get? "flow" = entry.get? "flow") ∧
        (entry.get? "caller" = some (.str "0x2") ∧ said.get? "caller" = entry.get? "caller") ∧
        entry.get? "details" = some (.ofFields [("caller", .str "0x2")]) := by
  intro w flow
  have hdenied : (decide flow w).1 = .error (.denied (.notAccount 2)) := by rfl
  have hcontext : w.journal.context = _ := context_ambient _
  obtain ⟨entry, said, -, hdenials, -, -, hrecords, hsaid, hevent, hmessage, -⟩ :=
    denial_recorded_twice (nodup_fresh false) (counted_ambient _) hdenied
  refine ⟨hdenied, entry, said, hdenials, ⟨hevent.mpr ?_, hmessage.mpr ?_⟩, ⟨hrecords.flowNamed, ?_⟩,
    ⟨hrecords.callerNamed, ?_⟩, hrecords.detailed (by decide)⟩
  · intro value hvalue
    rw [hcontext] at hvalue
    cases hvalue
  · intro value hvalue
    rw [hcontext] at hvalue
    cases hvalue
  · exact hsaid.flowNamed.trans hrecords.flowNamed.symm
  · exact hsaid.callerNamed.trans hrecords.callerNamed.symm

/-- Where ambient fields are called "event" and "message", the entry tells these instead of the kind and
the message of the denial, and the log says the kind. -/
theorem denial_recorded_twice_fails :
    let w := ambient [("event", .str "tick"), ("message", .str "tock")]
    let flow : Flow := .registerNamespace 2 "arena" (some (.int 7))
    Reachable w ∧ (decide flow w).1 = .error (.denied (.notAccount 2)) ∧
      ∃ (entry said : Context) (record : LogRecord),
        (decide flow w).2.journal.denials = w.journal.denials.push entry ∧
        (decide flow w).2.journal.log = w.journal.log ++ [record] ∧
        record.message = .ofFields said.entries ∧
        entry.get? "event" = some (.str "tick") ∧ said.get? "error" = some (.str "caller_not_account") ∧
        entry.get? "message" = some (.str "tock") ∧
        (Denial.notAccount 2).message = "Caller `0x2` is not an account." := by
  intro w flow
  have hcounted := counted_ambient [("event", .str "tick"), ("message", .str "tock")]
  have hattempt : w.core.attempt flow = .error (.denied (.notAccount 2)) := by rfl
  have hcontext : w.journal.context = _ := context_ambient _
  have hdistinct : w.journal.context.keys.Nodup := hcounted.distinct (nodup_fresh false)
  have hmet : (Denial.notAccount 2).MetBy flow.caller? := rfl
  have hsaid := tells_saidOf hmet w.core.version
  obtain ⟨hdenials, hlog⟩ := journal_of_denied hattempt
  refine ⟨⟨_, _, hcounted.run⟩, by rfl, _, _, _, hdenials, hlog, rfl, ?_, hsaid.kind, ?_, by decide⟩
  · rw [Denial.entry_event hdistinct, hcontext]
    rfl
  · rw [Denial.entry_message hdistinct, hcontext]
    rfl

end World

end OwnershipRegistry
