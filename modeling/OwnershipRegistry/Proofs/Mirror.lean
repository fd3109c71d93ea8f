import Mathlib.Algebra.BigOperators.Group.List.Basic
import Mathlib.Data.List.DropRight
import OwnershipRegistry.Proofs.Accounting
import OwnershipRegistry.Proofs.ReadBack

/-!
# Counters and their mirror

The counters tell what was counted since they were last reset, and the mirror
tells what was counted at all. What the counters told before each reset adds up,
with what they tell now, to what the mirror tells.
-/

namespace OwnershipRegistry

/-- A call to the counters. -/
inductive MetricsCall where
  | decision (flow : String) (verdict : Verdict) (kind? : Option String)
  | commit
  | reset
deriving DecidableEq

/-- What is counted under one label: the decisions about a flow that come out in one way, or the
denials of a kind. -/
inductive Series where
  | decisions (flow : String) (verdict : Verdict)
  | denials (kind : String)

namespace MetricsCall

/-- Whether a call counts in a series. The empty kind is none. -/
def counts (s : Series) : MetricsCall → Bool
  | decision flow verdict kind? =>
    match s with
    | .decisions name v => flow = name && verdict = v
    | .denials kind => kind? = some kind && kind ≠ ""
  | _ => false

/-- Whether a call is a decision with a verdict. -/
def decides (verdict : Verdict) : MetricsCall → Bool
  | decision _ v _ => v = verdict
  | _ => false

/-- How the decisions about a flow came out in some calls. -/
def tallyIn (calls : List MetricsCall) (flow : String) : Tally :=
  ⟨calls.countP (counts (.decisions flow .allow)), calls.countP (counts (.decisions flow .deny))⟩

/-- A call at the end that is not counted changes no count. -/
theorem countP_snoc {p : MetricsCall → Bool} {c : MetricsCall} (h : p c = false) (calls : List MetricsCall) :
    (calls ++ [c]).countP p = calls.countP p := by
  rw [List.countP_append, List.countP_singleton, h]
  rfl

theorem tallyIn_snoc (calls : List MetricsCall) (flow name : String) (verdict : Verdict)
    (kind? : Option String) : tallyIn (calls ++ [decision flow verdict kind?]) name =
      if name = flow then (tallyIn calls name).add verdict else tallyIn calls name := by
  unfold tallyIn
  rw [List.countP_append, List.countP_append, List.countP_singleton, List.countP_singleton]
  by_cases hname : name = flow
  · cases verdict <;> simp [counts, hname, Tally.add]
  · simp [counts, hname, Ne.symm hname]

/-- The calls since the last reset. -/
def recent (calls : List MetricsCall) : List MetricsCall := calls.rtakeWhile (· ≠ reset)

theorem recent_snoc (calls : List MetricsCall) (c : MetricsCall) :
    recent (calls ++ [c]) = if c = reset then [] else recent calls ++ [c] := by
  unfold recent
  rw [List.rtakeWhile_concat]
  by_cases h : c = reset <;> simp [h]

theorem recent_of_no_reset {calls : List MetricsCall} (h : reset ∉ calls) : recent calls = calls := by
  apply List.rtakeWhile_eq_self_iff.mpr
  intro c hc
  exact decide_eq_true fun heq => h (heq ▸ hc)

end MetricsCall

/-- A count as a table keeps it: what was never counted is not there. -/
def Table.kept {α : Type} [DecidableEq α] (zero a : α) : Option α := if a = zero then none else some a

theorem Table.getD_kept {α : Type} [DecidableEq α] (zero a : α) : (Table.kept zero a).getD zero = a := by
  unfold Table.kept
  by_cases h : a = zero <;> simp [h]

namespace Metrics

open MetricsCall (counts countP_snoc decides tallyIn recent)

/-- A tally to which a decision was added has one. -/
theorem add_ne_empty (t : Tally) (verdict : Verdict) : t.add verdict ≠ {} := by
  intro h
  have hof := congrArg (·.of verdict) h
  rw [Tally.add_of, if_pos rfl] at hof
  cases verdict <;> cases hof

/-- The counters after a call. -/
def after (m : Metrics) : MetricsCall → Metrics
  | .decision flow verdict kind? => m.decide flow verdict kind?
  | .commit => m.commit 1
  | .reset => m.reset

/-- The counters after several calls. -/
def afterAll (m : Metrics) (calls : List MetricsCall) : Metrics := calls.foldl after m

theorem afterAll_snoc (m : Metrics) (calls : List MetricsCall) (c : MetricsCall) :
    m.afterAll (calls ++ [c]) = (m.afterAll calls).after c := List.foldl_concat ..

/-- The counters as they were just before each reset. -/
def beforeResets (m : Metrics) : List MetricsCall → List Metrics
  | [] => []
  | c :: rest => (if c = .reset then [m] else []) ++ beforeResets (m.after c) rest

theorem beforeResets_snoc (m : Metrics) (calls : List MetricsCall) (c : MetricsCall) :
    m.beforeResets (calls ++ [c]) =
      m.beforeResets calls ++ if c = .reset then [m.afterAll calls] else [] := by
  induction calls generalizing m with
  | nil => simp [beforeResets, afterAll]
  | cons first rest ih =>
      rw [List.cons_append, beforeResets, ih, beforeResets, List.append_assoc]
      rfl

section Counts

/-- A table of counts after one of them has grown. -/
theorem get?_increment {κ : Type} [DecidableEq κ] {t : Table κ Nat} {key : κ} {n : Nat}
    (h : t.get? key = Table.kept 0 n) (counted : κ) :
    (increment t counted).get? key = Table.kept 0 (n + if counted = key then 1 else 0) := by
  unfold increment
  rw [Table.get?_put]
  by_cases hkey : key = counted
  · subst hkey
    rw [h, Table.getD_kept]
    simp [Table.kept]
  · rw [if_neg hkey, if_neg (Ne.symm hkey), h, Nat.add_zero]

variable {t : Table String Nat} {kind : String} {n : Nat}

theorem get?_countKind (h : t.get? kind = Table.kept 0 n) (kind? : Option String) :
    (countKind t kind?).get? kind = Table.kept 0 (n + if kind? = some kind ∧ kind ≠ "" then 1 else 0) := by
  cases kind? with
  | none => simp [countKind, h]
  | some counted =>
      by_cases hempty : counted = ""
      · have hnot : ¬ (some counted = some kind ∧ kind ≠ "") := by
          rintro ⟨hsame, hne⟩
          exact hne (hempty ▸ (Option.some.inj hsame).symm)
        rw [countKind, if_pos hempty, if_neg hnot, h, Nat.add_zero]
      · have hiff : (some counted = some kind ∧ kind ≠ "") ↔ counted = kind := by
          constructor
          · exact fun hboth => Option.some.inj hboth.1
          · rintro rfl
            exact ⟨rfl, hempty⟩
        rw [countKind, if_neg hempty, get?_increment h]
        simp only [hiff]

theorem nodup_countKind (distinct : t.keys.Nodup) (kind? : Option String) :
    (countKind t kind?).keys.Nodup := by
  cases kind? with
  | none => exact distinct
  | some kind =>
      by_cases hempty : kind = ""
      · rwa [countKind, if_pos hempty]
      · rw [countKind, if_neg hempty]
        exact Table.nodup_keys_put distinct kind _

end Counts

/-- The count of a series in the counters. -/
def reading (m : Metrics) : Series → Nat
  | .decisions flow verdict => (m.tally flow).of verdict
  | .denials kind => count m.denials kind

end Metrics

/-- The count of a series in the mirror, if the series is there. -/
def Mirror.series? (m : Mirror) : Series → Option Nat
  | .decisions flow verdict => m.decisions.get? (flow, verdict.word)
  | .denials kind => m.denials.get? kind

namespace Metrics

open MetricsCall (counts countP_snoc decides tallyIn recent)

/-- Counters that have counted some calls since they were last reset, beside a mirror that has counted
all calls. -/
structure Totals (all since : List MetricsCall) (m : Metrics) : Prop where
  mirrored : m.mirrored = true
  tally : ∀ flow, m.decisions.get? flow = Table.kept {} (tallyIn since flow)
  kind : ∀ kind, m.denials.get? kind = Table.kept 0 (since.countP (counts (.denials kind)))
  flowsDistinct : m.decisions.keys.Nodup
  kindsDistinct : m.denials.keys.Nodup
  decided : ∀ verdict, m.decided verdict = since.countP (decides verdict)
  commits : m.commits = since.count .commit
  mirror : ∀ s, m.mirror.series? s = Table.kept 0 (all.countP (counts s))

namespace Totals

variable {all since : List MetricsCall} {m : Metrics}

theorem fresh : Totals [] [] (.fresh true) where
  mirrored := rfl
  tally _ := rfl
  kind _ := rfl
  flowsDistinct := List.nodup_nil
  kindsDistinct := List.nodup_nil
  decided _ := rfl
  commits := rfl
  mirror s := by cases s <;> rfl

/-- A decision is one more in its series, here and in the mirror. -/
theorem decide (h : Totals all since m) (flow : String) (verdict : Verdict) (kind? : Option String) :
    Totals (all ++ [.decision flow verdict kind?]) (since ++ [.decision flow verdict kind?])
      (m.decide flow verdict kind?) where
  mirrored := h.mirrored
  tally name := by
    have hafter : (m.decide flow verdict kind?).decisions =
        m.decisions.put flow (((m.decisions.get? flow).getD {}).add verdict) := rfl
    rw [hafter, Table.get?_put, MetricsCall.tallyIn_snoc, h.tally flow, Table.getD_kept]
    by_cases hname : name = flow
    · subst hname
      rw [if_pos rfl, if_pos rfl, Table.kept, if_neg (add_ne_empty _ verdict)]
    · rw [if_neg hname, if_neg hname, h.tally name]
  kind kind := by
    rw [List.countP_append, List.countP_singleton]
    refine (get?_countKind (h.kind kind) kind?).trans ?_
    simp [counts]
  flowsDistinct := Table.nodup_keys_put h.flowsDistinct flow _
  kindsDistinct := nodup_countKind h.kindsDistinct kind?
  decided other := by
    rw [decided_decide, h.decided, List.countP_append, List.countP_singleton]
    simp [decides]
  commits := by
    rw [List.count_append]
    exact h.commits
  mirror s := by
    have hafter : (m.decide flow verdict kind?).mirror =
        ⟨increment m.mirror.decisions (flow, verdict.word), countKind m.mirror.denials kind?⟩ := by
      unfold Metrics.decide
      rw [h.mirrored, if_pos rfl]
    rw [hafter, List.countP_append, List.countP_singleton]
    cases s with
    | decisions name other =>
        refine (get?_increment (h.mirror (.decisions name other)) (flow, verdict.word)).trans ?_
        simp [counts, Verdict.word_inj]
    | denials kind =>
        refine (get?_countKind (h.mirror (.denials kind)) kind?).trans ?_
        simp [counts]

theorem commit (h : Totals all since m) :
    Totals (all ++ [.commit]) (since ++ [.commit]) (m.commit 1) where
  mirrored := h.mirrored
  tally flow := by
    rw [tallyIn, countP_snoc rfl, countP_snoc rfl]
    exact h.tally flow
  kind kind := by
    rw [countP_snoc rfl]
    exact h.kind kind
  flowsDistinct := h.flowsDistinct
  kindsDistinct := h.kindsDistinct
  decided verdict := by
    rw [countP_snoc rfl]
    exact h.decided verdict
  commits := by
    rw [List.count_append, ← h.commits]
    rfl
  mirror s := by
    rw [countP_snoc rfl]
    exact h.mirror s

/-- A reset empties the counters and leaves the mirror alone. -/
theorem reset (h : Totals all since m) : Totals (all ++ [.reset]) [] m.reset where
  mirrored := h.mirrored
  tally _ := rfl
  kind _ := rfl
  flowsDistinct := List.nodup_nil
  kindsDistinct := List.nodup_nil
  decided _ := rfl
  commits := rfl
  mirror s := by
    rw [countP_snoc rfl]
    exact h.mirror s

/-- After any calls the counters have counted the calls since the last reset, and the mirror all. -/
theorem afterAll (calls : List MetricsCall) : Totals calls (recent calls) ((Metrics.fresh true).afterAll calls) := by
  induction calls using List.reverseRecOn with
  | nil => exact fresh
  | append_singleton calls c ih =>
      rw [MetricsCall.recent_snoc, afterAll_snoc]
      cases c with
      | decision flow verdict kind? => exact ih.decide flow verdict kind?
      | commit => exact ih.commit
      | reset => exact ih.reset

/-- The counters give each series its count. -/
theorem reading_eq (h : Totals all since m) (s : Series) : m.reading s = since.countP (counts s) := by
  cases s with
  | decisions flow verdict =>
      rw [reading, Metrics.tally, h.tally flow, Table.getD_kept]
      cases verdict <;> rfl
  | denials kind => rw [reading, count, h.kind kind, Table.getD_kept]

end Totals

/-- A series was counted as often as the counters told before each reset and since. -/
theorem countP_eq_sum (calls : List MetricsCall) (s : Series) : calls.countP (counts s) =
    (((fresh true).beforeResets calls).map (·.reading s)).sum + (recent calls).countP (counts s) := by
  induction calls using List.reverseRecOn with
  | nil => rfl
  | append_singleton calls c ih =>
      rw [beforeResets_snoc, MetricsCall.recent_snoc]
      by_cases hreset : c = .reset
      · subst hreset
        rw [if_pos rfl, if_pos rfl, countP_snoc rfl, List.map_append, List.sum_append, List.map_singleton,
          List.sum_singleton, (Totals.afterAll calls).reading_eq s, ih]
        rfl
      · rw [if_neg hreset, if_neg hreset, List.append_nil, List.countP_append, List.countP_append, ih,
          Nat.add_assoc]

end Metrics

/-- The value of a field, if there is one. -/
def Value.field? (name : String) : Value → Option Value
  | .dict entries => lookup (.str name) entries
  | _ => none

theorem Value.field?_ofFields (fields : Fields) (name : String) :
    (ofFields fields).field? name = fields.lookup name :=
  Schema.field?_ofFields fields name

/-- A table that is shown as a mapping has the values of the table. -/
theorem Value.field?_table {α : Type} (t : Table String α) (shown : α → Value) (key : String) :
    (ofFields (t.entries.map fun e => (e.1, shown e.2))).field? key = (t.get? key).map shown := by
  rw [field?_ofFields]
  unfold Table.get?
  induction t.entries with
  | nil => rfl
  | cons e rest ih =>
      rw [List.map_cons, List.lookup_cons, ih, Table.find]
      by_cases hkey : e.1 = key
      · simp [hkey]
      · simp [hkey, beq_eq_false_iff_ne.mpr (Ne.symm hkey)]

/-- The count that a value shows. -/
def Value.shownCount : Option Value → Nat
  | some (.int n) => n.toNat
  | _ => 0

/-- What a record of the counters tells of a series; a series that is not there was never counted. -/
def Series.told (snapshot : Fields) : Series → Nat
  | decisions flow verdict => Value.shownCount
    (((Value.ofFields snapshot).field? "decisions").bind fun v => (v.field? flow).bind (·.field? verdict.word))
  | denials kind => Value.shownCount
    (((Value.ofFields snapshot).field? "denials").bind (·.field? kind))

/-- The record that tells how the decisions in some calls came out and how many commits there were, with
tables of the flows and of the kinds of denials. -/
def MetricsCall.summary (calls : List MetricsCall) (flows : Table String Tally) (kinds : Table String Nat) :
    Fields :=
  let allowed := calls.countP (decides .allow)
  let denied := calls.countP (decides .deny)
  [("total_decisions", .int (allowed + denied)), ("allowed", .int allowed), ("denied", .int denied),
    ("commits", .int (calls.count .commit)),
    ("decisions", .ofFields (flows.entries.map fun e =>
      (e.1, .ofFields [("allow", .int e.2.allow), ("deny", .int e.2.deny)]))),
    ("denials", .ofFields (kinds.entries.map fun e => (e.1, .int e.2)))]

/-- Tables of the decisions in some calls by flow, and of the denials by kind. Both have exactly the
entries that were counted. -/
structure Tabulates (calls : List MetricsCall) (flows : Table String Tally) (kinds : Table String Nat) :
    Prop where
  flowsDistinct : flows.keys.Nodup
  kindsDistinct : kinds.keys.Nodup
  tally : ∀ flow, flows.get? flow = Table.kept {} (MetricsCall.tallyIn calls flow)
  kind : ∀ kind, kinds.get? kind = Table.kept 0 (calls.countP (MetricsCall.counts (.denials kind)))
  total : (flows.values.map fun t => t.allow + t.deny).sum =
    calls.countP (MetricsCall.decides .allow) + calls.countP (MetricsCall.decides .deny)

namespace Metrics

open MetricsCall (counts recent)

/-- The record of the counters tells the count of every series. -/
theorem told_snapshot (m : Metrics) (s : Series) : s.told m.snapshot = m.reading s := by
  cases s with
  | decisions flow verdict =>
      have hflows : (Value.ofFields m.snapshot).field? "decisions" = _ := Value.field?_ofFields m.snapshot _
      have hflow := Value.field?_table m.decisions
        (fun t => .ofFields [("allow", .int t.allow), ("deny", .int t.deny)]) flow
      rw [Series.told, hflows]
      change Value.shownCount (((Value.ofFields _).field? flow).bind _) = _
      rw [hflow, reading, tally]
      cases m.decisions.get? flow with
      | none => cases verdict <;> rfl
      | some t => cases verdict <;> rfl
  | denials kind =>
      have hkinds : (Value.ofFields m.snapshot).field? "denials" = _ := Value.field?_ofFields m.snapshot _
      rw [Series.told, hkinds]
      change Value.shownCount ((Value.ofFields _).field? kind) = _
      rw [Value.field?_table m.denials (fun n => .int n) kind, reading, count]
      cases m.denials.get? kind <;> rfl

/-- The counters agree with the calls that were made, and the mirror with the counters. The record tells
exactly what was counted since the last reset, and the flows add up to the total. Every series of the
mirror has the count over all calls, which is the sum of what the record told just before each reset and
tells now; without a reset both tell the same of every series. -/
theorem counters_mirrored (calls : List MetricsCall) :
    let m := (fresh true).afterAll calls
    (∃ flows kinds, Tabulates (recent calls) flows kinds ∧
      m.snapshot = MetricsCall.summary (recent calls) flows kinds) ∧
    (∀ s : Series, m.mirror.series? s = Table.kept 0 (calls.countP (counts s)) ∧
      (m.mirror.series? s).getD 0 =
        (((fresh true).beforeResets calls).map fun before => s.told before.snapshot).sum +
          s.told m.snapshot) ∧
    (.reset ∉ calls → ∀ s : Series, (m.mirror.series? s).getD 0 = s.told m.snapshot) := by
  intro m
  have htotals := Totals.afterAll calls
  have hmirror (s : Series) : (m.mirror.series? s).getD 0 = calls.countP (counts s) := by
    rw [htotals.mirror s, Table.getD_kept]
  have htold (s : Series) : s.told m.snapshot = (recent calls).countP (counts s) :=
    (told_snapshot m s).trans (htotals.reading_eq s)
  refine ⟨⟨m.decisions, m.denials, ⟨htotals.flowsDistinct, htotals.kindsDistinct, htotals.tally,
    htotals.kind, ?_⟩, ?_⟩, fun s => ⟨htotals.mirror s, ?_⟩, fun hkept s => ?_⟩
  · rw [← htotals.decided .allow, ← htotals.decided .deny]
    exact List.sum_map_add
  · rw [snapshot, allowed_eq, denied_eq, htotals.decided, htotals.decided, htotals.commits]
    rfl
  · simp only [told_snapshot]
    rw [hmirror, countP_eq_sum, htotals.reading_eq]
  · rw [hmirror, htold, MetricsCall.recent_of_no_reset hkept]

/-- A denial and a decision of the empty kind, without a reset and with one between them: without it the
record tells what the mirror counts, and with it the denial stands in the mirror alone. -/
theorem counters_mirrored_twofold :
    let denied : MetricsCall := .decision "grant_writer" .deny (some "not_owner")
    let allowed : MetricsCall := .decision "grant_writer" .allow (some "")
    let straight := (fresh true).afterAll [denied, .commit, allowed]
    let parted := (fresh true).afterAll [denied, .reset, allowed]
    .reset ∉ [denied, .commit, allowed] ∧
      (∀ s : Series, (straight.mirror.series? s).getD 0 = s.told straight.snapshot) ∧
      (Series.denials "not_owner").told straight.snapshot = 1 ∧ straight.denials.get? "" = none ∧
      (parted.mirror.series? (.denials "not_owner")).getD 0 = 1 ∧
      (Series.denials "not_owner").told parted.snapshot = 0 := by
  intro denied allowed straight parted
  have hkept : .reset ∉ [denied, .commit, allowed] := by decide
  exact ⟨hkept, (counters_mirrored [denied, .commit, allowed]).2.2 hkept, by decide +kernel⟩

end Metrics

end OwnershipRegistry
