import OwnershipRegistry.Journal.Record
import OwnershipRegistry.Proofs.JsonText
import OwnershipRegistry.Proofs.Table

/-!
# Log lines

A record is written as one line, whatever the texts in it are, and the line is
one object. Nothing in the message, the context or the account of a failure can
add a member to the object or give one a second value: its members are the base
fields, the fields of the context and of the message, the message itself and
the account. A field of the message stands over that of the context, and this
one over the base field.
-/

namespace OwnershipRegistry

namespace Value

/-- Fields as entries whose keys are texts. -/
def packed (fields : Fields) : List (Value × Value) := fields.map fun f => (.str f.1, f.2)

theorem sameKey_str (s t : String) : sameKey (.str s) (.str t) = (s == t) := by
  rw [sameKey]

theorem put_packed (fields : Fields) (name : String) (value : Value) :
    put (packed fields) (.str name) value = packed (Table.store name value fields) := by
  induction fields with
  | nil => rfl
  | cons f rest ih =>
      rw [packed, List.map_cons, put, sameKey_str, Table.store]
      by_cases hname : f.1 = name
      · simp [hname, packed]
      · simp only [beq_eq_false_iff_ne.mpr hname, Bool.false_eq_true, if_false, hname]
        exact congrArg ((.str f.1, f.2) :: ·) ih

theorem lookup_packed (fields : Fields) (name : String) :
    lookup (.str name) (packed fields) = Table.find name fields := by
  induction fields with
  | nil => rfl
  | cons f rest ih =>
      unfold lookup at ih ⊢
      rw [packed, List.map_cons, List.find?_cons, sameKey_str, Table.find]
      by_cases hname : f.1 = name
      · simp [hname]
      · simp only [beq_eq_false_iff_ne.mpr hname, hname, if_false]
        exact ih

theorem putAll_packed (fields more : Fields) :
    putAll (packed fields) (packed more) = packed ((Table.mk fields).putAll more).entries := by
  induction more generalizing fields with
  | nil => rfl
  | cons f rest ih =>
      have hfirst := put_packed fields f.1 f.2
      have hrest := ih (Table.store f.1 f.2 fields)
      rw [← hfirst] at hrest
      exact hrest

end Value

namespace LogRecord

open Value (packed)

/-- The fields that a message brings along: those of a mapping, whose names are distinct, and none of
any other message. -/
inductive Carries : Value → Fields → Prop
  | fields {own : Fields} (distinct : (own.map (·.1)).Nodup) : Carries (.ofFields own) own
  | text {message : Value} (other : ∀ entries, message ≠ .dict entries) : Carries message []

variable {r : LogRecord} {time : String} {own : Fields}

/-- The fields that every line has. -/
def base (r : LogRecord) (time : String) : Fields :=
  [("timestamp", .str time), ("level", .str r.level.word), ("logger", .str r.logger), ("request_id", r.requestId)]

/-- The account of a failure as a field. -/
def account (r : LogRecord) : Fields := (r.trouble.map fun account => ("exc_info", .str account)).toList

/-- The base fields, the context over them, and the fields of the message over both. -/
def merged (r : LogRecord) (time : String) (own : Fields) : Table String Value :=
  ((Table.mk (r.base time)).putAll r.context.entries).putAll own

/-- What stands as the message of a line: a text, or what some fields have as their message. -/
def IsMessage (fields : Fields) (message : Value) : Prop :=
  (∃ text, message = .str text) ∨ Table.find "message" fields = some message

theorem withText_eq_ok {fields : Fields} {entries : List (Value × Value)}
    (h : r.withText (packed fields) = .ok entries) :
    ∃ message, IsMessage fields message ∧ entries = packed (Table.store "message" message fields) := by
  obtain ⟨text, -, rfl⟩ := map_eq_ok_iff.mp h
  exact ⟨.str text, Or.inl ⟨text, rfl⟩, Value.put_packed fields "message" (.str text)⟩

theorem withMessage_eq_ok {fields : Fields} {entries : List (Value × Value)}
    (h : r.withMessage (packed fields) = .ok entries) :
    ∃ message, IsMessage fields message ∧ entries = packed (Table.store "message" message fields) := by
  unfold withMessage at h
  rw [Value.lookup_packed] at h
  cases hgiven : Table.find "message" fields with
  | none =>
      rw [hgiven] at h
      exact withText_eq_ok h
  | some given =>
      simp only [hgiven] at h
      by_cases hfalsy : given.isFalsy = true
      · rw [if_pos hfalsy] at h
        exact withText_eq_ok h
      · rw [if_neg hfalsy] at h
        obtain rfl := Except.ok.inj h
        exact ⟨given, Or.inr hgiven, by rw [Table.store_of_find hgiven]⟩

theorem withAccount_packed (r : LogRecord) (fields : Fields) :
    r.withAccount (packed fields) = packed ((Table.mk fields).putAll r.account).entries := by
  unfold withAccount account
  cases r.trouble with
  | none => rfl
  | some account => exact Value.put_packed fields "exc_info" (.str account)

/-- The entries of a line are the merged fields, with a message and the account put over them. -/
theorem payload_eq_ok (carries : Carries r.message.followed own) {entries : List (Value × Value)}
    (h : r.payload time = .ok entries) : ∃ message, IsMessage (r.merged time own).entries message ∧
      entries = packed (((r.merged time own).put "message" message).putAll r.account).entries := by
  have hambient : Value.putAll (r.baseFields time) r.contextEntries =
      packed ((Table.mk (r.base time)).putAll r.context.entries).entries :=
    Value.putAll_packed (r.base time) r.context.entries
  obtain ⟨said, hsaid, rfl⟩ := map_eq_ok_iff.mp h
  rw [hambient] at hsaid
  have hwith : ∃ message, IsMessage (r.merged time own).entries message ∧
      said = packed (Table.store "message" message (r.merged time own).entries) := by
    generalize r.message.followed = followed at carries hsaid
    cases carries with
    | fields distinct =>
        have hmerged : Value.putAll (packed ((Table.mk (r.base time)).putAll r.context.entries).entries) (packed own) =
            packed (r.merged time own).entries := Value.putAll_packed _ own
        refine withMessage_eq_ok (r := r) ?_
        rw [← hmerged]
        exact hsaid
    | text other =>
        refine withText_eq_ok (r := r) ?_
        cases followed with
        | dict entries => exact absurd rfl (other entries)
        | _ => exact hsaid
  obtain ⟨message, hmessage, rfl⟩ := hwith
  exact ⟨message, hmessage, r.withAccount_packed _⟩

/-- The fields of a line, given what stands as its message. -/
def shown (r : LogRecord) (time : String) (own : Fields) (message : Value) : Table String Value :=
  ((r.merged time own).put "message" message).putAll r.account

theorem account_distinct (r : LogRecord) : (r.account.map (·.1)).Nodup := by
  unfold account
  cases r.trouble <;> simp

theorem find_account_eq_none_iff {name : String} :
    Table.find name r.account = none ↔ ¬ (name = "exc_info" ∧ r.trouble.isSome) := by
  rw [Table.find_eq_none_iff, account]
  cases r.trouble <;> simp

theorem merged_get? (distinct : r.context.keys.Nodup) (carries : Carries r.message.followed own) (name : String) :
    (r.merged time own).get? name =
      (Table.find name own).or ((r.context.get? name).or (Table.find name (r.base time))) := by
  have hown : (own.map (·.1)).Nodup := by
    generalize r.message.followed = followed at carries
    cases carries with
    | fields distinct => exact distinct
    | text => exact List.nodup_nil
  rw [merged, Table.get?_putAll hown, Table.get?_putAll distinct]
  rfl

theorem shown_get? (distinct : r.context.keys.Nodup) (carries : Carries r.message.followed own)
    (message : Value) (name : String) : (r.shown time own message).get? name =
      (Table.find name r.account).or (if name = "message" then some message else
        (Table.find name own).or ((r.context.get? name).or (Table.find name (r.base time)))) := by
  rw [shown, Table.get?_putAll r.account_distinct, Table.get?_put, merged_get? distinct carries]

/-- A line has the base fields, the fields of the context and of the message, the message, and the account
if there is one; it has no other field. -/
theorem mem_shown_iff (distinct : r.context.keys.Nodup) (carries : Carries r.message.followed own)
    (message : Value) (name : String) : name ∈ (r.shown time own message).keys ↔
      name ∈ (r.base time).map (·.1) ∨ name ∈ r.context.keys ∨ name ∈ own.map (·.1) ∨ name = "message" ∨
        name = "exc_info" ∧ r.trouble.isSome := by
  rw [← not_iff_not, ← Table.get?_eq_none_iff, shown_get? distinct carries, Option.or_eq_none_iff,
    find_account_eq_none_iff]
  by_cases hmessage : name = "message"
  · simp [hmessage]
  · rw [if_neg hmessage, Option.or_eq_none_iff, Option.or_eq_none_iff, Table.find_eq_none_iff,
      Table.get?_eq_none_iff, Table.find_eq_none_iff]
    tauto

theorem shown_distinct (r : LogRecord) (time : String) (own : Fields) (message : Value) :
    (r.shown time own message).keys.Nodup := by
  have hbase : (Table.mk (r.base time)).keys.Nodup := by simp [Table.keys, base]
  exact Table.nodup_keys_putAll (Table.nodup_keys_put (Table.nodup_keys_putAll
    (Table.nodup_keys_putAll hbase _) _) _ _) _

/-- A record whose numbers are finite: those of the request, of the context and of the fields that the
message brings along. -/
structure IsFinite (r : LogRecord) (own : Fields) : Prop where
  request : Json.isFinite r.requestId = true
  context : ∀ f ∈ r.context.entries, Json.isFinite f.2 = true
  own : ∀ f ∈ own, Json.isFinite f.2 = true

theorem IsFinite.shown (finite : r.IsFinite own) {message : Value}
    (h : IsMessage (r.merged time own).entries message) :
    ∀ f ∈ (r.shown time own message).entries, Json.isFinite f.2 = true := by
  have hbase : ∀ f ∈ r.base time, Json.isFinite f.2 = true := by
    simp [base, finite.request, Json.isFinite]
  have hmerged : ∀ f ∈ (r.merged time own).entries, Json.isFinite f.2 = true :=
    Table.forall_putAll (Table.forall_putAll hbase finite.context) finite.own
  have hmessage : Json.isFinite message = true := by
    rcases h with ⟨text, rfl⟩ | h
    · rfl
    · exact hmerged ("message", message) (Table.mem_of_find h)
  have haccount : ∀ f ∈ r.account, Json.isFinite f.2 = true := by
    unfold account
    cases r.trouble <;> simp [Json.isFinite]
  exact Table.forall_putAll (Table.forall_store hmessage hmerged) haccount

end LogRecord

namespace Json

open Value (packed)

theorem members_packed (fields : Fields) : members (packed fields) = fields.map fun f => (f.1, tree f.2) := by
  induction fields with
  | nil => rfl
  | cons f rest ih => exact congrArg ((f.1, tree f.2) :: ·) ih

theorem areFinite_packed {fields : Fields} (h : ∀ f ∈ fields, isFinite f.2 = true) :
    areFiniteEntries (packed fields) = true := by
  induction fields with
  | nil => rfl
  | cons f rest ih =>
      obtain ⟨hfirst, hrest⟩ := List.forall_mem_cons.mp h
      exact Bool.and_eq_true_iff.mpr ⟨hfirst, ih hrest⟩

end Json

namespace LogRecord

open Value (packed)

variable {r : LogRecord} {time : String} {own : Fields}

/-- Content can neither break a line nor forge a field of it. The line of a record holds no control
character and is one object, in which no name stands twice. The names are those of the base fields, of
the context and of the message, and those of the message itself and of the account of a failure, if
there is one. The account stands under its name whatever else has that name. Each other field but the
message has the value of the message's field, or else that of the context, or else that of the base. -/
theorem line_says (distinct : r.context.keys.Nodup) (carries : Carries r.message.followed own)
    (finite : r.IsFinite own) {line : String} (h : r.line time = .ok line) :
    (∀ c ∈ line.toList, 0x20 ≤ c.toNat) ∧
    ∃ members, Json.read? line = some (.object members) ∧ (members.map (·.1)).Nodup ∧
      (∀ name, name ∈ members.map (·.1) ↔ name ∈ (r.base time).map (·.1) ∨ name ∈ r.context.keys ∨
        name ∈ own.map (·.1) ∨ name = "message" ∨ name = "exc_info" ∧ r.trouble.isSome) ∧
      (∀ account, r.trouble = some account → Table.find "exc_info" members = some (.text account)) ∧
      ∀ name, name ≠ "message" → (name = "exc_info" → r.trouble = none) → Table.find name members =
        ((Table.find name own).or ((r.context.get? name).or (Table.find name (r.base time)))).map Json.tree := by
  obtain ⟨entries, hentries, hcompact⟩ := bind_eq_ok.mp h
  obtain ⟨message, hmessage, rfl⟩ := payload_eq_ok carries hentries
  have hfinite : Json.isFinite (.dict (packed (r.shown time own message).entries)) = true :=
    Json.areFinite_packed (finite.shown hmessage)
  have hmembers : Json.members (packed (r.shown time own message).entries) =
      (r.shown time own message).entries.map fun f => (f.1, Json.tree f.2) := Json.members_packed _
  have hnames : (Json.members (packed (r.shown time own message).entries)).map (·.1) =
      (r.shown time own message).keys := by
    rw [hmembers, List.map_map]
    rfl
  have hvalues (name : String) : Table.find name (Json.members (packed (r.shown time own message).entries)) =
      ((r.shown time own message).get? name).map Json.tree := by
    rw [hmembers, Table.find_map]
    rfl
  refine ⟨(Json.says_compact _ hfinite line hcompact).visible, _, Json.read?_compact hfinite hcompact, ?_,
    fun name => ?_, fun text htrouble => ?_, fun name hother haccount => ?_⟩
  · rw [hnames]
    exact r.shown_distinct time own message
  · rw [hnames]
    exact mem_shown_iff distinct carries message name
  · rw [hvalues, shown_get? distinct carries, account, htrouble]
    rfl
  · have hnone : Table.find name r.account = none := by
      rw [find_account_eq_none_iff]
      rintro ⟨hname, htrouble⟩
      simp [haccount hname] at htrouble
    rw [hvalues, shown_get? distinct carries, hnone, if_neg hother, Option.none_or]

/-- A message that tries to end its line and to set the level again. -/
def forgedFields : Fields :=
  [("event", .str "\"\n\"level\": \"ERROR\""), ("exc_info", .null), ("ratio", .float ⟨0x3fe0000000000000⟩)]

/-- A record with that message, and with a field of the context that stands over a base field. -/
def forged : LogRecord where
  level := .info
  logger := "world_registry"
  message := .ofFields forgedFields
  trouble := some "Error:\n\"no\""
  context := ⟨[("event", .str "tick"), ("request_id", .int 7)]⟩

/-- The forged record has a line, and only its own fields are there. -/
theorem line_says_forged : ∃ line members, forged.line "now" = .ok line ∧ (∀ c ∈ line.toList, 0x20 ≤ c.toNat) ∧
    Json.read? line = some (.object members) ∧ "flow" ∉ members.map (·.1) ∧
    Table.find "exc_info" members = some (.text "Error:\n\"no\"") ∧
    Table.find "level" members = some (.text "INFO") ∧
    Table.find "request_id" members = some (.number "7") ∧
    Table.find "event" members = some (.text "\"\n\"level\": \"ERROR\"") := by
  have hcarries : Carries forged.message.followed forgedFields := .fields (by decide)
  have hfinite : forged.IsFinite forgedFields := ⟨rfl, by decide, by decide⟩
  cases hline : forged.line "now" with
  | error failure =>
      have hwritten : (forged.line "now").toBool = true := by decide +kernel
      rw [hline] at hwritten
      cases hwritten
  | ok line =>
      obtain ⟨hvisible, members, hread, -, hnames, haccount, hvalues⟩ :=
        line_says (by decide) hcarries hfinite hline
      refine ⟨line, members, rfl, hvisible, hread, mt (hnames "flow").mp (by decide), haccount _ rfl,
        hvalues "level" (by decide) nofun, hvalues "request_id" (by decide) nofun,
        hvalues "event" (by decide) nofun⟩

end LogRecord

end OwnershipRegistry
