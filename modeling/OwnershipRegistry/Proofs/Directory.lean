import OwnershipRegistry.Proofs.IntSet
import OwnershipRegistry.Proofs.Numeral
import OwnershipRegistry.Proofs.Table
import OwnershipRegistry.Security.Directory

/-!
# The caller directory in closed form

Callers are registered one after the other, and the kinds and the labels are
kept apart. Both can be read off the list of all registrations: the last one
of a caller gives its kind, and the last one that labels it gives its label.
-/

namespace OwnershipRegistry

namespace Registration

/-- The kinds that registrations give to callers. -/
def kindEntries (rs : List Registration) : List (Int × CallerKind) := rs.map fun r => (r.address, r.kind)

/-- The labels that registrations give to callers. An empty label is none. -/
def labelEntries (rs : List Registration) : List (Int × String) :=
  rs.filterMap fun r => (r.label.filter fun label => label ≠ "").map fun label => (r.address, label)

end Registration

namespace SecurityConfig

/-- The kind that a configuration gives to a caller. -/
def kindOf (config : SecurityConfig) (caller : Int) : CallerKind :=
  if caller ∈ config.contracts.map (·.address) then .contract
  else if caller ∈ config.accounts.map (·.address) then .account
  else config.default.unknownKind

/-- The order of the entries does not matter. -/
theorem kindOf_eq_of_perm {config other : SecurityConfig}
    (unknown : other.default.unknownKind = config.default.unknownKind)
    (accounts : other.accounts.Perm config.accounts) (contracts : other.contracts.Perm config.contracts)
    (caller : Int) : other.kindOf caller = config.kindOf caller := by
  have haccounts := (accounts.map (·.address)).mem_iff (a := caller)
  have hcontracts := (contracts.map (·.address)).mem_iff (a := caller)
  simp only [kindOf, haccounts, hcontracts, unknown]

end SecurityConfig

namespace Directory

open Registration (kindEntries labelEntries)

variable {d : Directory} {rs : List Registration} {config : SecurityConfig} {caller : Int}

/-- The finding that no known caller is an account. -/
def noAccounts : String := "No account callers configured; namespace registration will be refused."

/-- The finding that a caller has no label. -/
def noLabel (caller : Int) : String := "Caller '" ++ Numeral.hex caller ++ "' has no label."

theorem noLabel_injective : Function.Injective noLabel := by
  intro a b h
  apply Numeral.hex_injective
  apply String.toList_injective
  simpa [noLabel] using congrArg String.toList h

theorem noLabel_ne_noAccounts (caller : Int) : noLabel caller ≠ noAccounts := by
  intro h
  have hchars := congrArg String.toList h
  simp [noLabel, noAccounts] at hchars

/-- A registration puts its label, if it has one that is not empty. -/
theorem register_eq (d : Directory) (r : Registration) : d.register r =
    ⟨d.unknownKind, d.kinds.putAll (kindEntries [r]), d.labels.putAll (labelEntries [r])⟩ := by
  obtain ⟨kind, address, label⟩ := r
  cases label with
  | none => rfl
  | some label =>
      by_cases hempty : label = ""
      · simp [register, relabel, kindEntries, labelEntries, Table.putAll, hempty]
      · simp [register, relabel, kindEntries, labelEntries, Table.putAll, hempty]

/-- Registrations put their kinds and their labels, one after the other. -/
theorem foldl_register (d : Directory) (rs : List Registration) : rs.foldl register d =
    ⟨d.unknownKind, d.kinds.putAll (kindEntries rs), d.labels.putAll (labelEntries rs)⟩ := by
  induction rs generalizing d with
  | nil => rfl
  | cons r rest ih =>
      rw [List.foldl_cons, ih, register_eq]
      have hkinds : kindEntries (r :: rest) = kindEntries [r] ++ kindEntries rest := rfl
      have hlabels : labelEntries (r :: rest) = labelEntries [r] ++ labelEntries rest :=
        List.filterMap_append (l := [r]) ..
      simp only [Table.putAll, hkinds, hlabels, List.foldl_append]

theorem registerAll_fst (d : Directory) (rs : List Registration) :
    (d.registerAll rs).1 = rs.foldl register d := by
  induction rs generalizing d with
  | nil => rfl
  | cons r rest ih => exact ih (d.register r)

theorem unknownKind_foldl : (rs.foldl register d).unknownKind = d.unknownKind := by
  rw [foldl_register]

theorem kindOf_foldl : (rs.foldl register d).kindOf caller =
    (Table.last? caller (kindEntries rs)).getD (d.kindOf caller) := by
  rw [foldl_register, kindOf, Table.get?_putAll_eq_last?]
  cases Table.last? caller (kindEntries rs) <;> rfl

theorem label?_foldl : (rs.foldl register d).label? caller =
    (Table.last? caller (labelEntries rs)).or (d.label? caller) := by
  rw [foldl_register, label?, Table.get?_putAll_eq_last?]
  rfl

theorem keys_kindEntries : (kindEntries rs).map (·.1) = rs.map (·.address) := by
  simp [kindEntries, Function.comp_def]

theorem mem_knownCallers_iff : caller ∈ d.knownCallers ↔ d.kinds.get? caller ≠ none := by
  rw [knownCallers, IntSet.mem_ofList, Ne, Table.get?_eq_none_iff, not_not]

/-- The known callers are the ones that were known and the ones that are registered. -/
theorem mem_knownCallers_foldl : caller ∈ (rs.foldl register d).knownCallers ↔
    caller ∈ rs.map (·.address) ∨ caller ∈ d.knownCallers := by
  rw [mem_knownCallers_iff, mem_knownCallers_iff, foldl_register, Table.get?_putAll_eq_last?, Ne,
    Option.or_eq_none_iff, Table.last?_eq_none_iff, keys_kindEntries]
  tauto

/-- Entries of one kind give that kind to their callers. -/
theorem last?_kinds_entries (kind : CallerKind) (entries : List CallerEntry) :
    Table.last? caller (kindEntries (entries.map fun e => ⟨kind, e.address, e.label⟩)) =
      if caller ∈ entries.map (·.address) then some kind else none := by
  induction entries with
  | nil => rfl
  | cons e rest ih =>
      have hstep := Table.last?_cons caller (e.address, kind)
        (kindEntries (rest.map fun e => ⟨kind, e.address, e.label⟩))
      refine hstep.trans ?_
      rw [ih]
      simp only [List.map_cons, List.mem_cons]
      by_cases hrest : caller ∈ rest.map (·.address)
      · rw [if_pos hrest, if_pos (Or.inr hrest)]
        rfl
      · by_cases he : e.address = caller
        · rw [if_neg hrest, if_pos he, if_pos (Or.inl he.symm)]
          rfl
        · rw [if_neg hrest, if_neg he, if_neg fun h => h.elim (fun hcaller => he hcaller.symm) hrest]
          rfl

theorem ofConfig_eq (config : SecurityConfig) :
    (ofConfig config).1 = (registrations config).foldl register (empty config.default.unknownKind) :=
  registerAll_fst _ _

/-- The contracts are registered after the accounts, so they prevail. -/
theorem kindOf_ofConfig : (ofConfig config).1.kindOf caller = config.kindOf caller := by
  have hsplit : kindEntries (registrations config) =
      kindEntries (config.accounts.map fun e => ⟨.account, e.address, e.label⟩) ++
        kindEntries (config.contracts.map fun e => ⟨.contract, e.address, e.label⟩) :=
    List.map_append
  rw [ofConfig_eq, kindOf_foldl, hsplit, Table.last?_append, last?_kinds_entries, last?_kinds_entries,
    SecurityConfig.kindOf]
  by_cases hcontract : caller ∈ config.contracts.map (·.address)
  · rw [if_pos hcontract, if_pos hcontract]
    rfl
  · by_cases haccount : caller ∈ config.accounts.map (·.address)
    · rw [if_neg hcontract, if_neg hcontract, if_pos haccount, if_pos haccount]
      rfl
    · rw [if_neg hcontract, if_neg hcontract, if_neg haccount, if_neg haccount]
      rfl

theorem label?_later : (rs.foldl register (ofConfig config).1).label? caller =
    Table.last? caller (labelEntries (registrations config ++ rs)) := by
  rw [ofConfig_eq, ← List.foldl_append, label?_foldl]
  exact Option.or_none

theorem mem_knownCallers_later : caller ∈ (rs.foldl register (ofConfig config).1).knownCallers ↔
    caller ∈ (registrations config ++ rs).map (·.address) := by
  have hempty : caller ∉ (empty config.default.unknownKind).knownCallers := List.not_mem_nil
  rw [ofConfig_eq, ← List.foldl_append, mem_knownCallers_foldl]
  exact or_iff_left hempty

/-- The known callers without a label. -/
def unlabelled (d : Directory) : List Int := d.knownCallers.filter fun caller => (d.label? caller).isNone

theorem ascending_unlabelled (d : Directory) : d.unlabelled.Pairwise (· < ·) :=
  (IntSet.ascending_ofList _).filter _

theorem mem_unlabelled_iff : caller ∈ d.unlabelled ↔ caller ∈ d.knownCallers ∧ d.label? caller = none := by
  rw [unlabelled, List.mem_filter, Option.isNone_iff_eq_none]

theorem nodup_unlabelled (d : Directory) : (d.unlabelled.map noLabel).Nodup :=
  List.Nodup.map noLabel_injective (d.ascending_unlabelled.imp fun h => ne_of_lt h)

theorem findings_eq (d : Directory) : d.findings =
    (if d.knownCallers.any d.isAccount then [] else [noAccounts]) ++ d.unlabelled.map noLabel :=
  rfl

theorem noAccounts_not_mem_unlabelled (d : Directory) : noAccounts ∉ d.unlabelled.map noLabel := by
  intro hmem
  obtain ⟨caller, -, heq⟩ := List.mem_map.mp hmem
  exact noLabel_ne_noAccounts caller heq

/-- The findings about labels, in the order of the callers. -/
theorem filter_findings (d : Directory) :
    d.findings.filter (· ≠ noAccounts) = d.unlabelled.map noLabel := by
  have hhead : (if d.knownCallers.any d.isAccount then [] else [noAccounts]).filter (· ≠ noAccounts) =
      ([] : List String) := by
    cases d.knownCallers.any d.isAccount <;> simp
  rw [findings_eq, List.filter_append, hhead, List.nil_append, List.filter_eq_self]
  intro finding hmem
  exact decide_eq_true fun h => d.noAccounts_not_mem_unlabelled (h ▸ hmem)

/-- A caller that is configured as a contract is no account unless it is registered later. -/
theorem isAccount_of_contract (contract : caller ∈ config.contracts.map (·.address))
    (unregistered : caller ∉ rs.map (·.address)) :
    (rs.foldl register (ofConfig config).1).isAccount caller = false := by
  rw [← keys_kindEntries, ← Table.last?_eq_none_iff] at unregistered
  rw [isAccount, kindOf_foldl, kindOf_ofConfig, unregistered, SecurityConfig.kindOf, if_pos contract]
  rfl

/-- What a directory says, read off the configuration that it was made from and the
registrations that came afterwards. -/
structure ClosedForm (d : Directory) (config : SecurityConfig) (rs : List Registration) : Prop where
  /-- The last later registration decides, and without one the configuration does. -/
  kind : ∀ caller, d.kindOf caller = (Table.last? caller (kindEntries rs)).getD (config.kindOf caller)
  /-- A caller that is configured in both ways is no account unless it is registered later. -/
  both : ∀ caller ∈ config.accounts.map (·.address), caller ∈ config.contracts.map (·.address) →
    caller ∉ rs.map (·.address) → d.isAccount caller = false
  /-- The last label that is not empty stays. -/
  label : ∀ caller, d.label? caller = Table.last? caller (labelEntries (registrations config ++ rs))
  ascending : d.knownCallers.Pairwise (· < ·)
  known : ∀ caller, caller ∈ d.knownCallers ↔ caller ∈ (registrations config ++ rs).map (·.address)
  /-- Apart from the finding about accounts, an audit lists the callers without a label. -/
  audit : ∃ unlabelled : List Int, d.findings.filter (· ≠ noAccounts) = unlabelled.map noLabel ∧
    unlabelled.Pairwise (· < ·) ∧ (unlabelled.map noLabel).Nodup ∧
    ∀ caller, caller ∈ unlabelled ↔ caller ∈ d.knownCallers ∧
      Table.last? caller (labelEntries (registrations config ++ rs)) = none

/-- The directory of a configuration and of what is registered afterwards is given by a closed
form, and the order of the configured accounts and contracts does not matter for the kinds. -/
theorem closed_form (config : SecurityConfig) (rs : List Registration) :
    ClosedForm (rs.foldl register (ofConfig config).1) config rs ∧
      ∀ other : SecurityConfig, other.default.unknownKind = config.default.unknownKind →
        other.accounts.Perm config.accounts → other.contracts.Perm config.contracts → ∀ caller,
          (rs.foldl register (ofConfig other).1).kindOf caller =
            (rs.foldl register (ofConfig config).1).kindOf caller := by
  constructor
  · exact {
      kind := fun caller => by rw [kindOf_foldl, kindOf_ofConfig]
      both := fun caller _ contract unregistered => isAccount_of_contract contract unregistered
      label := fun caller => label?_later
      ascending := IntSet.ascending_ofList _
      known := fun caller => mem_knownCallers_later
      audit := ⟨_, filter_findings _, ascending_unlabelled _, nodup_unlabelled _, fun caller => by
        rw [mem_unlabelled_iff, label?_later]⟩ }
  · intro other unknown accounts contracts caller
    rw [kindOf_foldl, kindOf_foldl, kindOf_ofConfig, kindOf_ofConfig,
      SecurityConfig.kindOf_eq_of_perm unknown accounts contracts]

/-- Caller one is configured in both ways, and its label as a contract is empty. -/
def twofold : SecurityConfig where
  accounts := [⟨1, some "alice"⟩, ⟨2, none⟩]
  contracts := [⟨1, some ""⟩]

theorem closed_form_twofold :
    let d := [Registration.mk .contract 2 (some "pool")].foldl register (ofConfig twofold).1
    let swapped := { twofold with accounts := twofold.accounts.reverse }
    d.isAccount 1 = false ∧ d.label? 1 = some "alice" ∧ ∀ caller,
      ([Registration.mk .contract 2 (some "pool")].foldl register (ofConfig swapped).1).kindOf caller =
        d.kindOf caller := by
  intro d swapped
  obtain ⟨hform, horder⟩ := closed_form twofold [⟨.contract, 2, some "pool"⟩]
  refine ⟨hform.both 1 (by decide) (by decide) (by decide), hform.label 1, ?_⟩
  exact horder swapped rfl (List.reverse_perm _) (List.Perm.refl _)

end Directory

end OwnershipRegistry
