import OwnershipRegistry.Proofs.Manifest

/-!
# Reading back what was written

A record that is written out as a value is read back from it, field by field
and item by item. What is read out of a manifest's value is the manifest, once
more put to the rules for it as a whole.
-/

namespace OwnershipRegistry

namespace Schema

variable {α : Type}

/-- A field of a record that was written out is the one that was written under its name. -/
theorem field?_ofFields (fields : Fields) (name : String) :
    field? (fields.map fun f => (.str f.1, f.2)) name = fields.lookup name := by
  induction fields with
  | nil => rfl
  | cons first rest ih =>
      obtain ⟨key, value⟩ := first
      by_cases hname : name = key
      · simp [field?, Value.lookup, Value.sameKey, hname]
      · have hself : (name == key) = false := beq_eq_false_iff_ne.mpr hname
        have hother : (key == name) = false := beq_eq_false_iff_ne.mpr (Ne.symm hname)
        rw [List.lookup_cons, hself, ← ih]
        simp [field?, Value.lookup, Value.sameKey, hother]

theorem required_ofFields {fields : Fields} {name : String} {v : Value} {read : Value → Reading α} {a : α}
    (written : fields.lookup name = some v) (back : read v = .done a) :
    required (fields.map fun f => (.str f.1, f.2)) name read = .done a := by
  unfold required
  rw [field?_ofFields, written]
  exact under_eq_done_iff.mpr back

theorem defaulted_ofFields {fields : Fields} {name : String} {v : Value} {fallback : α}
    {read : Value → Reading α} {a : α} (written : fields.lookup name = some v) (back : read v = .done a) :
    defaulted (fields.map fun f => (.str f.1, f.2)) name fallback read = .done a := by
  unfold defaulted
  rw [field?_ofFields, written]
  exact under_eq_done_iff.mpr back

/-- A list is read back if every item of it is. -/
theorem list_map {read : Value → Reading α} {write : α → Value} {as : List α}
    (back : ∀ a ∈ as, read (write a) = .done a) : list read (.list (as.map write)) = .done as := by
  have hitems : ∀ index, Reading.items read index (as.map write) = .done as := by
    induction as with
    | nil => exact fun _ => rfl
    | cons first rest ih =>
        obtain ⟨hfirst, hrest⟩ := List.forall_mem_cons.mp back
        intro index
        have hhead : Reading.under (.item index) (read (write first)) = .done first :=
          under_eq_done_iff.mpr hfirst
        rw [List.map_cons, Reading.items, hhead, ih hrest]
        rfl
  exact hitems 0

end Schema

namespace Manifest

open Schema

variable {m m' : Manifest}

theorem readWriters_writersValue (writers : Option (List Int)) :
    readWriters (writersValue writers) = .done writers := by
  cases writers with
  | none => rfl
  | some ws =>
      have hback : Address.ofValues (ws.map .int) = .ok ws := by
        induction ws with
        | nil => rfl
        | cons first rest ih =>
            rw [List.map_cons, Address.ofValues, Address.ofValue_int, ih]
            rfl
      have hread : readWriters (writersValue (some ws)) =
          (ruled (Address.ofValues (ws.map .int))).map some := rfl
      rw [hread, hback]
      rfl

theorem readNamespace_namespaceValue {spec : NamespaceSpec} (named : Name.isValid spec.name = true) :
    record readNamespace (namespaceValue spec) = .done spec := by
  have hname : readName (.str spec.name) = .done spec.name :=
    andThen_eq_done_iff.mpr ⟨spec.name, rfl, ruled_eq_done_iff.mpr (Name.check_eq_ok_iff.mpr ⟨named, rfl⟩)⟩
  exact seq_eq_done_iff.mpr ⟨_, _, map_eq_done_iff.mpr ⟨_, required_ofFields rfl hname, rfl⟩,
    defaulted_ofFields rfl (readWriters_writersValue spec.writers), rfl⟩

theorem readResource_resourceValue (spec : ResourceSpec) :
    record readResource (resourceValue spec) = .done spec := by
  have hkind : choice ResourceKind.ofWord? (.str spec.kind.word) = .done spec.kind := by
    simp only [choice, ResourceKind.ofWord?_word]
  apply seq_eq_done_iff.mpr
  refine ⟨fun writers => ⟨spec.tag, spec.kind, writers⟩, spec.writers, ?_,
    defaulted_ofFields rfl (readWriters_writersValue spec.writers), rfl⟩
  apply seq_eq_done_iff.mpr
  refine ⟨fun kind writers => ⟨spec.tag, kind, writers⟩, spec.kind, ?_, defaulted_ofFields rfl hkind, rfl⟩
  exact map_eq_done_iff.mpr ⟨spec.tag, required_ofFields rfl rfl, rfl⟩

/-- Out of a manifest's value the manifest is read back, up to the rules for it as a whole. -/
theorem ofValue_toValue_eq_ok_iff (named : ∀ spec ∈ m.namespaces, Name.isValid spec.name = true) :
    ofValue m.toValue = .ok m' ↔ m.validate = .ok m' := by
  have hnamespaces : list (record readNamespace) (.list (m.namespaces.map namespaceValue)) =
      .done m.namespaces :=
    list_map fun spec hspec => readNamespace_namespaceValue (named spec hspec)
  have hresources : list (record readResource) (.list (m.resources.map resourceValue)) =
      .done m.resources :=
    list_map fun spec _ => readResource_resourceValue spec
  have hread : topLevel read m.toValue = (Reading.done m).andThen fun m => ruled m.validate := by
    refine congrArg (fun given : Reading Manifest => given.andThen fun m => ruled m.validate) ?_
    apply seq_eq_done_iff.mpr
    refine ⟨fun resources => { m with resources }, m.resources, ?_, defaulted_ofFields rfl hresources, rfl⟩
    apply seq_eq_done_iff.mpr
    refine ⟨fun namespaces resources => { m with namespaces, resources }, m.namespaces, ?_,
      defaulted_ofFields rfl hnamespaces, rfl⟩
    apply seq_eq_done_iff.mpr
    refine ⟨fun space namespaces resources => ⟨m.version, space, namespaces, resources⟩,
      m.defaultNamespace, ?_, defaulted_ofFields rfl ?_, rfl⟩
    · exact map_eq_done_iff.mpr ⟨m.version, defaulted_ofFields rfl rfl, rfl⟩
    · cases m.defaultNamespace <;> rfl
  unfold ofValue
  rw [result_eq_ok_iff, hread]
  exact ruled_eq_done_iff

end Manifest

end OwnershipRegistry
