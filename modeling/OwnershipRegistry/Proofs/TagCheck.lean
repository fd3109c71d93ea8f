import OwnershipRegistry.Proofs.WriteChecks

/-!
# What a write check by tag decides

A tag means a pair of names: the two valid names that it joins, or itself as a
valid name in the default namespace. The check completes the tag, looks it up,
and splits what it completed if there is nothing under it. If both names of
the pair are valid, the check decides about the pair. The default namespace is
not checked when a world is created. One that is no name makes a tag of every
bare name which does not split again, and then the check complains of a tag
that was not given to it.
-/

namespace OwnershipRegistry

namespace Tag

variable {default tag space name : String}

/-- The pair of names that a tag means beside a default namespace: two valid names that it joins, or a
valid name that it is itself and the default, whatever that is. -/
inductive Means (default : String) : String → String → String → Prop
  | joined {space name : String} (validSpace : Name.isValid space = true)
      (validName : Name.isValid name = true) : Means default (join space name) space name
  | bare {name : String} (validName : Name.isValid name = true) : Means default name default name

/-- A tag splits into the pair that it means. -/
theorem means_iff : Means default tag space name ↔ split? tag (some default) = some (space, name) := by
  rw [split?_eq_some_iff]
  constructor
  · intro h
    cases h with
    | joined hspace hname => exact ⟨hname, Or.inl ⟨hspace, rfl⟩⟩
    | bare hname => exact ⟨hname, Or.inr ⟨rfl, rfl⟩⟩
  · rintro ⟨hname, ⟨hspace, rfl⟩ | ⟨hdefault, rfl⟩⟩
    · exact .joined hspace hname
    · obtain rfl := Option.some.inj hdefault
      exact .bare hname

end Tag

namespace ResourceTable

variable {t : ResourceTable} {key : Int} {r : ResourceRecord} {space name tag : String}

/-- A registered resource is found under its tag, and its record says who may write. -/
theorem checkWrite_of_found (sound : t.Sound) (found : t.records.get? key = some r) (p : Permissions) :
    t.checkWrite r.tag p = if p.canWrite r.owner r.writers = true then .ok r
      else .error (.denied (.writeRefused r.tag p.caller)) := by
  have htagged : t.selectors.get? r.tag = some key := sound.indexed.index_get?_iff.mpr ⟨r, found, rfl⟩
  rw [checkWrite, htagged]
  simp only [found]

/-- A tag under which there is nothing is answered by what it splits into. -/
theorem checkWrite_of_missing (missing : t.selectors.get? tag = none) (p : Permissions) :
    t.checkWrite tag p = match Tag.split tag none with
      | .ok pair => .error (.denied (.resourceUnknown (.int (Selector.ofNames pair.1 pair.2))))
      | .error failure => .error failure := by
  rw [checkWrite, missing]
  simp only [Selector.ofTag]
  cases Tag.split tag none <;> rfl

/-- In a sound table there is nothing under a tag whose names no resource has. -/
theorem missing_of_unnamed (sound : t.Sound)
    (unnamed : ∀ key r, t.records.get? key = some r → ¬ (r.space = space ∧ r.name = name)) :
    t.selectors.get? (Tag.join space name) = none := by
  apply Option.eq_none_iff_forall_ne_some.mpr
  intro key hkey
  obtain ⟨r, hr, htag⟩ := sound.indexed.index_get?_iff.mp hkey
  have hproper := sound.proper key r hr
  obtain ⟨hspace, hname⟩ := (Tag.join_inj hproper.spaceNamed hproper.named).mp htag.symm
  exact unnamed key r hr ⟨hspace.symm, hname.symm⟩

end ResourceTable

namespace World

variable {w : World} {tag space name : String}

/-- The answers to a caller's write check of a pair of names. -/
inductive WriteAnswer (w : World) (space name : String) (caller : Int) : Except Failure Answer → Prop
  | allowed {key : Int} {r : ResourceRecord}
      (found : w.core.store.resources.records.get? key = some r)
      (named : r.space = space ∧ r.name = name)
      (writes : r.owner = caller ∨ caller ∈ r.writers) :
      WriteAnswer w space name caller (.ok (.resource r))
  | refused {key : Int} {r : ResourceRecord}
      (found : w.core.store.resources.records.get? key = some r)
      (named : r.space = space ∧ r.name = name)
      (writesNot : ¬ (r.owner = caller ∨ caller ∈ r.writers)) :
      WriteAnswer w space name caller (.error (.denied (.writeRefused (Tag.join space name) caller)))
  | unknown
      (unnamed : ∀ key r, w.core.store.resources.records.get? key = some r →
        ¬ (r.space = space ∧ r.name = name)) :
      WriteAnswer w space name caller
        (.error (.denied (.resourceUnknown (.int (Selector.ofNames space name)))))

/-- No two resources have the same names, so a write check of a pair of names has one answer. -/
theorem WriteAnswer.unique {caller : Int} {answer other : Except Failure Answer}
    (sound : w.core.store.Sound) (h : WriteAnswer w space name caller answer)
    (h' : WriteAnswer w space name caller other) : answer = other := by
  have hsame : ∀ key r key' r', w.core.store.resources.records.get? key = some r →
      w.core.store.resources.records.get? key' = some r' → r.space = space ∧ r.name = name →
      r'.space = space ∧ r'.name = name → r = r' := by
    rintro key r key' r' hr hr' ⟨rfl, rfl⟩ ⟨hspace, hname⟩
    have htag : r.tag = r'.tag := by rw [ResourceRecord.tag, ResourceRecord.tag, hspace, hname]
    obtain rfl := sound.resources.indexed.key_unique hr hr' htag
    exact Option.some.inj (hr.symm.trans hr')
  cases h with
  | allowed found named writes =>
      cases h' with
      | allowed found' named' => rw [hsame _ _ _ _ found found' named named']
      | refused found' named' writesNot =>
          obtain rfl := hsame _ _ _ _ found found' named named'
          exact absurd writes writesNot
      | unknown unnamed => exact absurd named (unnamed _ _ found)
  | refused found named writesNot =>
      cases h' with
      | allowed found' named' writes =>
          obtain rfl := hsame _ _ _ _ found found' named named'
          exact absurd writes writesNot
      | refused => rfl
      | unknown unnamed => exact absurd named (unnamed _ _ found)
  | unknown unnamed =>
      cases h' with
      | allowed found named => exact absurd named (unnamed _ _ found)
      | refused found named => exact absurd named (unnamed _ _ found)
      | unknown => rfl

/-- The check looks up the pair that the tag means. -/
theorem checkWriteAccess_of_means (means : Tag.Means w.core.defaultNamespace tag space name)
    (caller : Int) : (decide (.checkWriteAccess caller tag) w).1 =
      (w.core.store.resources.checkWrite (Tag.join space name) (w.core.permissions caller)).map .resource := by
  have hfull : Tag.full tag (some w.core.defaultNamespace) = .ok (Tag.join space name) :=
    Tag.full_eq_ok_iff.mpr ⟨space, name, Tag.means_iff.mp means, rfl⟩
  rw [decide_fst, Core.attempt, Core.checkWriteAccess, hfull]
  cases hcheck : w.core.store.resources.checkWrite (Tag.join space name) (w.core.permissions caller) with
  | ok r =>
      simp only [bind, Except.bind, hcheck]
      rfl
  | error failure =>
      simp only [bind, Except.bind, hcheck]
      rfl

/-- A tag that means nothing is refused as it was given. -/
theorem checkWriteAccess_of_meaningless
    (meaningless : ∀ space name, ¬ Tag.Means w.core.defaultNamespace tag space name) (caller : Int) :
    (decide (.checkWriteAccess caller tag) w).1 = .error (.invalidTag tag) := by
  have hsplit : Tag.split? tag (some w.core.defaultNamespace) = none := by
    apply Option.eq_none_iff_forall_ne_some.mpr
    intro pair hpair
    exact meaningless pair.1 pair.2 (Tag.means_iff.mpr hpair)
  have hfull : Tag.full tag (some w.core.defaultNamespace) = .error (.invalidTag tag) := by
    rw [Tag.full, Tag.split_eq_error_iff.mpr ⟨hsplit, rfl⟩]
    rfl
  rw [decide_fst, Core.attempt, Core.checkWriteAccess, hfull]
  rfl

/-- A tag that means two valid names is decided about by the record of the two. -/
theorem writeAnswer_of_means (sound : w.core.store.Sound)
    (means : Tag.Means w.core.defaultNamespace tag space name) (validSpace : Name.isValid space = true)
    (caller : Int) : WriteAnswer w space name caller (decide (.checkWriteAccess caller tag) w).1 := by
  have hname : Name.isValid name = true := (Tag.split?_eq_some_iff.mp (Tag.means_iff.mp means)).1
  rw [checkWriteAccess_of_means means caller]
  by_cases hrecord : ∃ key r, w.core.store.resources.records.get? key = some r ∧
      r.space = space ∧ r.name = name
  · obtain ⟨key, r, found, rfl, rfl⟩ := hrecord
    have hcheck := ResourceTable.checkWrite_of_found sound.resources found (w.core.permissions caller)
    rw [ResourceRecord.tag] at hcheck
    rw [hcheck]
    by_cases hwrites : r.owner = caller ∨ caller ∈ r.writers
    · rw [if_pos (Permissions.canWrite_iff.mpr hwrites)]
      exact .allowed found ⟨rfl, rfl⟩ hwrites
    · rw [if_neg (mt Permissions.canWrite_iff.mp hwrites)]
      exact .refused found ⟨rfl, rfl⟩ hwrites
  · have hunnamed : ∀ key r, w.core.store.resources.records.get? key = some r →
        ¬ (r.space = space ∧ r.name = name) := fun key r hr hnames => hrecord ⟨key, r, hr, hnames⟩
    have hmissing := ResourceTable.missing_of_unnamed sound.resources hunnamed
    -- The completed tag is split again without the default, so its namespace has to be valid by itself.
    have hsplit : Tag.split (Tag.join space name) none = .ok (space, name) :=
      Tag.split_eq_ok_iff.mpr (Tag.split?_join validSpace hname none)
    rw [ResourceTable.checkWrite_of_missing hmissing, hsplit]
    exact .unknown hunnamed

/-- A default namespace that is no name is refused together with the name that it completes, since no
resource is registered under it. -/
theorem checkWriteAccess_of_bare (sound : w.core.store.Sound) (validName : Name.isValid tag = true)
    (invalidDefault : Name.isValid w.core.defaultNamespace = false) (caller : Int) :
    (decide (.checkWriteAccess caller tag) w).1 =
      .error (.invalidTag (Tag.join w.core.defaultNamespace tag)) := by
  have hunnamed : ∀ key r, w.core.store.resources.records.get? key = some r →
      ¬ (r.space = w.core.defaultNamespace ∧ r.name = tag) := by
    rintro key r hr ⟨hspace, -⟩
    have hvalid := (sound.resources.proper key r hr).spaceNamed
    rw [hspace, invalidDefault] at hvalid
    cases hvalid
  have hmissing := ResourceTable.missing_of_unnamed sound.resources hunnamed
  have hsplit : Tag.split (Tag.join w.core.defaultNamespace tag) none = _ :=
    Tag.split_eq_error_iff.mpr ⟨Tag.split?_join_eq_none invalidDefault tag none, rfl⟩
  rw [checkWriteAccess_of_means (.bare validName) caller, ResourceTable.checkWrite_of_missing hmissing, hsplit]
  rfl

/-- The check of a tag that means two valid names has the one answer that their record gives. -/
theorem eq_iff_writeAnswer (sound : w.core.store.Sound)
    (means : Tag.Means w.core.defaultNamespace tag space name) (validSpace : Name.isValid space = true)
    (caller : Int) (answer : Except Failure Answer) :
    (decide (.checkWriteAccess caller tag) w).1 = answer ↔ WriteAnswer w space name caller answer := by
  have houtcome := writeAnswer_of_means sound means validSpace caller
  constructor
  · rintro rfl
    exact houtcome
  · exact fun hanswer => houtcome.unique sound hanswer

/-- A tag is called invalid if it means nothing, and the completed one is if it has no valid namespace. -/
theorem eq_invalidTag_iff (sound : w.core.store.Sound) (tag : String) (caller : Int) (invalid : String) :
    (decide (.checkWriteAccess caller tag) w).1 = .error (.invalidTag invalid) ↔
      (invalid = tag ∧ ∀ space name, ¬ Tag.Means w.core.defaultNamespace tag space name) ∨
      (invalid = Tag.join w.core.defaultNamespace tag ∧ Name.isValid tag = true ∧
        Name.isValid w.core.defaultNamespace = false) := by
  by_cases hbare : Name.isValid tag = true ∧ Name.isValid w.core.defaultNamespace = false
  · obtain ⟨hname, hdefault⟩ := hbare
    rw [checkWriteAccess_of_bare sound hname hdefault caller]
    constructor
    · rintro ⟨⟩
      exact Or.inr ⟨rfl, hname, hdefault⟩
    · rintro (⟨-, hmeaningless⟩ | ⟨rfl, -⟩)
      · exact absurd (.bare hname) (hmeaningless _ _)
      · rfl
  · by_cases hmeans : ∃ space name, Tag.Means w.core.defaultNamespace tag space name
    · obtain ⟨space, name, means⟩ := hmeans
      have hvalid : Name.isValid space = true := by
        cases means with
        | joined hspace => exact hspace
        | bare hname =>
            by_contra hspace
            exact hbare ⟨hname, Bool.eq_false_iff.mpr hspace⟩
      rw [eq_iff_writeAnswer sound means hvalid]
      constructor
      · exact nofun
      · rintro (⟨-, hmeaningless⟩ | ⟨-, hinvalid⟩)
        · exact absurd means (hmeaningless space name)
        · exact absurd hinvalid hbare
    · have hmeaningless : ∀ space name, ¬ Tag.Means w.core.defaultNamespace tag space name :=
        fun space name means => hmeans ⟨space, name, means⟩
      rw [checkWriteAccess_of_meaningless hmeaningless]
      constructor
      · rintro ⟨⟩
        exact Or.inl ⟨rfl, hmeaningless⟩
      · rintro (⟨rfl, -⟩ | ⟨-, hinvalid⟩)
        · rfl
        · exact absurd hinvalid hbare

/-- A write check of a tag that means two valid names answers with their record if the caller owns it or
is one of its writers, refuses the caller otherwise, and says that the resource is unknown if there is no
record. A tag is called invalid if it means nothing. The one other tag that is called invalid is that of
a valid name and a default namespace that is no name. -/
theorem tagCheck_decides (reachable : Reachable w) (tag : String) (caller : Int) :
    let default := w.core.defaultNamespace
    let outcome := (decide (.checkWriteAccess caller tag) w).1
    (∀ space name, Tag.Means default tag space name → Name.isValid space = true →
      ∀ answer, outcome = answer ↔ WriteAnswer w space name caller answer) ∧
    ∀ invalid, outcome = .error (.invalidTag invalid) ↔
      (invalid = tag ∧ ∀ space name, ¬ Tag.Means default tag space name) ∨
      (invalid = Tag.join default tag ∧ Name.isValid tag = true ∧ Name.isValid default = false) := by
  intro default outcome
  refine ⟨fun space name means validSpace answer => ?_, fun invalid => ?_⟩
  · exact eq_iff_writeAnswer reachable.sound means validSpace caller answer
  · exact eq_invalidTag_iff reachable.sound tag caller invalid

/-- In the stocked world the owner's check of the resource by its tag gives the record, and that of
another caller is refused. The bare name is looked for in the default namespace, where it is unknown. -/
theorem tagCheck_decides_stocked :
    (decide (.checkWriteAccess 1 "game-player") stocked).1 =
        .ok (.resource ⟨"game", "player", 8, 7, 1, .model, [], none, 1⟩) ∧
      (decide (.checkWriteAccess 2 "game-player") stocked).1 =
        .error (.denied (.writeRefused "game-player" 2)) ∧
      (decide (.checkWriteAccess 1 "player") stocked).1 =
        .error (.denied (.resourceUnknown (.int (Selector.ofNames "world" "player")))) ∧
      (decide (.checkWriteAccess 1 "game-player-1") stocked).1 = .error (.invalidTag "game-player-1") := by
  have hresources : stocked.core.store.resources.records.entries =
      [(8, ⟨"game", "player", 8, 7, 1, .model, [], none, 1⟩)] := by rfl
  have hfound : stocked.core.store.resources.records.get? 8 =
      some ⟨"game", "player", 8, 7, 1, .model, [], none, 1⟩ := by rfl
  have hdefault : stocked.core.defaultNamespace = "world" := by rfl
  have hqualified : Tag.Means stocked.core.defaultNamespace "game-player" "game" "player" :=
    Tag.means_iff.mpr (by decide)
  have hbare : Tag.Means stocked.core.defaultNamespace "player" "world" "player" :=
    hdefault ▸ .bare (by decide)
  obtain ⟨howner, -⟩ := tagCheck_decides reachable_stocked "game-player" 1
  obtain ⟨hstranger, -⟩ := tagCheck_decides reachable_stocked "game-player" 2
  obtain ⟨hunknown, -⟩ := tagCheck_decides reachable_stocked "player" 1
  obtain ⟨-, hinvalid⟩ := tagCheck_decides reachable_stocked "game-player-1" 1
  refine ⟨?_, ?_, ?_, ?_⟩
  · exact (howner _ _ hqualified (by decide) _).mpr (.allowed hfound ⟨rfl, rfl⟩ (Or.inl rfl))
  · have hwrites : ¬ ((1 : Int) = 2 ∨ (2 : Int) ∈ ([] : Writers)) := by decide
    exact (hstranger _ _ hqualified (by decide) _).mpr (.refused hfound ⟨rfl, rfl⟩ hwrites)
  · refine (hunknown _ _ hbare (by decide) _).mpr (.unknown fun key r hr => ?_)
    have hmem := Table.mem_of_get? hr
    rw [hresources, List.mem_singleton] at hmem
    obtain ⟨-, rfl⟩ := Prod.mk.inj hmem
    decide
  · refine (hinvalid _).mpr (Or.inl ⟨rfl, fun space name means => ?_⟩)
    have hsplit := Tag.means_iff.mp means
    cases hsplit

/-- The bare world with another default namespace. -/
def bareIn (default : String) : World :=
  { bare with core := { bare.core with defaultNamespace := default } }

/-- A world is created with whatever default namespace. -/
theorem create_bareIn (default : String) :
    create (.fresh false) (.error (.missingManifest "s")) default "s" ⟨.empty, []⟩ = .ok (bareIn default) := by
  unfold create bareIn bare
  simp only [configuration_bare]
  rfl

/-- Where "my-ns" is the default namespace, the valid name "player" is refused as the tag
"my-ns-player", although the resource of the two names is not registered. -/
theorem tagCheck_undecided : Reachable (bareIn "my-ns") ∧
    (bareIn "my-ns").core.defaultNamespace = "my-ns" ∧ Name.isValid "player" = true ∧
    (bareIn "my-ns").core.store = .empty ∧
    (decide (.checkWriteAccess 1 "player") (bareIn "my-ns")).1 = .error (.invalidTag "my-ns-player") := by
  have hreachable : Reachable (bareIn "my-ns") := ⟨[], [], .created (create_bareIn "my-ns")⟩
  refine ⟨hreachable, rfl, by decide, rfl, ?_⟩
  exact checkWriteAccess_of_bare hreachable.sound (by decide) (by decide) 1

end World

end OwnershipRegistry
