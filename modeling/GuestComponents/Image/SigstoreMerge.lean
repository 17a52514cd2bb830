import GuestComponents.Image.Schemes
import GuestComponents.Lib.AllOrNothing
import GuestComponents.Lib.PartialMap

/-! The sigstore configurations of a directory are merged one by one, in the order in which the
directory lists them. A configuration is a partial map of the default and the namespaces, and
`update_self` gathers these maps as long as they agree. -/
namespace GuestComponents.Image
open Lib Lib.Text Lib.PartialMap

namespace SigstoreConfig

/-- `SigstoreConfig::get_namespace`. -/
def getNamespace (config : SigstoreConfig) (ns : Text) : Option Text :=
  config.dockerNamespaceConfig.bind fun docker => docker.lookup ns

/-- `SigstoreConfig::insert`. -/
def insertNamespace (config : SigstoreConfig) (nsName nsConfig : Text) : SigstoreConfig :=
  { config with dockerNamespaceConfig := some (AList.insert nsName nsConfig (config.dockerNamespaceConfig.getD ∅)) }

/-- The default of the input. -/
def mergeDefault (merged : SigstoreConfig) : Option Text → Except String SigstoreConfig
  | none => .ok merged
  | some defaultConfig =>
    if merged.defaultConfig.isSome ∧ some defaultConfig ≠ merged.defaultConfig then
      .error "Error parsing sigstore config: \"default-docker\" defined repeatedly but differently."
    else .ok { merged with defaultConfig := some defaultConfig }

/-- One namespace of the input. -/
def mergeNamespace (merged : SigstoreConfig) (entry : (_ : Text) × Text) : Except String SigstoreConfig :=
  match merged.getNamespace entry.1 with
  | some namespace_ =>
    if namespace_ ≠ entry.2 then
      .error ("Error parsing sigstore config: " ++ String.ofList entry.1 ++ " defined repeatedly.")
    else .ok merged
  | none => .ok (merged.insertNamespace entry.1 entry.2)

/-- What `update_self` makes of a copy. -/
def mergedWith (self input : SigstoreConfig) : Except String SigstoreConfig := do
  let merged ← self.mergeDefault input.defaultConfig
  (input.dockerNamespaceConfig.getD ∅).entries.foldlM mergeNamespace merged

/-- `SigstoreConfig::update_self`. -/
def updateSelf (input : SigstoreConfig) : Action SigstoreConfig String Unit := fun self =>
  match self.mergedWith input with
  | .ok merged => (.ok (), merged)
  | .error error => (.error error, self)

def default : SigstoreConfig := ⟨none, none⟩

/-- One configuration of a directory. -/
def take (merged input : SigstoreConfig) : Except String SigstoreConfig :=
  match updateSelf input merged with
  | (.ok (), next) => .ok next
  | (.error error, _) => .error error

/-- `SigstoreConfig::new_from_configs`, from the configurations as they are listed. -/
def newFromConfigs (configs : List SigstoreConfig) : Except String SigstoreConfig := configs.foldlM take default

/-- The default, and the entry of each namespace. -/
def view (config : SigstoreConfig) : Option Text → Option Text
  | none => config.defaultConfig
  | some ns => config.getNamespace ns

/-- Two configurations are equal, as maps. -/
structure Equal (one other : SigstoreConfig) : Prop where
  default : one.defaultConfig = other.defaultConfig
  docker : one.dockerNamespaceConfig.isSome = other.dockerNamespaceConfig.isSome
  namespaces : ∀ ns, one.getNamespace ns = other.getNamespace ns

/-- No two of them define different defaults or different entries for a namespace. -/
def Compatible (configs : List SigstoreConfig) : Prop :=
  ∀ one ∈ configs, ∀ other ∈ configs,
    (∀ entry entry', one.defaultConfig = some entry → other.defaultConfig = some entry' → entry = entry') ∧
      ∀ ns entry entry', one.getNamespace ns = some entry → other.getNamespace ns = some entry' → entry = entry'

section Steps

variable {merged next input : SigstoreConfig}

theorem view_insertNamespace (config : SigstoreConfig) (nsName nsConfig : Text) (key : Option Text) :
    (config.insertNamespace nsName nsConfig).view key =
      if key = some nsName then some nsConfig else config.view key := by
  cases key with
  | none => rfl
  | some ns =>
    by_cases same : ns = nsName
    · rw [if_pos (congrArg some same), same]
      exact AList.lookup_insert _
    · rw [if_neg fun impossible => same (Option.some.inj impossible)]
      refine (AList.lookup_insert_ne same).trans ?_
      rw [view, getNamespace]
      cases config.dockerNamespaceConfig with
      | none => rfl
      | some docker => rfl

/-- A map with one key more, or with a key it had. -/
theorem union_single {before after : Option Text → Option Text} {key : Option Text} {value : Text}
    (free : ∀ other, before key = some other → value = other)
    (view : ∀ other, after other = if other = key then some value else before other) :
    UnionOf [before, single key (some value)] after := by
  intro other found
  rw [view other]
  simp only [has_cons, has_nil, or_false, single]
  by_cases same : other = key
  · rw [if_pos same, if_pos same, same]
    constructor
    · exact fun given => Or.inr given
    · rintro (given | given)
      · rw [free found given]
      · exact given
  · rw [if_neg same, if_neg same]
    constructor
    · exact fun given => Or.inl given
    · rintro (given | given)
      · exact given
      · cases given

theorem agree_single {map : Option Text → Option Text} {key : Option Text} {value : Text} :
    Agree map (single key (some value)) ↔ ∀ other, map key = some other → other = value := by
  constructor
  · intro agree other found
    exact agree key other value found (if_pos rfl)
  · intro same key' value' value'' found given
    rw [single] at given
    split at given
    · rename_i equal
      rw [equal] at found
      rw [same value' found]
      exact Option.some.inj given
    · cases given

theorem mergeNamespace_gathers : Gathers mergeNamespace view fun entry => single (some entry.1) (some entry.2) where
  succeeds merged entry := by
    rw [agree_single, mergeNamespace]
    change _ ↔ ∀ other, merged.getNamespace entry.1 = some other → other = entry.2
    cases merged.getNamespace entry.1 with
    | none => simp
    | some found =>
      by_cases same : found = entry.2
      · simp [same]
      · simp [same]
  union merged entry next stepped := by
    rw [mergeNamespace] at stepped
    split at stepped
    · rename_i found there
      split at stepped
      · cases stepped
      · rename_i same
        cases stepped
        apply union_single
        · intro other given
          exact (not_not.mp same).symm.trans (Option.some.inj (there.symm.trans given))
        · intro other
          by_cases equal : other = some entry.1
          · rw [if_pos equal, equal, ← not_not.mp same]
            exact there
          · rw [if_neg equal]
    · rename_i free
      cases stepped
      apply union_single
      · intro other given
        cases free.symm.trans given
      · exact view_insertNamespace merged entry.1 entry.2

/-- The default as a map of its own. -/
theorem mergeDefault_gathers : Gathers mergeDefault view fun entry => single none entry where
  succeeds merged entry := by
    cases entry with
    | none =>
      constructor
      · intro _ key value value' _ given
        rw [single] at given
        split at given <;> cases given
      · exact fun _ => ⟨merged, rfl⟩
    | some defaultConfig =>
      rw [agree_single, mergeDefault]
      change _ ↔ ∀ other, merged.defaultConfig = some other → other = defaultConfig
      cases merged.defaultConfig with
      | none => simp
      | some found =>
        by_cases same : found = defaultConfig
        · simp [same]
        · simp [same, Ne.symm same]
  union merged entry next stepped := by
    cases entry with
    | none =>
      cases stepped
      intro key value
      simp [has_cons, has_nil, single]
    | some defaultConfig =>
      rw [mergeDefault] at stepped
      split at stepped
      · cases stepped
      · rename_i same
        cases stepped
        apply union_single
        · intro other given
          change merged.defaultConfig = some other at given
          rw [given] at same
          simpa using same
        · intro key
          cases key with
          | none => rfl
          | some ns => rfl

/-- The entries of a map, one by one. -/
theorem has_entries (docker : Option (AList fun _ : Text => Text)) (key : Option Text) (value : Text) :
    Has ((docker.getD ∅).entries.map fun entry => single (some entry.1) (some entry.2)) key value ↔
      ∃ ns, key = some ns ∧ (docker.bind fun docker => docker.lookup ns) = some value := by
  simp only [Has, List.mem_map, exists_exists_and_eq_and]
  constructor
  · rintro ⟨⟨ns, entry⟩, listed, found⟩
    rw [single] at found
    split at found
    · rename_i same
      cases found
      refine ⟨ns, same, ?_⟩
      cases docker with
      | none => cases listed
      | some map => exact AList.mem_lookup_iff.mpr listed
    · cases found
  · rintro ⟨ns, rfl, found⟩
    obtain ⟨map, rfl, found⟩ := Option.bind_eq_some_iff.mp found
    exact ⟨⟨ns, value⟩, AList.mem_lookup_iff.mp found, if_pos rfl⟩

/-- A configuration is its default and its namespaces. -/
theorem has_view (config : SigstoreConfig) (key : Option Text) (value : Text) :
    Has (single none config.defaultConfig ::
      (config.dockerNamespaceConfig.getD ∅).entries.map fun entry => single (some entry.1) (some entry.2))
        key value ↔
      config.view key = some value := by
  rw [has_cons, has_entries]
  cases key with
  | none => simp [single, view]
  | some ns => simp [single, view, getNamespace]

theorem take_eq (merged input : SigstoreConfig) : merged.take input = merged.mergedWith input := by
  rw [take, updateSelf]
  cases merged.mergedWith input <;> rfl

/-- The two loops of `update_self` meet the maps of the input one after the other. -/
theorem has_input (merged input : SigstoreConfig) (key : Option Text) (value : Text) :
    Has (merged.view :: single none input.defaultConfig ::
      (input.dockerNamespaceConfig.getD ∅).entries.map fun entry => single (some entry.1) (some entry.2)) key value ↔
      Has [merged.view, input.view] key value := by
  rw [has_cons, has_view]
  simp only [has_cons, has_nil, or_false]

/-- `update_self` takes a configuration in when it agrees with what is there. -/
theorem take_gathers : Gathers take view view := by
  have union : ∀ merged input next, take merged input = .ok next → UnionOf [merged.view, input.view] next.view := by
    intro merged input next stepped
    rw [take_eq, mergedWith] at stepped
    obtain ⟨middle, first, rest⟩ := bind_ok.mp stepped
    have defaults := mergeDefault_gathers.union merged input.defaultConfig middle first
    have whole := defaults.append (mergeNamespace_gathers.fold_union rest)
    exact fun key value => (whole key value).trans (has_input merged input key value)
  refine ⟨?_, union⟩
  intro merged input
  constructor
  · rintro ⟨next, stepped⟩
    exact allAgree_pair.mp (union merged input next stepped).allAgree
  · intro agree
    have all := (allAgree_pair.mpr agree).of_has fun key value => (has_input merged input key value).mp
    obtain ⟨middle, first⟩ := (mergeDefault_gathers.succeeds merged input.defaultConfig).mpr
      (all _ List.mem_cons_self _ (List.mem_cons_of_mem _ List.mem_cons_self))
    have later := all.of_has fun key value has =>
      (mergeDefault_gathers.union merged input.defaultConfig middle first).has_cons_iff.mp has
    obtain ⟨final, rest⟩ := (mergeNamespace_gathers.fold_ok_iff _ middle).mpr later
    exact ⟨final, (take_eq merged input).trans (bind_ok.mpr ⟨middle, first, rest⟩)⟩

theorem has_views (configs : List SigstoreConfig) (key : Option Text) (value : Text) :
    Has (view default :: configs.map view) key value ↔ ∃ config ∈ configs, config.view key = some value := by
  rw [has_cons]
  constructor
  · rintro (impossible | ⟨map, listed, found⟩)
    · cases key <;> cases impossible
    · obtain ⟨config, member, rfl⟩ := List.mem_map.mp listed
      exact ⟨config, member, found⟩
  · rintro ⟨config, listed, found⟩
    exact Or.inr ⟨config.view, List.mem_map_of_mem listed, found⟩

/-- There is a map of namespaces only if one of them has an entry. -/
def Filled (config : SigstoreConfig) : Prop :=
  config.dockerNamespaceConfig.isSome → ∃ ns entry, config.getNamespace ns = some entry

theorem filled_mergeNamespace {entry : (_ : Text) × Text} (filled : Filled merged)
    (stepped : mergeNamespace merged entry = .ok next) : Filled next := by
  rw [mergeNamespace] at stepped
  split at stepped
  · split at stepped
    · cases stepped
    · cases stepped
      exact filled
  · cases stepped
    intro _
    exact ⟨entry.1, entry.2, AList.lookup_insert _⟩

theorem filled_take (filled : Filled merged) (stepped : take merged input = .ok next) : Filled next := by
  rw [take_eq, mergedWith] at stepped
  obtain ⟨middle, first, rest⟩ := bind_ok.mp stepped
  have docker : middle.dockerNamespaceConfig = merged.dockerNamespaceConfig := by
    rw [mergeDefault.eq_def] at first
    split at first
    · cases first
      rfl
    · split at first
      · cases first
      · cases first
        rfl
  have begins : Filled middle := by
    rw [Filled, docker]
    intro given
    obtain ⟨ns, entry, found⟩ := filled given
    refine ⟨ns, entry, ?_⟩
    rw [getNamespace, docker]
    exact found
  exact foldlM_keeps (fun _ _ _ => filled_mergeNamespace) begins rest

/-- Configurations that gather the same are equal, as maps. -/
theorem equal_of_view {one other : SigstoreConfig} (filled : Filled one) (filled' : Filled other)
    (same : one.view = other.view) : Equal one other := by
  have namespaces : ∀ ns, one.getNamespace ns = other.getNamespace ns := fun ns => congrFun same (some ns)
  have given : ∀ {config config' : SigstoreConfig}, Filled config →
      (∀ ns, config.getNamespace ns = config'.getNamespace ns) → config.dockerNamespaceConfig.isSome →
      config'.dockerNamespaceConfig.isSome := by
    intro config config' filled same there
    obtain ⟨ns, entry, found⟩ := filled there
    rw [same ns] at found
    obtain ⟨docker, present, _⟩ := Option.bind_eq_some_iff.mp found
    exact Option.isSome_of_eq_some present
  refine ⟨congrFun same none, ?_, namespaces⟩
  exact Bool.eq_iff_iff.mpr ⟨given filled namespaces, given filled' fun ns => (namespaces ns).symm⟩

/-- The answer for an image depends on the entries alone. -/
theorem baseUrl_eq (oci : OciClient) (config : SigstoreConfig) (imageRef : Reference) :
    config.baseUrl oci imageRef =
      (((oci.whole imageRef :: getImageNamespaces imageRef).findSome? config.getNamespace).or config.defaultConfig) := by
  rw [baseUrl]
  cases given : config.dockerNamespaceConfig with
  | none =>
    have nothing : config.getNamespace = fun _ => none := by
      funext ns
      rw [getNamespace, given]
      rfl
    rw [nothing, List.findSome?_eq_none_iff.mpr fun _ _ => rfl]
    rfl
  | some docker =>
    have entries : config.getNamespace = fun ns => docker.lookup ns := by
      funext ns
      rw [getNamespace, given]
      rfl
    rw [entries]
    dsimp only
    split
    · rename_i found
      rw [found]
      rfl
    · rename_i missing
      rw [missing]
      rfl

theorem compatible_iff (configs : List SigstoreConfig) :
    AllAgree (view default :: configs.map view) ↔ Compatible configs := by
  rw [allAgree_iff]
  simp only [has_views]
  constructor
  · intro agree one listed other listed'
    refine ⟨?_, ?_⟩
    · intro entry entry' here there
      exact agree none entry entry' ⟨one, listed, here⟩ ⟨other, listed', there⟩
    · intro ns entry entry' here there
      exact agree (some ns) entry entry' ⟨one, listed, here⟩ ⟨other, listed', there⟩
  · rintro compatible key entry entry' ⟨one, listed, here⟩ ⟨other, listed', there⟩
    obtain ⟨defaults, namespaces⟩ := compatible one listed other listed'
    cases key with
    | none => exact defaults entry entry' here there
    | some ns => exact namespaces ns entry entry' here there

theorem gathered {configs : List SigstoreConfig} (folded : newFromConfigs configs = .ok merged) (key : Option Text)
    (value : Text) : merged.view key = some value ↔ ∃ config ∈ configs, config.view key = some value :=
  (take_gathers.fold_union folded key value).trans (has_views configs key value)

theorem newFromConfigs_ok_iff (configs : List SigstoreConfig) :
    (∃ merged, newFromConfigs configs = .ok merged) ↔ Compatible configs :=
  (take_gathers.fold_ok_iff configs default).trans (compatible_iff configs)

theorem newFromConfigs_filled {configs : List SigstoreConfig} (folded : newFromConfigs configs = .ok merged) :
    Filled merged := by
  have begins : Filled default := by
    intro impossible
    cases impossible
  exact foldlM_keeps (fun _ _ _ => filled_take) begins folded

/-- The merge of any list of configurations succeeds exactly when no two of them contradict each
other, and then has the common default and the entries of all. In another order it has the
same outcome, and the same base URL for every image. A configuration that is refused leaves
what is there as it is. -/
theorem sigstore_merge (configs : List SigstoreConfig) :
    ((∃ merged, newFromConfigs configs = .ok merged) ↔ Compatible configs) ∧
      (∀ merged, newFromConfigs configs = .ok merged →
        (∀ entry, merged.defaultConfig = some entry ↔ ∃ config ∈ configs, config.defaultConfig = some entry) ∧
        ∀ ns entry, merged.getNamespace ns = some entry ↔ ∃ config ∈ configs,
          config.getNamespace ns = some entry) ∧
      (∀ order : List SigstoreConfig, order.Perm configs →
        ((∃ error, newFromConfigs configs = .error error) ∧ ∃ error, newFromConfigs order = .error error) ∨
        ∃ merged merged', newFromConfigs configs = .ok merged ∧ newFromConfigs order = .ok merged' ∧
          Equal merged merged' ∧ ∀ (oci : OciClient) (imageRef : Reference),
            merged.baseUrl oci imageRef = merged'.baseUrl oci imageRef) ∧
      ∀ self input error after, updateSelf input self = (.error error, after) → after = self := by
  refine ⟨newFromConfigs_ok_iff configs, ?_, ?_, ?_⟩
  · intro merged folded
    exact ⟨fun entry => gathered folded none entry, fun ns entry => gathered folded (some ns) entry⟩
  · intro order perm
    have compatible : Compatible order ↔ Compatible configs := by
      simp only [Compatible, perm.mem_iff]
    cases folded : newFromConfigs configs with
    | error error =>
      cases folded' : newFromConfigs order with
      | error error' => exact Or.inl ⟨⟨error, rfl⟩, ⟨error', rfl⟩⟩
      | ok merged' =>
        obtain ⟨merged, impossible⟩ := (newFromConfigs_ok_iff configs).mpr
          (compatible.mp ((newFromConfigs_ok_iff order).mp ⟨merged', folded'⟩))
        cases folded.symm.trans impossible
    | ok merged =>
      obtain ⟨merged', folded'⟩ := (newFromConfigs_ok_iff order).mpr
        (compatible.mpr ((newFromConfigs_ok_iff configs).mp ⟨merged, folded⟩))
      have same : merged.view = merged'.view := by
        apply (take_gathers.fold_union folded).unique (take_gathers.fold_union folded')
        intro key value
        rw [has_views, has_views]
        simp only [perm.mem_iff]
      have equal := equal_of_view (newFromConfigs_filled folded) (newFromConfigs_filled folded') same
      refine Or.inr ⟨merged, merged', rfl, folded', equal, ?_⟩
      intro oci imageRef
      rw [baseUrl_eq, baseUrl_eq, equal.default, funext equal.namespaces]
  · intro self input error after refused
    rw [updateSelf] at refused
    split at refused
    · cases refused
    · cases refused
      rfl

end Steps

end SigstoreConfig

end GuestComponents.Image
