import ClaimGate.Json.Merge
import ClaimGate.Proofs.Context
import ClaimGate.Settings.Variable

/-! Layers of settings. A layer is a value with settings at paths of names. Laying one over another
goes down both as far as they have objects, so it acts on what stands at a path alone, as long as
the later layer branches along that path. Each variable is a layer with a single path. Proved:
where no variable names a path from which another one goes on, the variables hold at each path the
value of the one that names it, and nothing where none does. -/

namespace ClaimGate

namespace Json

/-! ### Values at paths -/

/-- The last member of this name in an object. -/
def lastMember? (name : String) : Json → Option Json
  | .obj ms => (Dict.ofList ms).get? name
  | _ => none

/-- The value at a path of names. -/
def valueAt : List String → Json → Option Json
  | [], j => some j
  | name :: path, j => (j.lastMember? name).bind (valueAt path)

/-- A later value over an earlier one, each of which may be missing. -/
def overlay : Option Json → Option Json → Option Json
  | some earlier, some later => some (merge earlier later)
  | earlier, none => earlier
  | none, later => later

@[simp] theorem overlay_none (earlier : Option Json) : overlay earlier none = earlier := by
  cases earlier <;> rfl

@[simp] theorem none_overlay (later : Option Json) : overlay none later = later := by
  cases later <;> rfl

theorem lastMember?_entries (d : Dict String Json) (name : String) :
    (Json.obj d.entries).lastMember? name = d.get? name :=
  congrArg (·.get? name) (Dict.ofList_of_perm (.refl d.entries))

theorem get?_mergeMembers {name : String} {later : List (String × Json)}
    (distinct : later.Pairwise fun m m' => m.1 ≠ m'.1) (d : Dict String Json) :
    (mergeMembers d later).get? name = overlay (d.get? name) (later.lookup name) := by
  induction later generalizing d with
  | nil => rw [mergeMembers, List.lookup_nil, overlay_none]
  | cons m later ih =>
    obtain ⟨fresh, distinct⟩ := List.pairwise_cons.1 distinct
    rw [mergeMembers, ih distinct, mergeMember, Dict.get?_insert, Dict.lookup_cons_eq]
    by_cases same : name = m.1
    · have gone : later.lookup name = none := by
        refine Option.eq_none_iff_forall_ne_some.2 fun j found => ?_
        have listed := (Dict.lookup_eq_some_iff distinct).1 found
        exact fresh _ listed same.symm
      rw [if_pos same, if_pos same, gone, overlay_none, same]
      cases d.get? m.1 <;> rfl
    · rw [if_neg same, if_neg same]

/-- Of two values that are laid over each other the members are. -/
theorem lastMember?_merge (earlier : Json) (d : Dict String Json) (name : String) :
    (merge earlier (.obj d.entries)).lastMember? name =
      overlay (earlier.lastMember? name) (d.get? name) := by
  cases earlier with
  | obj ms =>
    have merged : (mergeMembers (.ofList ms) d.entries).get? name =
        overlay ((Dict.ofList ms).get? name) (d.get? name) := get?_mergeMembers d.distinct _
    rw [merge, lastMember?_entries]
    exact merged
  | _ => exact (lastMember?_entries d name).trans (none_overlay _).symm

/-! ### Branches -/

/-- As far as a value has the path, it has objects with distinct names along it. -/
def Branches : List String → Json → Prop
  | [], _ => True
  | name :: path, j => ∃ d : Dict String Json, j = .obj d.entries ∧
      ∀ c, d.get? name = some c → Branches path c

theorem Branches.merge {path : List String} {earlier later : Json} (h : Branches path earlier)
    (h' : Branches path later) : Branches path (merge earlier later) := by
  induction path generalizing earlier later with
  | nil => trivial
  | cons name path ih =>
    obtain ⟨d, rfl, below⟩ := h
    obtain ⟨d', rfl, below'⟩ := h'
    refine ⟨mergeMembers (.ofList d.entries) d'.entries, rfl, fun c found => ?_⟩
    rw [get?_mergeMembers d'.distinct, Dict.ofList_of_perm (.refl d.entries)] at found
    have later : d'.entries.lookup name = d'.get? name := rfl
    rw [later] at found
    cases first : d.get? name with
    | none =>
      rw [first, none_overlay] at found
      exact below' c found
    | some e =>
      cases second : d'.get? name with
      | none =>
        rw [second, overlay_none] at found
        exact below c found
      | some l =>
        rw [first, second] at found
        obtain rfl := Option.some.inj found
        exact ih (below e first) (below' l second)

/-- Where the later of two layers branches along a path, what stands there is laid over what the
earlier has there. -/
theorem valueAt_merge {path : List String} {earlier later : Json} (h : Branches path later) :
    (merge earlier later).valueAt path = overlay (earlier.valueAt path) (later.valueAt path) := by
  induction path generalizing earlier later with
  | nil => rfl
  | cons name path ih =>
    obtain ⟨d, rfl, below⟩ := h
    rw [valueAt, valueAt, valueAt, lastMember?_merge, lastMember?_entries]
    cases second : d.get? name with
    | none => rw [overlay_none, Option.bind_none, overlay_none]
    | some l =>
      cases first : earlier.lastMember? name with
      | none => rw [none_overlay, Option.bind_none, none_overlay]
      | some e => exact ih (below l second)

end Json

open Json

/-! ### Variables -/

namespace Variable

/-- The variable names the setting at the path. -/
def Names (v : Variable) (path : List String) : Prop :=
  ∃ steps, v.path? = some steps ∧ steps.map String.ofList = path

variable {v : Variable} {path path' : List String}

theorem Names.unique (h : v.Names path) (h' : v.Names path') : path = path' := by
  obtain ⟨steps, found, rfl⟩ := h
  obtain ⟨steps', found', rfl⟩ := h'
  rw [Option.some.inj (found.symm.trans found')]

theorem get?_single {name name' : String} {j : Json} :
    (Dict.ofList [(name', j)]).get? name = if name = name' then some j else none := by
  rw [Dict.get?_ofList, List.reverse_singleton, Dict.lookup_cons_eq]
  rfl

theorem branches_nest {steps : List (List Char)} {j : Json}
    (h : path = steps.map String.ofList ∨ ¬ steps.map String.ofList <+: path) :
    Branches path (nest steps j) := by
  induction path generalizing steps with
  | nil => trivial
  | cons name path ih =>
    cases steps with
    | nil =>
      -- The value of the variable would stand on the way, and need not branch.
      simp at h
    | cons step steps =>
      refine ⟨.ofList [(.ofList step, nest steps j)], rfl, fun c found => ?_⟩
      rw [get?_single] at found
      split at found
      · rename_i same
        obtain rfl := Option.some.inj found
        refine ih ?_
        simpa [same] using h
      · cases found

theorem valueAt_nest_self {steps : List (List Char)} {j : Json} :
    (nest steps j).valueAt (steps.map String.ofList) = some j := by
  induction steps with
  | nil => rfl
  | cons step steps ih =>
    have found : (nest (step :: steps) j).lastMember? (.ofList step) = some (nest steps j) :=
      get?_single.trans (if_pos rfl)
    rw [List.map_cons, valueAt, found, Option.bind_some, ih]

/-- Of two paths neither goes on from the other. -/
def Apart (path path' : List String) : Prop := ¬ path <+: path' ∧ ¬ path' <+: path

theorem valueAt_nest_apart {steps : List (List Char)} {j : Json}
    (apart : Apart path (steps.map String.ofList)) : (nest steps j).valueAt path = none := by
  induction path generalizing steps with
  | nil => exact absurd List.nil_prefix apart.1
  | cons name path ih =>
    cases steps with
    | nil => exact absurd List.nil_prefix apart.2
    | cons step steps =>
      have found : (nest (step :: steps) j).lastMember? name = _ := get?_single
      rw [valueAt, found]
      by_cases same : name = .ofList step
      · rw [if_pos same, Option.bind_some]
        refine ih ?_
        simpa [Apart, same] using apart
      · rw [if_neg same, Option.bind_none]

/-! ### Layers of variables -/

/-- The layers of variables one after another over a value. -/
def layersOver (j : Json) (vs : List Variable) : Json := (vs.filterMap layer).foldl Json.merge j

theorem layersOver_cons {j : Json} {vs : List Variable} :
    layersOver j (v :: vs) = layersOver ((layer v).elim j (Json.merge j)) vs := by
  rw [layersOver, layersOver, List.filterMap_cons]
  cases layer v <;> rfl

/-- Where a variable names anything it names the path itself, or one apart from it. -/
def Spares (v : Variable) (path : List String) : Prop :=
  ∀ other, v.Names other → path = other ∨ Apart path other

theorem branches_layersOver {j : Json} {vs : List Variable} (h : Branches path j)
    (spares : ∀ v ∈ vs, v.Spares path) : Branches path (layersOver j vs) := by
  induction vs generalizing j with
  | nil => exact h
  | cons v vs ih =>
    obtain ⟨first, spares⟩ := List.forall_mem_cons.1 spares
    rw [layersOver_cons]
    refine ih ?_ spares
    cases found : v.path? with
    | none => simpa [layer, found] using h
    | some steps =>
      have own : Branches path (nest steps (VariableValue.ofText v.value)) :=
        branches_nest ((first _ ⟨steps, found, rfl⟩).imp_right (·.2))
      simpa [layer, found] using h.merge own

/-- A variable that names another path leaves what stands at this one. -/
theorem valueAt_layer_of_not_names {j : Json} (spares : v.Spares path) (other : ¬ v.Names path) :
    ((layer v).elim j (Json.merge j)).valueAt path = j.valueAt path := by
  cases found : v.path? with
  | none => simp [layer, found]
  | some steps =>
    have apart : Apart path (steps.map String.ofList) := by
      refine (spares _ ⟨steps, found, rfl⟩).resolve_left ?_
      rintro rfl
      exact other ⟨steps, found, rfl⟩
    have none : (nest steps (VariableValue.ofText v.value)).valueAt path = .none :=
      valueAt_nest_apart apart
    have branches : Branches path (nest steps (VariableValue.ofText v.value)) :=
      branches_nest (.inr apart.2)
    simp [layer, found, valueAt_merge branches, none]

/-- A variable that names the path lays its value over what stands there. -/
theorem valueAt_layer_of_names {j : Json} (names : v.Names path) :
    ((layer v).elim j (Json.merge j)).valueAt path =
      overlay (j.valueAt path) (some (VariableValue.ofText v.value)) := by
  obtain ⟨steps, found, rfl⟩ := names
  have branches : Branches (steps.map String.ofList) (nest steps (VariableValue.ofText v.value)) :=
    branches_nest (.inl rfl)
  simp [layer, found, valueAt_merge branches, valueAt_nest_self]

theorem valueAt_layersOver_of_not_names {j : Json} {vs : List Variable}
    (spares : ∀ v ∈ vs, v.Spares path) (others : ∀ v ∈ vs, ¬ v.Names path) :
    (layersOver j vs).valueAt path = j.valueAt path := by
  induction vs generalizing j with
  | nil => rfl
  | cons v vs ih =>
    obtain ⟨spared, spares⟩ := List.forall_mem_cons.1 spares
    obtain ⟨other, others⟩ := List.forall_mem_cons.1 others
    rw [layersOver_cons, ih spares others, valueAt_layer_of_not_names spared other]

theorem valueAt_layersOver_congr {j j' : Json} {vs : List Variable}
    (spares : ∀ v ∈ vs, v.Spares path) (same : j.valueAt path = j'.valueAt path) :
    (layersOver j vs).valueAt path = (layersOver j' vs).valueAt path := by
  induction vs generalizing j j' with
  | nil => exact same
  | cons v vs ih =>
    obtain ⟨spared, spares⟩ := List.forall_mem_cons.1 spares
    rw [layersOver_cons, layersOver_cons]
    refine ih spares ?_
    by_cases names : v.Names path
    · rw [valueAt_layer_of_names names, valueAt_layer_of_names names, same]
    · rw [valueAt_layer_of_not_names spared names, valueAt_layer_of_not_names spared names, same]

theorem layers_append {before after : List Variable} :
    layers (before ++ after) = layersOver (layers before) after := by
  rw [layers, layersOver, List.filterMap_append, List.foldl_append]
  rfl

/-- One more variable, of another setting, does not change what variables say of this one. -/
theorem valueAt_layers_of_other {before after : List Variable} (spared : v.Spares path)
    (spares : ∀ w ∈ after, w.Spares path) (other : ¬ v.Names path) :
    (layers (before ++ v :: after)).valueAt path = (layers (before ++ after)).valueAt path := by
  rw [layers_append, layers_append, layersOver_cons]
  exact valueAt_layersOver_congr spares (valueAt_layer_of_not_names spared other)

/-- What variables say of a setting that none of them names. -/
theorem valueAt_layers_of_not_names {vs : List Variable} (proper : path ≠ [])
    (spares : ∀ v ∈ vs, v.Spares path) (others : ∀ v ∈ vs, ¬ v.Names path) :
    (layers vs).valueAt path = none := by
  have empty : (Json.obj []).valueAt path = none := by
    cases path with
    | nil => exact absurd rfl proper
    | cons name path => rfl
  exact (valueAt_layersOver_of_not_names spares others).trans empty

/-- What variables say of a setting that one of them names is the value of that one. -/
theorem valueAt_layers_of_names {before after : List Variable} (proper : path ≠ [])
    (names : v.Names path) (spares : ∀ w ∈ before ++ v :: after, w.Spares path)
    (alone : ∀ w ∈ before ++ after, ¬ w.Names path) :
    (layers (before ++ v :: after)).valueAt path = some (VariableValue.ofText v.value) := by
  obtain ⟨sparedBefore, sparedAfter⟩ := List.forall_mem_append.1 spares
  obtain ⟨aloneBefore, aloneAfter⟩ := List.forall_mem_append.1 alone
  rw [layers_append, layersOver_cons,
    valueAt_layersOver_of_not_names (List.forall_mem_cons.1 sparedAfter).2 aloneAfter,
    valueAt_layer_of_names names, valueAt_layers_of_not_names proper sparedBefore aloneBefore]
  rfl

theorem branches_layers {vs : List Variable} (spares : ∀ v ∈ vs, v.Spares path) :
    Branches path (layers vs) := by
  have empty : Branches path (.obj []) := by
    cases path with
    | nil => trivial
    | cons name path => exact ⟨.empty, rfl, nofun⟩
  exact branches_layersOver empty spares

end Variable
end ClaimGate
