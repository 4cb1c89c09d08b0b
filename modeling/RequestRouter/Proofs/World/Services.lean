import Mathlib.Data.List.Dedup
import Mathlib.Data.List.Induction
import RequestRouter.Proofs.World.Runs
import RequestRouter.Service.Lookup

/-!
# Containers as one table

A container keeps ready values and factories apart, and each registration takes the key out of the
other table. So no key is ever in both (`Container.Sound`), and the two tables can be looked at as
one, in which the last registration under a key is what is kept (`Container.find?_ofHistory`).
-/

namespace RequestRouter

/-! ## Registrations -/

namespace Container

/-- A registration with a container. -/
inductive Change
  | bind (key : ServiceKey) (value : Value)
  | provide (key : ServiceKey) (factory : Factory)

namespace Change

/-- The key that the registration is kept under. -/
def name : Change → String
  | .bind key _ | .provide key _ => key.normal

/-- What is registered. -/
def service : Change → Service
  | .bind _ value => .ready value
  | .provide _ factory => .made factory

/-- Makes the registration. -/
def apply (container : Container) : Change → Container
  | .bind key value => container.bind key value
  | .provide key factory => container.provide key factory

end Change

/-- The container after some registrations, in this order. -/
def ofHistory (history : List Change) : Container := history.foldl Change.apply {}

/-- What was registered last under a key. -/
def latest (history : List Change) (key : ServiceKey) : Option Service :=
  (history.reverse.find? fun change => change.name == key.normal).map Change.service

/-- Each key is in one table at most, and there only once. -/
structure Sound (container : Container) : Prop where
  instances : container.instances.keys.Nodup
  factories : container.factories.keys.Nodup
  disjoint : ∀ name ∈ container.instances.keys, name ∉ container.factories.keys

variable {container : Container} {history : List Change}

/-! ## One registration -/

theorem sound_empty : Sound {} where
  instances := List.nodup_nil
  factories := List.nodup_nil
  disjoint := fun _ h => absurd h List.not_mem_nil

/-- A registration puts its key into one table and takes it out of the other. -/
theorem Sound.apply (h : container.Sound) (change : Change) : (change.apply container).Sound := by
  cases change with
  | bind key value =>
    refine ⟨Entries.nodup_keys_put h.instances _ value, Entries.nodup_keys_erase h.factories _, ?_⟩
    intro name hname hfactory
    obtain ⟨hne, hfactory⟩ := Entries.mem_keys_erase.mp hfactory
    rcases Entries.mem_keys_put.mp hname with rfl | hname
    · exact hne rfl
    · exact h.disjoint name hname hfactory
  | provide key factory =>
    refine ⟨Entries.nodup_keys_erase h.instances _, Entries.nodup_keys_put h.factories _ factory,
      ?_⟩
    intro name hname hfactory
    obtain ⟨hne, hname⟩ := Entries.mem_keys_erase.mp hname
    rcases Entries.mem_keys_put.mp hfactory with rfl | hfactory
    · exact hne rfl
    · exact h.disjoint name hname hfactory

theorem find?_apply (container : Container) (change : Change) (key : ServiceKey) :
    (change.apply container).find? key =
      if change.name = key.normal then some change.service else container.find? key := by
  cases change with
  | bind own value => exact find?_bind container own key value
  | provide own factory => exact find?_provide container own key factory

/-! ## All registrations -/

theorem ofHistory_concat (history : List Change) (change : Change) :
    ofHistory (history ++ [change]) = change.apply (ofHistory history) :=
  List.foldl_concat ..

theorem sound_ofHistory (history : List Change) : (ofHistory history).Sound := by
  induction history using List.reverseRecOn with
  | nil => exact sound_empty
  | append_singleton history change ih =>
    rw [ofHistory_concat]
    exact ih.apply change

/-- The last registration under a key is what is kept, whichever table it went to. -/
theorem find?_ofHistory (history : List Change) (key : ServiceKey) :
    (ofHistory history).find? key = latest history key := by
  induction history using List.reverseRecOn with
  | nil => rfl
  | append_singleton history change ih =>
    rw [ofHistory_concat, find?_apply, ih, latest, latest, List.reverse_concat, List.find?_cons]
    by_cases hname : change.name = key.normal
    · rw [if_pos hname, hname, beq_self_eq_true]
      rfl
    · rw [if_neg hname, beq_eq_false_iff_ne.mpr hname]

theorem isSome_latest_iff (history : List Change) (key : ServiceKey) :
    (latest history key).isSome = true ↔ key.normal ∈ history.map Change.name := by
  simp [latest]

theorem has_ofHistory (history : List Change) (key : ServiceKey) :
    (ofHistory history).has key = true ↔ key.normal ∈ history.map Change.name := by
  rw [has_eq_isSome_find?, find?_ofHistory, isSome_latest_iff]

/-- As many services are counted as there are different keys. -/
theorem size_ofHistory (history : List Change) :
    (ofHistory history).size = (history.map Change.name).dedup.length := by
  obtain ⟨hinstances, hfactories, hdisjoint⟩ := sound_ofHistory history
  have hnodup :
      ((ofHistory history).instances.keys ++ (ofHistory history).factories.keys).Nodup := by
    rw [List.nodup_append]
    refine ⟨hinstances, hfactories, ?_⟩
    rintro name hname _ hfactory rfl
    exact hdisjoint name hname hfactory
  have hmem : ∀ name,
      name ∈ (ofHistory history).instances.keys ++ (ofHistory history).factories.keys ↔
        name ∈ (history.map Change.name).dedup := by
    intro name
    rw [List.mem_dedup, List.mem_append, ← Entries.has_iff_mem_keys, ← Entries.has_iff_mem_keys,
      ← Bool.or_eq_true]
    exact has_ofHistory history (.text name)
  have hperm := (List.perm_ext_iff_of_nodup hnodup (List.nodup_dedup _)).mpr hmem
  rw [← hperm.length_eq, List.length_append, Entries.keys, Entries.keys, List.length_map,
    List.length_map, size]

/-- A service is got from the last registration under its key: a value as it is, and what a factory
makes by calling the factory. -/
theorem run_get_ofHistory (history : List Change) (key : ServiceKey) (world : World) :
    let holding := { world with container := ofHistory history }
    (Container.get key).run holding =
      match latest history key with
      | some (.ready value) => (.ok value, holding)
      | some (.made factory) => (factory.run key).run holding
      | none => (.error (.serviceNotFound key.normal), holding) := by
  intro holding
  have hfind : holding.container.find? key = latest history key := find?_ofHistory history key
  rw [Container.get, Action.run_bind_ok Action.run_get, hfind]
  cases latest history key with
  | none => rfl
  | some service => cases service <;> rfl

/-- After any registrations a container is one table by keys in which the last registration counts.
No key is in both of its tables. It has just the keys that something was registered under, and
getting what is not there is the fault of a missing service. A value or one call of a factory is got
from the last registration under the key. A class can be given in place of its key and the key in
place of the class, and the different keys are counted. -/
theorem ofHistory_latest (history : List Change) :
    let container := ofHistory history
    let names := history.map Change.name
    (∀ name ∈ container.instances.keys, name ∉ container.factories.keys) ∧
    (∀ key : ServiceKey, (container.has key = true ↔ key.normal ∈ names) ∧
      (container.has key = false ↔ latest history key = none) ∧
      ∀ world : World,
        let holding := { world with container }
        (Container.get key).run holding =
          match latest history key with
          | some (.ready value) => (.ok value, holding)
          | some (.made factory) => (factory.run key).run holding
          | none => (.error (.serviceNotFound key.normal), holding)) ∧
    (∀ value : Value, container.contains value = true ↔
      ∃ key, ServiceKey.ofValue? value = some key ∧ key.normal ∈ names) ∧
    (∀ c : Class, (∀ value, container.bind (.type c) value = container.bind (.text c.key) value) ∧
      (∀ factory, container.provide (.type c) factory = container.provide (.text c.key) factory) ∧
      container.has (.type c) = container.has (.text c.key) ∧
      container.contains (.type c) = container.contains (.text c.key) ∧
      Container.get (.type c) = Container.get (.text c.key)) ∧
    container.size = names.dedup.length := by
  refine ⟨(sound_ofHistory history).disjoint, fun key => ⟨has_ofHistory history key, ?_,
    run_get_ofHistory history key⟩, fun value => ?_,
    fun c => ⟨fun _ => rfl, fun _ => rfl, rfl, rfl, rfl⟩, size_ofHistory history⟩
  · rw [has_eq_isSome_find?, find?_ofHistory, Option.isSome_eq_false_iff, Option.isNone_iff_eq_none]
  · unfold contains
    cases hkey : ServiceKey.ofValue? value with
    | none => simp
    | some key =>
      rw [has_ofHistory]
      exact ⟨fun h => ⟨key, rfl, h⟩, fun ⟨other, heq, h⟩ => Option.some.inj heq ▸ h⟩

end Container

end RequestRouter
