import Mathlib.Data.List.Nodup
import VpnAttach.Topology.State

/-!
# Laws of the topology

What plugging and unplugging do to the interfaces, and what taking note of a
port does to the ports.  No interface is there twice unless it was so from the
start, so a router has each of its networks once.
-/

namespace VpnAttach

/-- What was put in is found under its key. -/
theorem find?_upsert_self {α : Type} (key : α → String) (x : α) (ys : List α) :
    (upsert key x ys).find? (key · == key x) = some x := by
  induction ys with
  | nil => simp [upsert]
  | cons y ys ih =>
    rw [upsert]
    by_cases hkey : key y = key x
    · simp [hkey]
    · simp [hkey, ih]

/-- Putting in what is found under its key changes nothing. -/
theorem upsert_of_find? {α : Type} {key : α → String} {x : α} {ys : List α}
    (h : ys.find? (key · == key x) = some x) : upsert key x ys = ys := by
  induction ys with
  | nil => cases h
  | cons y ys ih =>
    rw [upsert]
    by_cases hkey : key y = key x
    · obtain rfl : y = x := by simpa [hkey] using h
      rw [if_pos rfl]
    · rw [if_neg hkey, ih (by simpa [hkey] using h)]

theorem upsert_upsert {α : Type} (key : α → String) (x : α) (ys : List α) :
    upsert key x (upsert key x ys) = upsert key x ys :=
  upsert_of_find? (find?_upsert_self key x ys)

namespace Topology

variable {topology : Topology} {network router id : String} {port : Port}

/-! ## Ports -/

theorem id_of_port? (h : topology.port? id = some port) : port.id = id := by
  simpa using List.find?_some h

theorem port?_putPort (topology : Topology) (port : Port) :
    (topology.putPort port).port? port.id = some port :=
  find?_upsert_self Port.id port topology.ports

/-- A port that is known as it is need not be taken note of. -/
theorem putPort_of_port? (h : topology.port? port.id = some port) :
    topology.putPort port = topology := by
  rw [putPort, upsert_of_find? h]

theorem hasActivePort_eq_true :
    topology.hasActivePort network = true ↔
      ∃ port ∈ topology.ports, port.network = network ∧ port.status = .active := by
  simp [hasActivePort, PortStatus.isActive]

theorem hasActivePort_of_port? (hport : topology.port? port.id = some port)
    (hactive : port.status.isActive = true) :
    topology.hasActivePort port.network = true := by
  refine List.any_eq_true.2 ⟨port, List.mem_of_find?_eq_some hport, ?_⟩
  simp [hactive]

/-! ## Interfaces -/

@[simp] theorem mem_networksOf :
    network ∈ topology.networksOf router ↔ ⟨router, network⟩ ∈ topology.interfaces := by
  simp only [networksOf, List.mem_map, List.mem_filter, beq_iff_eq]
  constructor
  · intro h
    obtain ⟨⟨_, _⟩, ⟨hmem, rfl⟩, rfl⟩ := h
    exact hmem
  · intro hmem
    exact ⟨_, ⟨hmem, rfl⟩, rfl⟩

@[simp] theorem mem_routersOf :
    router ∈ topology.routersOf network ↔ ⟨router, network⟩ ∈ topology.interfaces := by
  simp only [routersOf, List.mem_map, List.mem_filter, beq_iff_eq]
  constructor
  · intro h
    obtain ⟨⟨_, _⟩, ⟨hmem, rfl⟩, rfl⟩ := h
    exact hmem
  · intro hmem
    exact ⟨_, ⟨hmem, rfl⟩, rfl⟩

theorem isPlugged_eq_true :
    topology.isPlugged router network = true ↔
      ⟨router, network⟩ ∈ topology.interfaces :=
  List.contains_iff_mem

theorem mem_interfaces_plug {i : Interface} :
    i ∈ (topology.plug router network).interfaces ↔
      i ∈ topology.interfaces ∨ i = ⟨router, network⟩ := by
  unfold plug
  split
  · rename_i hplugged
    constructor
    · exact Or.inl
    · intro hcases
      rcases hcases with hmem | rfl
      · exact hmem
      · exact isPlugged_eq_true.1 hplugged
  · simp

theorem mem_interfaces_unplug {i : Interface} :
    i ∈ (topology.unplug router network).interfaces ↔
      i ∈ topology.interfaces ∧ i ≠ ⟨router, network⟩ := by
  simp [unplug, List.mem_filter]

theorem nodup_interfaces_plug (h : topology.interfaces.Nodup) :
    (topology.plug router network).interfaces.Nodup := by
  unfold plug
  split
  · exact h
  · rename_i hplugged
    refine List.nodup_append.2 ⟨h, List.nodup_singleton _, ?_⟩
    intro i hi _ hnew hsame
    obtain rfl := List.mem_singleton.1 hnew
    obtain rfl := hsame
    exact hplugged (isPlugged_eq_true.2 hi)

theorem nodup_interfaces_unplug (h : topology.interfaces.Nodup) :
    (topology.unplug router network).interfaces.Nodup :=
  h.filter _

/-- Where no interface is there twice, a router has each of its networks once. -/
theorem nodup_networksOf (h : topology.interfaces.Nodup) (router : String) :
    (topology.networksOf router).Nodup := by
  have hrouter {i : Interface} (hi : i ∈ topology.interfaces.filter (·.router == router)) :
      i.router = router := by
    simpa using (List.mem_filter.1 hi).2
  refine List.Nodup.map_on ?_ (h.filter _)
  intro i hi j hj hnetwork
  have hrouters : i.router = j.router := (hrouter hi).trans (hrouter hj).symm
  obtain ⟨_, _⟩ := i
  obtain ⟨_, _⟩ := j
  exact congrArg₂ Interface.mk hrouters hnetwork

end Topology
end VpnAttach
