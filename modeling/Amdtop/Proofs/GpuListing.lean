import Mathlib.Data.List.Forall2
import Amdtop.GpuListing
import Amdtop.Proofs.DeviceByBus

/-!
# The listing and its order

Each node that opens becomes a device, in the order of the directory, and the status is that of the
last node of the type. So two orders of one directory give the same devices, and the same status
just if both end with a node that opens (`get_devices_order_iff`).
-/

namespace Amdtop

open List

/-! ## One order -/

/-- The devices of the nodes, in their order, numbered from 0, of the type. -/
structure Listed (type : DeviceType) (nodes : List Dirent) (devices : List GpuDevice) : Prop where
  of : Forall₂ GpuDevice.Of devices nodes
  index : devices.map (·.index) = range nodes.length
  type : ∀ d ∈ devices, d.type = type

theorem nodeDevices_index (type : DeviceType) : ∀ (n : ℕ) (nodes : List Dirent),
    (nodeDevices type n nodes).map (·.index) = range' n nodes.length
  | _, [] => rfl
  | n, _ :: nodes => congrArg (n :: ·) (nodeDevices_index type (n + 1) nodes)

theorem nodeDevices_type (type : DeviceType) : ∀ (n : ℕ) (nodes : List Dirent),
    ∀ d ∈ nodeDevices type n nodes, d.type = type
  | _, [] => fun _ h => nomatch h
  | n, _ :: nodes => forall_mem_cons.2 ⟨rfl, nodeDevices_type type (n + 1) nodes⟩

theorem nodeDevices_listed (type : DeviceType) (nodes : List Dirent) :
    Listed type nodes (nodeDevices type 0 nodes) where
  of := nodeDevices_of type 0 nodes
  index := by rw [nodeDevices_index, range_eq_range']
  type := nodeDevices_type type 0 nodes

/-! ## Two orders -/

/-- An entry but for the number of its descriptor, which `open` chooses anew. -/
def Dirent.node (e : Dirent) : Dirent := { e with fd := min e.fd 0 }

theorem Dirent.node_usable (type : DeviceType) (e : Dirent) :
    e.node.usable type = e.usable type := by
  have hfd : decide (0 ≤ e.node.fd) = decide (0 ≤ e.fd) :=
    decide_eq_decide.2 (by simp [Dirent.node])
  have hopens : e.node.opens = e.opens :=
    congrArg (fun b => b && 0 ≤ e.fstat && e.isChr && drmMajor = e.major) hfd
  exact congrArg (e.named type && ·) hopens

/-- What tells one device from another. -/
def GpuDevice.node (device : GpuDevice) : DeviceType × ℕ × ℕ :=
  (device.type, device.major, device.minor)

theorem nodeDevices_node (type : DeviceType) : ∀ (n : ℕ) (nodes : List Dirent),
    (nodeDevices type n nodes).map (·.node)
      = (nodes.map Dirent.node).map fun e => (type, e.major, e.minor)
  | _, [] => rfl
  | n, e :: nodes =>
    congrArg ((type, e.major, e.minor) :: ·) (nodeDevices_node type (n + 1) nodes)

theorem nodes_perm {dri dri' : Dri} (type : DeviceType)
    (h : (dri.dents.map Dirent.node).Perm (dri'.dents.map Dirent.node)) :
    ((dri.nodes type).map Dirent.node).Perm ((dri'.nodes type).map Dirent.node) := by
  have hfilter : ∀ dents : List Dirent, (dents.filter (Dirent.usable type)).map Dirent.node
      = (dents.map Dirent.node).filter (Dirent.usable type) := by
    intro dents
    rw [filter_map]
    exact congrArg _ (filter_congr fun e _ => (e.node_usable type).symm)
  unfold Dri.nodes
  rw [hfilter, hfilter]
  exact h.filter _

/-- Both listings have the same status, 0 if the array can be had, and the same devices, which each
lists in its own order. -/
structure SameDevices (dri dri' : Dri) (type : DeviceType) (l l' : DeviceListing) : Prop where
  ret : l.ret = l'.ret
  ok : dri.alloc = true → l.ret = 0
  handed : l.gpuDevices.isSome = dri.alloc ∧ l'.gpuDevices.isSome = dri.alloc
  count : l.deviceCount = (dri.nodes type).length ∧ l'.deviceCount = (dri'.nodes type).length
    ∧ l.deviceCount = l'.deviceCount
  devices : dri.alloc = true → ∃ devices devices', l.gpuDevices = some devices
    ∧ l'.gpuDevices = some devices' ∧ Listed type (dri.nodes type) devices
    ∧ Listed type (dri'.nodes type) devices'
    ∧ (devices.map (·.node)).Perm (devices'.map (·.node))

/-- The two orders are listed alike exactly if each ends with a node that opens, or there is no
array to list them in. -/
theorem get_devices_order_iff (dri dri' : Dri) (type : DeviceType)
    (hperm : (dri.dents.map Dirent.node).Perm (dri'.dents.map Dirent.node))
    (halloc : dri'.alloc = dri.alloc) (hfit : (dri.nodes type).length ≤ gpuMaxCardSupport) :
    (∃ l l', gpuListDevices dri type true = some l ∧ gpuListDevices dri' type true = some l'
        ∧ SameDevices dri dri' type l l')
      ↔ (dri.alloc = true → LastOpens type dri.dents 0 ∧ LastOpens type dri'.dents 0) := by
  have hnodes := nodes_perm type hperm
  have hlength : (dri.nodes type).length = (dri'.nodes type).length := by
    simpa only [length_map] using hnodes.length_eq
  obtain ⟨ret, hloop, hret⟩ := gpuGetDevicesLoop_start hfit
  obtain ⟨ret', hloop', hret'⟩ := gpuGetDevicesLoop_start (hlength ▸ hfit)
  have hcount : ∀ nodes : List Dirent, (nodeDevices type 0 nodes).length = nodes.length :=
    fun nodes => (nodeDevices_of type 0 nodes).length_eq
  unfold gpuListDevices
  rw [hloop, hloop', halloc]
  by_cases ha : dri.alloc = true
  · simp only [ha, if_true, Bool.not_true, Bool.false_eq_true, if_false, Option.some.injEq,
      true_imp_iff]
    constructor
    · rintro ⟨l, l', rfl, rfl, hsame⟩
      exact ⟨hret.1 (hsame.ok ha), hret'.1 (hsame.ret.symm.trans (hsame.ok ha))⟩
    · rintro ⟨hlast, hlast'⟩
      obtain rfl := hret.2 hlast
      obtain rfl := hret'.2 hlast'
      refine ⟨_, _, rfl, rfl, ⟨rfl, fun _ => rfl, ⟨ha.symm, ha.symm⟩, ?_,
        fun _ => ⟨_, _, rfl, rfl, ?_, ?_, ?_⟩⟩⟩
      · exact ⟨hcount _, hcount _, by rw [hcount, hcount, hlength]⟩
      · exact nodeDevices_listed type _
      · exact nodeDevices_listed type _
      · rw [nodeDevices_node, nodeDevices_node]
        exact hnodes.map _
  · simp only [ha, if_true, Bool.not_false, Option.some.injEq, false_imp_iff, iff_true,
      Bool.false_eq_true]
    have hnone : false = dri.alloc := (Bool.not_eq_true _ ▸ ha).symm
    refine ⟨_, _, rfl, rfl, ⟨rfl, fun h => absurd h ha, ⟨hnone, hnone⟩, ?_, fun h => absurd h ha⟩⟩
    exact ⟨hcount _, hcount _, by rw [hcount, hcount, hlength]⟩

section Example

/-- A card that no one may open. -/
def lockedDent : Dirent := { cardDent 1 with fd := -1 }

def cardsIn (dents : List Dirent) : Dri where
  dents
  uevent _ _ := none
  alloc := true

theorem get_devices_order_iff_two :
    (∃ l l', gpuListDevices (cardsIn [cardDent 0, cardDent 1]) .card true = some l
        ∧ gpuListDevices (cardsIn [cardDent 1, cardDent 0]) .card true = some l'
        ∧ SameDevices (cardsIn [cardDent 0, cardDent 1]) (cardsIn [cardDent 1, cardDent 0]) .card l l')
      ↔ ((cardsIn [cardDent 0, cardDent 1]).alloc = true →
        LastOpens .card (cardsIn [cardDent 0, cardDent 1]).dents 0
          ∧ LastOpens .card (cardsIn [cardDent 1, cardDent 0]).dents 0) :=
  get_devices_order_iff (cardsIn [cardDent 0, cardDent 1]) (cardsIn [cardDent 1, cardDent 0]) .card
    (Perm.swap _ _ _) rfl (by decide)

/-- With the locked card in front the status is 0, and behind it is the error of its `open`. -/
theorem get_devices_order_matters :
    ((cardsIn [lockedDent, cardDent 0]).dents.map Dirent.node).Perm
        ((cardsIn [cardDent 0, lockedDent]).dents.map Dirent.node)
      ∧ ((cardsIn [lockedDent, cardDent 0]).nodes .card).length ≤ gpuMaxCardSupport
      ∧ ¬ ∃ l l', gpuListDevices (cardsIn [lockedDent, cardDent 0]) .card true = some l
        ∧ gpuListDevices (cardsIn [cardDent 0, lockedDent]) .card true = some l'
        ∧ SameDevices (cardsIn [lockedDent, cardDent 0]) (cardsIn [cardDent 0, lockedDent]) .card
          l l' := by
  refine ⟨Perm.swap _ _ _, by decide, ?_⟩
  rintro ⟨l, l', h, h', hsame⟩
  have hret : (gpuListDevices (cardsIn [lockedDent, cardDent 0]) .card true).map (·.ret)
      = some 0 := by decide
  have hret' : (gpuListDevices (cardsIn [cardDent 0, lockedDent]) .card true).map (·.ret)
      = some (-1) := by decide
  rw [h] at hret
  rw [h'] at hret'
  have : (0 : ℤ) = -1 := (Option.some.inj hret).symm.trans (hsame.ret.trans (Option.some.inj hret'))
  exact absurd this (by decide)

end Example

end Amdtop
