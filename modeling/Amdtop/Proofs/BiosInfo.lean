import Amdtop.BiosInfo
import Amdtop.Proofs.Heap

/-!
# The cache of the Bios tab

The tab writes its key before it reads the image, so the visit that changes the device reports an
error, and the visits after it, to the same device, do not.
-/

namespace Amdtop

open Cmd Heap

/-- Everything the visit asks for succeeds: the image can be read, and it is an image. -/
def BiosVisit.Good (v : BiosVisit) : Prop :=
  ∃ imagelen bytes vbiosVersion, v.size = some imagelen ∧ v.alloc = true ∧ v.image = some bytes
    ∧ v.version = some vbiosVersion ∧ imagelen ≠ 0
    ∧ isAtomBios (copyImage ⟨0, 1, List.replicate imagelen.toNat 0⟩ bytes) v.behind = true

namespace BiosTab

/-- The last query and the last `atombios_init` succeeded for the device, and the image they left
is there. -/
def Ready (tab : BiosTab) (device : ℕ) : Prop :=
  ∃ image, tab.queried = some (device, 0, some image) ∧ tab.inited = some (device, 0)
    ∧ tab.gAtombios.image = some image ∧ tab.m.Live {image.id}

/-! ## One visit -/

section Visit

variable (v : BiosVisit)

/-- The outcome of the query: an error, or an image that is still there. -/
theorem gpuQueryVBiosInfo_cases (vBiosInfo : GpuVBiosInfo) {m : Ledger} {live : Multiset ℕ}
    (hm : Owned m live) :
    ∃ ret vBiosInfo' m' live', gpuQueryVBiosInfo v vBiosInfo m = (ret, vBiosInfo', m')
      ∧ Owned m' live'
      ∧ (ret ≠ 0 ∧ ¬ v.Good
        ∨ ret = 0 ∧ ∃ image, vBiosInfo'.image = some image ∧ image.id ∈ live'
          ∧ (v.Good ↔ vBiosInfo'.imagelen ≠ 0 ∧ isAtomBios image v.behind = true)) := by
  have hfail : ioctlFailed ≠ 0 ∧ -enomem ≠ 0 ∧ -eio ≠ 0 := by decide
  unfold gpuQueryVBiosInfo BiosVisit.Good
  rcases hsize : v.size with _ | imagelen
  · exact ⟨_, _, _, _, rfl, hm, Or.inl ⟨hfail.1, by simp⟩⟩
  have hcalloc := hm.calloc (fun _ => v.alloc) 1 imagelen.toNat (0 : UInt8)
  rcases halloc : v.alloc with _ | _ <;> rw [halloc] at hcalloc
  · exact ⟨_, _, _, _, rfl, hcalloc, Or.inl ⟨hfail.2.1, by simp⟩⟩
  rcases himage : v.image with _ | bytes
  · exact ⟨_, _, _, _, rfl, hcalloc.free, Or.inl ⟨hfail.1, by simp⟩⟩
  rcases hversion : v.version with _ | vbiosVersion
  · exact ⟨_, _, _, _, rfl, hcalloc, Or.inl ⟨hfail.2.2, by simp⟩⟩
  · refine ⟨_, _, _, _, rfl, hcalloc, Or.inr ⟨rfl, _, rfl, Multiset.mem_add.2 (Or.inl ?_), ?_, ?_⟩⟩
    · exact Multiset.mem_singleton_self _
    · rintro ⟨imagelen', bytes', -, hs, -, hb, -, hlen, hbios⟩
      obtain rfl := Option.some.inj hs
      obtain rfl := Option.some.inj hb
      exact ⟨hlen, hbios⟩
    · exact fun ⟨hlen, hbios⟩ => ⟨_, _, _, rfl, rfl, rfl, rfl, hlen, hbios⟩

/-- It succeeds just for an image with a length and the signature. -/
theorem initAtombios_cases {tab : BiosTab} {image : Block UInt8}
    (himage : tab.gpuVBiosInfo.image = some image) :
    tab.gpuVBiosInfo.imagelen ≠ 0 ∧ isAtomBios image v.behind = true ∧ (initAtombios v tab).1 = 0
        ∧ (initAtombios v tab).2.gAtombios.image = some image
      ∨ ¬ (tab.gpuVBiosInfo.imagelen ≠ 0 ∧ isAtomBios image v.behind = true)
        ∧ (initAtombios v tab).1 ≠ 0 := by
  have hfail : -einval ≠ 0 := by decide
  unfold initAtombios atombiosInit
  rw [himage]
  dsimp only
  by_cases hlen : tab.gpuVBiosInfo.imagelen = 0
  · rw [if_pos hlen]
    exact Or.inr ⟨fun h => h.1 hlen, hfail⟩
  rw [if_neg hlen]
  rcases hbios : isAtomBios image v.behind with _ | _
  · exact Or.inr ⟨by simp, hfail⟩
  · exact Or.inl ⟨hlen, rfl, rfl, rfl⟩

/-- What a visit that changes the device leaves. -/
structure Changed (tab : BiosTab) (v : BiosVisit) : Prop where
  curDevice : (getAllInfo v tab).2.curDevice = some v.device
  owned : ∃ live, Owned (getAllInfo v tab).2.m live
  ret : (getAllInfo v tab).1 = 0 → v.Good
  ready : Ready (getAllInfo v tab).2 v.device ↔ v.Good

theorem getAllInfo_changed {tab : BiosTab} {live : Multiset ℕ} (hm : Owned tab.m live)
    (hne : some v.device ≠ tab.curDevice) : Changed tab v := by
  obtain ⟨ret, vBiosInfo, m', live', hquery, hm', hcases⟩ :=
    gpuQueryVBiosInfo_cases v tab.gpuVBiosInfo hm
  set tab₁ : BiosTab := { tab with
    curDevice := some v.device, gpuVBiosInfo := vBiosInfo, m := m'
    queried := some (v.device, ret, vBiosInfo.image) }
  have hfirst : queryVBiosInfo v { tab with curDevice := some v.device } = (ret, tab₁) := by
    unfold queryVBiosInfo
    rw [hquery]
  have hall : getAllInfo v tab = andThen (queryVBiosInfo v) (block [initAtombios v])
      { tab with curDevice := some v.device } := by
    unfold getAllInfo
    rw [if_neg hne]
    rfl
  obtain ⟨hret, hbad⟩ | ⟨rfl, image, himage, hlive, hgood⟩ := hcases
  · rw [andThen_error (by rwa [hfirst]), hfirst] at hall
    refine ⟨?_, ⟨live', ?_⟩, ?_, ?_⟩ <;> rw [hall]
    · exact hm'
    · exact fun h => absurd h hret
    · refine iff_of_false ?_ hbad
      rintro ⟨image, hqueried, -⟩
      exact hret (congrArg (fun q => q.2.1) (Option.some.inj hqueried))
  rw [andThen_ok (by rw [hfirst]), hfirst, block] at hall
  obtain ⟨hlen, hbios, hret, hstored⟩ | ⟨hbad, hret⟩ :=
    initAtombios_cases v (show tab₁.gpuVBiosInfo.image = some image from himage)
  · rw [andThen_ok hret] at hall
    refine ⟨?_, ⟨live', ?_⟩, ?_, ?_⟩ <;> rw [hall]
    · rfl
    · exact hm'
    · exact fun _ => hgood.2 ⟨hlen, hbios⟩
    · refine iff_of_true ⟨image, ?_, ?_, hstored, ?_⟩ (hgood.2 ⟨hlen, hbios⟩)
      · exact congrArg (fun image => some (v.device, 0, image)) himage
      · exact congrArg (fun ret => some (v.device, ret)) hret
      · exact hm'.live_of_le (Multiset.singleton_le.2 hlive)
  · rw [andThen_error hret] at hall
    refine ⟨?_, ⟨live', ?_⟩, ?_, ?_⟩ <;> rw [hall]
    · rfl
    · exact hm'
    · exact fun h => absurd h hret
    · refine iff_of_false ?_ fun h => hbad (hgood.1 h)
      rintro ⟨-, -, hinited, -⟩
      exact hret (congrArg Prod.snd (Option.some.inj hinited))

end Visit

/-! ## Runs -/

/-- The visit that changed the device to the one of the last visit. -/
def stay (first : Option BiosVisit) (v : BiosVisit) : Option BiosVisit :=
  if some v.device = first.map (·.device) then first else some v

/-- The tab is ready just if everything succeeded in the visit that changed the device. -/
structure Tracks (tab : BiosTab) (first : Option BiosVisit) : Prop where
  curDevice : tab.curDevice = first.map (·.device)
  owned : ∃ live, Owned tab.m live
  ready : ∀ v, first = some v → (Ready tab v.device ↔ v.Good)

theorem getAllInfo_same {tab : BiosTab} {v : BiosVisit} (h : some v.device = tab.curDevice) :
    getAllInfo v tab = (0, tab) := by
  unfold getAllInfo
  rw [if_pos h]

theorem tracks_visit (tab : BiosTab) (first : Option BiosVisit) (v : BiosVisit)
    (h : Tracks tab first) : Tracks (visit tab v) (stay first v) := by
  unfold visit stay
  by_cases hc : some v.device = tab.curDevice
  · rwa [getAllInfo_same hc, if_pos (hc.trans h.curDevice)]
  · obtain ⟨live, hm⟩ := h.owned
    have hchanged := getAllInfo_changed v hm hc
    rw [if_neg (by rwa [← h.curDevice])]
    refine ⟨hchanged.curDevice, hchanged.owned, fun v' hv' => ?_⟩
    obtain rfl := Option.some.inj hv'
    exact hchanged.ready

/-- After any history: a visit without an error finds the tab ready just if, where an earlier visit
changed to the device, everything succeeded in that one. -/
theorem bios_info_iff (history : List BiosVisit) (v : BiosVisit) :
    ((getAllInfo v (run visit {} history)).1 = 0 →
        Ready (visit (run visit {} history) v) v.device)
      ↔ ∀ first, run stay none history = some first → first.device = v.device → first.Good := by
  have h : Tracks (run visit {} history) (run stay none history) :=
    run_simulates tracks_visit history ⟨rfl, ⟨0, Owned.empty⟩, fun _ h => nomatch h⟩
  rw [visit]
  by_cases hc : some v.device = (run visit {} history).curDevice
  · rw [getAllInfo_same hc]
    rw [h.curDevice] at hc
    obtain ⟨first, hfirst, hdevice⟩ := Option.map_eq_some_iff.1 hc.symm
    refine ⟨fun hready first' hfirst' _ => ?_, fun hgood _ => ?_⟩
    · obtain rfl := Option.some.inj (hfirst.symm.trans hfirst')
      exact (h.ready first hfirst).1 (hdevice ▸ hready rfl)
    · exact hdevice ▸ (h.ready first hfirst).2 (hgood first hfirst hdevice)
  · obtain ⟨live, hm⟩ := h.owned
    have hchanged := getAllInfo_changed v hm hc
    refine iff_of_true (fun hret => hchanged.ready.2 (hchanged.ret hret)) ?_
    intro first hfirst hdevice
    rw [h.curDevice, hfirst] at hc
    exact absurd (congrArg some hdevice.symm) hc

section Example

/-- The size can be read, and the image cannot. -/
def unreadVisit : BiosVisit where
  device := 1
  size := some 65536
  alloc := true
  image := none
  version := none
  behind _ := 0

/-- At the second visit the tab goes on to read an image that has been freed. -/
theorem bios_info_freed :
    (getAllInfo unreadVisit (run visit {} [unreadVisit])).1 = 0
      ∧ ¬ Ready (visit (run visit {} [unreadVisit]) unreadVisit) unreadVisit.device := by
  refine ⟨rfl, ?_⟩
  rintro ⟨image, hqueried, -⟩
  have hret : ioctlFailed = 0 := congrArg (fun q => q.2.1) (Option.some.inj hqueried)
  exact absurd hret (by decide)

end Example

end BiosTab

end Amdtop
