import Amdtop.Blocks
import Amdtop.DisplayTab
import Amdtop.Proofs.DisplayInfo

/-!
# What the Display tab keeps

`needUpdateDisplayInfo` compares the keys of two states (`needUpdate_iff`), and completing a state
leaves its key. So the tab keeps the first state of the last block of queries with equal keys, for
whichever devices they were (`display_tab_run`).
-/

namespace Amdtop

open Blocks Heap

/-! ## Keys -/

/-- What is compared of an entry. -/
structure EntryKey where
  dpmsValue : UInt32
  present : Bool
  starty : UInt32
  startx : UInt32
  width : UInt32
  height : UInt32
deriving DecidableEq

/-- What is compared of a state. -/
structure StateKey where
  connectorCount : ℕ
  entries : List EntryKey
deriving DecidableEq

def DisplayInfo.key (info : DisplayInfo) : EntryKey :=
  ⟨info.dpmsValue, info.present, info.starty, info.startx, info.width, info.height⟩

def DisplayState.key (state : DisplayState) : StateKey :=
  ⟨state.connectorCount, state.displayinfo.map DisplayInfo.key⟩

theorem changedInfo_iff (a b : DisplayInfo) : changedInfo a b = false ↔ a.key = b.key := by
  unfold changedInfo DisplayInfo.key
  simp only [Bool.or_eq_false_iff, decide_eq_false_iff_not, not_not, EntryKey.mk.injEq, and_assoc]

theorem map_key_iff (as bs : List DisplayInfo) :
    List.Forall₂ (fun a b => a.key = b.key) as bs
      ↔ as.map DisplayInfo.key = bs.map DisplayInfo.key := by
  rw [← List.forall₂_eq_eq_eq, List.forall₂_map_left_iff, List.forall₂_map_right_iff]

theorem needUpdate_iff (current state : DisplayState) :
    needUpdateDisplayInfo current state = false
      ↔ current.valid = true ∧ current.key = state.key := by
  unfold needUpdateDisplayInfo DisplayState.aliveConnectorCount DisplayState.key
  rw [StateKey.mk.injEq, ← map_key_iff, List.forall₂_iff_zip]
  simp only [Bool.or_eq_false_iff, Bool.not_eq_false', decide_eq_false_iff_not, not_not,
    List.any_eq_false, Bool.not_eq_true, changedInfo_iff, Prod.forall, and_assoc]

theorem ParseFrame.key {info info' : DisplayInfo} (h : ParseFrame info info') :
    info.key = info'.key := by
  unfold DisplayInfo.key
  rw [h.dpmsValue, h.present, h.starty, h.startx, h.width, h.height]

theorem key_update (state : DisplayState) : (updateDisplayInfo state).2.key = state.key := by
  have hkeys := (updateInfos_frame state.displayinfo).imp fun _ _ => ParseFrame.key
  exact congrArg (StateKey.mk state.connectorCount) ((map_key_iff _ _).1 hkeys).symm

/-! ## Queries -/

theorem queryConnector_valid {resource : ResourceView} {connector : ConnectorView}
    {obj : Ptr ConnectorView} {state : DisplayState} {m : Ledger} {r : ℤ × DisplayState × Ledger}
    (h : queryConnector resource connector obj state m = some r) :
    r.2.1.valid = state.valid := by
  unfold queryConnector at h
  dsimp only at h
  obtain ⟨⟨ret, edid, m₁⟩, -, h⟩ := Option.bind_eq_some_iff.1 h
  dsimp only at h
  split_ifs at h
  · obtain rfl := Option.some.inj h
    rfl
  obtain ⟨⟨ret', dpms, m₂⟩, -, h⟩ := Option.bind_eq_some_iff.1 h
  dsimp only at h
  split_ifs at h
  all_goals
    obtain rfl := Option.some.inj h
    rfl

theorem queryDisplayInfo_valid {resource : Option ResourceView} {call : DisplayAnswers} {m : Ledger}
    {q : DisplayQuery} (h : queryDisplayInfo resource call m = some q) :
    q.displayState.valid = true := by
  unfold queryDisplayInfo at h
  dsimp only at h
  split_ifs at h
  · obtain rfl := Option.some.inj h
    rfl
  · obtain ⟨res, -, h⟩ := Option.bind_eq_some_iff.1 h
    split_ifs at h
    obtain ⟨r, hr, rfl⟩ := Option.map_eq_some_iff.1 h
    exact queryConnectors_keeps (I := fun state _ => state.valid = true) (fun hs => hs)
      (fun hs => hs) (fun _ _ hc hs => (queryConnector_valid hc).trans hs) (List.Subset.refl _) hr
      rfl

/-! ## What is kept -/

/-- The first query of the last block. -/
def firstShown (log : List (ℕ × DisplayState)) : Option (ℕ × DisplayState) :=
  blockFirst (·.2.key) log

/-- What `update_display_info` makes of its state. -/
def keptState (log : List (ℕ × DisplayState)) : DisplayState :=
  (firstShown log).elim {} fun x => (updateDisplayInfo x.2).2

namespace DisplayTab

/-- What every visit keeps of the state. -/
structure Tracks (tab : DisplayTab) : Prop where
  valid : ∀ x ∈ tab.log, x.2.valid = true
  queried : ∀ x ∈ tab.log, ∀ info ∈ x.2.displayinfo, info.Queried
  current : tab.currentDisplayState = keptState tab.log

/-- The displays of the kept state have a serial number, if they have an EDID. -/
def Serials (tab : DisplayTab) : Prop :=
  ∀ x ∈ firstShown tab.log, ∀ info ∈ x.2.displayinfo, info.HasSerial

/-- The last drawing, if there is one, is of what is kept. -/
def Drawn (tab : DisplayTab) : Prop :=
  tab.drawn = [] ∨ ∃ maxy, Amdtop.refreshDisplayUi maxy tab.currentDisplayState <:+ tab.drawn

theorem drawn_refresh (maxy : ℕ) (tab : DisplayTab) : (tab.refreshDisplayUi maxy).Drawn :=
  Or.inr ⟨maxy, List.suffix_append _ _⟩

section Query

variable {device : ℕ} {call : DisplayAnswers} {tab tab' : DisplayTab} {ret : ℤ}

variable (device tab tab' ret) in
/-- A query notes what it found, if it succeeds, and changes nothing that is kept or drawn. -/
structure Queries : Prop where
  current : tab'.currentDisplayState = tab.currentDisplayState
  drawn : tab'.drawn = tab.drawn
  log : tab'.log = if ret = 0 then tab.log ++ [(device, tab'.displayState)] else tab.log
  valid : tab'.displayState.valid = true
  queried : ∀ info ∈ tab'.displayState.displayinfo, info.Queried

theorem queryDisplayInfo_queries (h : queryDisplayInfo device call tab = some (ret, tab')) :
    Queries device tab tab' ret := by
  obtain ⟨q, hq, h⟩ := Option.bind_eq_some_iff.1 h
  obtain ⟨-, h⟩ := Option.ite_none_left_eq_some.1 h
  obtain ⟨rfl, rfl⟩ := Prod.mk.inj (Option.some.inj h)
  exact ⟨rfl, rfl, rfl, queryDisplayInfo_valid hq, queryDisplayInfo_queried hq⟩

/-- The tab decides by the key of what it keeps, which is that of the block. -/
theorem Tracks.firstShown_concat (h : Tracks tab) (x : ℕ × DisplayState) :
    firstShown (tab.log ++ [x])
      = if needUpdateDisplayInfo tab.currentDisplayState x.2 then some x
        else firstShown tab.log := by
  have hneed : needUpdateDisplayInfo tab.currentDisplayState x.2 = false
      ↔ (firstShown tab.log).map (·.2.key) = some x.2.key := by
    rw [needUpdate_iff, h.current, keptState]
    rcases hfirst : firstShown tab.log with _ | y
    · exact iff_of_false (fun hc => nomatch hc.1) fun hc => nomatch hc
    · have hvalid : (Amdtop.updateDisplayInfo y.2).2.valid = true :=
        h.valid y (blockFirst_mem _ hfirst)
      simp only [Option.elim_some, Option.map_some, Option.some.injEq, key_update, hvalid, true_and]
  have hblock := blockFirst_concat (fun y : ℕ × DisplayState => y.2.key) tab.log x
  rcases hc : needUpdateDisplayInfo tab.currentDisplayState x.2
  · exact hblock.trans (if_pos (hneed.1 hc))
  · refine hblock.trans (if_neg fun hkey => ?_)
    rw [hneed.2 hkey] at hc
    cases hc

section Settle

variable (h : Tracks tab) (hq : Queries device tab tab' ret)

include h hq

theorem Tracks.failed (hret : ret ≠ 0) :
    Tracks tab' ∧ firstShown tab'.log = firstShown tab.log := by
  have hlog : tab'.log = tab.log := hq.log.trans (if_neg hret)
  refine ⟨⟨?_, ?_, ?_⟩, by rw [hlog]⟩
  · rw [hlog]
    exact h.valid
  · rw [hlog]
    exact h.queried
  · rw [hlog, hq.current]
    exact h.current

theorem Tracks.noted (hret : ret = 0) : (∀ x ∈ tab'.log, x.2.valid = true)
    ∧ (∀ x ∈ tab'.log, ∀ info ∈ x.2.displayinfo, info.Queried)
    ∧ firstShown tab'.log
      = if needUpdateDisplayInfo tab'.currentDisplayState tab'.displayState then
          some (device, tab'.displayState)
        else firstShown tab.log := by
  have hlog : tab'.log = tab.log ++ [(device, tab'.displayState)] := hq.log.trans (if_pos hret)
  rw [hlog, hq.current]
  refine ⟨List.forall_mem_append.2 ⟨h.valid, ?_⟩, List.forall_mem_append.2 ⟨h.queried, ?_⟩,
    h.firstShown_concat _⟩
  · exact List.forall_mem_singleton.2 hq.valid
  · exact List.forall_mem_singleton.2 hq.queried

/-- In the same block all is kept. -/
theorem Tracks.same (hret : ret = 0)
    (hneed : needUpdateDisplayInfo tab'.currentDisplayState tab'.displayState = false) :
    Tracks tab' ∧ firstShown tab'.log = firstShown tab.log := by
  obtain ⟨hvalid, hqueried, hfirst⟩ := h.noted hq hret
  rw [hneed, if_neg Bool.false_ne_true] at hfirst
  refine ⟨⟨hvalid, hqueried, ?_⟩, hfirst⟩
  rw [hq.current, h.current, keptState, keptState, hfirst]

/-- A new block is kept from its first query on. -/
theorem Tracks.new (hret : ret = 0)
    (hneed : needUpdateDisplayInfo tab'.currentDisplayState tab'.displayState = true) :
    Tracks tab'.updateDisplayInfo.2
      ∧ (tab'.updateDisplayInfo.1 = 0 ↔ tab'.updateDisplayInfo.2.Serials) := by
  obtain ⟨hvalid, hqueried, hfirst⟩ := h.noted hq hret
  rw [hneed, if_pos rfl] at hfirst
  refine ⟨⟨hvalid, hqueried, ?_⟩, ?_⟩
  · show (Amdtop.updateDisplayInfo tab'.displayState).2 = keptState tab'.log
    rw [keptState, hfirst]
    rfl
  · have hserials : tab'.updateDisplayInfo.2.Serials
        ↔ ∀ info ∈ tab'.displayState.displayinfo, info.HasSerial := by
      show (∀ x ∈ firstShown tab'.log, _) ↔ _
      rw [hfirst]
      simp
    rw [hserials]
    exact updateInfos_ret hq.queried

end Settle

theorem Serials.of_first (hfirst : firstShown tab'.log = firstShown tab.log)
    (h : tab'.Serials) : tab.Serials := by
  unfold Serials at h ⊢
  rwa [hfirst] at h

theorem Queries.drawn_of (hq : Queries device tab tab' ret) (h : tab.Drawn) : tab'.Drawn := by
  unfold Drawn at h ⊢
  rwa [hq.current, hq.drawn]

end Query

/-! ## Visits -/

/-- What holds of the tab after any visits. -/
structure Inv (tab : DisplayTab) : Prop where
  tracks : tab.Tracks
  drawn : tab.Serials → tab.Drawn

section Visits

variable {maxy device : ℕ} {call : DisplayAnswers} {tab : DisplayTab} {r : ℤ × DisplayTab}

theorem Inv.refresh (h : tab.Tracks) : (tab.refreshDisplayUi maxy).Inv where
  tracks := { h with }
  drawn _ := drawn_refresh maxy tab

/-- Where it fails there is no new drawing, and then none is missing. -/
theorem getAllInfo_tracks (h : tab.Inv) (hr : getAllInfo device call tab = some r) :
    r.2.Tracks ∧ (r.1 ≠ 0 → r.2.Serials → r.2.Drawn) := by
  unfold getAllInfo at hr
  by_cases hdevice : tab.currentDevice = some device
  · rw [if_pos hdevice] at hr
    obtain rfl := Option.some.inj hr
    exact ⟨h.tracks, fun hret => absurd rfl hret⟩
  rw [if_neg hdevice] at hr
  obtain ⟨⟨ret, tab'⟩, hquery, rfl⟩ := Option.map_eq_some_iff.1 hr
  have htracks : Tracks { tab with currentDevice := some device } := { h.tracks with }
  have hq := queryDisplayInfo_queries hquery
  dsimp only
  split_ifs with hret hneed
  · obtain ⟨htracks', hfirst⟩ := htracks.failed hq hret
    exact ⟨htracks', fun _ hs => hq.drawn_of (h.drawn (hs.of_first hfirst))⟩
  · obtain ⟨htracks', hserials⟩ := htracks.new hq (not_not.1 hret) hneed
    exact ⟨htracks', fun hret' hs => absurd (hserials.2 hs) hret'⟩
  · obtain ⟨htracks', -⟩ := htracks.same hq (not_not.1 hret) (Bool.eq_false_iff.2 hneed)
    exact ⟨htracks', fun hret' => absurd rfl hret'⟩

theorem tabDisplayInfoInit_inv (h : tab.Inv)
    (hr : tabDisplayInfoInit maxy device call tab = some r) : r.2.Inv := by
  obtain ⟨⟨ret, tab'⟩, hall, rfl⟩ := Option.map_eq_some_iff.1 hr
  obtain ⟨htracks, hdrawn⟩ := getAllInfo_tracks h hall
  dsimp only
  split_ifs with hret
  · exact ⟨htracks, hdrawn hret⟩
  · exact Inv.refresh htracks

theorem tabDisplayInfoUpdate_inv (h : tab.Inv)
    (hr : tabDisplayInfoUpdate maxy device call tab = some r) : r.2.Inv := by
  obtain ⟨⟨ret, tab'⟩, hquery, rfl⟩ := Option.map_eq_some_iff.1 hr
  have hq := queryDisplayInfo_queries hquery
  dsimp only
  split_ifs with hret hneed hret'
  · obtain ⟨htracks, hfirst⟩ := h.tracks.failed hq hret
    exact ⟨htracks, fun hs => hq.drawn_of (h.drawn (hs.of_first hfirst))⟩
  · obtain ⟨htracks, hserials⟩ := h.tracks.new hq (not_not.1 hret) hneed
    exact ⟨htracks, fun hs => absurd (hserials.2 hs) hret'⟩
  · obtain ⟨htracks, -⟩ := h.tracks.new hq (not_not.1 hret) hneed
    have hcleared : tab'.updateDisplayInfo.2.WindowClear.Tracks := { htracks with }
    exact Inv.refresh hcleared
  · obtain ⟨htracks, hfirst⟩ := h.tracks.same hq (not_not.1 hret) (Bool.eq_false_iff.2 hneed)
    exact ⟨htracks, fun hs => hq.drawn_of (h.drawn (hs.of_first hfirst))⟩

theorem visit_inv (h : tab.Inv) {tab' : DisplayTab} :
    ∀ {v : DisplayVisit}, tab.visit v = some tab' → tab'.Inv
  | .clear, hv => by
    obtain rfl := Option.some.inj hv
    exact ⟨{ h.tracks with }, fun _ => Or.inl rfl⟩
  | .init .., hv => by
    obtain ⟨r, hr, rfl⟩ := Option.map_eq_some_iff.1 hv
    exact tabDisplayInfoInit_inv h hr
  | .update .., hv => by
    obtain ⟨r, hr, rfl⟩ := Option.map_eq_some_iff.1 hv
    exact tabDisplayInfoUpdate_inv h hr

theorem visits_inv : ∀ {vs : List DisplayVisit} {tab tab' : DisplayTab}, tab.Inv →
    visits vs tab = some tab' → tab'.Inv
  | [], _, _, h, hrun => by
    obtain rfl := Option.some.inj hrun
    exact h
  | v :: vs, _, _, h, hrun => by
    obtain ⟨mid, hv, hrest⟩ := Option.bind_eq_some_iff.1 hrun
    exact visits_inv (visit_inv h hv) hrest

theorem start_inv : Inv {} where
  tracks := ⟨by simp, by simp, rfl⟩
  drawn _ := Or.inl rfl

end Visits

/-- What the tab keeps and shows: the completed state of the first query of the last block, which in
what is compared is that of the last query; and the last drawing is of it, unless a display in it
has an EDID without a serial number. -/
structure Shows (tab : DisplayTab) : Prop where
  current : tab.currentDisplayState = keptState tab.log
  compared : ∀ x ∈ tab.log.getLast?, tab.currentDisplayState.key = x.2.key
  drawn : tab.Serials → tab.Drawn

theorem key_keptState {log : List (ℕ × DisplayState)} {x : ℕ × DisplayState}
    (h : log.getLast? = some x) : (keptState log).key = x.2.key := by
  have hkey := key_blockFirst (fun y : ℕ × DisplayState => y.2.key) log
  rw [h, Option.map_some, Option.map_eq_some_iff] at hkey
  obtain ⟨y, hy, hkey⟩ := hkey
  have hfirst : firstShown log = some y := hy
  rw [keptState, hfirst, Option.elim_some, key_update, hkey]

/-- After any visits, of whatever devices and with whatever answers, the tab shows the first query
of the last block of queries that are alike in what is compared. -/
theorem display_tab_run {vs : List DisplayVisit} {tab : DisplayTab} (h : visits vs {} = some tab) :
    tab.Shows := by
  have hinv := visits_inv start_inv h
  refine ⟨hinv.tracks.current, fun x hx => ?_, hinv.drawn⟩
  rw [hinv.tracks.current]
  exact key_keptState hx

section Example

/-- The second card has another monitor in the same mode: it is the first card's that is kept. -/
theorem display_tab_run_two :
    ∃ tab, visits [.init 24 0 (oneMonitor (some 65)), .clear, .init 24 1 (oneMonitor (some 66))] {}
        = some tab
      ∧ tab.Shows ∧ firstShown tab.log = some (0, oneMonitorState (some 65)) := by
  have hrun : (visits [.init 24 0 (oneMonitor (some 65)), .clear,
      .init 24 1 (oneMonitor (some 66))] {}).map (fun tab => firstShown tab.log)
        = some (some (0, oneMonitorState (some 65))) := by
    decide +kernel
  obtain ⟨tab, h, hfirst⟩ := Option.map_eq_some_iff.1 hrun
  exact ⟨tab, h, display_tab_run h, hfirst⟩

end Example

end DisplayTab

end Amdtop
