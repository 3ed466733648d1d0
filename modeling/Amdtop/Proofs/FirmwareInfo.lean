import Amdtop.Command
import Amdtop.FirmwareInfo
import Amdtop.Proofs.Window

/-!
# What the Firmware tab shows

A query that fails leaves its row as it was, the last row decides whether anything is drawn, and
what does not fit between the borders is left out or runs over them (`firmware_info_iff`).
-/

namespace Amdtop

open Stdio Cmd FirmwareTab

/-! ## The texts -/

theorem hexPad_inj {n : ℕ} {u v : UInt32} (h : hexPad n u.toNat = hexPad n v.toNat) : u = v := by
  have hnum := congrArg (numeral 16) h
  rw [numeral_hexPad, numeral_hexPad] at hnum
  exact UInt32.toNat_inj.1 hnum

/-- A label of ten cells and a number. -/
def numberText (label : List Char) (n : UInt32) : List Char :=
  padRight 10 label ++ ": ".toList ++ hexPad 8 n.toNat

section Texts

variable {label : List Char} {x line : ℕ}

theorem visible_numberText (hlabel : TextWindow.Visible (padRight 10 label)) (n : UInt32) :
    TextWindow.Visible (numberText label n) :=
  (hlabel.append (by decide)).append (visible_hexPad 8 n.toNat)

theorem length_numberText (hlabel : (padRight 10 label).length = 10) (n : UInt32) :
    (numberText label n).length = 20 := by
  rw [numberText, List.length_append, List.length_append, hlabel,
    length_hexPad (by omega) n.toNat_lt]
  rfl

theorem numberText_inj {u v : UInt32} (h : numberText label u = numberText label v) : u = v :=
  hexPad_inj (List.append_cancel_left h)

end Texts

/-! ## The table on the window -/

/-- The table with the numbers that `f` gives. -/
def withNumbers (f : GpuFwType → DrmAmdgpuInfoFirmware) (row : FirmwareInfo) : FirmwareInfo :=
  { row with fwInfo := { row.fwInfo with
      version := (f row.fwType).ver, feature := (f row.fwType).feature } }

/-- A text is between the borders. -/
def InFrame (window : TextWindow) (p : TextWindow.Placed) : Prop :=
  p.y + 1 < window.maxy ∧ p.Inside window

section Table

variable {x line : ℕ} {window : TextWindow} {rows : List FirmwareInfo}

theorem firmwareTexts_eq (x line : ℕ) (name : List Char) (version feature : UInt32) :
    firmwareTexts x line name version feature
      = [⟨line, x, padLeft 5 "Type".toList ++ ": ".toList ++ name⟩,
        ⟨line + 1, x + 7, numberText "Version".toList version⟩,
        ⟨line + 1, x + 7 + 40, numberText "Feature".toList feature⟩] := rfl

/-- A name of at most four characters. -/
def ShortName (row : FirmwareInfo) : Prop :=
  TextWindow.Visible row.name ∧ row.name.length ≤ 4

theorem inFrame_iff {p : TextWindow.Placed} (h : TextWindow.Visible p.text) :
    InFrame window p ↔ p.y + 1 < window.maxy ∧ p.x + p.text.length < window.maxx := by
  unfold InFrame TextWindow.Placed.Inside
  rw [h.fits_iff]
  exact ⟨fun hp => ⟨hp.1, hp.2.2⟩, fun hp => ⟨hp.1, Nat.lt_of_succ_lt hp.1, hp.2⟩⟩

theorem version_visible (n : UInt32) : TextWindow.Visible (numberText "Version".toList n) :=
  visible_numberText (by decide) n

theorem feature_visible (n : UInt32) : TextWindow.Visible (numberText "Feature".toList n) :=
  visible_numberText (by decide) n

/-- The texts of a row are between the borders just if the last of them is. -/
theorem firmwareTexts_inFrame {row : FirmwareInfo} (h : ShortName row) (version feature : UInt32) :
    (∀ p ∈ firmwareTexts x line row.name version feature, InFrame window p)
      ↔ line + 2 < window.maxy ∧ x + 67 < window.maxx := by
  have hname : TextWindow.Visible (padLeft 5 "Type".toList ++ ": ".toList ++ row.name) :=
    TextWindow.Visible.append (by decide) h.1
  have hlen : (padLeft 5 "Type".toList ++ ": ".toList ++ row.name).length ≤ 11 := by
    rw [List.length_append]
    exact Nat.add_le_add (show 7 ≤ 7 from le_rfl) h.2
  rw [firmwareTexts_eq, List.forall_mem_cons, List.forall_mem_cons, List.forall_mem_singleton,
    inFrame_iff hname, inFrame_iff (version_visible version), inFrame_iff (feature_visible feature)]
  dsimp only
  rw [length_numberText (by decide), length_numberText (by decide)]
  omega

/-- So are the texts of the table. -/
theorem tableTexts_inFrame : ∀ {rows : List FirmwareInfo} {line : ℕ}, rows ≠ [] →
    (∀ row ∈ rows, ShortName row) → ((∀ p ∈ tableTexts x line rows, InFrame window p)
      ↔ line + 2 * rows.length < window.maxy ∧ x + 67 < window.maxx)
  | [], _, hne, _ => absurd rfl hne
  | row :: rows, line, _, h => by
    rw [List.forall_mem_cons] at h
    rw [tableTexts, List.forall_mem_append, firmwareTexts_inFrame h.1, List.length_cons]
    rcases rows with _ | ⟨row', rows⟩
    · rw [tableTexts]
      simp
    · rw [tableTexts_inFrame (List.cons_ne_nil row' rows) h.2]
      rw [List.length_cons]
      omega

theorem le_of_mem_tableTexts : ∀ {rows : List FirmwareInfo} {line : ℕ} {p : TextWindow.Placed},
    p ∈ tableTexts x line rows → line ≤ p.y
  | [], _, _, h => nomatch h
  | row :: rows, line, p, h => by
    rcases List.mem_append.1 h with hrow | hrest
    · rw [firmwareTexts_eq] at hrow
      simp only [List.mem_cons, List.not_mem_nil, or_false] at hrow
      rcases hrow with rfl | rfl | rfl <;> dsimp only <;> omega
    · exact (Nat.le_add_right line 2).trans (le_of_mem_tableTexts hrest)

/-- No two texts of the table share a cell. -/
theorem tableTexts_apart : ∀ (rows : List FirmwareInfo) (line : ℕ),
    (tableTexts x line rows).Pairwise fun p q => q.Apart p
  | [], _ => List.Pairwise.nil
  | row :: rows, line => by
    refine List.pairwise_append.2 ⟨?_, tableTexts_apart rows (line + 2), fun p hp q hq => ?_⟩
    · have hversion := version_visible row.fwInfo.version
      rw [firmwareTexts_eq]
      simp only [List.pairwise_cons, List.mem_cons, List.not_mem_nil, or_false, forall_eq_or_imp,
        forall_eq, TextWindow.Placed.Apart, TextWindow.Placed.stop, hversion.expand,
        length_numberText (show (padRight 10 "Version".toList).length = 10 by decide)]
      simp
    · have hle := le_of_mem_tableTexts hq
      rw [firmwareTexts_eq] at hp
      simp only [List.mem_cons, List.not_mem_nil, or_false] at hp
      refine Or.inl ?_
      rcases hp with rfl | rfl | rfl <;> dsimp only <;> omega

/-- Between the borders the texts are printed as they are. -/
theorem foldl_mvwprintw2cText : ∀ {l : List TextWindow.Placed} {window : TextWindow},
    (∀ p ∈ l, InFrame window p) →
    l.foldl mvwprintw2cText window = l.foldl TextWindow.Placed.print window
  | [], _, _ => rfl
  | p :: l, window, h => by
    rw [List.forall_mem_cons] at h
    have hstep : mvwprintw2cText window p = p.print window := if_neg (by have := h.1.1; omega)
    rw [List.foldl_cons, List.foldl_cons, hstep]
    refine foldl_mvwprintw2cText fun q hq => ⟨?_, TextWindow.Placed.inside_print.2 (h.2 q hq).2⟩
    rw [TextWindow.Placed.maxy_print]
    exact (h.2 q hq).1

theorem tableTexts_shown (h : ∀ p ∈ tableTexts x line rows, InFrame window p) :
    ∀ p ∈ tableTexts x line rows,
      p.Shown ((tableTexts x line rows).foldl mvwprintw2cText window) := by
  rw [foldl_mvwprintw2cText h]
  exact TextWindow.Placed.shown_prints _ (fun p hp => (h p hp).2) (tableTexts_apart rows line)

/-- A window shows the table with one number for each place. -/
theorem tableTexts_unique {f g : GpuFwType → DrmAmdgpuInfoFirmware} :
    ∀ {rows : List FirmwareInfo} {line : ℕ},
    (∀ p ∈ tableTexts x line (rows.map (withNumbers f)), p.Shown window) →
    (∀ p ∈ tableTexts x line (rows.map (withNumbers g)), p.Shown window) →
    ∀ row ∈ rows, f row.fwType = g row.fwType
  | [], _, _, _ => fun _ h => nomatch h
  | row :: rows, line, hf, hg => by
    rw [List.map_cons, tableTexts, List.forall_mem_append, firmwareTexts_eq, List.forall_mem_cons,
      List.forall_mem_cons, List.forall_mem_singleton] at hf hg
    refine List.forall_mem_cons.2 ⟨DrmAmdgpuInfoFirmware.ext ?_ ?_, tableTexts_unique hf.2 hg.2⟩
    · have hsame := hf.1.2.1.unique hg.1.2.1 rfl rfl
      dsimp only at hsame
      rw [(version_visible _).expand, (version_visible _).expand, length_numberText (by decide),
        length_numberText (by decide)] at hsame
      exact numberText_inj (hsame rfl)
    · have hsame := hf.1.2.2.unique hg.1.2.2 rfl rfl
      dsimp only at hsame
      rw [(feature_visible _).expand, (feature_visible _).expand, length_numberText (by decide),
        length_numberText (by decide)] at hsame
      exact numberText_inj (hsame rfl)

/-- A cleared window has blanks between the borders. -/
theorem windowClear_cell {y m : ℕ} (hy : 0 < y) (hy' : y + 1 < window.maxy) (hm : 0 < m)
    (hm' : m + 1 < window.maxx) : (windowClear window).cell y m = ' ' := by
  unfold windowClear
  dsimp only
  rw [if_neg (by omega), if_neg (by omega)]

/-- And not the table. -/
theorem not_shown_windowClear {row : FirmwareInfo} (hline : 0 < line)
    (h : ∀ p ∈ tableTexts x line (row :: rows), InFrame (windowClear window) p) :
    ¬ ∀ p ∈ tableTexts x line (row :: rows), p.Shown (windowClear window) := by
  intro hshown
  have hmem : (⟨line + 1, x + 7, numberText "Version".toList row.fwInfo.version⟩ :
      TextWindow.Placed) ∈ tableTexts x line (row :: rows) := by
    rw [tableTexts, firmwareTexts_eq]
    simp
  have hframe := (inFrame_iff (version_visible row.fwInfo.version)).1 (h _ hmem)
  have hcell := (hshown _ hmem).cells (x + 7) le_rfl
  unfold TextWindow.Placed.stop at hcell
  dsimp only at hcell hframe
  rw [(version_visible _).expand, length_numberText (by decide)] at hcell
  rw [length_numberText (by decide)] at hframe
  change line + 1 + 1 < window.maxy ∧ x + 7 + 20 < window.maxx at hframe
  rw [windowClear_cell (by omega) (by omega) (by omega) (by omega), Nat.sub_self] at hcell
  exact absurd (hcell (by omega)) (by simp [numberText, padRight, List.rightpad])

end Table

/-! ## A visit -/

/-- What the device answers for a firmware. -/
def FirmwareVisit.answer (v : FirmwareVisit) (type : GpuFwType) : Option DrmAmdgpuInfoFirmware :=
  v.answers (amdGpuFwTypeMap type) 0 0

/-- The numbers a row holds. -/
def FirmwareInfo.numbers (row : FirmwareInfo) : DrmAmdgpuInfoFirmware :=
  ⟨row.fwInfo.version, row.fwInfo.feature⟩

/-- The rows with the numbers that `f` gives for their types. -/
def RowsHold (rows : List FirmwareInfo) (f : GpuFwType → DrmAmdgpuInfoFirmware) : Prop :=
  rows.map (fun row => (row.name, row.fwType, row.numbers))
    = fwInfos.map fun row => (row.name, row.fwType, f row.fwType)

theorem FirmwareTab.queryRows_rows (device : ℕ) (v : FirmwareVisit) :
    ∀ (rows : List FirmwareInfo) (ret : ℤ),
    (queryRows device v.answers rows ret).2.map (fun row => (row.name, row.fwType, row.numbers))
      = rows.map fun row => (row.name, row.fwType, (v.answer row.fwType).getD row.numbers)
  | [], _ => rfl
  | row :: rows, ret => by
    unfold queryRows
    dsimp only
    rw [List.map_cons, List.map_cons, queryRows_rows device v rows]
    congr 1
    unfold gpuQueryFWInfo FirmwareVisit.answer
    rcases v.answers (amdGpuFwTypeMap row.fwType) 0 0 with _ | firmware <;> rfl

/-- The status is that of the last row. -/
theorem FirmwareTab.queryRows_ret (device : ℕ) (v : FirmwareVisit) :
    ∀ (rows : List FirmwareInfo) (ret : ℤ),
    ((queryRows device v.answers rows ret).1 = 0
      ↔ (rows.getLast?.map fun row => (v.answer row.fwType).isSome).getD (ret = 0) = true)
  | [], ret => by simp [queryRows]
  | row :: rows, ret => by
    unfold queryRows
    dsimp only
    rw [queryRows_ret device v rows, List.getLast?_cons]
    rcases rows.getLast? with _ | last
    · unfold gpuQueryFWInfo FirmwareVisit.answer
      rcases hanswer : v.answers (amdGpuFwTypeMap row.fwType) 0 0 with _ | firmware <;>
        simp [ioctlFailed, hanswer]
    · simp

/-- Where the visit is to a device whose driver is loaded. -/
def FirmwareVisit.Reaches (v : FirmwareVisit) : Prop :=
  v.driverisLoaded = true ∧ v.device.isSome = true

instance (v : FirmwareVisit) : Decidable v.Reaches := inferInstanceAs (Decidable (_ ∧ _))

/-- The table that holds `f`, where the tab has no device of its own. -/
structure FirmwareTab.Holds (tab : FirmwareTab) (f : GpuFwType → DrmAmdgpuInfoFirmware) : Prop where
  noDevice : tab.currentDevice = none
  rows : RowsHold tab.fwInfos f

theorem FirmwareTab.start_holds : FirmwareTab.Holds {} fun _ => {} := ⟨rfl, rfl⟩

section Rows

variable {rows : List FirmwareInfo} {f : GpuFwType → DrmAmdgpuInfoFirmware}

/-- What is made of the rows is made of the table and `f`. -/
theorem RowsHold.map {β : Type} (h : RowsHold rows f)
    (g : List Char × GpuFwType × DrmAmdgpuInfoFirmware → β) :
    (rows.map fun row => g (row.name, row.fwType, row.numbers))
      = Amdtop.fwInfos.map fun row => g (row.name, row.fwType, f row.fwType) := by
  have hmap := congrArg (List.map g) h
  rwa [List.map_map, List.map_map] at hmap

theorem RowsHold.query (h : RowsHold rows f) (device : ℕ) (v : FirmwareVisit) :
    RowsHold (queryRows device v.answers rows 0).2 fun t => (v.answer t).getD (f t) :=
  (queryRows_rows device v rows 0).trans
    (h.map fun row => (row.1, row.2.1, (v.answer row.2.1).getD row.2.2))

theorem RowsHold.last (h : RowsHold rows f) : rows.getLast?.map (·.fwType) = some .vcn := by
  rw [← List.getLast?_map, h.map fun row => row.2.1]
  rfl

/-- The texts of the table are made of its names and numbers. -/
theorem tableTexts_congr (x : ℕ) : ∀ {rows rows' : List FirmwareInfo} (line : ℕ),
    rows.map (fun row => (row.name, row.fwType, row.numbers))
      = rows'.map (fun row => (row.name, row.fwType, row.numbers)) →
    tableTexts x line rows = tableTexts x line rows'
  | [], [], _, _ => rfl
  | [], _ :: _, _, h => nomatch h
  | _ :: _, [], _, h => nomatch h
  | row :: rows, row' :: rows', line, h => by
    obtain ⟨hrow, hrows⟩ := List.cons.inj h
    obtain ⟨hname, -, hnumbers⟩ : row.name = row'.name ∧ row.fwType = row'.fwType
      ∧ row.numbers = row'.numbers := by simpa using hrow
    obtain ⟨hversion, hfeature⟩ := DrmAmdgpuInfoFirmware.mk.inj hnumbers
    rw [tableTexts, tableTexts, tableTexts_congr x (line + 2) hrows, hname, hversion, hfeature]

theorem RowsHold.texts (h : RowsHold rows f) (x line : ℕ) :
    tableTexts x line rows = tableTexts x line (Amdtop.fwInfos.map (withNumbers f)) := by
  refine tableTexts_congr x line (h.trans ?_)
  rw [List.map_map]
  rfl

end Rows

/-- What a visit leaves in a table that held `f`. -/
def FirmwareVisit.note (f : GpuFwType → DrmAmdgpuInfoFirmware) (v : FirmwareVisit) :
    GpuFwType → DrmAmdgpuInfoFirmware :=
  if v.Reaches then fun t => (v.answer t).getD (f t) else f

section Visit

variable {tab : FirmwareTab} {f : GpuFwType → DrmAmdgpuInfoFirmware} {v : FirmwareVisit}

theorem FirmwareTab.getFirmwareInfo_reaches (h : tab.Holds f) {device : ℕ}
    (hv : v.device = some device) :
    getFirmwareInfo v tab = ((queryRows device v.answers tab.fwInfos 0).1,
      { tab with fwInfos := (queryRows device v.answers tab.fwInfos 0).2 }) := by
  rw [getFirmwareInfo, hv, h.noDevice, if_neg (Option.some_ne_none device)]

theorem FirmwareTab.tabFirmwareInfoInit_tab (v : FirmwareVisit) (tab : FirmwareTab) :
    (tabFirmwareInfoInit v tab).2.2 = (getFirmwareInfo v tab).2 := by
  unfold tabFirmwareInfoInit
  dsimp only
  split_ifs <;> rfl

theorem FirmwareTab.visit_holds (v : FirmwareVisit) (h : tab.Holds f) :
    (tab.visit v).Holds (v.note f) := by
  rw [FirmwareTab.visit, tabFirmwareInfoInit_tab, FirmwareVisit.note]
  rcases hloaded : v.driverisLoaded
  · rw [if_neg Bool.false_ne_true,
      if_neg fun hv : v.Reaches => Bool.false_ne_true (hloaded.symm.trans hv.1)]
    exact h
  rw [if_pos rfl]
  rcases hdevice : v.device with _ | device
  · rw [getFirmwareInfo, hdevice, h.noDevice, if_pos rfl,
      if_neg fun hv : v.Reaches => absurd hv.2 (by rw [hdevice]; decide)]
    exact h
  · rw [getFirmwareInfo_reaches h hdevice,
      if_pos (show v.Reaches from ⟨hloaded, by rw [hdevice]; rfl⟩)]
    exact ⟨h.noDevice, h.rows.query device v⟩

/-- What the active device answers, or zeros. -/
def FirmwareVisit.own (v : FirmwareVisit) (type : GpuFwType) : DrmAmdgpuInfoFirmware :=
  (v.answer type).getD {}

/-- All rows are drawn between the borders, with the numbers of the active device, or zeros. -/
def FirmwareTab.ShowsOwn (tab : FirmwareTab) (v : FirmwareVisit) : Prop :=
  v.Reaches → ∀ p ∈ tableTexts (v.window.maxx / 20) 1 (Amdtop.fwInfos.map (withNumbers v.own)),
    InFrame v.window p ∧ p.Shown (tabFirmwareInfoInit v tab).2.1

theorem FirmwareTab.tabFirmwareInfoInit_window (h : tab.Holds f) (hv : v.Reaches) :
    (tabFirmwareInfoInit v tab).2.1 = if (v.answer .vcn).isSome then
      (tableTexts (v.window.maxx / 20) 1 (Amdtop.fwInfos.map (withNumbers fun t =>
        (v.answer t).getD (f t)))).foldl mvwprintw2cText (windowClear v.window)
      else windowClear v.window := by
  obtain ⟨device, hdevice⟩ := Option.isSome_iff_exists.1 hv.2
  have hret := queryRows_ret device v tab.fwInfos 0
  have hlast := h.rows.last
  obtain ⟨row, hrow, htype⟩ := Option.map_eq_some_iff.1 hlast
  rw [hrow, Option.map_some, Option.getD_some, htype] at hret
  have hmaxx : (windowClear v.window).maxx = v.window.maxx := rfl
  rw [tabFirmwareInfoInit, getFirmwareInfo_reaches h hdevice]
  dsimp only
  rw [(h.rows.query device v).texts, hmaxx]
  by_cases hvcn : (v.answer .vcn).isSome = true
  · rw [if_pos hvcn, if_neg (not_not.2 (hret.2 hvcn))]
  · rw [if_neg hvcn, if_pos (mt hret.1 hvcn)]

/-- There is room for the table between the borders. -/
def FirmwareVisit.Room (v : FirmwareVisit) : Prop := 26 ≤ v.window.maxy ∧ 71 ≤ v.window.maxx

theorem table_inFrame_iff (v : FirmwareVisit) (g : GpuFwType → DrmAmdgpuInfoFirmware) :
    (∀ p ∈ tableTexts (v.window.maxx / 20) 1 (Amdtop.fwInfos.map (withNumbers g)),
      InFrame (windowClear v.window) p) ↔ v.Room := by
  have hshort : ∀ row ∈ Amdtop.fwInfos.map (withNumbers g), ShortName row := by
    rw [List.forall_mem_map]
    exact show ∀ row ∈ Amdtop.fwInfos, TextWindow.Visible row.name ∧ row.name.length ≤ 4 by decide
  have hne : Amdtop.fwInfos.map (withNumbers g) ≠ [] := List.cons_ne_nil _ _
  rw [tableTexts_inFrame hne hshort, List.length_map]
  change 1 + 2 * 12 < v.window.maxy ∧ v.window.maxx / 20 + 67 < v.window.maxx ↔ v.Room
  unfold FirmwareVisit.Room
  omega

theorem showsOwn_iff (h : tab.Holds f) (v : FirmwareVisit) :
    tab.ShowsOwn v ↔ (v.Reaches → v.Room ∧ (v.answer .vcn).isSome = true
      ∧ ∀ row ∈ fwInfos, v.answer row.fwType = none → f row.fwType = {}) := by
  refine forall_congr' fun hv => ?_
  rw [forall₂_and, tabFirmwareInfoInit_window h hv]
  have hframe := table_inFrame_iff v
  change (∀ p ∈ _, InFrame (windowClear v.window) p) ∧ _ ↔ _
  rw [hframe v.own]
  refine and_congr_right fun hroom => ?_
  split_ifs with hvcn
  · refine Iff.trans ?_ (and_iff_right hvcn).symm
    have hshown := tableTexts_shown ((hframe fun t => (v.answer t).getD (f t)).2 hroom)
    have hsame : (∀ row ∈ fwInfos, v.own row.fwType = (v.answer row.fwType).getD (f row.fwType))
        ↔ ∀ row ∈ fwInfos, v.answer row.fwType = none → f row.fwType = {} := by
      refine forall₂_congr fun row _ => ?_
      unfold FirmwareVisit.own
      rcases v.answer row.fwType with _ | firmware
      · exact ⟨fun heq _ => heq.symm, fun hzero => (hzero rfl).symm⟩
      · exact ⟨fun _ hnone => absurd hnone (Option.some_ne_none _), fun _ => rfl⟩
    rw [← hsame]
    refine ⟨fun hown => tableTexts_unique hown hshown, fun heq => ?_⟩
    have hrows : fwInfos.map (withNumbers v.own)
        = fwInfos.map (withNumbers fun t => (v.answer t).getD (f t)) :=
      List.map_congr_left fun row hrow => by rw [withNumbers, withNumbers, heq row hrow]
    rw [hrows]
    exact hshown
  · refine iff_of_false ?_ fun hboth => hvcn hboth.1
    exact not_shown_windowClear (by decide) ((hframe v.own).2 hroom)

end Visit

/-! ## A run -/

/-- For each firmware what the latest device that could answer for it answered, or zeros. -/
def latest (visits : List FirmwareVisit) : GpuFwType → DrmAmdgpuInfoFirmware :=
  run FirmwareVisit.note (fun _ => {}) visits

theorem run_holds (visits : List FirmwareVisit) :
    (run FirmwareTab.visit {} visits).Holds (latest visits) :=
  run_simulates (R := FirmwareTab.Holds) (fun _ _ v => visit_holds v) visits start_holds

/-- Each visit of a run shows the active device's own numbers just if the table has room, the
device answers for its last firmware, and what it does not answer for no device before it has
answered with a number. -/
theorem firmware_info_iff (visits : List FirmwareVisit) :
    Meets FirmwareTab.visit FirmwareTab.ShowsOwn {} visits
      ↔ ∀ earlier v later, visits = earlier ++ v :: later → v.Reaches →
        v.Room ∧ (v.answer .vcn).isSome = true
          ∧ ∀ row ∈ fwInfos, v.answer row.fwType = none → latest earlier row.fwType = {} :=
  meets_iff_forall.trans (forall₄_congr fun earlier v _ _ => showsOwn_iff (run_holds earlier) v)

/-- A window of 48 rows and 120 columns. -/
def largeWindow : TextWindow where
  maxy := 48
  maxx := 120
  cell := fun _ _ => ' '
  maxy_lt := by decide

/-- A card that answers for every firmware. -/
def answeringCard : FirmwareVisit :=
  ⟨some 0, true, fun fwType _ _ => some ⟨fwType + 1, 2⟩, largeWindow⟩

/-- A card that does not answer for its video decoder. -/
def noUvdCard : FirmwareVisit :=
  ⟨some 1, true, fun fwType _ _ => if fwType = 0x2 then none else some ⟨3, 4⟩, largeWindow⟩

theorem firmware_info_other : ¬ ∀ visits : List FirmwareVisit,
    Meets FirmwareTab.visit FirmwareTab.ShowsOwn {} visits := by
  intro h
  obtain ⟨-, -, hnumbers⟩ := (showsOwn_iff (run_holds [answeringCard]) noUvdCard).1
    (h [answeringCard, noUvdCard]).2.1 ⟨rfl, rfl⟩
  have huvd := hnumbers ⟨"UVD".toList, .uvd, {}⟩ (by decide) rfl
  exact absurd (congrArg DrmAmdgpuInfoFirmware.ver huvd) (by decide)

end Amdtop
