import Amdtop.Proofs.DeviceByBus
import Amdtop.Proofs.Stdio

/-!
# The address and the ids in a `uevent`

`gpuQueryPciInfo` reads back what the kernel printed, wherever the lines stand
(`gpuQueryPciInfo_of_uevent`).
-/

namespace Amdtop

open Stdio

/-! ## What the kernel prints -/

/-- The widths of the numbers. -/
structure GpuPciInfo.Fits (p : GpuPciInfo) : Prop where
  domain : p.domain.toNat < 65536
  bus : p.bus.toNat < 256
  dev : p.dev.toNat < 32
  func : p.func.toNat < 8
  vid : p.vid.toNat < 65536
  did : p.did.toNat < 65536
  subVid : p.subVid.toNat < 65536
  subDid : p.subDid.toNat < 65536

/-- `"%04x:%02x:%02x.%d"`. -/
def GpuPciInfo.slotText (p : GpuPciInfo) : List Char :=
  hexPad 4 p.domain.toNat ++ ':' :: (hexPad 2 p.bus.toNat ++ ':' ::
    (hexPad 2 p.dev.toNat ++ '.' :: decimal p.func.toNat))

/-- `"%04X:%04X"`. -/
def idText (vid did : UInt32) : List Char :=
  hexPadUpper 4 vid.toNat ++ ':' :: hexPadUpper 4 did.toNat

def entry (key : String) (value : List Char) : List Char := key.toList ++ '=' :: value

/-- The line is the key's: what follows the key is `=`. -/
def keyed (key : String) (line : List Char) : Bool := (key.toList ++ ['=']).isPrefixOf line

/-- Each key has one line, with the value of `p`. -/
structure GpuPciInfo.PrintedIn (p : GpuPciInfo) (lines : List (List Char)) : Prop where
  slot : lines.filter (keyed "PCI_SLOT_NAME") = [entry "PCI_SLOT_NAME" p.slotText]
  id : lines.filter (keyed "PCI_ID") = [entry "PCI_ID" (idText p.vid p.did)]
  subsysId : lines.filter (keyed "PCI_SUBSYS_ID")
    = [entry "PCI_SUBSYS_ID" (idText p.subVid p.subDid)]

def wantedKeys : List String := ["PCI_SLOT_NAME", "PCI_ID", "PCI_SUBSYS_ID"]

theorem newline_notMem_wantedKeys : ∀ key ∈ wantedKeys, '\n' ∉ key.toList := by decide

/-! ## The line of a key -/

theorem ueventLine_iff (key l : List Char) :
    (strncmpEq l key key.length && l[key.length]? = some '=') = true ↔ key ++ ['='] <+: l := by
  rw [Bool.and_eq_true, strncmpEq_iff, decide_eq_true_eq]
  constructor
  · rintro ⟨⟨rest, rfl⟩, h⟩
    rw [List.getElem?_append_right le_rfl, Nat.sub_self, ← List.head?_eq_getElem?] at h
    obtain ⟨tail, rfl⟩ := List.head?_eq_some_iff.1 h
    exact ⟨tail, by simp⟩
  · rintro ⟨tail, rfl⟩
    exact ⟨⟨'=' :: tail, by simp⟩, by simp⟩

theorem keyed_newline {key : String} (hkey : '\n' ∉ key.toList) (line : List Char) :
    keyed key (line ++ ['\n']) = keyed key line := by
  unfold keyed
  rw [Bool.eq_iff_iff, List.isPrefixOf_iff_prefix, List.isPrefixOf_iff_prefix,
    List.prefix_concat_iff]
  constructor
  · rintro (h | h)
    · have hmem : '\n' ∈ key.toList ++ ['='] := h ▸ by simp
      rcases List.mem_append.1 hmem with hmem | hmem
      · exact absurd hmem hkey
      · exact absurd hmem (by decide)
    · exact h
  · exact Or.inr

section Lines

variable {lines : List (List Char)} {last : List Char} (hlines : ∀ l ∈ lines, '\n' ∉ l)
  (hlast : '\n' ∉ last) {key : String} (hkey : '\n' ∉ key.toList)

theorem ueventValue_eq (key : String) (text : List Char) :
    ueventValue key.toList text
      = ((getlines text).find? (keyed key)).map (·.drop (key.toList.length + 1)) := by
  have hpred : (fun l : List Char => strncmpEq l key.toList key.toList.length
      && l[key.toList.length]? = some '=') = keyed key := by
    funext l
    rw [Bool.eq_iff_iff, ueventLine_iff, keyed, List.isPrefixOf_iff_prefix]
  unfold ueventValue
  rw [hpred]

include hlines hlast hkey in
/-- What is found is a line of the text, and what `getline` leaves behind it. -/
theorem ueventValue_rel : Option.Rel
    (fun l value => ∃ tail, value = (l ++ tail).drop (key.toList.length + 1))
    ((lines ++ [last]).find? (keyed key)) (ueventValue key.toList (joinLines lines last)) := by
  have hrel := find_getlines (p := keyed key) (keyed_newline hkey) (by simp [keyed]) lines hlines
    hlast
  rw [ueventValue_eq]
  generalize (lines ++ [last]).find? (keyed key) = wanted at hrel ⊢
  generalize (getlines (joinLines lines last)).find? (keyed key) = found at hrel ⊢
  rcases hrel with ⟨tail, rfl⟩ | _
  · exact .some ⟨tail, rfl⟩
  · exact .none

include hlines hlast hkey in
/-- The value of a key with one line, up to the newline. -/
theorem ueventValue_of_entry {value : List Char}
    (h : (lines ++ [last]).filter (keyed key) = [entry key value]) :
    ∃ tail, ueventValue key.toList (joinLines lines last) = some (value ++ tail) := by
  have hfind : (lines ++ [last]).find? (keyed key) = some (entry key value) := by
    rw [← List.head?_filter, h]
    rfl
  have hrel := ueventValue_rel hlines hlast hkey
  rw [hfind] at hrel
  generalize ueventValue key.toList (joinLines lines last) = found at hrel ⊢
  obtain ⟨tail, rfl⟩ := hrel
  exact ⟨tail, by simp [entry]⟩

include hlines hlast hkey in
theorem ueventValue_missing (h : ∀ l ∈ lines ++ [last], keyed key l = false) :
    ueventValue key.toList (joinLines lines last) = none := by
  have hfind : (lines ++ [last]).find? (keyed key) = none :=
    List.find?_eq_none.2 fun l hl => by simp [h l hl]
  have hrel := ueventValue_rel hlines hlast hkey
  rw [hfind] at hrel
  generalize ueventValue key.toList (joinLines lines last) = found at hrel ⊢
  cases hrel
  rfl

end Lines

/-! ## The numbers -/

theorem scan_hex {n : ℕ} (hn : 2 ≤ n) {ds : List Char} {v : UInt32}
    (hd : ∀ c ∈ ds, isDigitOf 16 c = true) (hlen : ds.length = n) (hv : numeral 16 ds = v.toNat)
    (fmt : List Directive) (rest : List Char) :
    scan (.conv false (some n) .hex :: fmt) (ds ++ rest)
      = { scan fmt rest with vals := .num v :: (scan fmt rest).vals } := by
  have hread := read_int_cut (s := []) (by simp) (k := .hex) (by simp) (w := n) (by omega)
    (r := rest) hd hlen.ge fun _ => hlen ▸ hn
  rw [show Conv.hex.base = 16 from rfl, List.take_of_length_le hlen.le,
    List.drop_of_length_le hlen.le, hv, store_of_lt v.toNat_lt, UInt32.ofNat_toNat] at hread
  exact scan_conv hread fmt

theorem scan_hexPad {n : ℕ} (hn : 2 ≤ n) {v : UInt32} (hv : v.toNat < 16 ^ n)
    (fmt : List Directive) (rest : List Char) :
    scan (.conv false (some n) .hex :: fmt) (hexPad n v.toNat ++ rest)
      = { scan fmt rest with vals := .num v :: (scan fmt rest).vals } :=
  scan_hex hn (isDigitOf_hexPad n _) (length_hexPad (by omega) hv) (numeral_hexPad n _) fmt rest

theorem scan_hexPadUpper {n : ℕ} (hn : 2 ≤ n) {v : UInt32} (hv : v.toNat < 16 ^ n)
    (fmt : List Directive) (rest : List Char) :
    scan (.conv false (some n) .hex :: fmt) (hexPadUpper n v.toNat ++ rest)
      = { scan fmt rest with vals := .num v :: (scan fmt rest).vals } :=
  scan_hex hn (isDigitOf_hexPadUpper n _) (length_hexPadUpper (by omega) hv)
    (numeral_hexPadUpper n _) fmt rest

theorem scan_digit {v : UInt32} (hv : v.toNat < 10) (fmt : List Directive) (rest : List Char) :
    scan (.conv false (some 1) .uns :: fmt) (decimal v.toNat ++ rest)
      = { scan fmt rest with vals := .num v :: (scan fmt rest).vals } := by
  have hle : (decimal v.toNat).length ≤ 1 := (length_decimal_le (by omega)).2 (by omega)
  have hpos := List.length_pos_of_ne_nil (decimal_ne_nil v.toNat)
  have hread := read_int_cut (s := []) (by simp) (k := .uns) (by simp) (w := 1) (by omega)
    (r := rest) (decimal_digits v.toNat) hpos (by simp)
  rw [show Conv.uns.base = 10 from rfl, List.take_of_length_le hle, List.drop_of_length_le hle,
    store_decimal] at hread
  exact scan_conv hread fmt

theorem parse_slotFormat : parseFormat "%04x:%02x:%02x.%1u" =
    [.conv false (some 4) .hex, .lit ':', .conv false (some 2) .hex, .lit ':',
      .conv false (some 2) .hex, .lit '.', .conv false (some 1) .uns] := by decide

theorem parse_idFormat : parseFormat "%04x:%04x" =
    [.conv false (some 4) .hex, .lit ':', .conv false (some 4) .hex] := by decide

theorem slotAddress_slotText {p : GpuPciInfo} (hp : p.Fits) (tail : List Char) :
    slotAddress (p.slotText ++ tail) = some p.address := by
  have hfunc := hp.func
  unfold slotAddress sscanf GpuPciInfo.slotText
  simp only [parse_slotFormat, List.append_assoc, List.cons_append]
  rw [scan_hexPad (by omega) hp.domain, scan_lit, scan_hexPad (by omega) hp.bus, scan_lit,
    scan_hexPad (by omega) (lt_trans hp.dev (by omega)), scan_lit, scan_digit (by omega)]
  rfl

theorem scan_idText {vid did : UInt32} (hvid : vid.toNat < 65536) (hdid : did.toNat < 65536)
    (tail : List Char) :
    (sscanf (idText vid did ++ tail) "%04x:%04x").vals = [.num vid, .num did] := by
  unfold sscanf idText
  simp only [parse_idFormat, List.append_assoc, List.cons_append]
  rw [scan_hexPadUpper (by omega) hvid, scan_lit, scan_hexPadUpper (by omega) hdid]
  rfl

/-! ## The query -/

/-- The query of a node whose `uevent` has the three keys. -/
theorem gpuQueryPciInfo_values {dri : Dri} {device : GpuDevice} {slot ids subs : List Char}
    (h1 : dri.value device.major device.minor "PCI_SLOT_NAME" = some slot)
    (h2 : dri.value device.major device.minor "PCI_ID" = some ids)
    (h3 : dri.value device.major device.minor "PCI_SUBSYS_ID" = some subs) (pciInfo : GpuPciInfo) :
    gpuQueryPciInfo dri device pciInfo
      = (0, ((pciInfo.scanSlot slot).scanId ids).scanSubsysId subs) := by
  unfold gpuQueryPciInfo
  rw [sysfsGetUevent_some h1]
  dsimp only
  rw [sysfsGetUevent_some h2]
  dsimp only
  rw [sysfsGetUevent_some h3]

theorem scan_printed {p : GpuPciInfo} (hp : p.Fits) (t1 t2 t3 : List Char) (pciInfo : GpuPciInfo) :
    ((pciInfo.scanSlot (p.slotText ++ t1)).scanId (idText p.vid p.did ++ t2)).scanSubsysId
      (idText p.subVid p.subDid ++ t3) = p := by
  unfold GpuPciInfo.scanSlot GpuPciInfo.scanId GpuPciInfo.scanSubsysId
  rw [slotAddress_slotText hp, scan_idText hp.vid hp.did, scan_idText hp.subVid hp.subDid]
  rfl

/-- For every `uevent`, whatever lines stand around: the numbers printed in it are read back, and
without one of the keys the query fails. -/
theorem gpuQueryPciInfo_of_uevent {dri : Dri} {device : GpuDevice} {lines : List (List Char)}
    {last : List Char} (hlines : ∀ l ∈ lines, '\n' ∉ l) (hlast : '\n' ∉ last)
    (hfile : dri.uevent device.major device.minor = some (joinLines lines last))
    (pciInfo : GpuPciInfo) :
    (∀ p : GpuPciInfo, p.Fits → p.PrintedIn (lines ++ [last]) →
      gpuQueryPciInfo dri device pciInfo = (0, p))
    ∧ ((∃ key ∈ wantedKeys, ∀ l ∈ lines ++ [last], keyed key l = false) →
      (gpuQueryPciInfo dri device pciInfo).1 ≠ 0) := by
  have hvalue : ∀ key : String, dri.value device.major device.minor key
      = ueventValue key.toList (joinLines lines last) := fun key => by
    rw [Dri.value, hfile, Option.bind_some]
  refine ⟨fun p hp hin => ?_, fun ⟨key, hkey, hmissing⟩ => gpuQueryPciInfo_fails pciInfo ?_⟩
  · obtain ⟨t1, h1⟩ := ueventValue_of_entry hlines hlast (by decide) hin.slot
    obtain ⟨t2, h2⟩ := ueventValue_of_entry hlines hlast (by decide) hin.id
    obtain ⟨t3, h3⟩ := ueventValue_of_entry hlines hlast (by decide) hin.subsysId
    rw [gpuQueryPciInfo_values ((hvalue _).trans h1) ((hvalue _).trans h2) ((hvalue _).trans h3),
      scan_printed hp]
  · have hnone : dri.value device.major device.minor key = none := by
      rw [hvalue, ueventValue_missing hlines hlast (newline_notMem_wantedKeys key hkey) hmissing]
    unfold Dri.hasKeys
    simp only [wantedKeys, List.mem_cons, List.not_mem_nil, or_false] at hkey
    rcases hkey with rfl | rfl | rfl <;> rw [hnone] <;> simp

def someCard : GpuPciInfo where
  bus := 10
  func := 1
  vid := 0x1002
  did := 0x67df
  subVid := 0x1da2
  subDid := 0xe366

def someUevent : List (List Char) :=
  ["DRIVER=amdgpu".toList, "PCI_ID=1002:67DF".toList, "PCI_SUBSYS_ID=1DA2:E366".toList,
    "PCI_SUBSYS_IDS=0".toList, "PCI_SLOT_NAME=0000:0a:00.1".toList]

theorem gpuQueryPciInfo_someUevent :
    gpuQueryPciInfo ⟨[], fun _ _ => some (joinLines someUevent []), true⟩ ⟨3, 0, 226, 0, .card⟩ {}
      = (0, someCard) :=
  (gpuQueryPciInfo_of_uevent (by decide) (by decide) rfl {}).1 someCard
    ⟨by decide, by decide, by decide, by decide, by decide, by decide, by decide, by decide⟩
    ⟨by decide, by decide, by decide⟩

end Amdtop
