import Amdtop.Proofs.CpuInfo
import Amdtop.SysFile

/-!
# What is read from `/sys`

An attribute that is read whole loses its newline to the null and nothing else. An empty one has no
last character, and the null goes before the array; only `gpuQueryVbiosVersion` looks.
-/

namespace Amdtop

open Stdio

/-! ## A null over the last character -/

theorem set_last {read : List Char} (h : read ≠ []) (rest : List Char) (c : Char) :
    (read ++ rest).set (read.length - 1) c = read.dropLast ++ c :: rest := by
  have hpos := List.length_pos_of_ne_nil h
  have hlen : read.dropLast.length = read.length - 1 := List.length_dropLast
  have hsplit : read ++ rest = read.dropLast ++ read.getLast h :: rest := by
    rw [← List.singleton_append, ← List.append_assoc, List.dropLast_append_getLast h]
  rw [hsplit, ← hlen, List.set_append_right _ _ le_rfl, Nat.sub_self]
  rfl

theorem arrayString_null (a b : List Char) :
    arrayString (a ++ '\x00' :: b) = some (a.takeWhile (· ≠ '\x00')) := by
  rw [arrayString, if_pos (by simp), (span_stop (by decide) a b).1]

/-- What a reader of at most `limit` characters makes of a text: all but the last character. -/
def attributeText (limit : ℕ) (text : List Char) : List Char :=
  (text.take limit).dropLast.takeWhile (· ≠ '\x00')

/-- A line that fits comes back as it is. -/
theorem attributeText_line {limit : ℕ} {line : List Char} (hnull : '\x00' ∉ line)
    (hfit : line.length < limit) : attributeText limit (line ++ ['\n']) = line := by
  have hlen : (line ++ ['\n']).length ≤ limit := by
    rw [List.length_append]
    exact hfit
  rw [attributeText, List.take_of_length_le hlen, List.dropLast_concat, takeWhile_plain hnull]

namespace CharArray

variable {n : ℕ} (array : CharArray n)

theorem readCut_nil (limit : ℕ) : array.readCut [] limit = none := by
  simp [readCut, fread, cut]

theorem readCut_some (limit : ℕ) {text : List Char} (hne : text ≠ []) (hpos : 0 < limit)
    (hle : limit ≤ n) : ∃ array' : CharArray n, array.readCut text limit = some array'
      ∧ array'.1 = (text.take limit).dropLast
        ++ '\x00' :: array.1.drop (text.take limit).length := by
  have hread : text.take limit ≠ [] := by
    rw [Ne, List.take_eq_nil_iff, not_or]
    exact ⟨hpos.ne', hne⟩
  have hfits : (text.take limit).length ≤ n := (List.length_take_le limit text).trans hle
  unfold readCut fread cut
  rw [dif_pos hfits]
  dsimp only [Option.bind_some]
  rw [if_pos ⟨List.length_pos_of_ne_nil hread, hfits⟩]
  exact ⟨_, rfl, set_last hread _ _⟩

end CharArray

/-! ## Readers of attributes -/

/-- What a reader of at most `limit` characters without a look at their number does. -/
structure CutsLast (limit : ℕ) (text : List Char) {β : Type} (r : Option (ℤ × β))
    (value : β → CharArray maxNameSize) : Prop where
  empty : text = [] → r = none
  whole : text ≠ [] → ∃ b, r = some (0, b)
    ∧ arrayString (value b).1 = some (attributeText limit text)

/-- What one with a look at it does. -/
structure ChecksLast (limit : ℕ) (text : List Char) (r : Option (ℤ × CharArray maxNameSize))
    (old : CharArray maxNameSize) : Prop where
  empty : text = [] → r = some (-eio, old)
  whole : text ≠ [] → ∃ array, r = some (0, array)
    ∧ arrayString array.1 = some (attributeText limit text)

section Readers

variable {files : Texts} {text : List Char}

theorem readCut_cutsLast (array : CharArray maxNameSize) (text : List Char) {limit : ℕ}
    (hpos : 0 < limit) (hle : limit ≤ maxNameSize) {β : Type} (store : CharArray maxNameSize → β)
    (value : β → CharArray maxNameSize) (hstore : ∀ array, value (store array) = array) :
    CutsLast limit text ((array.readCut text limit).map fun array => (0, store array)) value := by
  refine ⟨?_, fun hne => ?_⟩
  · rintro rfl
    rw [CharArray.readCut_nil]
    rfl
  · obtain ⟨array', hread, hvalue⟩ := array.readCut_some limit hne hpos hle
    rw [hread]
    exact ⟨_, rfl, by rw [hstore, hvalue, arrayString_null, attributeText]⟩

theorem getDmiInfo_cutsLast (idInfo : DmiIdInfo)
    (hfile : files ((dmiIdSysPath ++ '/' :: idInfo.fname).take 99) = some text) :
    CutsLast maxNameSize text (getDmiInfo files idInfo) DmiIdInfo.value := by
  unfold getDmiInfo
  rw [hfile]
  exact readCut_cutsLast idInfo.value text (by decide) le_rfl
    (fun value => { idInfo with value }) DmiIdInfo.value fun _ => rfl

theorem getModuleParam_cutsLast (module filed : List Char) (value : CharArray maxNameSize)
    (outsize : Option ℕ)
    (hfile : files ((sysModulePath ++ '/' :: (module ++ '/' :: filed)).take 99) = some text) :
    CutsLast (maxNameSize - 1) text (getModuleParam files module filed value outsize) (·.1) := by
  unfold getModuleParam
  rw [hfile]
  exact readCut_cutsLast value text (by decide) (by decide) (fun value => (value, _)) _ fun _ => rfl

/-- The copy of a string with its null. -/
theorem strncpy_string (array : CharArray maxNameSize) {read : List Char} (hne : read ≠ [])
    (hle : read.length ≤ maxNameSize) (rest : List Char) :
    ∃ array', array.strncpy (read.dropLast ++ '\x00' :: rest) read.length = some array'
      ∧ arrayString array'.1 = some (read.dropLast.takeWhile (· ≠ '\x00')) := by
  have hpos := List.length_pos_of_ne_nil hne
  have hlen : (read.dropLast ++ ['\x00']).length = read.length := by
    rw [List.length_append, List.length_dropLast, List.length_singleton]
    omega
  have htake : (read.dropLast ++ '\x00' :: rest).take read.length = read.dropLast ++ ['\x00'] := by
    rw [List.append_cons, ← hlen]
    exact List.take_left
  have hshort : (read.dropLast.takeWhile (· ≠ '\x00')).length < read.length := by
    have hsub := (List.takeWhile_sublist (l := read.dropLast) (· ≠ '\x00')).length_le
    rw [List.length_dropLast] at hsub
    omega
  obtain ⟨k, hk⟩ : ∃ k, read.length - (read.dropLast.takeWhile (· ≠ '\x00')).length = k + 1 :=
    ⟨_, (Nat.succ_pred_eq_of_pos (Nat.sub_pos_of_lt hshort)).symm⟩
  unfold CharArray.strncpy
  rw [dif_pos hle]
  refine ⟨_, rfl, ?_⟩
  dsimp only
  rw [strncpyChars, htake, (span_stop (by decide) read.dropLast []).1, hk, List.replicate_succ,
    List.append_assoc, List.cons_append, arrayString_null]
  rw [List.takeWhile_takeWhile]
  simp

theorem gpuQueryVbiosVersion_checksLast (device : GpuDevice) (vbiosVersion : CharArray maxNameSize)
    (hfile : files ((vbiosVersionPath device).take 99) = some text) :
    ChecksLast (maxNameSize - 1) text (gpuQueryVbiosVersion files device vbiosVersion)
      vbiosVersion := by
  unfold gpuQueryVbiosVersion
  rw [hfile]
  refine ⟨?_, fun hne => ?_⟩
  · rintro rfl
    rfl
  · have hread : text.take (maxNameSize - 1) ≠ [] := by
      rw [Ne, List.take_eq_nil_iff, not_or]
      exact ⟨by decide, hne⟩
    have hle : (text.take (maxNameSize - 1)).length ≤ maxNameSize :=
      (List.length_take_le _ _).trans (by decide)
    obtain ⟨buf, hbuf, hchars⟩ := (CharArray.cleared maxNameSize).readCut_some (maxNameSize - 1) hne
      (by decide) (by decide)
    obtain ⟨array, hcopy, hstring⟩ := strncpy_string vbiosVersion hread hle
      ((CharArray.cleared maxNameSize).1.drop (text.take (maxNameSize - 1)).length)
    dsimp only
    rw [if_pos (List.length_pos_of_ne_nil hread), hbuf, Option.bind_some, hchars, hcopy]
    exact ⟨array, rfl, hstring⟩

end Readers

/-- What the three readers of an attribute make of any text: they read up to their limit, over the
ends of lines, and lose the last character they got. -/
theorem attribute_readers (files : Texts) (text : List Char) :
    (∀ idInfo : DmiIdInfo, files ((dmiIdSysPath ++ '/' :: idInfo.fname).take 99) = some text →
        CutsLast maxNameSize text (getDmiInfo files idInfo) DmiIdInfo.value)
      ∧ (∀ module filed value outsize,
        files ((sysModulePath ++ '/' :: (module ++ '/' :: filed)).take 99) = some text →
        CutsLast (maxNameSize - 1) text (getModuleParam files module filed value outsize) (·.1))
      ∧ (∀ device vbiosVersion, files ((vbiosVersionPath device).take 99) = some text →
        ChecksLast (maxNameSize - 1) text (gpuQueryVbiosVersion files device vbiosVersion)
          vbiosVersion)
      ∧ ∀ limit line, '\x00' ∉ line → line.length < limit → text = line ++ ['\n'] →
        attributeText limit text = line := by
  refine ⟨fun idInfo => getDmiInfo_cutsLast idInfo, fun module filed value outsize =>
    getModuleParam_cutsLast module filed value outsize, fun device vbiosVersion =>
    gpuQueryVbiosVersion_checksLast device vbiosVersion, ?_⟩
  rintro limit line hnull hfit rfl
  exact attributeText_line hnull hfit

section Example

def dmiVendor : DmiIdInfo :=
  { label := "Vendor".toList, fname := "sys_vendor".toList
    value := CharArray.cleared maxNameSize }

/-- Two lines lose the newline of the second. -/
theorem attribute_readers_two : ∃ idInfo,
    getDmiInfo (fun _ => some "A\nB\n".toList) dmiVendor = some (0, idInfo)
      ∧ arrayString idInfo.value.1 = some "A\nB".toList := by
  have h := (attribute_readers (fun _ => some "A\nB\n".toList) "A\nB\n".toList).1 dmiVendor rfl
  obtain ⟨idInfo, hread, hvalue⟩ := h.whole (by decide)
  exact ⟨idInfo, hread, hvalue.trans (by decide)⟩

end Example

/-! ## A device's own directory -/

def PciDevice.address (pdev : PciDevice) : UInt32 × UInt8 × UInt8 × UInt8 :=
  (pdev.domain, pdev.bus, pdev.dev, pdev.func)

/-- `"%04x:%02x:%02x.%d"`, the name of a function's directory. -/
def PciDevice.name (pdev : PciDevice) : List Char :=
  hexPad 4 pdev.domain.toNat ++ ':' :: (hexPad 2 pdev.bus.toNat ++ ':' ::
    (hexPad 2 pdev.dev.toNat ++ '.' :: decimal pdev.func.toNat))

/-- Hexadecimal digits end before what is none. -/
theorem hexPad_append_inj {n u v : ℕ} {c : Char} (hc : isDigitOf 16 c = false) {s t : List Char}
    (h : hexPad n u ++ c :: s = hexPad n v ++ c :: t) : u = v ∧ s = t := by
  have htake : ∀ w t, (hexPad n w ++ c :: t).takeWhile (isDigitOf 16) = hexPad n w := fun w t => by
    rw [(span_stop hc _ t).1, List.takeWhile_eq_self_iff.2 (isDigitOf_hexPad n w)]
  have hdigits : hexPad n u = hexPad n v := by rw [← htake u s, h, htake]
  constructor
  · rw [← numeral_hexPad n u, hdigits, numeral_hexPad]
  · rw [hdigits] at h
    exact (List.cons.inj (List.append_cancel_left h)).2

theorem decimal_inj {u v : ℕ} (h : decimal u = decimal v) : u = v := by
  rw [← numeral_decimal u, h, numeral_decimal]

theorem PciDevice.name_inj {p q : PciDevice} (h : p.name = q.name) : p.address = q.address := by
  obtain ⟨hdomain, h⟩ := hexPad_append_inj (by decide) h
  obtain ⟨hbus, h⟩ := hexPad_append_inj (by decide) h
  obtain ⟨hdev, h⟩ := hexPad_append_inj (by decide) h
  have hfunc := decimal_inj h
  rw [PciDevice.address, PciDevice.address, UInt32.toNat_inj.1 hdomain, UInt8.toNat_inj.1 hbus,
    UInt8.toNat_inj.1 hdev, UInt8.toNat_inj.1 hfunc]

theorem length_hexPad_le {n k v : ℕ} (hk : 0 < k) (hn : n ≤ k) (hv : v < 16 ^ k) :
    (hexPad n v).length ≤ k := by
  rw [hexPad, List.length_leftpad]
  exact max_le hn ((Nat.length_toDigits_le_iff (by decide) hk).2 hv)

theorem PciDevice.length_name (pdev : PciDevice) : pdev.name.length ≤ 18 := by
  have hdomain : (hexPad 4 pdev.domain.toNat).length ≤ 8 :=
    length_hexPad_le (by decide) (by decide) pdev.domain.toNat_lt
  have hbyte : ∀ v : UInt8, (hexPad 2 v.toNat).length ≤ 2 := fun v =>
    length_hexPad_le (by decide) le_rfl v.toNat_lt
  have hfunc : (decimal pdev.func.toNat).length ≤ 3 := by
    have := pdev.func.toNat_lt
    rw [length_decimal_le (by decide)]
    omega
  have hbus := hbyte pdev.bus
  have hdev := hbyte pdev.dev
  simp only [PciDevice.name, List.length_append, List.length_cons]
  omega

/-- Nothing is cut off. -/
theorem DeviceGetSysPath_eq (pdev : PciDevice) :
    DeviceGetSysPath pdev = "/sys/bus/pci/devices/".toList ++ pdev.name := by
  have hlen := pdev.length_name
  have htext : defaultSysPath ++ ("/devices/".toList ++ pdev.name)
      = "/sys/bus/pci/devices/".toList ++ pdev.name := by
    rw [← List.append_assoc]
    rfl
  rw [DeviceGetSysPath, ← PciDevice.name, htext, List.take_of_length_le]
  rw [List.length_append]
  exact Nat.add_le_add (show "/sys/bus/pci/devices/".toList.length ≤ 21 from by decide) hlen
    |>.trans (by decide)

/-- The `irq` files of some functions, as the kernel makes them. -/
def irqAttributes (devices : List PciDevice) (irq : PciDevice → UInt32) (path : List Char) :
    SysFile :=
  match devices.find? fun d =>
    "/sys/bus/pci/devices/".toList ++ (d.name ++ "/irq".toList) = path with
  | some d => ⟨true, some (decimal (irq d).toNat ++ ['\n'])⟩
  | none => ⟨false, none⟩

theorem find_own {devices : List PciDevice}
    (hdistinct : devices.Pairwise (PciDevice.address · ≠ PciDevice.address ·)) {d : PciDevice}
    (hd : d ∈ devices) {f : PciDevice → List Char} (hf : ∀ p q, f p = f q → p.address = q.address) :
    devices.find? (fun p => f p = f d) = some d := by
  induction hdistinct with
  | nil => cases hd
  | @cons p rest hp hrest ih =>
    rcases List.mem_cons.1 hd with rfl | hmem
    · exact List.find?_cons_of_pos (by simp)
    · rw [List.find?_cons_of_neg]
      · exact ih hmem
      · simpa using fun heq => hp d hmem (hf p d heq)

/-- `fscanf(fp, "%u", irq_number)` of a line with the number. -/
theorem scan_irq (irq old : UInt32) :
    numAt (sscanf (decimal irq.toNat ++ ['\n']) "%u").vals 0 old = irq := by
  have hread : Conv.uns.read none (decimal irq.toNat ++ ['\n'])
      = .ok (.num irq) ['\n'] false := by
    have h := read_int (s := []) (by simp) (k := .uns) (by decide) (w := none)
      (decimal_digits irq.toNat) (decimal_ne_nil _) (by simp) (b := '\n') (r := []) (by decide)
      (by decide)
    rwa [show Conv.uns.base = 10 from rfl, store_decimal, List.nil_append] at h
  have hformat : parseFormat "%u" = [.conv false none .uns] := by decide
  rw [sscanf, hformat, scan_conv hread]
  rfl

/-- The interrupt of a device is its own, whatever other functions there are. -/
theorem DeviceGetIrqNumber_own {devices : List PciDevice}
    (hdistinct : devices.Pairwise (PciDevice.address · ≠ PciDevice.address ·))
    (irq : PciDevice → UInt32) {d : PciDevice} (hd : d ∈ devices) (old : UInt32) :
    DeviceGetIrqNumber (irqAttributes devices irq) d old = (0, irq d) := by
  have hlen := d.length_name
  have hpath : (DeviceGetSysPath d ++ "/irq".toList).take 99
      = "/sys/bus/pci/devices/".toList ++ (d.name ++ "/irq".toList) := by
    rw [DeviceGetSysPath_eq, List.append_assoc, List.take_of_length_le]
    rw [List.length_append, List.length_append]
    exact Nat.add_le_add (show "/sys/bus/pci/devices/".toList.length ≤ 21 from by decide)
      (Nat.add_le_add hlen (show "/irq".toList.length ≤ 4 from by decide)) |>.trans (by decide)
  have hinj : ∀ p q : PciDevice, "/sys/bus/pci/devices/".toList ++ (p.name ++ "/irq".toList)
      = "/sys/bus/pci/devices/".toList ++ (q.name ++ "/irq".toList) → p.address = q.address :=
    fun p q h => PciDevice.name_inj (List.append_cancel_right (List.append_cancel_left h))
  have hfile : irqAttributes devices irq
      ("/sys/bus/pci/devices/".toList ++ (d.name ++ "/irq".toList))
      = ⟨true, some (decimal (irq d).toNat ++ ['\n'])⟩ := by
    rw [irqAttributes, find_own hdistinct hd hinj]
  rw [DeviceGetIrqNumber, hpath, hfile]
  dsimp only
  rw [if_neg (by decide), scan_irq]

/-! ## An interrupt -/

theorem CharArray.cut_eq_none {n : ℕ} {array : CharArray n} {size : ℕ} (h : size ≤ n) :
    array.cut size = none ↔ size = 0 := by
  simp only [CharArray.cut, ite_eq_right_iff, reduceCtorEq, imp_false]
  omega

/-- The string of an array in which a second null is written. -/
theorem arrayString_set {c : List Char} (hc : '\x00' ∉ c) (rest : List Char) {k : ℕ}
    (hk : k < (c ++ '\x00' :: rest).length) :
    arrayString ((c ++ '\x00' :: rest).set k '\x00') = some (c.take k) := by
  rcases Nat.lt_or_ge k c.length with hlt | hge
  · rw [List.set_append_left _ _ hlt, List.set_eq_take_append_cons_drop, if_pos hlt,
      List.append_assoc, List.cons_append, arrayString_null,
      takeWhile_plain fun hmem => hc (List.mem_of_mem_take hmem)]
  · rw [List.set_append_right _ _ hge, List.take_of_length_le hge]
    rcases Nat.exists_eq_add_of_le hge with ⟨j, rfl⟩
    rw [Nat.add_sub_cancel_left]
    rcases j with _ | j
    · rw [List.set_cons_zero, arrayString_null, takeWhile_plain hc]
    · rw [List.set_cons_succ, arrayString_null, takeWhile_plain hc]

namespace CharArray

variable {array : CharArray maxNameSize}

theorem content_text {text : List Char} (hfit : text.length ≤ maxNameSize) :
    (content array ⟨true, some text⟩).1 = text.length
      ∧ (content array ⟨true, some text⟩).2.1 = text ++ array.1.drop text.length := by
  have htake : text.take maxNameSize = text := List.take_of_length_le hfit
  simp [content, getFileContent, htake]

theorem cut_line (line rest : List Char) (h : array.1 = line ++ '\n' :: rest) :
    ∃ array', array.cut (line.length + 1) = some array' ∧ array'.1 = line ++ '\x00' :: rest := by
  have hlen : line.length + 1 ≤ maxNameSize := by
    have := array.2
    rw [h, List.length_append, List.length_cons] at this
    omega
  refine ⟨_, if_pos ⟨Nat.succ_pos _, hlen⟩, ?_⟩
  change array.1.set line.length '\x00' = _
  rw [h, List.set_append_right _ _ le_rfl, Nat.sub_self]
  rfl

/-- The null goes behind the line only if as much is cut as the line and its newline are. -/
theorem cut_string {c rest : List Char} (hc : '\x00' ∉ c) (h : array.1 = c ++ '\x00' :: rest)
    {k : ℕ} (hk : k < maxNameSize) :
    ∃ array', array.cut (k + 1) = some array' ∧ arrayString array'.1 = some (c.take k) := by
  have hlen := array.2
  refine ⟨_, if_pos ⟨Nat.succ_pos _, hk⟩, ?_⟩
  change arrayString (array.1.set k '\x00') = _
  rw [h] at hlen ⊢
  exact arrayString_set hc rest (hlen ▸ hk)

end CharArray

/-- A line without its null is not the string of its array. -/
theorem arrayString_newline (line rest : List Char) :
    arrayString (line ++ '\n' :: rest) ≠ some line := by
  intro h
  rw [arrayString] at h
  split_ifs at h
  have hline := Option.some.inj h
  have hall : ∀ c ∈ line, decide (c ≠ '\x00') = true := by
    intro c hc
    rw [← hline] at hc
    exact List.mem_takeWhile_imp (p := fun c => decide (c ≠ '\x00')) hc
  rw [List.takeWhile_append_of_pos hall, List.takeWhile_cons_of_pos (by decide)] at hline
  exact List.cons_ne_nil _ _ (List.append_right_eq_self.1 hline)

section IrqInfo

variable {files : List Char → SysFile} {irq : UInt32} {t c h : List Char}

/-- The three files of the interrupt hold these texts. -/
structure IrqTexts (files : List Char → SysFile) (irq : UInt32) (t c h : List Char) : Prop where
  type : files (irqFile irq "type") = ⟨true, some t⟩
  chip : files (irqFile irq "chip_name") = ⟨true, some c⟩
  hwirq : files (irqFile irq "hwirq") = ⟨true, some h⟩

theorem atoi_decimal (n : ℕ) {rest : List Char} (hrest : ∀ c ∈ rest.head?, isDigitOf 10 c = false) :
    atoi (decimal n ++ rest) = UInt32.ofNat (min n (2 ^ 63 - 1)) := by
  rw [atoi, readLong_digits (decimal_ne_nil n) (decimal_digits n) hrest, numeral_decimal]
  exact UInt64.toUInt32_ofNat' _

theorem getIRQInfo_eq (htexts : IrqTexts files irq t c h) (ht : t.length ≤ maxNameSize)
    (hc : c.length ≤ maxNameSize) (hh : h.length ≤ maxNameSize) (irqInfo : IRQInfo)
    (buf : CharArray maxNameSize) :
    getIRQInfo files irq irqInfo buf =
      (irqInfo.irqChip.cut t.length).bind fun irqChip =>
        ((CharArray.content irqChip ⟨true, some c⟩).2.cut c.length).bind fun irqChip =>
          (irqChip.cut h.length).map fun irqChip =>
            (0, { type := (CharArray.content irqInfo.type ⟨true, some t⟩).2, irqChip, irq
                  hwIrq := atoi (CharArray.content buf ⟨true, some h⟩).2.1 }) := by
  have hret : ∀ {array : CharArray maxNameSize} {text : List Char}, text.length ≤ maxNameSize →
      CharArray.content array ⟨true, some text⟩
        = ((text.length : ℤ), (CharArray.content array ⟨true, some text⟩).2) := fun hfit =>
    Prod.ext (CharArray.content_text hfit).1 rfl
  have hpos : ∀ text : List Char, ¬ (text.length : ℤ) < 0 := fun text => by omega
  unfold getIRQInfo
  rw [htexts.type, htexts.chip, htexts.hwirq, hret ht]
  dsimp only
  rw [if_neg (hpos t), Int.toNat_natCast]
  refine Option.bind_congr fun irqChip _ => ?_
  rw [hret hc, if_neg (hpos c), Int.toNat_natCast]
  refine Option.bind_congr fun irqChip _ => ?_
  rw [hret hh, if_neg (hpos h), Int.toNat_natCast]

theorem getIRQInfo_none (htexts : IrqTexts files irq t c h) (ht : t.length ≤ maxNameSize)
    (hc : c.length ≤ maxNameSize) (hh : h.length ≤ maxNameSize) (irqInfo : IRQInfo)
    (buf : CharArray maxNameSize) :
    getIRQInfo files irq irqInfo buf = none ↔ t = [] ∨ c = [] ∨ h = [] := by
  rw [getIRQInfo_eq htexts ht hc hh, Option.bind_eq_none_iff]
  simp only [Option.bind_eq_none_iff, Option.map_eq_none_iff]
  constructor
  · intro hnone
    by_contra! hne
    have hcut : ∀ {text : List Char} (array : CharArray maxNameSize), text ≠ [] →
        text.length ≤ maxNameSize → ∃ array', array.cut text.length = some array' :=
      fun array hne hfit => Option.ne_none_iff_exists'.1 fun hcut =>
        hne (List.length_eq_zero_iff.1 ((CharArray.cut_eq_none hfit).1 hcut))
    obtain ⟨array, harray⟩ := hcut irqInfo.irqChip hne.1 ht
    obtain ⟨array', harray'⟩ := hcut (CharArray.content array ⟨true, some c⟩).2 hne.2.1 hc
    obtain ⟨array'', harray''⟩ := hcut array' hne.2.2 hh
    rw [hnone array harray array' harray'] at harray''
    cases harray''
  · have hcut : ∀ array : CharArray maxNameSize, array.cut 0 = none := fun array =>
      (CharArray.cut_eq_none (Nat.zero_le _)).2 rfl
    rintro (rfl | rfl | rfl) array harray array' harray'
    · cases harray.symm.trans (hcut _)
    · cases harray'.symm.trans (hcut _)
    · exact hcut _

/-- Of three lines: the number is right, the type keeps its newline and what was behind it, and the
name of the chip is cut to as many characters as the number has digits. -/
theorem getIRQInfo_lines {n : ℕ} (hn : n < 2 ^ 64)
    (htexts : IrqTexts files irq (t ++ ['\n']) (c ++ ['\n']) (decimal n ++ ['\n']))
    (ht : t.length < maxNameSize) (hc : '\x00' ∉ c ∧ c.length < maxNameSize) (irqInfo : IRQInfo)
    (buf : CharArray maxNameSize) :
    ∃ info, getIRQInfo files irq irqInfo buf = some (0, info) ∧ info.irq = irq
      ∧ info.hwIrq = UInt32.ofNat (min n (2 ^ 63 - 1))
      ∧ info.type.1 = t ++ '\n' :: irqInfo.type.1.drop (t.length + 1)
      ∧ arrayString info.irqChip.1 = some (c.take (decimal n).length) := by
  have hdigits : (decimal n).length ≤ 20 := (length_decimal_le (by decide)).2 (hn.trans (by decide))
  have hline : ∀ {l : List Char}, l.length < maxNameSize → (l ++ ['\n']).length ≤ maxNameSize :=
    fun h => by rwa [List.length_append]
  have hcontent : ∀ {l : List Char} (array : CharArray maxNameSize), l.length < maxNameSize →
      (CharArray.content array ⟨true, some (l ++ ['\n'])⟩).2.1
        = l ++ '\n' :: array.1.drop (l.length + 1) := fun array h => by
    rw [(CharArray.content_text (hline h)).2, List.length_append, List.append_assoc]
    rfl
  have hn' : (decimal n).length < maxNameSize := hdigits.trans_lt (by decide)
  have hlen : ∀ l : List Char, (l ++ ['\n']).length = l.length + 1 := fun l => List.length_append
  rw [getIRQInfo_eq htexts (hline ht) (hline hc.2) (hline hn'), hlen, hlen, hlen]
  obtain ⟨array, harray⟩ : ∃ array, irqInfo.irqChip.cut (t.length + 1) = some array :=
    Option.ne_none_iff_exists'.1 fun h => by cases (CharArray.cut_eq_none ht).1 h
  obtain ⟨array', harray', hchip⟩ := CharArray.cut_line c _ (hcontent array hc.2)
  obtain ⟨array'', harray'', hstring⟩ := CharArray.cut_string hc.1 hchip hn'
  rw [harray, Option.bind_some, harray', Option.bind_some, harray'', Option.map_some]
  refine ⟨_, rfl, rfl, ?_, hcontent _ ht, hstring⟩
  rw [hcontent buf hn']
  refine atoi_decimal n ?_
  rintro _ ⟨⟩
  decide

/-- An empty file is a write outside the array. Of three lines nothing is, the number is right, and
the name of the chip is whole only if it is no longer than the number; the type never is. -/
theorem getIRQInfo_reads (files : List Char → SysFile) (irq : UInt32) (irqInfo : IRQInfo)
    (buf : CharArray maxNameSize) :
    (∀ t c h, IrqTexts files irq t c h → t.length ≤ maxNameSize → c.length ≤ maxNameSize →
      h.length ≤ maxNameSize →
      (getIRQInfo files irq irqInfo buf = none ↔ t = [] ∨ c = [] ∨ h = []))
      ∧ ∀ t c n, n < 2 ^ 64 →
        IrqTexts files irq (t ++ ['\n']) (c ++ ['\n']) (decimal n ++ ['\n']) →
        t.length < maxNameSize → '\x00' ∉ c → c.length < maxNameSize →
        ∃ info, getIRQInfo files irq irqInfo buf = some (0, info) ∧ info.irq = irq
          ∧ info.hwIrq = UInt32.ofNat (min n (2 ^ 63 - 1))
          ∧ arrayString info.irqChip.1 = some (c.take (decimal n).length)
          ∧ (arrayString info.irqChip.1 = some c ↔ c.length ≤ (decimal n).length)
          ∧ arrayString info.type.1 ≠ some t := by
  refine ⟨fun t c h htexts ht hc hh => getIRQInfo_none htexts ht hc hh irqInfo buf,
    fun t c n hn htexts ht hnull hc => ?_⟩
  obtain ⟨info, hinfo, hirq, hhw, htype, hchip⟩ :=
    getIRQInfo_lines hn htexts ht ⟨hnull, hc⟩ irqInfo buf
  refine ⟨info, hinfo, hirq, hhw, hchip, ?_, ?_⟩
  · rw [hchip, Option.some_inj, List.take_eq_self_iff]
  · rw [htype]
    exact arrayString_newline t _

end IrqInfo

section Example

/-- A path is told by its length. -/
def edgeFiles (path : List Char) : SysFile :=
  ⟨true, some (if path.length = 23 then "edge\n".toList
    else if path.length = 28 then "IR-PCI-MSI\n".toList else decimal 524288 ++ ['\n'])⟩

theorem getIRQInfo_reads_edge : ∃ info, getIRQInfo edgeFiles 38
      ⟨0, 0, CharArray.cleared maxNameSize, CharArray.cleared maxNameSize⟩
      (CharArray.cleared maxNameSize) = some (0, info)
    ∧ arrayString info.irqChip.1 = some "IR-PCI".toList := by
  have h := (getIRQInfo_reads edgeFiles 38
    ⟨0, 0, CharArray.cleared maxNameSize, CharArray.cleared maxNameSize⟩
    (CharArray.cleared maxNameSize)).2 "edge".toList "IR-PCI-MSI".toList 524288 (by decide)
    ⟨by decide, by decide, by decide⟩ (by decide) (by decide) (by decide)
  obtain ⟨info, hinfo, -, -, hchip, -⟩ := h
  exact ⟨info, hinfo, hchip⟩

theorem DeviceGetIrqNumber_own_second : DeviceGetIrqNumber
    (irqAttributes [⟨0, 3, 0, 0, 0, 0, 0, 0, 0, 0⟩, ⟨0, 3, 0, 1, 0, 0, 0, 0, 0, 0⟩]
      fun d => if d.func = 0 then 38 else 39)
    ⟨0, 3, 0, 1, 0, 0, 0, 0, 0, 0⟩ 0 = (0, 39) :=
  DeviceGetIrqNumber_own (by decide) _ (by decide) 0

end Example

end Amdtop
