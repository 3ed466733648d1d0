import Amdtop.GpuInfo

/-!
# The Ring tab

The table of hardware blocks that the tab fills and draws at every visit, with the entries filled
and read on the way. Only a device whose driver is loaded gets that far.
-/

namespace Amdtop

inductive GpuHwIpType
  | gfx | compute | dma | uvd | vce | uvdEnc | vcnDec | vcnEnc | vcnJpeg
deriving DecidableEq, Repr

structure DrmAmdgpuInfoHwIp where
  hwIpVersionMajor : UInt32 := 0
  hwIpVersionMinor : UInt32 := 0
  capabilitiesFlags : UInt64 := 0
  ibStartAlignment : UInt32 := 0
  ibSizeAlignment : UInt32 := 0
  availableRings : UInt32 := 0
deriving DecidableEq, Repr

structure GpuHwIPInfo where
  device : Option ℕ := none
  iptype : GpuHwIpType := .gfx
  inst : UInt32 := 0
  versionMajor : UInt32 := 0
  versionMinor : UInt32 := 0
  capabilities : UInt64 := 0
  ibStartAligment : UInt32 := 0
  ibSizeAlignment : UInt32 := 0
  avaiableRings : UInt32 := 0
deriving DecidableEq, Repr

/-- `MAX_IP_INSTANCE`. -/
def maxIpInstance : ℕ := 4

structure IpInfo where
  name : List Char
  ipType : GpuHwIpType
  count : UInt32 := 0
  hwIpInfos : Vector GpuHwIPInfo maxIpInstance := Vector.replicate maxIpInstance {}
deriving DecidableEq

/-- `ipinfos`, as the program starts. -/
def ipinfos : List IpInfo :=
  [{ name := "GFX".toList, ipType := .gfx }, { name := "COMP".toList, ipType := .compute },
    { name := "DMA".toList, ipType := .dma }, { name := "UVD".toList, ipType := .uvd },
    { name := "VCE".toList, ipType := .vce }, { name := "UVD_ENC".toList, ipType := .uvdEnc },
    { name := "VCN_DEC".toList, ipType := .vcnDec }, { name := "VCN_ENC".toList, ipType := .vcnEnc },
    { name := "VCN_JPEG".toList, ipType := .vcnEnc }]

def gpuQueryHwIpCount (answer : Option UInt32) (count : UInt32) : ℤ × UInt32 :=
  match answer with
  | none => (ioctlFailed, count)
  | some answer => (0, answer)

def gpuQueryHwIpInfo (device : ℕ) (iptype : GpuHwIpType) (inst : UInt32)
    (answer : Option DrmAmdgpuInfoHwIp) (hwIpInfo : GpuHwIPInfo) : ℤ × GpuHwIPInfo :=
  match answer with
  | none => (ioctlFailed, hwIpInfo)
  | some info => (0, { hwIpInfo with
      device := some device, iptype, inst
      versionMajor := info.hwIpVersionMajor, versionMinor := info.hwIpVersionMinor
      avaiableRings := info.availableRings, capabilities := info.capabilitiesFlags
      ibSizeAlignment := info.ibSizeAlignment, ibStartAligment := info.ibStartAlignment })

/-- A visit: the active device, and what its queries would answer. -/
structure RingVisit where
  device : Option ℕ
  driverisLoaded : Bool
  count : GpuHwIpType → Option UInt32
  info : GpuHwIpType → UInt32 → Option DrmAmdgpuInfoHwIp

/-- An entry filled by a query that succeeds: the row of the table, and the query. -/
structure IpFill where
  row : ℕ
  device : ℕ
  ipType : GpuHwIpType
  inst : ℕ
deriving DecidableEq, Repr

/-- An entry read: the row and its type, and what is found at the index, if it is in the array. -/
structure IpRead where
  row : ℕ
  ipType : GpuHwIpType
  inst : ℕ
  hwIpInfo : Option GpuHwIPInfo
deriving DecidableEq

/-- The variables of the tab. -/
structure RingTab where
  ipinfos : List IpInfo := Amdtop.ipinfos
  currentDevice : Option ℕ := none
deriving DecidableEq

namespace RingTab

variable (v : RingVisit) (device : ℕ)

/-- The loop over the instances of a row. -/
def queryInstances (row : ℕ) (ipType : GpuHwIpType) :
    List ℕ → Vector GpuHwIPInfo maxIpInstance → List IpFill →
      ℤ × Vector GpuHwIPInfo maxIpInstance × List IpFill
  | [], hwIpInfos, fills => (0, hwIpInfos, fills)
  | j :: js, hwIpInfos, fills =>
    let (ret, hwIpInfo) := gpuQueryHwIpInfo device ipType (.ofNat j) (v.info ipType (.ofNat j))
      (hwIpInfos[j]?.getD {})
    let hwIpInfos := hwIpInfos.setIfInBounds j hwIpInfo
    if ret ≠ 0 then (ret, hwIpInfos, fills)
    else queryInstances row ipType js hwIpInfos (⟨row, device, ipType, j⟩ :: fills)

/-- The loop over the rows, from the row `i` on. -/
def queryRows : ℕ → List IpInfo → List IpFill → ℤ × List IpInfo × List IpFill
  | _, [], fills => (0, [], fills)
  | i, ipinfo :: rows, fills =>
    let (ret, count) := gpuQueryHwIpCount (v.count ipinfo.ipType) ipinfo.count
    let ipinfo := { ipinfo with count }
    if ret ≠ 0 then (ret, ipinfo :: rows, fills)
    else
      let (ret, hwIpInfos, fills) := queryInstances v device i ipinfo.ipType
        (List.range (min count.toNat maxIpInstance)) ipinfo.hwIpInfos fills
      let ipinfo := { ipinfo with hwIpInfos }
      if ret ≠ 0 then (ret, ipinfo :: rows, fills)
      else
        let (ret, rows, fills) := queryRows (i + 1) rows fills
        (ret, ipinfo :: rows, fills)

/-- The tab's `current_device` is never written. -/
def getRingInfo (tab : RingTab) : ℤ × RingTab × List IpFill :=
  if v.device = tab.currentDevice then (0, tab, [])
  else match v.device with
    | none => (0, tab, [])
    | some device =>
      let (ret, ipinfos, fills) := queryRows v device 0 tab.ipinfos []
      (ret, { tab with ipinfos }, fills)

/-- The instances of a row that are drawn. -/
def drawnInstances (count : UInt32) : List ℕ :=
  if count = 1 then [0] else List.range count.toNat

/-- The entries read for the rows from `i` on. -/
def drawRows : ℕ → List IpInfo → List IpRead
  | _, [] => []
  | i, ipInfo :: rows =>
    (drawnInstances ipInfo.count).map (fun j => ⟨i, ipInfo.ipType, j, ipInfo.hwIpInfos[j]?⟩)
      ++ drawRows (i + 1) rows

/-- The status, the entries read and the entries filled before. -/
def tabRingInfoInit (tab : RingTab) : ℤ × List IpRead × List IpFill × RingTab :=
  let (ret, tab, fills) := getRingInfo v tab
  if ret ≠ 0 then (ret, [], fills, tab) else (ret, drawRows 0 tab.ipinfos, fills, tab)

/-- The tab after a visit. -/
def visit (tab : RingTab) (v : RingVisit) : RingTab :=
  if v.driverisLoaded then (tabRingInfoInit v tab).2.2.2 else tab

end RingTab

end Amdtop
