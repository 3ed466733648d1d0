import Amdtop.GpuDevice
import Amdtop.Heap

/-!
# Mode setting

Each query asks the kernel for the lengths of its lists, allocates arrays for them, asks again with
the arrays, and copies them to an object of its own. `gpuGetModeResouce` starts over when the
lengths have changed in between; the others do not look.

An answer of the kernel is what it holds at the time of the `ioctl`, or `none` for a failure. The
second component of a result is what was stored through the out-pointer, if anything was.
-/

namespace Amdtop

open Heap

/-! ## Resources -/

/-- What the kernel holds at a `DRM_IOCTL_MODE_GETRESOURCES`. -/
structure CardResState where
  connectors : List UInt32
  encoders : List UInt32
  crtcs : List UInt32
  fbs : List UInt32
deriving DecidableEq, Repr

structure DrmModeCardRes where
  countConnectors : ℕ := 0
  countEncoders : ℕ := 0
  countCrtcs : ℕ := 0
  countFbs : ℕ := 0
  connectorIdPtr : Ptr UInt32 := none
  encoderIdPtr : Ptr UInt32 := none
  crtcIdPtr : Ptr UInt32 := none
  fbIdPtr : Ptr UInt32 := none
deriving DecidableEq, Repr

structure GpuModeResource where
  addr : ℕ
  device : GpuDevice
  connectorCount : ℕ
  connectorIds : Ptr UInt32
  encoderCount : ℕ
  encoderIds : Ptr UInt32
  crtcsCount : ℕ
  crtcIds : Ptr UInt32
  fbCount : ℕ
  fbIds : Ptr UInt32
deriving DecidableEq, Repr

/-- The kernel's side of the `ioctl`: it sets the counts and copies each list that fits. -/
def CardResState.ioctl (s : CardResState) (c : DrmModeCardRes) : DrmModeCardRes where
  countConnectors := s.connectors.length
  countEncoders := s.encoders.length
  countCrtcs := s.crtcs.length
  countFbs := s.fbs.length
  connectorIdPtr := c.connectorIdPtr.copyOut s.connectors c.countConnectors
  encoderIdPtr := c.encoderIdPtr.copyOut s.encoders c.countEncoders
  crtcIdPtr := c.crtcIdPtr.copyOut s.crtcs c.countCrtcs
  fbIdPtr := c.fbIdPtr.copyOut s.fbs c.countFbs

/-- The arrays for the lists, in the source's order; `false` is the jump to `error`. -/
def resourceTemps (ok : ℕ → Bool) (cardRes : DrmModeCardRes) (m : Ledger) :
    Bool × DrmModeCardRes × Ledger :=
  let (p, m) := callocFor ok 4 cardRes.countConnectors 0 m
  let cardRes := { cardRes with connectorIdPtr := p }
  if lost cardRes.countConnectors p then (false, cardRes, m)
  else
    let (p, m) := callocFor ok 4 cardRes.countEncoders 0 m
    let cardRes := { cardRes with encoderIdPtr := p }
    if lost cardRes.countEncoders p then (false, cardRes, m)
    else
      let (p, m) := callocFor ok 4 cardRes.countCrtcs 0 m
      let cardRes := { cardRes with crtcIdPtr := p }
      if lost cardRes.countCrtcs p then (false, cardRes, m)
      else
        let (p, m) := callocFor ok 4 cardRes.countFbs 0 m
        let cardRes := { cardRes with fbIdPtr := p }
        if lost cardRes.countFbs p then (false, cardRes, m)
        else (true, cardRes, m)

/-- The `xFree`s of the retry and of `error`. -/
def DrmModeCardRes.free (cardRes : DrmModeCardRes) (m : Ledger) : Ledger :=
  Heap.free cardRes.connectorIdPtr <| Heap.free cardRes.encoderIdPtr <|
    Heap.free cardRes.crtcIdPtr <| Heap.free cardRes.fbIdPtr m

/-- From the allocation of `res` on. The pointer is stored before the arrays are looked at, and a
missing one frees the others but not `res`, nor the kernel's copies. -/
def resourceFill (ok : ℕ → Bool) (gpuDevice : GpuDevice) (cardRes : DrmModeCardRes) (m : Ledger) :
    ℤ × Option GpuModeResource × Ledger :=
  match calloc ok 72 1 () m with
  | (none, m) => (0, none, cardRes.free m)
  | (some obj, m) =>
    let (connectorIds, m) := dupArray ok 4 cardRes.countConnectors 0 cardRes.connectorIdPtr m
    let (encoderIds, m) := dupArray ok 4 cardRes.countEncoders 0 cardRes.encoderIdPtr m
    let (crtcIds, m) := dupArray ok 4 cardRes.countCrtcs 0 cardRes.crtcIdPtr m
    let (fbIds, m) := dupArray ok 4 cardRes.countFbs 0 cardRes.fbIdPtr m
    let res : GpuModeResource :=
      { addr := obj.id, device := gpuDevice
        connectorCount := cardRes.countConnectors, connectorIds
        encoderCount := cardRes.countEncoders, encoderIds
        crtcsCount := cardRes.countCrtcs, crtcIds
        fbCount := cardRes.countFbs, fbIds }
    if lost res.fbCount res.fbIds || lost res.connectorCount res.connectorIds ||
        lost res.crtcsCount res.crtcIds || lost res.encoderCount res.encoderIds then
      (-enomem, some res, Heap.free res.fbIds <| Heap.free res.crtcIds <|
        Heap.free res.encoderIds <| Heap.free res.connectorIds m)
    else (0, some res, cardRes.free m)

def DrmModeCardRes.sameCounts (tmpCardRes cardRes : DrmModeCardRes) : Bool :=
  tmpCardRes.countFbs = cardRes.countFbs && tmpCardRes.countCrtcs = cardRes.countCrtcs &&
    tmpCardRes.countEncoders = cardRes.countEncoders &&
    tmpCardRes.countConnectors = cardRes.countConnectors

/-- The call on the kernel's successive answers, with the answers it did not need; `none` when it
needs more. -/
def gpuGetModeResouce (ok : ℕ → Bool) (gpuDevice : GpuDevice) :
    List (Option CardResState) → Ledger →
      Option ((ℤ × Option GpuModeResource × Ledger) × List (Option CardResState))
  | [], _ => none
  | none :: answers, m => some ((-1, none, m), answers)
  | some s :: answers, m =>
    match resourceTemps ok (s.ioctl {}) m with
    | (false, cardRes, m) => some ((0, none, cardRes.free m), answers)
    | (true, tmpCardRes, m) =>
      match answers with
      | [] => none
      | none :: answers => some ((-1, none, m), answers)
      | some s' :: answers =>
        let cardRes := s'.ioctl tmpCardRes
        if !tmpCardRes.sameCounts cardRes then
          gpuGetModeResouce ok gpuDevice answers (cardRes.free m)
        else some (resourceFill ok gpuDevice cardRes m, answers)

/-- The pointer to an object, as `xFree` takes it. -/
def objectPtr (addr width : ℕ) : Ptr Unit := some ⟨addr, width, [()]⟩

def gpuFreeModeResource (modeResource : GpuModeResource) (m : Ledger) : Ledger :=
  Heap.free (objectPtr modeResource.addr 72) <| Heap.free modeResource.fbIds <|
    Heap.free modeResource.crtcIds <| Heap.free modeResource.encoderIds <|
    Heap.free modeResource.connectorIds m

/-! ## Connectors -/

structure DrmModeModeinfo where
  clock : UInt32 := 0
  hdisplay : UInt16 := 0
  hsyncStart : UInt16 := 0
  hsyncEnd : UInt16 := 0
  htotal : UInt16 := 0
  hskew : UInt16 := 0
  vdisplay : UInt16 := 0
  vsyncStart : UInt16 := 0
  vsyncEnd : UInt16 := 0
  vtotal : UInt16 := 0
  vscan : UInt16 := 0
  vrefresh : UInt32 := 0
  flags : UInt32 := 0
  type : UInt32 := 0
  name : Vector UInt8 32 := Vector.replicate 32 0
deriving DecidableEq

structure GpuModeInfo where
  clock : UInt32 := 0
  hdisplay : UInt16 := 0
  hsyncStart : UInt16 := 0
  hsyncEnd : UInt16 := 0
  htotal : UInt16 := 0
  hskew : UInt16 := 0
  vdisplay : UInt16 := 0
  vsyncStart : UInt16 := 0
  vsyncEnd : UInt16 := 0
  vtotal : UInt16 := 0
  vscan : UInt16 := 0
  vrefresh : UInt32 := 0
  flags : UInt32 := 0
  type : UInt32 := 0
  name : Vector UInt8 32 := Vector.replicate 32 0
deriving DecidableEq

def copyModeInfo (drmModeinfo : DrmModeModeinfo) : GpuModeInfo where
  clock := drmModeinfo.clock
  hdisplay := drmModeinfo.hdisplay
  hsyncStart := drmModeinfo.hsyncStart
  hsyncEnd := drmModeinfo.hsyncEnd
  htotal := drmModeinfo.htotal
  hskew := drmModeinfo.hskew
  vdisplay := drmModeinfo.vdisplay
  vsyncStart := drmModeinfo.vsyncStart
  vsyncEnd := drmModeinfo.vsyncEnd
  vtotal := drmModeinfo.vtotal
  vscan := drmModeinfo.vscan
  vrefresh := drmModeinfo.vrefresh
  flags := drmModeinfo.flags
  type := drmModeinfo.type
  name := drmModeinfo.name

/-- What the kernel holds of a connector; a property comes with its value. -/
structure ConnectorState where
  modes : List DrmModeModeinfo
  props : List (UInt32 × UInt64)
  encoders : List UInt32
  encoderId : UInt32
  connectorType : UInt32
  connectorTypeId : UInt32
  mmHeight : UInt32
  mmWidth : UInt32
  connection : UInt32
  subpixel : UInt32
deriving DecidableEq

structure DrmModeGetConnector where
  connectorId : UInt32
  encodersPtr : Ptr UInt32 := none
  modesPtr : Ptr DrmModeModeinfo := none
  propsPtr : Ptr UInt32 := none
  propValuesPtr : Ptr UInt64 := none
  countModes : ℕ := 0
  countProps : ℕ := 0
  countEncoders : ℕ := 0
  encoderId : UInt32 := 0
  connectorType : UInt32 := 0
  connectorTypeId : UInt32 := 0
  connection : UInt32 := 0
  mmWidth : UInt32 := 0
  mmHeight : UInt32 := 0
  subpixel : UInt32 := 0
deriving DecidableEq

structure GpuConnector where
  addr : ℕ
  propCount : ℕ
  props : Ptr UInt32
  propValues : Ptr UInt64
  encoderCount : ℕ
  encoderIds : Ptr UInt32
  modeCount : ℕ
  modeInfos : Ptr GpuModeInfo
  encoderId : UInt32
  connectorId : UInt32
  connectorType : UInt32
  connectorTypeId : UInt32
  mmWidth : UInt32
  mmHeight : UInt32
  connection : UInt32
  subpixel : UInt32
deriving DecidableEq

/-- `DRM_IOCTL_MODE_GETCONNECTOR`. -/
def ConnectorState.ioctl (s : ConnectorState) (c : DrmModeGetConnector) : DrmModeGetConnector where
  connectorId := c.connectorId
  encodersPtr := c.encodersPtr.copyOut s.encoders c.countEncoders
  modesPtr := c.modesPtr.copyOut s.modes c.countModes
  propsPtr := c.propsPtr.copyOut (s.props.map (·.1)) c.countProps
  propValuesPtr := c.propValuesPtr.copyOut (s.props.map (·.2)) c.countProps
  countModes := s.modes.length
  countProps := s.props.length
  countEncoders := s.encoders.length
  encoderId := s.encoderId
  connectorType := s.connectorType
  connectorTypeId := s.connectorTypeId
  connection := s.connection
  mmWidth := s.mmWidth
  mmHeight := s.mmHeight
  subpixel := s.subpixel

def connectorTemps (ok : ℕ → Bool) (drmConn : DrmModeGetConnector) (m : Ledger) :
    Bool × DrmModeGetConnector × Ledger :=
  let (p, m) := callocFor ok 4 drmConn.countEncoders 0 m
  let drmConn := { drmConn with encodersPtr := p }
  if lost drmConn.countEncoders p then (false, drmConn, m)
  else
    let (p, m) := callocFor ok 68 drmConn.countModes {} m
    let drmConn := { drmConn with modesPtr := p }
    if lost drmConn.countModes p then (false, drmConn, m)
    else
      let (p, m) := callocFor ok 4 drmConn.countProps 0 m
      let drmConn := { drmConn with propsPtr := p }
      if lost drmConn.countProps p then (false, drmConn, m)
      else
        let (p, m) := callocFor ok 8 drmConn.countProps 0 m
        let drmConn := { drmConn with propValuesPtr := p }
        if lost drmConn.countProps p then (false, drmConn, m)
        else (true, drmConn, m)

def DrmModeGetConnector.free (drmConn : DrmModeGetConnector) (m : Ledger) : Ledger :=
  Heap.free drmConn.propsPtr <| Heap.free drmConn.propValuesPtr <|
    Heap.free drmConn.modesPtr <| Heap.free drmConn.encodersPtr m

/-- The loop over `copyModeInfo`, which does not read at a null pointer, as the first entry of a
list that is not there. -/
def copyModeInfos (n : ℕ) (modeInfos : Ptr GpuModeInfo) (modesPtr : Ptr DrmModeModeinfo)
    (m : Ledger) : Ptr GpuModeInfo × Ledger :=
  match modeInfos with
  | none => (none, m)
  | some d =>
    (some { d with
        data := (modesPtr.cells.take n).map copyModeInfo
          ++ d.data.drop (modesPtr.cells.take n).length },
      { m with
        overrun := m.overrun || if modesPtr.isNone then 1 < n else modesPtr.cells.length < n })

/-- From the allocation of `conn` on. -/
def connectorFill (ok : ℕ → Bool) (drmConn : DrmModeGetConnector) (m : Ledger) :
    ℤ × Option GpuConnector × Ledger :=
  match calloc ok 88 1 () m with
  | (none, m) => (0, none, drmConn.free m)
  | (some obj, m) =>
    let (encoderIds, m) := dupArray ok 4 drmConn.countEncoders 0 drmConn.encodersPtr m
    let (props, m) := dupArray ok 4 drmConn.countProps 0 drmConn.propsPtr m
    let (propValues, m) := dupArray ok 8 drmConn.countProps 0 drmConn.propValuesPtr m
    let (modeInfos, m) := callocFor ok 68 drmConn.countModes {} m
    let (modeInfos, m) := copyModeInfos drmConn.countModes modeInfos drmConn.modesPtr m
    if lost drmConn.countEncoders encoderIds || lost drmConn.countModes modeInfos ||
        lost drmConn.countProps propValues || lost drmConn.countProps props then
      (-enomem, none, Heap.free (some obj) <| Heap.free propValues <| Heap.free props <|
        Heap.free encoderIds <| Heap.free modeInfos m)
    else
      (0, some
        { addr := obj.id
          propCount := drmConn.countProps, props, propValues
          encoderCount := drmConn.countEncoders, encoderIds
          modeCount := drmConn.countModes, modeInfos
          encoderId := drmConn.encoderId, connectorId := drmConn.connectorId
          connectorType := drmConn.connectorType, connectorTypeId := drmConn.connectorTypeId
          mmWidth := drmConn.mmWidth, mmHeight := drmConn.mmHeight
          connection := drmConn.connection, subpixel := drmConn.subpixel }, drmConn.free m)

/-- The call on the kernel's two answers. -/
def gpuGetConnector (ok : ℕ → Bool) (connId : UInt32) (first second : Option ConnectorState)
    (m : Ledger) : ℤ × Option GpuConnector × Ledger :=
  match first with
  | none => (-1, none, m)
  | some s =>
    match connectorTemps ok (s.ioctl { connectorId := connId }) m with
    | (false, drmConn, m) => (0, none, drmConn.free m)
    | (true, drmConn, m) =>
      match second with
      | none => (-1, none, m)
      | some s' => connectorFill ok (s'.ioctl drmConn) m

def gpuFreeConnector (connector : GpuConnector) (m : Ledger) : Ledger :=
  Heap.free (objectPtr connector.addr 88) <| Heap.free connector.propValues <|
    Heap.free connector.props <| Heap.free connector.encoderIds <|
    Heap.free connector.modeInfos m

/-! ## Properties -/

/-- An entry of an enumeration, and what it is as a blob. -/
structure PropEntry where
  value : UInt64
  name : List Char
  blobId : UInt32
  blobLength : UInt32
deriving DecidableEq, Repr

structure PropertyState where
  flags : UInt32
  name : List Char
  values : List UInt64
  entries : List PropEntry
deriving DecidableEq, Repr

/-- What the arrays of a property hold. -/
inductive PropCell
  | u32 (v : UInt32)
  | u64 (v : UInt64)
  | enum (value : UInt64) (name : List Char)
deriving DecidableEq, Repr

/-- `flags & (DRM_MODE_PROP_ENUM | DRM_MODE_PROP_BITMASK)`. -/
def isEnum (flags : UInt32) : Bool :=
  (flags &&& ((1 : UInt32) <<< 3 ||| (1 : UInt32) <<< 5)) ≠ 0

/-- `flags & DRM_MODE_PROP_BLOB`. -/
def isBlob (flags : UInt32) : Bool := (flags &&& (1 : UInt32) <<< 4) ≠ 0

structure DrmModeGetProperty where
  valuesPtr : Ptr PropCell := none
  enumBlobPtr : Ptr PropCell := none
  propId : UInt32
  flags : UInt32 := 0
  name : List Char := []
  countValues : ℕ := 0
  countEnumBlobs : ℕ := 0
deriving DecidableEq, Repr

structure GpuProp where
  addr : ℕ
  propId : UInt32
  flags : UInt32
  countValues : ℕ := 0
  values : Ptr PropCell := none
  countEnums : ℕ := 0
  countBlobs : ℕ := 0
  blobIds : Ptr PropCell := none
  enums : Ptr PropCell := none
  name : List Char := []
deriving DecidableEq, Repr

/-- `DRM_IOCTL_MODE_GETPROPERTY`. -/
def PropertyState.ioctl (s : PropertyState) (c : DrmModeGetProperty) : DrmModeGetProperty where
  valuesPtr :=
    let p := c.valuesPtr.copyOut (s.values.map .u64) c.countValues
    if isBlob s.flags then p.copyOut (s.entries.map (.u32 ·.blobLength)) c.countEnumBlobs else p
  enumBlobPtr :=
    if isEnum s.flags then
      c.enumBlobPtr.copyOut (s.entries.map fun e => .enum e.value e.name) c.countEnumBlobs
    else if isBlob s.flags then
      c.enumBlobPtr.copyOut (s.entries.map (.u32 ·.blobId)) c.countEnumBlobs
    else c.enumBlobPtr
  propId := c.propId
  flags := s.flags
  name := s.name
  countValues := s.values.length
  countEnumBlobs := s.entries.length

/-- The arrays of a blob property. The one for the values, if there is one, is lost here. -/
def blobTemps (ok : ℕ → Bool) (drmProp : DrmModeGetProperty) (m : Ledger) :
    Bool × DrmModeGetProperty × Ledger :=
  if drmProp.countEnumBlobs ≠ 0 && isBlob drmProp.flags then
    let (valuesPtr, m) := calloc ok 4 drmProp.countEnumBlobs (.u32 0) m
    let (enumBlobPtr, m) := calloc ok 4 drmProp.countEnumBlobs (.u32 0) m
    (!(valuesPtr.isNone || enumBlobPtr.isNone), { drmProp with valuesPtr, enumBlobPtr }, m)
  else (true, drmProp, m)

def propertyTemps (ok : ℕ → Bool) (drmProp : DrmModeGetProperty) (m : Ledger) :
    Bool × DrmModeGetProperty × Ledger :=
  let (p, m) := callocFor ok 8 drmProp.countValues (.u64 0) m
  let drmProp := { drmProp with valuesPtr := p }
  if lost drmProp.countValues p then (false, drmProp, m)
  else if isEnum drmProp.flags then
    let (p, m) := callocFor ok 40 drmProp.countEnumBlobs (.enum 0 []) m
    let drmProp := { drmProp with enumBlobPtr := p }
    if lost drmProp.countEnumBlobs p then (false, drmProp, m) else blobTemps ok drmProp m
  else blobTemps ok drmProp m

def DrmModeGetProperty.free (drmProp : DrmModeGetProperty) (m : Ledger) : Ledger :=
  Heap.free drmProp.enumBlobPtr <| Heap.free drmProp.valuesPtr m

/-- The enumeration or the blobs of the object. The copied values are lost to the blobs' lengths. -/
def propertyEntries (ok : ℕ → Bool) (drmProp : DrmModeGetProperty) (prop : GpuProp) (m : Ledger) :
    GpuProp × Ledger :=
  let n := drmProp.countEnumBlobs
  if isEnum drmProp.flags then
    let (enums, m) := calloc ok 40 n (.enum 0 []) m
    let (enums, m) := memcpy n enums drmProp.enumBlobPtr m
    ({ prop with countEnums := n, enums }, m)
  else if isBlob drmProp.flags then
    let (values, m) := calloc ok 4 n (.u32 0) m
    let (values, m) := memcpy n values drmProp.valuesPtr m
    let (blobIds, m) := calloc ok 4 n (.u32 0) m
    let (blobIds, m) := memcpy n blobIds drmProp.enumBlobPtr m
    ({ prop with countBlobs := n, values, blobIds }, m)
  else (prop, m)

/-- From the allocation of `prop` on. -/
def propertyFill (ok : ℕ → Bool) (drmProp : DrmModeGetProperty) (m : Ledger) :
    ℤ × Option GpuProp × Ledger :=
  match calloc ok 80 1 () m with
  | (none, m) => (0, none, drmProp.free m)
  | (some obj, m) =>
    let (values, m) := dupArray ok 8 drmProp.countValues (.u64 0) drmProp.valuesPtr m
    let prop : GpuProp :=
      { addr := obj.id, propId := drmProp.propId, flags := drmProp.flags
        countValues := drmProp.countValues, values }
    let (prop, m) := propertyEntries ok drmProp prop m
    if lost drmProp.countValues prop.values || isEnum drmProp.flags && prop.enums.isNone ||
        isBlob drmProp.flags && prop.values.isNone ||
        isBlob drmProp.flags && prop.blobIds.isNone then
      (-enomem, none, Heap.free (some obj) <| Heap.free prop.blobIds <| Heap.free prop.enums <|
        Heap.free prop.values m)
    else (0, some { prop with name := drmProp.name.take 31 }, drmProp.free m)

/-- The call ends in `return 0` also where it jumps to `error`. -/
def gpuGetProperty (ok : ℕ → Bool) (propId : UInt32) (first second : Option PropertyState)
    (m : Ledger) : ℤ × Option GpuProp × Ledger :=
  match first with
  | none => (-1, none, m)
  | some s =>
    match propertyTemps ok (s.ioctl { propId }) m with
    | (false, drmProp, m) => (0, none, drmProp.free m)
    | (true, drmProp, m) =>
      match second with
      | none => (-1, none, m)
      | some s' => propertyFill ok (s'.ioctl drmProp) m

def gpuFreeProperty (prop : GpuProp) (m : Ledger) : Ledger :=
  Heap.free (objectPtr prop.addr 80) <| Heap.free prop.blobIds <| Heap.free prop.enums <|
    Heap.free prop.values m

/-! ## Blobs -/

structure DrmModeGetBlob where
  blobId : UInt32
  length : ℕ := 0
  data : Ptr UInt8 := none
deriving DecidableEq, Repr

structure GpuPropBlob where
  addr : ℕ
  id : UInt32
  length : ℕ
  data : Ptr UInt8
deriving DecidableEq, Repr

/-- `DRM_IOCTL_MODE_GETPROPBLOB`, on a blob with the bytes `bytes`: it copies them to an array of
just their length. -/
def blobIoctl (bytes : List UInt8) (c : DrmModeGetBlob) : DrmModeGetBlob where
  blobId := c.blobId
  length := bytes.length
  data := if c.length = bytes.length then c.data.copyOut bytes c.length else c.data

/-- From the allocation of `blob` on. -/
def blobFill (ok : ℕ → Bool) (drmBlob : DrmModeGetBlob) (m : Ledger) :
    ℤ × Option GpuPropBlob × Ledger :=
  match calloc ok 16 1 () m with
  | (none, m) => (0, none, Heap.free drmBlob.data m)
  | (some obj, m) =>
    let (data, m) := dupArray ok 1 drmBlob.length 0 drmBlob.data m
    if lost drmBlob.length data then (-enomem, none, Heap.free (some obj) <| Heap.free data m)
    else
      (0, some { addr := obj.id, id := drmBlob.blobId, length := drmBlob.length, data },
        Heap.free drmBlob.data m)

def gpuGetPropBlob (ok : ℕ → Bool) (blobId : UInt32) (first second : Option (List UInt8))
    (m : Ledger) : ℤ × Option GpuPropBlob × Ledger :=
  match first with
  | none => (-1, none, m)
  | some s =>
    let drmBlob := blobIoctl s { blobId }
    let (p, m) := callocFor ok 1 drmBlob.length 0 m
    let drmBlob := { drmBlob with data := p }
    if lost drmBlob.length p then (0, none, Heap.free p m)
    else match second with
      | none => (-1, none, m)
      | some s' => blobFill ok (blobIoctl s' drmBlob) m

def gpuFreePropBlob (blob : GpuPropBlob) (m : Ledger) : Ledger :=
  Heap.free (objectPtr blob.addr 16) <| Heap.free blob.data m

/-! ## Crtcs -/

structure DrmModeCrtc where
  setConnectorsPtr : UInt64 := 0
  countConnectors : UInt32 := 0
  crtcId : UInt32
  fbId : UInt32 := 0
  x : UInt32 := 0
  y : UInt32 := 0
  gammaSize : UInt32 := 0
  modeValid : UInt32 := 0
  mode : DrmModeModeinfo := {}
deriving DecidableEq

structure GpuCrtc where
  id : UInt32 := 0
  setConnectorsPtr : UInt64 := 0
  countConnectors : UInt32 := 0
  crtcId : UInt32 := 0
  fbId : UInt32 := 0
  x : UInt32 := 0
  y : UInt32 := 0
  width : UInt32 := 0
  height : UInt32 := 0
  vrefresh : UInt32 := 0
  gammaSize : UInt32 := 0
  modeValid : UInt32 := 0
  modeInfo : GpuModeInfo := {}
deriving DecidableEq

/-- `answer` is what `DRM_IOCTL_MODE_GETCRTC` leaves in `drm_crtc`. The size of the gamma table is
copied from `crtc` itself. -/
def gpuGetCrtc (answer : Option DrmModeCrtc) (crtc : GpuCrtc) : ℤ × GpuCrtc :=
  match answer with
  | none => (-1, crtc)
  | some drmCrtc =>
    (0, { crtc with
      id := drmCrtc.crtcId
      fbId := drmCrtc.fbId
      countConnectors := drmCrtc.countConnectors
      setConnectorsPtr := drmCrtc.setConnectorsPtr
      x := drmCrtc.x
      y := drmCrtc.y
      modeInfo := copyModeInfo drmCrtc.mode
      width := drmCrtc.mode.hdisplay.toUInt32
      height := drmCrtc.mode.vdisplay.toUInt32
      gammaSize := crtc.gammaSize
      modeValid := drmCrtc.modeValid })

end Amdtop
