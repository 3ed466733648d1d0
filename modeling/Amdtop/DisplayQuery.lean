import Amdtop.DeviceContext
import Amdtop.DisplayInfo

/-!
# The query of the Display tab

`query_display_info` on the answers to its `gpuGet*` calls: a status, and an object if one is handed
out. The ledger keeps the objects handed out and those passed to `gpuFree*`, and whether something
was written outside its place in `display_state`. The result is `none` where the code follows a
pointer that is `NULL`, or was freed.
-/

namespace Amdtop

open Heap Stdio

variable {α σ : Type}

structure Answer (α : Type) where
  ret : ℤ
  object : Option α

/-- An object is an array of one element. -/
def Answer.handOut (a : Answer α) (m : Ledger) : Ptr α × Ledger :=
  match a.object with
  | none => (none, m)
  | some x => calloc (fun _ => true) 1 1 x m

def writeTo (inside : Bool) (m : Ledger) : Ledger := { m with overrun := m.overrun || !inside }

/-! ## Properties -/

/-- `sizeof(edid)`. -/
def edidSize : ℕ := 512

/-- `flags & DRM_MODE_PROP_ENUM`. -/
def isEnumProp (flags : UInt32) : Bool := (flags &&& (1 : UInt32) <<< 3) ≠ 0

/-- What the query reads of a `GpuProp`. -/
structure PropView where
  flags : UInt32
  name : List Char
  countEnums : ℕ
  /-- The name at an index of `enums`, behind the array what is found there. -/
  enumName : UInt64 → List Char

/-- The value of a property, and the answers about it. -/
structure PropAnswers where
  value : UInt64
  /-- To `getConnectorPropBlob`. -/
  blobProp : Answer PropView
  blob : Answer (List UInt8)
  /-- To `getConnectorPropEnum`. -/
  enumProp : Answer PropView

/-- The loop of `getConnectorPropBlob` and `getConnectorPropEnum`, with `ret` and the variables the
body writes. -/
def forProps (answer : PropAnswers → Answer PropView)
    (body : PropAnswers → PropView → σ → Ledger → Option (ℤ × σ × Ledger)) :
    List PropAnswers → ℤ → σ → Ledger → Option (ℤ × σ × Ledger)
  | [], ret, s, m => some (ret, s, m)
  | p :: props, _, s, m =>
    let (obj, m) := (answer p).handOut m
    if (answer p).ret ≠ 0 then some ((answer p).ret, s, m)
    else
      (answer p).object.bind fun prop => (body p prop s m).bind fun (ret, s, m) =>
        forProps answer body props ret s (free obj m)

/-- `data` and `length`; behind what was copied, `data` is cleared. -/
structure BlobBuffer where
  data : List UInt8 := []
  length : UInt32 := 0

def BlobBuffer.copy (bytes : List UInt8) (buf : BlobBuffer) : BlobBuffer where
  data := bytes ++ buf.data.drop bytes.length
  length := UInt32.ofNat bytes.length

/-- A blob that cannot be had is left out, and the status is that of the last property. -/
def blobBody (name : List Char) (p : PropAnswers) (prop : PropView) (buf : BlobBuffer)
    (m : Ledger) : Option (ℤ × BlobBuffer × Ledger) :=
  if isBlob prop.flags && strncmpEq prop.name name name.length then
    let (propBlob, m) := p.blob.handOut m
    if p.blob.ret ≠ 0 then some (p.blob.ret, buf, m)
    else
      p.blob.object.map fun bytes =>
        (0, buf.copy bytes, free propBlob (writeTo (bytes.length ≤ edidSize) m))
  else some (0, buf, m)

def getConnectorPropBlob (props : List PropAnswers) (name : List Char) (buf : BlobBuffer)
    (m : Ledger) : Option (ℤ × BlobBuffer × Ledger) :=
  forProps (·.blobProp) (blobBody name) props 0 buf m

/-- `enum_name` and `enum_value`. -/
structure EnumBuffer where
  name : List Char := []
  value : UInt32 := 0

/-- Each round of the loop over the enumeration writes the same entry. -/
def enumBody (name : List Char) (p : PropAnswers) (prop : PropView) (buf : EnumBuffer)
    (m : Ledger) : Option (ℤ × EnumBuffer × Ledger) :=
  if isEnumProp prop.flags && strncmpEq prop.name name name.length && prop.countEnums ≠ 0 then
    some (0, ⟨prop.enumName p.value, p.value.toUInt32⟩,
      writeTo ((prop.enumName p.value).length < maxNameSize) m)
  else some (0, buf, m)

def getConnectorPropEnum (props : List PropAnswers) (name : List Char) (buf : EnumBuffer)
    (m : Ledger) : Option (ℤ × EnumBuffer × Ledger) :=
  forProps (·.enumProp) (enumBody name) props 0 buf m

/-! ## Connectors -/

def gpuModeConnected : UInt32 := 1

def maxDisplayCount : ℕ := 8

structure EncoderAnswer where
  ret : ℤ
  encoderType : UInt32
  crtcId : UInt32

structure CrtcAnswer where
  ret : ℤ
  x : UInt32
  y : UInt32
  hdisplay : UInt16
  vdisplay : UInt16

/-- What the query reads of a `GpuConnector`, with the answers to the calls about it. -/
structure ConnectorView where
  connection : UInt32
  modeCount : UInt32
  mmWidth : UInt32
  mmHeight : UInt32
  connectorId : UInt32
  connectorType : UInt32
  connectorTypeId : UInt32
  encoderId : UInt32
  props : List PropAnswers
  encoder : EncoderAnswer
  crtc : CrtcAnswer

/-- What the query reads of a `GpuModeResource`. -/
structure ResourceView where
  connectorCount : ℕ
  encoderCount : ℕ
  crtcsCount : ℕ
  fbCount : ℕ
  /-- The arrays were freed. -/
  freed : Bool := false

/-- The fields copied from the connector. -/
def ConnectorView.dispInfo (connector : ConnectorView) : DisplayInfo where
  modeCount := connector.modeCount
  mmHeight := connector.mmHeight
  mmWidth := connector.mmWidth
  connectorId := connector.connectorId
  inSize := connector.mmWidth * connector.mmWidth + connector.mmHeight * connector.mmHeight
  connectorType := connector.connectorType
  connectorTypeId := connector.connectorTypeId

/-- From `present` on. -/
def ConnectorView.setMode (connector : ConnectorView) (dispInfo : DisplayInfo) : ℤ × DisplayInfo :=
  if connector.encoderId = 0 then (0, { dispInfo with present := false })
  else if connector.encoder.ret ≠ 0 then (connector.encoder.ret, { dispInfo with present := true })
  else
    let dispInfo := { dispInfo with
      present := true, encoderType := connector.encoder.encoderType
      crtcId := connector.encoder.crtcId }
    if connector.crtc.ret ≠ 0 then (connector.crtc.ret, dispInfo)
    else (0, { dispInfo with
      starty := connector.crtc.y, startx := connector.crtc.x
      width := connector.crtc.hdisplay.toUInt32, height := connector.crtc.vdisplay.toUInt32 })

/-- The loop body for a connected connector. Only at its end is the entry counted and the connector
freed. -/
def queryConnector (resource : ResourceView) (connector : ConnectorView) (obj : Ptr ConnectorView)
    (state : DisplayState) (m : Ledger) : Option (ℤ × DisplayState × Ledger) :=
  let state := { state with
    connectorCount := resource.connectorCount, crtcCount := resource.crtcsCount
    encoderCount := resource.encoderCount, fbCount := resource.fbCount }
  let m := writeTo (state.aliveConnectorCount < maxDisplayCount) m
  (getConnectorPropBlob connector.props "EDID".toList {} m).bind fun (ret, edid, m) =>
  if ret ≠ 0 then some (ret, state, m)
  else (getConnectorPropEnum connector.props "DPMS".toList {} m).bind fun (ret, dpms, m) =>
  if ret ≠ 0 then some (ret, state, m)
  else
    let (ret, dispInfo) := connector.setMode { connector.dispInfo with
      edid := edid.data, edidLen := edid.length, dpmsState := dpms.name, dpmsValue := dpms.value }
    if ret ≠ 0 then some (ret, state, m)
    else some (0, { state with displayinfo := state.displayinfo ++ [dispInfo] }, free obj m)

/-- The loop over the connectors. -/
def queryConnectors (resource : ResourceView) : List (Answer ConnectorView) → ℤ → DisplayState →
    Ledger → Option (ℤ × DisplayState × Ledger)
  | [], ret, state, m => some (ret, state, m)
  | a :: answers, _, state, m =>
    let (obj, m) := a.handOut m
    if a.ret ≠ 0 then some (a.ret, state, m)
    else a.object.bind fun connector =>
      if connector.connection ≠ gpuModeConnected then
        queryConnectors resource answers 0 state (free obj m)
      else
        (queryConnector resource connector obj state m).bind fun (ret, state, m) =>
          if ret ≠ 0 then some (ret, state, m)
          else queryConnectors resource answers ret state m

/-! ## The query -/

/-- The answers to one call of `query_display_info`. -/
structure DisplayAnswers where
  resource : Answer ResourceView
  connectors : ℕ → Answer ConnectorView

/-- The static `resource` after the call for it. One that comes with an error is stored, and its
arrays are freed. -/
def DisplayAnswers.stored (call : DisplayAnswers) (resource : Option ResourceView) :
    Option ResourceView :=
  match call.resource.object with
  | none => resource
  | some res => some { res with freed := call.resource.ret ≠ 0 }

structure DisplayQuery where
  ret : ℤ
  displayState : DisplayState
  /-- The static `resource`. -/
  resource : Option ResourceView
  m : Ledger

def queryDisplayInfo (resource : Option ResourceView) (call : DisplayAnswers) (m : Ledger) :
    Option DisplayQuery :=
  let (_, m) := call.resource.handOut m
  let resource := call.stored resource
  if call.resource.ret ≠ 0 then some ⟨call.resource.ret, { valid := true }, resource, m⟩
  else resource.bind fun res =>
    if res.freed && res.connectorCount ≠ 0 then none
    else
      (queryConnectors res ((List.range res.connectorCount).map call.connectors) 0
        { valid := true } m).map fun (ret, state, m) => ⟨ret, state, resource, m⟩

/-- One call after the other, from a static `resource` on. -/
def queryDisplayInfos : List DisplayAnswers → Option ResourceView → Ledger → Option Ledger
  | [], _, m => some m
  | call :: calls, resource, m =>
    (queryDisplayInfo resource call m).bind fun q => queryDisplayInfos calls q.resource q.m

end Amdtop
